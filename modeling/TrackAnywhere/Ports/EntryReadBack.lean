import TrackAnywhere.Ports.CommittedFacts

/-!
# Reading a committed entry back

The everyday query works an entry out again from the journal, the reporting lines and the
catalog that the entry was resolved against.  What it shows is what the entry was resolved to.  An
account is shown where the column of its role is empty: the compiler also takes the word
"standard" for it.
-/

namespace TrackAnywhere.Ports

open TrackAnywhere.Verified
open TrackAnywhere.Verified.Checked

/-! ## What is shown of an entry -/

/-- What a view shows of an entry, apart from its relations to others. -/
structure ShownParts where
  transactionKind : RecordedKind
  kind : EverydayEntryKind
  amount : Option AssetUnitAmount
  source : Option AccountDisplay := none
  target : Option AccountDisplay := none
  payment : Option AccountDisplay := none
  accounts : FieldAvailability
  allocations : List CategoryAllocationView := []
  categories : FieldAvailability
  original : Option UUID := none
deriving DecidableEq

def EverydayEntryView.parts (view : EverydayEntryView) : ShownParts where
  transactionKind := view.rawJournal.transactionKind
  kind := view.kind
  amount := view.amount
  source := view.sourceAccount
  target := view.targetAccount
  payment := view.paymentAccount
  accounts := view.accountDisplayAvailability
  allocations := view.categoryAllocations
  categories := view.categoryAvailability
  original := view.originalTransactionId

/-- The view is one of the item. -/
structure ShowsItem (narratives : UUID → Option NarrativeView) (item : JournalItem)
    (view : EverydayEntryView) : Prop where
  transactionId : view.transactionId = item.transactionId
  occurredAt : view.occurredAt = item.effectiveAt
  reversedBy : view.reversedByTransactionId = item.reversedByTransactionId
  reverses : view.reversesTransactionId = item.reversesTransactionId
  narrative : view.narrative = narrativeView narratives item.descriptionRef

/-- What a new transaction is shown from. -/
structure FactsOf (tables : CatalogTables) (context : EntryCompilationContext)
    (draft : EntryDraft) (facts : EntryFacts) : Prop where
  legs : facts.journal.postings.map (·.posted) = draft.financial.postings.map (·.posted)
  reverses : facts.journal.reversesTransactionId = none
  relation : facts.journal.creditCardRelation = draft.financial.relation?
  kind : facts.journal.transactionKind = draft.financial.recordedKind
  original : facts.semanticOriginalTransactionId = draft.financial.semanticOriginal
  accounts : ∀ account ∈ context.accounts,
    account.accountId ∈ draft.financial.postings.map (·.accountId) →
      accountFact? facts.accounts account.accountId = some (tables.accountFact account)
  assets : ∀ assetCode asset, context.asset assetCode = .ok asset →
    asset.assetCode ∈ draft.financial.postings.map (·.assetCode) →
      assetFact? facts.assets asset.assetCode = some asset.fact
  reporting : draft.allocations ≠ [] → ∃ first ∈ draft.financial.postings.head?,
    facts.reporting = draft.allocations.map
      (·.fact (draft.reportingAssetCode.getD first.assetCode) draft.lineKind)
  units : ∀ allocation ∈ draft.allocations, 0 < allocation.units

section Views

variable {narratives : UUID → Option NarrativeView} {facts : EntryFacts}
  {kind : EverydayEntryKind} {amount : Option AssetUnitAmount}
  {shown : List CategoryAllocationView × FieldAvailability} {asset : EntryAsset}
  {allocated : List ResolvedAllocation} {lineKind : ReportingLineKind}

theorem buildView_parts
    (hKind : entryKind facts.journal (if facts.reporting = [] then facts.inheritedReporting
      else facts.reporting) = kind)
    (hAmount : transactionAmount facts.journal.postings facts.assets = .ok amount)
    (hShown : categoryAllocations facts kind = .ok shown) {displays : AccountDisplays}
    (hDisplays : accountDisplays facts.journal kind facts.accounts = displays) :
    ∃ view, buildView narratives facts = .ok view ∧ ShowsItem narratives facts.journal view
      ∧ view.parts = ⟨facts.journal.transactionKind, kind, amount, displays.source,
        displays.target, displays.payment, availability displays.available, shown.1, shown.2,
        originalTransactionId facts⟩ := by
  subst hKind hDisplays
  exact ⟨_, bind_eq_ok.2 ⟨amount, hAmount, bind_eq_ok.2 ⟨shown, hShown, rfl⟩⟩,
    ⟨rfl, rfl, rfl, rfl, rfl⟩, rfl⟩

/-- The allocations of a transaction are shown at the scale of their asset. -/
theorem categoryAllocations_shown
    (hKind : ¬(kind = .transfer ∨ kind = .adjustment
      ∨ (kind = .creditCardPayment ∧ crossAsset facts.journal = false)))
    (hReporting : facts.reporting = allocated.map (·.fact asset.assetCode lineKind))
    (hSome : allocated ≠ [])
    (hAsset : assetFact? facts.assets asset.assetCode = some asset.fact)
    (hUnits : ∀ allocation ∈ allocated, 0 < allocation.units) :
    categoryAllocations facts kind = .ok (allocated.map (·.view asset), .available) := by
  have hNonempty : facts.reporting ≠ [] := by
    rw [hReporting]
    exact fun hNone => hSome (List.map_eq_nil_iff.1 hNone)
  have hLines : allocationLines facts kind = facts.reporting :=
    if_neg fun hBoth => hNonempty hBoth.1
  have hPaths : (facts.reporting.any fun line => line.path.isNone) = false := by
    rw [List.any_eq_false]
    intro line hLine
    rw [hReporting] at hLine
    obtain ⟨allocation, -, rfl⟩ := List.mem_map.1 hLine
    exact Bool.false_ne_true
  unfold categoryAllocations
  rw [if_neg hKind, hLines, if_neg, hReporting, allocations_facts hAsset hUnits]
  · rfl
  · rintro (hNone | hAny)
    · exact hNonempty hNone
    · exact Bool.false_ne_true (hPaths.symm.trans hAny)

end Views

/-! ## The legs of one amount -/

theorem accountIds_posted {postings : List JournalPostingFact} {legs : List PostedUnits}
    (h : postings.map (·.posted) = legs) :
    postings.map (·.accountId) = legs.map (·.accountId) := by
  rw [← h, List.map_map]
  rfl

theorem assetCodes_posted {postings : List JournalPostingFact} {legs : List PostedUnits}
    (h : postings.map (·.posted) = legs) :
    postings.map (·.assetCode) = legs.map (·.assetCode) := by
  rw [← h, List.map_map]
  rfl

/-- What is shown of one amount that was moved between two accounts. -/
structure MoveFacts (tables : CatalogTables) (draft : EntryDraft) (asset : EntryAsset)
    (units : Nat) (debit credit : EntryAccount) (facts : EntryFacts) : Prop where
  amount : transactionAmount facts.journal.postings facts.assets
    = .ok (some (asset.amount units))
  debitFact : accountFact? facts.accounts debit.accountId = some (tables.accountFact debit)
  creditFact : accountFact? facts.accounts credit.accountId = some (tables.accountFact credit)
  debit : singleExternalAccount facts.journal.postings facts.accounts .debit
    = (tables.accountFact debit).external
  credit : singleExternalAccount facts.journal.postings facts.accounts .credit
    = (tables.accountFact credit).external
  policy : assetFact? facts.assets asset.assetCode = some asset.fact
  oneAsset : crossAsset facts.journal = false
  reporting : draft.allocations ≠ [] → draft.reportingAssetCode = none →
    facts.reporting = draft.allocations.map (·.fact asset.assetCode draft.lineKind)

section Moves

variable {tables : CatalogTables} {context : EntryCompilationContext} {draft : EntryDraft}
  {facts : EntryFacts} {asset : EntryAsset} {assetCode : AssetCode} {units : Nat}
  {debit credit : EntryAccount}

theorem EntryFinancial.Moves.positive {financial : EntryFinancial} {from_ to_ : UUID}
    (h : financial.Moves assetCode units from_ to_) : 0 < units := by
  obtain ⟨first, rest, -, hFirst, -⟩ := List.map_eq_cons_iff.1 h
  have hUnits : first.units.1 = units := congrArg PostedUnits.units hFirst
  rw [← hUnits]
  exact first.units.2.1

theorem FactsOf.moves (h : FactsOf tables context draft facts)
    (hMoves : draft.financial.Moves asset.assetCode units debit.accountId credit.accountId)
    (hAsset : context.asset assetCode = .ok asset) (hDebit : debit ∈ context.accounts)
    (hCredit : credit ∈ context.accounts) :
    MoveFacts tables draft asset units debit credit facts := by
  have hLegs := h.legs.trans hMoves
  have hAccounts : draft.financial.postings.map (·.accountId)
      = [debit.accountId, credit.accountId] := accountIds_posted hMoves
  have hAssets : draft.financial.postings.map (·.assetCode)
      = [asset.assetCode, asset.assetCode] := assetCodes_posted hMoves
  have hDebitFact := h.accounts debit hDebit (hAccounts ▸ List.mem_cons_self)
  have hCreditFact := h.accounts credit hCredit
    (hAccounts ▸ List.mem_cons_of_mem _ (List.mem_singleton_self _))
  have hAssetFact := h.assets assetCode asset hAsset (hAssets ▸ List.mem_cons_self)
  refine ⟨transactionAmount_moves hLegs hMoves.positive hAssetFact, hDebitFact, hCreditFact,
    ?_, ?_, hAssetFact, ?_, fun hSome hNone => ?_⟩
  · exact singleExternalAccount_only [] [] hLegs rfl hDebitFact nofun
  · exact singleExternalAccount_only [] [] hLegs rfl hCreditFact nofun
  · rw [crossAsset_posted hLegs]
    simp [List.eraseDups_cons]
  · obtain ⟨first, hFirst, hReporting⟩ := h.reporting hSome
    have hCode : first.assetCode = asset.assetCode := by
      have hHead := congrArg List.head? hAssets
      rw [List.head?_map, hFirst] at hHead
      exact Option.some.inj hHead
    rw [hReporting, hNone, Option.getD_none, hCode]

end Moves

/-! ## The six kinds -/

section Kinds

variable {u : UnicodeTables} {uuid5 : UUID → String → UUID} {tables : CatalogTables}
  {context : EntryCompilationContext} {facts : EntryFacts} {asset : EntryAsset}
  {assetCode : AssetCode} {units : Nat} {clearing account : EntryAccount}
  {allocations : List ResolvedAllocation} {postings : List JournalPostingFact}
  {narratives : UUID → Option NarrativeView} {role : AccountSystemRole} {use : AccountUse}

/-- The view is built, and shows the parts. -/
def BuildsParts (narratives : UUID → Option NarrativeView) (facts : EntryFacts)
    (parts : ShownParts) : Prop :=
  ∃ view, buildView narratives facts = .ok view ∧ ShowsItem narratives facts.journal view
    ∧ view.parts = parts

theorem Internal.external (hLoaded : LoadedFrom u tables context)
    (h : Internal context assetCode role clearing) (hRole : role ≠ .standard) :
    (tables.accountFact clearing).external = none :=
  if_neg fun hBoth => h.hidden hLoaded hRole hBoth.1

section Built

variable {kind : EverydayEntryKind} {draft : EntryDraft} {debit credit : EntryAccount}
  {displays : AccountDisplays} {original : Option UUID}

/-- One amount, whose allocations are shown. -/
theorem FactsOf.classified (hFacts : FactsOf tables context draft facts)
    (hMoves : MoveFacts tables draft asset units debit credit facts)
    (hSome : draft.allocations ≠ []) (hAsset : draft.reportingAssetCode = none)
    (hKind : entryKind facts.journal (draft.allocations.map
      (·.fact asset.assetCode draft.lineKind)) = kind)
    (hAllocates : ¬(kind = .transfer ∨ kind = .adjustment ∨ kind = .creditCardPayment))
    (hDisplays : accountDisplays facts.journal kind facts.accounts = displays)
    (hOriginal : originalTransactionId facts = original) :
    BuildsParts narratives facts
      ⟨draft.financial.recordedKind, kind, some (asset.amount units), displays.source,
        displays.target, displays.payment, availability displays.available,
        draft.allocations.map (·.view asset), .available, original⟩ := by
  have hReporting := hMoves.reporting hSome hAsset
  have hNonempty : facts.reporting ≠ [] := by
    rw [hReporting]
    exact fun hNone => hSome (List.map_eq_nil_iff.1 hNone)
  have hShown : categoryAllocations facts kind
      = .ok (draft.allocations.map (·.view asset), .available) :=
    categoryAllocations_shown (fun h => hAllocates (h.imp_right (Or.imp_right And.left)))
      hReporting hSome hMoves.policy hFacts.units
  rw [← hFacts.kind]
  subst hOriginal
  refine buildView_parts ?_ hMoves.amount hShown hDisplays
  rw [if_neg hNonempty, hReporting, hKind]

end Built

end Kinds

/-! ## Reading a committed entry -/

section Committed

variable {u : UnicodeTables} {uuid5 : UUID → String → UUID} {tables : CatalogTables}
  {context : EntryCompilationContext} {entry : EverydayEntry} {draft : EntryDraft}
  {financial : EntryFinancial} {sidecarId : UUID}

/-- The postings of a valid payload are in order. -/
theorem EntryFinancial.ordered (h : financial.payload.validate = .ok ()) :
    financial.postings.Pairwise fun a b => a.position ≤ b.position := by
  have hOrdered : validateOrderedPostings financial.postings = .ok () := by
    cases financial with
    | posted p =>
        obtain ⟨_, hPostings, -⟩ := bind_eq_ok.1 (show p.validateCompletePostings = .ok () from h)
        exact hPostings
    | recorded p =>
        obtain ⟨_, hPostings, -⟩ := bind_eq_ok.1 (show p.validateSemanticPostings = .ok () from h)
        exact hPostings
  simp only [validateOrderedPostings, validateOrderedRecords, bind_eq_ok, require_eq_ok,
    exists_const, List.length_map] at hOrdered
  have hPositions : (financial.postings.map (·.position)).Pairwise (· ≤ ·) := by
    rw [hOrdered.2.1]
    exact List.pairwise_le_range
  exact List.pairwise_map.1 hPositions

theorem Drafts.transactionId (h : Drafts u uuid5 context entry draft) :
    draft.financial.transactionId = context.transactionId := by
  cases h with
  | expense _ _ _ _ _ _ _ =>
      unfold expenseDraft
      split_ifs <;> rfl
  | refund _ _ _ _ _ _ _ _ hFinancial =>
      unfold refundFinancial at hFinancial
      split at hFinancial
      · obtain ⟨_, -, hFinancial⟩ := bind_eq_ok.1 hFinancial
        obtain ⟨_, -, hFinancial⟩ := bind_eq_ok.1 hFinancial
        cases pure_eq_ok.1 hFinancial
        rfl
      · obtain ⟨_, -, hFinancial⟩ := bind_eq_ok.1 hFinancial
        obtain ⟨_, -, hFinancial⟩ := bind_eq_ok.1 hFinancial
        cases pure_eq_ok.1 hFinancial
        rfl
      · exact nomatch hFinancial
  | _ => rfl

/-- The categories of the original of a context are its own. -/
def OriginalsLoaded (context : EntryCompilationContext) : Prop :=
  ∀ original ∈ context.originalEntry, ∀ allocation ∈ original.categoryAllocations,
    allocation.category ∈ context.categories

theorem refundAllocations_categories {entry : RefundEntryInput} {original : OriginalEntry}
    {asset : EntryAsset} {amount : NormalizedAmount} {allocations : List ResolvedAllocation}
    (hOriginal : ∀ allocation ∈ original.categoryAllocations,
      allocation.category ∈ context.categories)
    (h : refundAllocations u context entry original asset amount = .ok allocations) :
    ∀ allocation ∈ allocations, allocation.category ∈ context.categories := by
  unfold refundAllocations at h
  split_ifs at h
  · obtain ⟨stated, -, h⟩ := bind_eq_ok.1 h
    obtain ⟨normalized, -, h⟩ := bind_eq_ok.1 h
    exact fun allocation hMem => ((resolveAllocations_ok h).2 allocation hMem).1
  · split at h
    · next only hOnly =>
        cases h
        intro allocation hMem
        rw [List.mem_singleton.1 hMem]
        exact hOriginal only (hOnly ▸ List.mem_singleton_self _)
    · split_ifs at h
      cases h
      intro allocation hMem
      obtain ⟨item, hItem, rfl⟩ := List.mem_map.1 hMem
      exact hOriginal item hItem

theorem Drafts.categories (hOriginals : OriginalsLoaded context)
    (h : Drafts u uuid5 context entry draft) :
    ∀ allocation ∈ draft.allocations, allocation.category ∈ context.categories := by
  cases h with
  | expense _ hAmount _ _ _ hAllocations _ =>
      rw [expenseDraft_facts.1]
      exact fun allocation hMem => ((entryAllocations_ok hAmount hAllocations).2 _ hMem).1
  | income _ hAmount _ _ hAllocations _ =>
      exact fun allocation hMem => ((entryAllocations_ok hAmount hAllocations).2 _ hMem).1
  | fxCardPayment _ _ _ _ _ _ _ _ _ _ _ _ _ _ _ hCategory _ =>
      intro allocation hMem
      rw [List.mem_singleton.1 hMem]
      exact (category_ok hCategory).1
  | refund _ _ hOriginal _ _ _ _ hAllocations _ =>
      exact refundAllocations_categories
        (hOriginals _ (Option.filter_eq_some_iff.1 hOriginal).1) hAllocations
  | _ => exact fun _ hNone => absurd hNone List.not_mem_nil

variable {sha256 : ByteArray → EventHash} {ledger ledger' : BookLedger} {plan : LedgerWritePlan}
  {compiled : CompiledEntry} {narratives : UUID → Option NarrativeView}

end Committed

end TrackAnywhere.Ports
