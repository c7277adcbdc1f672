import TrackAnywhere.Ports.EntryContexts
import TrackAnywhere.Ports.EventCompiler
import TrackAnywhere.Ports.FxCardPayments
import TrackAnywhere.Ports.PreparedPayloads

/-!
# What a committed entry leaves

The compiler resolves an entry against the catalog of a Book, and the committer appends and
projects its plan.  This module follows the two: the events that a plan is made of, the narrative
reference that is attached to them, the transaction, the postings and the reporting lines that
they leave, and the facts of the catalog that the everyday query looks up again.
-/

namespace TrackAnywhere.Ports

open TrackAnywhere.Verified
open TrackAnywhere.Verified.Checked

/-! ## What is shown of legs -/

def JournalPosting.posted (posting : JournalPosting) : PostedUnits :=
  ⟨posting.accountId, posting.assetCode, posting.side, posting.units⟩

/-- The amount of units of an asset, as it is written. -/
def EntryAsset.amount (asset : EntryAsset) (units : Nat) : AssetUnitAmount :=
  ⟨Gateway.formatUnits units asset.ledgerScale, asset.assetCode, asset.ledgerScale⟩

def EntryAsset.fact (asset : EntryAsset) : AssetFact :=
  ⟨asset.assetCode, asset.ledgerScale⟩

section Legs

variable {postings : List JournalPosting} {legs : List PostedUnits} {side : PostingSide}
  {assetCode : AssetCode} {units : Nat} {accounts : List AccountFact} {assets : List AssetFact}

theorem formatUnits_total {asset : EntryAsset} (hUnits : 0 < units) :
    formatUnits units asset.ledgerScale = .ok (asset.amount units).value := by
  rw [formatUnits_eq hUnits asset.hScale.2]
  exact congrArg Except.ok (Gateway.formatUnits_eq units asset.ledgerScale).symm

theorem sideAssets_posted (h : postings.map (·.posted) = legs) :
    sideAssets postings side
      = ((legs.filter fun leg => leg.side = side).map (·.assetCode)).eraseDups := by
  subst h
  rw [List.filter_map, List.map_map]
  rfl

theorem sideUnits_posted (h : postings.map (·.posted) = legs) :
    sideUnits postings side assetCode
      = ((legs.filter fun leg => leg.side = side ∧ leg.assetCode = assetCode).map
        (·.units)).sum := by
  subst h
  rw [List.filter_map, List.map_map]
  rfl

/-- One amount of one asset, between two accounts. -/
theorem transactionAmount_moves {debit credit : UUID} {asset : EntryAsset}
    (h : postings.map (·.posted) = [⟨debit, asset.assetCode, .debit, units⟩,
      ⟨credit, asset.assetCode, .credit, units⟩])
    (hUnits : 0 < units) (hAsset : assetFact? assets asset.assetCode = some asset.fact) :
    transactionAmount postings assets = .ok (some (asset.amount units)) := by
  have hDebit : sideAssets postings .debit = [asset.assetCode] := sideAssets_posted h
  have hCredit : sideAssets postings .credit = [asset.assetCode] := sideAssets_posted h
  have hDebited : sideUnits postings .debit asset.assetCode = units := by
    rw [sideUnits_posted h]
    simp
  have hCredited : sideUnits postings .credit asset.assetCode = units := by
    rw [sideUnits_posted h]
    simp
  unfold transactionAmount
  rw [hDebit]
  dsimp only
  rw [hCredit, hDebited, hCredited, if_pos ⟨rfl, rfl⟩, hAsset]
  exact bind_eq_ok.2 ⟨_, formatUnits_total hUnits, rfl⟩

theorem crossAsset_posted {item : JournalItem} (h : item.postings.map (·.posted) = legs) :
    crossAsset item = decide (1 < ((legs.map (·.assetCode)).eraseDups).length) := by
  subst h
  rw [List.map_map]
  rfl

/-- The account of a posting that is not internal, or nothing. -/
def AccountFact.external (fact : AccountFact) : Option AccountDisplay :=
  if fact.systemRole = none ∧ (fact.accountType = .asset ∨ fact.accountType = .liability) then
    some fact.display else none

/-- Of the postings of a side, all but one are on internal accounts. -/
theorem singleExternalAccount_only (before after : List PostedUnits) {shown : PostedUnits}
    {fact : AccountFact} (h : postings.map (·.posted) = legs)
    (hSide : (legs.filter fun leg => leg.side = side) = before ++ shown :: after)
    (hFact : accountFact? accounts shown.accountId = some fact)
    (hOthers : ∀ leg ∈ before ++ after, ∃ other, accountFact? accounts leg.accountId = some other
      ∧ other.systemRole ≠ none) :
    singleExternalAccount postings accounts side = fact.external := by
  have hIds : (postings.filter fun p => p.side = side
        ∧ (accountFact? accounts p.accountId).any fun account =>
          account.systemRole = none
            ∧ (account.accountType = .asset ∨ account.accountType = .liability)).map
        (·.accountId)
      = ((legs.filter fun leg => leg.side = side).filter fun leg =>
          ((accountFact? accounts leg.accountId).bind (·.external)).isSome).map (·.accountId) := by
    subst h
    rw [List.filter_filter, List.filter_map, List.map_map]
    refine congrArg (List.map JournalPosting.accountId) (List.filter_congr fun p _ => ?_)
    show decide (p.side = side ∧ _) = (_ && decide (p.side = side))
    rw [Bool.decide_and, Bool.and_comm]
    congr 1
    cases hFound : accountFact? accounts p.accountId with
    | none => simp [JournalPosting.posted, hFound]
    | some other =>
        simp only [JournalPosting.posted, hFound, Option.any_some,
          Option.bind_some, AccountFact.external]
        split_ifs with hExternal
        · simp [hExternal]
        · simp [hExternal]
  have hNone : ∀ {others : List PostedUnits}, others ⊆ before ++ after →
      others.filter (fun leg =>
        ((accountFact? accounts leg.accountId).bind (·.external)).isSome) = [] := by
    intro others hSub
    refine List.filter_eq_nil_iff.2 fun leg hLeg => ?_
    obtain ⟨other, hOther, hRole⟩ := hOthers leg (hSub hLeg)
    simp [hOther, AccountFact.external, hRole]
  unfold singleExternalAccount
  rw [hIds, hSide, List.filter_append, hNone (List.subset_append_left _ _), List.nil_append]
  by_cases hExternal : fact.systemRole = none
      ∧ (fact.accountType = .asset ∨ fact.accountType = .liability)
  · have hShown : fact.external = some fact.display := if_pos hExternal
    rw [List.filter_cons_of_pos (by rw [hFact, Option.bind_some, hShown]; rfl),
      hNone (List.subset_append_right _ _), hShown]
    show (accountFact? accounts shown.accountId).map (·.display) = _
    rw [hFact, Option.map_some]
  · have hHidden : fact.external = none := if_neg hExternal
    rw [List.filter_cons_of_neg
        (by rw [hFact, Option.bind_some, hHidden]; exact Bool.false_ne_true),
      hNone (List.subset_append_right _ _), hHidden]
    rfl

end Legs

/-! ## The facts of the catalog -/

def EntryAccount.display (account : EntryAccount) : AccountDisplay :=
  ⟨account.accountId, account.displayName⟩

/-- The column of the role of an account. -/
def CatalogTables.systemRole? (tables : CatalogTables) (account : EntryAccount) :
    Option String :=
  (tables.getAccount account.bookId account.accountId).bind (·.systemRole)

/-- What the views read of an account. -/
def CatalogTables.accountFact (tables : CatalogTables) (account : EntryAccount) : AccountFact :=
  ⟨account.accountId, account.accountType, tables.systemRole? account, account.displayName⟩

/-- How an account is shown, where the column of its role is empty. -/
def CatalogTables.shown (tables : CatalogTables) (account : EntryAccount) :
    Option AccountDisplay :=
  if tables.systemRole? account = none then some account.display else none

/-- The category line of an allocation, as the query reads it. -/
def ResolvedAllocation.fact (assetCode : AssetCode) (lineKind : ReportingLineKind)
    (allocation : ResolvedAllocation) : ReportingFact where
  categoryId := allocation.category.categoryId
  categoryVersionId := allocation.category.categoryVersionId
  path := some allocation.category.path
  assetCode := assetCode
  units := allocation.units
  lineKind := lineKind

/-- How an allocation is shown. -/
def ResolvedAllocation.view (asset : EntryAsset) (allocation : ResolvedAllocation) :
    CategoryAllocationView :=
  ⟨allocation.category.categoryId, allocation.category.categoryVersionId,
    allocation.category.path, asset.amount allocation.units⟩

section Facts

variable {u : UnicodeTables} {tables : CatalogTables} {context : EntryCompilationContext}
  {account : EntryAccount} {assetCode : AssetCode}

theorem accountFact?_of_context (hLoaded : LoadedFrom u tables context)
    (h : account ∈ context.accounts) :
    accountFact? (tables.entryCatalog context.bookId).accounts account.accountId
        = some (tables.accountFact account)
      ∧ accountSystemRole (tables.systemRole? account) = .ok account.systemRole := by
  obtain ⟨row, hRow, hAccount⟩ := mapM_result_ok hLoaded.accounts account h
  obtain ⟨hMem, hBook⟩ := mem_accountRows.1 hRow
  simp only [loadAccount, bind_eq_ok, pure_eq_ok] at hAccount
  obtain ⟨role, hRole, _, -, rfl⟩ := hAccount
  have hColumn : tables.systemRole? ⟨row.accountId, row.bookId, row.currentName, row.assetCode,
      row.accountType, row.accountSubtype, role, row.status,
      deriveAccountLast4 u row.currentName, []⟩ = row.systemRole := by
    unfold CatalogTables.systemRole?
    rw [getAccount_of_mem hMem, Option.bind_some]
  unfold CatalogTables.accountFact
  rw [hColumn]
  refine ⟨?_, hRole⟩
  refine find?_only (List.mem_map.2 ⟨row, hRow, rfl⟩) (by simp) fun other hOther hSame => ?_
  obtain ⟨found, hFound, rfl⟩ := List.mem_map.1 hOther
  obtain ⟨hMem', hBook'⟩ := mem_accountRows.1 hFound
  have hKey : (found.bookId, found.accountId) = (row.bookId, row.accountId) :=
    Prod.ext (hBook'.trans hBook.symm) (of_decide_eq_true hSame)
  rw [List.inj_on_of_nodup_map tables.hAccounts hMem' hMem hKey]

/-- A chosen account is shown where the column of its role is empty. -/
theorem Chosen.external {use : AccountUse} (h : Chosen context assetCode use account) :
    (tables.accountFact account).external = tables.shown account := by
  have hType : account.accountType = .asset ∨ account.accountType = .liability := by
    have hEligible := h.eligible
    unfold EntryAccount.eligible at hEligible
    cases use <;> simp at hEligible <;> tauto
  unfold AccountFact.external CatalogTables.shown
  by_cases hRole : tables.systemRole? account = none
  · exact (if_pos ⟨hRole, hType⟩).trans (if_pos hRole).symm
  · exact (if_neg fun hBoth => hRole hBoth.1).trans (if_neg hRole).symm

/-- The column of the role of an internal account is not empty. -/
theorem Internal.hidden (hLoaded : LoadedFrom u tables context) {role : AccountSystemRole}
    (h : Internal context assetCode role account) (hRole : role ≠ .standard) :
    (tables.accountFact account).systemRole ≠ none := by
  intro hNone
  obtain ⟨hPostable, hSame⟩ := h.facts
  have hColumn := (accountFact?_of_context hLoaded hPostable.mem).2
  rw [show tables.systemRole? account = none from hNone, hSame] at hColumn
  exact hRole (Except.ok.inj hColumn).symm

/-- The lines of allocations are shown as the allocations. -/
theorem allocations_facts {assets : List AssetFact} {asset : EntryAsset}
    {allocated : List ResolvedAllocation} {lineKind : ReportingLineKind}
    (hAsset : assetFact? assets asset.assetCode = some asset.fact)
    (hUnits : ∀ allocation ∈ allocated, 0 < allocation.units) :
    allocations assets (allocated.map (·.fact asset.assetCode lineKind))
      = .ok (some (allocated.map (·.view asset))) := by
  induction allocated with
  | nil => rfl
  | cons allocation rest ih =>
      rw [List.map_cons, List.map_cons, allocations]
      dsimp only [ResolvedAllocation.fact]
      rw [hAsset]
      refine bind_eq_ok.2 ⟨allocation.view asset, ?_, bind_eq_ok.2 ⟨_, ih fun other hOther =>
        hUnits other (List.mem_cons_of_mem _ hOther), rfl⟩⟩
      exact bind_eq_ok.2 ⟨_, formatUnits_total (hUnits _ List.mem_cons_self), rfl⟩

end Facts

/-! ## The reporting lines of a plan -/

section Lines

variable {uuid5 : UUID → String → UUID} {context : EntryCompilationContext}
  {entry : EverydayEntry} {draft : EntryDraft} {plan : CompiledEntry}
  {allocations : List ResolvedAllocation} {assetCode : AssetCode} {lineKind : ReportingLineKind}

end Lines

/-! ## The narrative of a plan -/

/-- The original that the event of a refund without a card names. -/
def EntryFinancial.semanticOriginal : EntryFinancial → Option UUID
  | posted p => if p.kind = .refund then p.originalTransactionId else none
  | recorded _ => none

section Narrative

variable {financial : EntryFinancial} {event : PendingEvent} {rest events : List PendingEvent}
  {sidecarId : UUID}

end Narrative

/-! ## The facts of a new transaction -/

section NewTransaction

variable {sha256 : ByteArray → EventHash} {bookId : UUID} {ledger ledger' : BookLedger}
  {financial : EntryFinancial} {event : PendingEvent} {rest : List PendingEvent}
  {head : BookEventHeadRecord} {rows : List LedgerEventRecord} {stored : LedgerEventRecord}
  {t t' : SyncTables}

/-- The row of a new transaction is found under its id. -/
theorem PostsTransaction.transaction? (h : PostsTransaction stored financial t t') :
    t'.transaction? financial.transactionId = some ⟨financial.transactionId, stored.eventId,
      stored.bookPosition, stored.effectiveAt, financial.recordedKind,
      financial.descriptionRef⟩ := by
  unfold SyncTables.transaction?
  rw [h.transactions, List.find?_append, List.find?_eq_none.2 fun row hRow hSame => ?_]
  · simp
  · exact h.fresh (of_decide_eq_true hSame ▸ List.mem_map_of_mem hRow)

/-- The original of a new transaction is the one that its event names. -/
theorem PostsTransaction.semanticOriginal {store : EventStoreTables}
    (h : PostsTransaction stored financial t t') {contract : EventContract}
    (hContract : stored.contract? = some contract) (hPayload : contract.1 = financial.payload)
    (hIds : (store.bookEvents bookId).map (·.eventId) |>.Nodup)
    (hStored : stored ∈ store.bookEvents bookId) :
    semanticOriginalTransactionId store t' bookId (financial.item stored)
      = .ok financial.semanticOriginal := by
  have hEvent : (store.bookEvents bookId).find? (fun e => e.eventId = stored.eventId)
      = some stored :=
    find?_only hStored (by simp) fun other hOther hSame =>
      List.inj_on_of_nodup_map hIds hOther hStored (of_decide_eq_true hSame)
  unfold semanticOriginalTransactionId
  cases financial with
  | recorded p => exact if_neg fun hBoth => Option.some_ne_none _ hBoth.2
  | posted p =>
      by_cases hRefund : p.kind = .refund
      · have hKind : p.kind.recorded = .refund := by rw [hRefund]; rfl
        rw [if_pos ⟨hKind, rfl⟩]
        have hFound : ((t'.transaction? (EntryFinancial.item (.posted p) stored).transactionId).bind
            fun transaction => (store.bookEvents bookId).find? fun e =>
              e.eventId = transaction.sourceEventId) = some stored := by
          rw [show (EntryFinancial.item (.posted p) stored).transactionId
            = (EntryFinancial.posted p).transactionId from rfl, h.transaction?, Option.bind_some]
          exact hEvent
        rw [hFound]
        dsimp only
        rw [LedgerEventRecord.contract?_eq_some.1 hContract]
        dsimp only
        rw [hPayload]
        show Except.ok (if p.transactionId = p.transactionId ∧ p.kind = .refund then _ else _) = _
        rw [if_pos ⟨rfl, hRefund⟩]
        exact congrArg Except.ok (if_pos hRefund).symm
      · have hKind : ¬p.kind.recorded = .refund := by
          cases hPosted : p.kind <;> simp_all [TransactionKind.recorded]
        rw [if_neg fun hBoth => hKind hBoth.1]
        exact congrArg Except.ok (if_neg hRefund).symm

end NewTransaction

end TrackAnywhere.Ports
