import TrackAnywhere.Ports.EntryDocuments
import TrackAnywhere.Ports.EntryDrafts
import TrackAnywhere.Ports.EntryEscapes
import TrackAnywhere.Ports.PaymentInstruments

/-!
# Payloads of a prepared entry

`preparePayload` is what `prepare_entry` stores of an entry that compiled: its
document, with the ids that its references resolved to in their place, the texts of
its amounts apart, its preview and its references.  `recompile` is what
`commit_entry` makes of a payload: it restores the entry, compiles it again and
refuses it as stale when the preview or the references have changed.
-/

namespace TrackAnywhere.Ports

open TrackAnywhere.Verified
open TrackAnywhere.Verified.Checked

/-! ## The payment instrument -/

/-- What is kept of a payment instrument that an entry was paid with. -/
structure InstrumentResolution where
  instrumentId : UUID
  bindingId : UUID
  currentName : String
  version : Nat
deriving DecidableEq

namespace EverydayEntry

def instrumentReference : EverydayEntry → Option (PaymentInstrumentRef × AssetCode)
  | expense e => e.paymentInstrument.map fun reference => (reference, e.amount.1.assetCode)
  | creditCardPayment e =>
      e.paymentInstrument.map fun reference => (reference, e.amount.1.assetCode)
  | _ => none

/-- The copy of an entry whose account is that of a binding. -/
def paidFrom (accountId : UUID) : EverydayEntry → EverydayEntry
  | expense e =>
      .expense { e with sourceAccount := some (.ofId accountId), paymentInstrument := none }
  | creditCardPayment e =>
      .creditCardPayment
        { e with cardAccount := some (.ofId accountId), paymentInstrument := none }
  | entry => entry

end EverydayEntry

/-- A `PaymentInstrumentError` is an error of the gateway; no other is raised here. -/
def InstrumentError.toEntryError (gateway : String → EntryError) : InstrumentError → EntryError
  | instrument message => gateway message
  | lookup message => .runtime message
  | integrity constraint => .runtime constraint
  | catalogWriteForbidden => .runtime "catalog write is forbidden"

/-- `_resolve_payment_instrument_source` -/
def resolvePaymentInstrumentSource (ilike : String → String → Bool) (moment : InstrumentMoment)
    (t : InstrumentTables) (entry : EverydayEntry) :
    Except EntryError (EverydayEntry × Option InstrumentResolution) :=
  match entry.instrumentReference with
  | none => .ok (entry, none)
  | some (reference, assetCode) => do
      let (instrument, binding) ← (resolvePaymentInstrument ilike moment t reference assetCode
        entry.occurredAt.instant).mapError (InstrumentError.toEntryError fun message =>
          .gateway .invalidInput message (some "payment_instrument"))
      require (entry.kind = .creditCardPayment → binding.bindingRole = .cardLiability)
        (.gateway .invalidInput "credit-card payments require a statement payment instrument"
          (some "payment_instrument"))
      return (entry.paidFrom binding.accountId,
        some ⟨instrument.instrumentId, binding.bindingId, instrument.currentName,
          instrument.version⟩)

/-! ## What is stored -/

/-- `next`, of the resolved categories. -/
def nextCategoryId : List UUID → Except EntryError (UUID × List UUID)
  | [] => .error (.runtime "StopIteration")
  | categoryId :: rest => .ok (categoryId, rest)

/-- The id of an account in the place of its reference, where the key is there. -/
def replaceAccount (stated : Option (Option AccountRefFields)) (accountId : Option UUID) :
    Option (Option AccountRefFields) :=
  match stated, accountId with
  | some _, some accountId => some (some (.byId accountId))
  | stated, _ => stated

/-- The next id in the place of the reference of a category, where there is one. -/
def replaceCategory (stated : Option (Option CategoryRefFields)) (categoryIds : List UUID) :
    Except EntryError (Option (Option CategoryRefFields) × List UUID) :=
  match stated with
  | some (some _) => do
      let (categoryId, rest) ← nextCategoryId categoryIds
      return (some (some (.byId categoryId)), rest)
  | stated => .ok (stated, categoryIds)

def replaceAllocations : List AllocationDocument → List UUID →
    Except EntryError (List AllocationDocument)
  | [], _ => .ok []
  | allocation :: allocations, categoryIds => do
      let (categoryId, rest) ← nextCategoryId categoryIds
      let replaced ← replaceAllocations allocations rest
      return { allocation with category := .byId categoryId } :: replaced

/-- The entry of `canonical_prepared_payload`. -/
def canonicalEntry (entry : EverydayEntry) (resolved : ResolvedEntryReferences) :
    Except EntryError EntryDocument := do
  let document := entry.dump.retainSafeNarrativeAmounts.removeSourceText
  let (category, rest) ← replaceCategory document.category resolved.categoryIds
  let (feeCategory, rest) ← replaceCategory document.feeCategory rest
  let allocations ← document.categoryAllocations.mapM fun allocations =>
    replaceAllocations allocations rest
  return { document with
    sourceAccount := replaceAccount document.sourceAccount resolved.sourceAccountId
    destinationAccount :=
      replaceAccount document.destinationAccount resolved.destinationAccountId
    fundingAccount := replaceAccount document.fundingAccount resolved.fundingAccountId
    cardAccount := replaceAccount document.cardAccount resolved.cardAccountId
    account := replaceAccount document.account resolved.adjustedAccountId
    category := category
    feeCategory := feeCategory
    categoryAllocations := allocations }

/-! ## Payloads -/

/-- What is stored of an entry that compiled, as far as it is compiled again. -/
structure PreparedPayload where
  entry : EntryDocument
  amountSources : List NarrativeAmountSource
  preview : EntryPreview
  resolved : ResolvedEntryReferences
  instrument : Option InstrumentResolution
deriving DecidableEq

section Payloads

variable (u : UnicodeTables) (uuid5 : UUID → String → UUID) (ilike : String → String → Bool)
  (moment : InstrumentMoment) (t : InstrumentTables) (context : EntryCompilationContext)

/-- The payload of `prepare_entry`, of an entry that compiles. -/
def preparePayload (entry : EverydayEntry) : Except EntryError PreparedPayload := do
  let (entry, instrument) ← resolvePaymentInstrumentSource ilike moment t entry
  let plan ← compileEntry u uuid5 context entry
  let (preview, resolved) ← previewAndResolved context entry plan
  let document ← canonicalEntry entry resolved
  return ⟨document, collectAmountSources entry, preview, resolved, instrument⟩

/-- `_revalidate_payment_instrument` -/
def revalidatePaymentInstrument (entry : EverydayEntry) (prepared : Option InstrumentResolution) :
    Except EntryError Unit :=
  match prepared with
  | none => .ok ()
  | some resolution => do
      let amount ← fetch entry.statedAmount (.gateway .intentStale
        "prepared payment instrument binding is invalid" none)
      let (_, binding) ← (resolvePaymentInstrument ilike moment t (.ofId resolution.instrumentId)
        amount.1.assetCode entry.occurredAt.instant).mapError (InstrumentError.toEntryError fun _ =>
          .gateway .intentStale "payment instrument binding changed after prepare" none)
      require (binding.bindingId = resolution.bindingId)
        (.gateway .intentStale "payment instrument binding changed after prepare" none)

/-- The error of a commit: what the gateway raises, it raises as stale. -/
def EntryError.stale : EntryError → EntryError
  | gateway .intentStale message field => .gateway .intentStale message field
  | gateway _ _ _ =>
      .gateway .intentStale "entry accounts or categories changed after prepare" none
  | clarification _ _ _ _ _ =>
      .gateway .intentStale "entry accounts or categories changed after prepare" none
  | error => error

/-- The plan of `commit_entry`, and the preview that it answers with. -/
def recompile (payload : PreparedPayload) : Except EntryError (CompiledEntry × EntryPreview) := do
  let entry ← restoreEntry payload.entry payload.amountSources
  revalidatePaymentInstrument ilike moment t entry payload.instrument
  let (plan, preview, resolved) ← (do
    let plan ← compileEntry u uuid5 context entry
    let (preview, resolved) ← previewAndResolved context entry plan
    return (plan, preview, resolved)).mapError EntryError.stale
  require (preview = payload.preview ∧ resolved = payload.resolved)
    (.gateway .intentStale "entry accounts or categories changed after prepare" none)
  return (plan, preview)

end Payloads

/-! ## The stored entry -/

/-- Of a narrative only its amounts, where it has any. -/
def EntryNarrativeInput.amountsOnly (narrative : EntryNarrativeInput) :
    Option EntryNarrativeInput :=
  if narrative.1.grossAmount = none ∧ narrative.1.discountAmount = none then none
  else
    let fields := ⟨none, none, none, none, narrative.1.grossAmount, narrative.1.discountAmount⟩
    some ⟨fields, fields, rfl⟩

def restoredCategory (stated : Option CategoryRef) (categoryIds : List UUID) :
    Option CategoryRef :=
  stated.bind fun _ => categoryIds.head?.map CategoryRef.ofId

def restoredAllocations (stated : List CategoryAllocationInput) (categoryIds : List UUID) :
    List CategoryAllocationInput :=
  stated.zipWith (fun allocation categoryId =>
    { allocation with category := .ofId categoryId }) categoryIds

namespace EverydayEntry

/-- The entry that is stored: its references are ids, and its narrative has amounts only. -/
def restored (entry : EverydayEntry) (resolved : ResolvedEntryReferences) : EverydayEntry :=
  match entry with
  | expense e =>
      .expense
        { e with
          narrative := e.narrative.bind (·.amountsOnly)
          category := restoredCategory e.category resolved.categoryIds
          categoryAllocations := restoredAllocations e.categoryAllocations
            (resolved.categoryIds.drop e.category.toList.length)
          sourceAccount := resolved.sourceAccountId.elim e.sourceAccount (some <| .ofId ·) }
  | income e =>
      .income
        { e with
          narrative := e.narrative.bind (·.amountsOnly)
          category := restoredCategory e.category resolved.categoryIds
          categoryAllocations := restoredAllocations e.categoryAllocations
            (resolved.categoryIds.drop e.category.toList.length)
          destinationAccount := resolved.destinationAccountId.elim e.destinationAccount .ofId }
  | transfer e =>
      .transfer
        { e with
          narrative := e.narrative.bind (·.amountsOnly)
          sourceAccount := resolved.sourceAccountId.elim e.sourceAccount .ofId
          destinationAccount := resolved.destinationAccountId.elim e.destinationAccount .ofId }
  | creditCardPayment e =>
      .creditCardPayment
        { e with
          narrative := e.narrative.bind (·.amountsOnly)
          fundingAccount := resolved.fundingAccountId.elim e.fundingAccount .ofId
          cardAccount := resolved.cardAccountId.elim e.cardAccount (some <| .ofId ·)
          feeCategory := restoredCategory e.feeCategory resolved.categoryIds }
  | refund e =>
      .refund
        { e with
          narrative := e.narrative.bind (·.amountsOnly)
          categoryAllocations := restoredAllocations e.categoryAllocations resolved.categoryIds }
  | adjustment e =>
      .adjustment
        { e with
          narrative := e.narrative.bind (·.amountsOnly)
          account := resolved.adjustedAccountId.elim e.account .ofId }

/-- How many categories an entry names. -/
def categoryCount : EverydayEntry → Nat
  | expense e => e.category.toList.length + e.categoryAllocations.length
  | income e => e.category.toList.length + e.categoryAllocations.length
  | creditCardPayment e => e.feeCategory.toList.length
  | refund e => e.categoryAllocations.length
  | _ => 0

end EverydayEntry

section Stored

variable {entry : EverydayEntry} {resolved : ResolvedEntryReferences}

theorem replaceAccount_some (stated : Option AccountRefFields) (accountId : Option UUID) :
    replaceAccount (some stated) accountId
      = some (accountId.elim stated (some <| .byId ·)) := by
  cases accountId <;> rfl

theorem replaceAccount_none (accountId : Option UUID) : replaceAccount none accountId = none := by
  cases accountId <;> rfl

theorem replaceCategory_eq {stated : Option CategoryRef} {categoryIds : List UUID}
    (h : stated.toList.length ≤ categoryIds.length) :
    replaceCategory (some (stated.map (·.1))) categoryIds
      = .ok (some ((restoredCategory stated categoryIds).map (·.1)),
        categoryIds.drop stated.toList.length) := by
  cases stated with
  | none => rfl
  | some reference =>
      cases categoryIds with
      | nil => exact absurd h (by simp)
      | cons categoryId rest => rfl

theorem length_le_drop {first second : Nat} {categoryIds : List UUID}
    (h : first + second ≤ categoryIds.length) : second ≤ (categoryIds.drop first).length := by
  rw [List.length_drop]
  omega

theorem replaceAllocations_eq {stated : List AllocationDocument} {categoryIds : List UUID}
    (h : stated.length ≤ categoryIds.length) :
    replaceAllocations stated categoryIds
      = .ok (stated.zipWith (fun allocation categoryId =>
        { allocation with category := .byId categoryId }) categoryIds) := by
  induction stated generalizing categoryIds with
  | nil => simp [replaceAllocations]
  | cons allocation rest ih =>
      cases categoryIds with
      | nil => exact absurd h (by simp)
      | cons categoryId others =>
          rw [replaceAllocations, nextCategoryId]
          simp only [bind_eq_ok, pure_eq_ok]
          exact ⟨_, rfl, _, ih (Nat.le_of_succ_le_succ h), rfl⟩

/-- The dump of an allocation, without its text. -/
def CategoryAllocationInput.bare (self : CategoryAllocationInput) : AllocationDocument :=
  { self.dump with amount := { self.amount.1.dump with sourceText := none } }

theorem bareAllocations_eq (allocations : List CategoryAllocationInput) :
    ((allocations.map (·.dump)).zipIdx.map fun (allocation, _) =>
        { allocation with
          amount := { allocation.amount with sourceText := none } : AllocationDocument })
      = allocations.map (·.bare) := by
  rw [List.zipIdx_map, List.map_map]
  exact map_fst_zipIdx (·.bare) allocations

theorem replaceBare_eq {allocations : List CategoryAllocationInput} {categoryIds : List UUID}
    (h : allocations.length ≤ categoryIds.length) :
    replaceAllocations (allocations.map (·.bare)) categoryIds
      = .ok ((restoredAllocations allocations categoryIds).map (·.bare)) := by
  rw [replaceAllocations_eq (by rwa [List.length_map]), List.zipWith_map_left,
    restoredAllocations, List.map_zipWith]
  rfl

theorem narrative_retained (narrative : Option EntryNarrativeInput) :
    ((narrative.map (·.1.dump)).bind fun fields =>
        if fields.grossAmount = none ∧ fields.discountAmount = none then none
        else some (⟨none, none, none, none, fields.grossAmount, fields.discountAmount⟩ :
          NarrativeFields AmountDocument))
      = (narrative.bind (·.amountsOnly)).map (·.1.dump) := by
  cases narrative with
  | none => rfl
  | some narrative =>
      rw [Option.map_some, Option.bind_some, Option.bind_some, EntryNarrativeInput.amountsOnly]
      simp only [NarrativeFields.dump, Option.map_eq_none_iff]
      split_ifs <;> rfl

theorem mapM_allocations {allocations : List CategoryAllocationInput} {categoryIds : List UUID}
    (h : allocations.length ≤ categoryIds.length) :
    Option.mapM (fun allocations => replaceAllocations allocations categoryIds)
        (some ((allocations.map (·.dump)).zipIdx.map fun (allocation, _) =>
          { allocation with
            amount := { allocation.amount with sourceText := none } : AllocationDocument }))
      = .ok (some ((restoredAllocations allocations categoryIds).map (·.bare))) := by
  rw [bareAllocations_eq]
  show (replaceAllocations _ _ >>= fun replaced => pure (some replaced)) = _
  rw [replaceBare_eq h]
  rfl

/-- The stored document is that of the stored entry, without its texts. -/
theorem canonicalEntry_eq (hCount : entry.categoryCount ≤ resolved.categoryIds.length) :
    canonicalEntry entry resolved = .ok (entry.restored resolved).dump.removeSourceText := by
  unfold canonicalEntry
  simp only [bind_eq_ok, pure_eq_ok]
  cases entry with
  | expense e =>
      refine ⟨_, replaceCategory_eq (Nat.le_of_add_right_le hCount), _, rfl, _,
        mapM_allocations (length_le_drop hCount), ?_⟩
      simp only [EverydayEntry.dump, EverydayEntry.restored, EntryDocument.removeSourceText,
        EntryDocument.mapAmounts, EntryDocument.retainSafeNarrativeAmounts, narrative_retained,
        replaceAccount_some, replaceAccount_none, Option.map_some, bareAllocations_eq]
      cases resolved.sourceAccountId <;> rfl
  | income e =>
      refine ⟨_, replaceCategory_eq (Nat.le_of_add_right_le hCount), _, rfl, _,
        mapM_allocations (length_le_drop hCount), ?_⟩
      simp only [EverydayEntry.dump, EverydayEntry.restored, EntryDocument.removeSourceText,
        EntryDocument.mapAmounts, EntryDocument.retainSafeNarrativeAmounts, narrative_retained,
        replaceAccount_some, replaceAccount_none, Option.map_some, bareAllocations_eq]
      cases resolved.destinationAccountId <;> rfl
  | transfer e =>
      refine ⟨_, rfl, _, rfl, none, rfl, ?_⟩
      simp only [EverydayEntry.dump, EverydayEntry.restored, EntryDocument.removeSourceText,
        EntryDocument.mapAmounts, EntryDocument.retainSafeNarrativeAmounts, narrative_retained,
        replaceAccount_some, replaceAccount_none]
      cases resolved.sourceAccountId <;> cases resolved.destinationAccountId <;> rfl
  | creditCardPayment e =>
      refine ⟨_, rfl, _, replaceCategory_eq hCount, none, rfl, ?_⟩
      simp only [EverydayEntry.dump, EverydayEntry.restored, EntryDocument.removeSourceText,
        EntryDocument.mapAmounts, EntryDocument.retainSafeNarrativeAmounts, narrative_retained,
        replaceAccount_some, replaceAccount_none]
      cases resolved.fundingAccountId <;> cases resolved.cardAccountId <;> rfl
  | refund e =>
      refine ⟨_, rfl, _, rfl, _, mapM_allocations hCount, ?_⟩
      simp only [EverydayEntry.dump, EverydayEntry.restored, EntryDocument.removeSourceText,
        EntryDocument.mapAmounts, EntryDocument.retainSafeNarrativeAmounts, narrative_retained,
        replaceAccount_none, Option.map_some, bareAllocations_eq]
      rfl
  | adjustment e =>
      refine ⟨_, rfl, _, rfl, none, rfl, ?_⟩
      simp only [EverydayEntry.dump, EverydayEntry.restored, EntryDocument.removeSourceText,
        EntryDocument.mapAmounts, EntryDocument.retainSafeNarrativeAmounts, narrative_retained,
        replaceAccount_some, replaceAccount_none]
      cases resolved.adjustedAccountId <;> rfl

theorem amounts_restored {allocations : List CategoryAllocationInput} {categoryIds : List UUID}
    (h : allocations.length ≤ categoryIds.length) :
    (restoredAllocations allocations categoryIds).map (·.amount)
      = allocations.map (·.amount) := by
  induction allocations generalizing categoryIds with
  | nil => rfl
  | cons allocation rest ih =>
      cases categoryIds with
      | nil => exact absurd h (by simp)
      | cons categoryId others =>
          exact congrArg (allocation.amount :: ·) (ih (Nat.le_of_succ_le_succ h))

theorem allocationSources_restored {allocations : List CategoryAllocationInput}
    {categoryIds : List UUID} (h : allocations.length ≤ categoryIds.length) :
    (restoredAllocations allocations categoryIds).zipIdx.map (fun (allocation, index) =>
        NarrativeAmountSource.mk (allocationPath index) allocation.amount.1.sourceText)
      = allocations.zipIdx.map fun (allocation, index) =>
        NarrativeAmountSource.mk (allocationPath index) allocation.amount.1.sourceText := by
  have hAmounts : ∀ items : List CategoryAllocationInput,
      items.zipIdx.map (fun (allocation, index) =>
        NarrativeAmountSource.mk (allocationPath index) allocation.amount.1.sourceText)
      = (items.map (·.amount)).zipIdx.map fun (amount, index) =>
        NarrativeAmountSource.mk (allocationPath index) amount.1.sourceText := by
    intro items
    rw [List.zipIdx_map, List.map_map]
    rfl
  rw [hAmounts, hAmounts, amounts_restored h]

theorem amountsOnly_amounts (narrative : Option EntryNarrativeInput) :
    (narrative.bind (·.amountsOnly)).bind (·.1.grossAmount.map (·.1))
        = narrative.bind (·.1.grossAmount.map (·.1))
      ∧ (narrative.bind (·.amountsOnly)).bind (·.1.discountAmount.map (·.1))
        = narrative.bind (·.1.discountAmount.map (·.1)) := by
  cases narrative with
  | none => exact ⟨rfl, rfl⟩
  | some narrative =>
      rw [Option.bind_some, Option.bind_some, Option.bind_some, EntryNarrativeInput.amountsOnly]
      split_ifs with hNone
      · rw [hNone.1, hNone.2]
        exact ⟨rfl, rfl⟩
      · exact ⟨rfl, rfl⟩

/-- The stored entry has the amounts of the entry, and their texts. -/
theorem collectAmountSources_restored
    (hCount : entry.categoryCount ≤ resolved.categoryIds.length) :
    collectAmountSources (entry.restored resolved) = collectAmountSources entry := by
  have hNarrative := amountsOnly_amounts entry.timed.narrative
  have hTimed : (entry.restored resolved).timed.narrative
      = entry.timed.narrative.bind (·.amountsOnly) := by
    cases entry <;> rfl
  unfold collectAmountSources
  rw [hTimed, hNarrative.1, hNarrative.2]
  cases entry with
  | expense e =>
      simp only [EverydayEntry.restored, allocationSources_restored (length_le_drop hCount)]
  | income e =>
      simp only [EverydayEntry.restored, allocationSources_restored (length_le_drop hCount)]
  | refund e =>
      simp only [EverydayEntry.restored, allocationSources_restored hCount]
  | _ => rfl

/-- What is stored of an entry is read back as the stored entry. -/
theorem restoreEntry_stored (hCount : entry.categoryCount ≤ resolved.categoryIds.length)
    (hValid : (entry.restored resolved).validate = .ok ()) {document : EntryDocument}
    (hStored : canonicalEntry entry resolved = .ok document) :
    restoreEntry document (collectAmountSources entry) = .ok (entry.restored resolved) := by
  rw [canonicalEntry_eq hCount, Except.ok.injEq] at hStored
  rw [← hStored, ← collectAmountSources_restored hCount]
  exact restoreEntry_removed hValid

end Stored

/-! ## The stored entry drafts the same -/

section Restored

variable {u : UnicodeTables} {uuid5 : UUID → String → UUID}
  {context : EntryCompilationContext} {asset : EntryAsset} {usageKind : CategoryUsageKind}
  {stated : List CategoryAllocationInput} {allocations : List ResolvedAllocation}

/-- The ids of the categories that allocations were resolved to. -/
def categoryIdsOf (allocations : List ResolvedAllocation) : List UUID :=
  allocations.map (·.category.categoryId)

/-- What one stated allocation is normalized to. -/
def AllocatedAs (u : UnicodeTables) (asset : EntryAsset) (allocation : CategoryAllocationInput)
    (item : CategoryAllocationInput × NormalizedAmount) : Prop :=
  normalizeAmount u allocation.amount.1 asset false = .ok item.2 ∧ item.1 = allocation

theorem normalized_iff {normalized : List (CategoryAllocationInput × NormalizedAmount)} :
    (stated.mapM fun allocation => do
        let amount ← normalizeAmount u allocation.amount.1 asset false
        return (allocation, amount)) = .ok normalized
      ↔ List.Forall₂ (AllocatedAs u asset) stated normalized := by
  rw [mapM_eq_ok]
  constructor <;> intro h <;> refine h.imp fun allocation item hItem => ?_
  · obtain ⟨amount, hAmount, hItem⟩ := bind_eq_ok.1 hItem
    cases pure_eq_ok.1 hItem
    exact ⟨hAmount, rfl⟩
  · obtain ⟨hAmount, rfl⟩ := hItem
    exact bind_eq_ok.2 ⟨item.2, hAmount, rfl⟩

/-- Stated allocations whose categories are replaced by what they resolved to are resolved
to the same. -/
theorem resolve_restored (hIds : CatalogIds context) {start : Nat}
    {normalized : List (CategoryAllocationInput × NormalizedAmount)}
    (hNormalized : List.Forall₂ (AllocatedAs u asset) stated normalized)
    (h : (normalized.zipIdx start).mapM (fun (item, position) => do
        let category ← context.category u item.1.category usageKind
          s!"category_allocations.{position}.category"
        return (⟨category, item.2.units⟩ : ResolvedAllocation)) = .ok allocations) :
    ∃ others, List.Forall₂ (AllocatedAs u asset)
        (restoredAllocations stated (categoryIdsOf allocations)) others
      ∧ others.map (·.2.units) = normalized.map (·.2.units)
      ∧ (others.zipIdx start).mapM (fun (item, position) => do
        let category ← context.category u item.1.category usageKind
          s!"category_allocations.{position}.category"
        return (⟨category, item.2.units⟩ : ResolvedAllocation)) = .ok allocations := by
  induction hNormalized generalizing start allocations with
  | nil =>
      rw [List.zipIdx_nil, List.mapM_nil, pure_eq_ok] at h
      subst h
      exact ⟨[], .nil, rfl, rfl⟩
  | @cons allocation item rest items hFirst _ ih =>
      rw [List.zipIdx_cons, List.mapM_cons, bind_eq_ok] at h
      obtain ⟨first, hItem, h⟩ := h
      obtain ⟨later, hLater, h⟩ := bind_eq_ok.1 h
      cases pure_eq_ok.1 h
      obtain ⟨category, hCategory, hItem⟩ := bind_eq_ok.1 hItem
      cases pure_eq_ok.1 hItem
      obtain ⟨others, hOthers, hUnits, hResolved⟩ := ih hLater
      obtain ⟨hAmount, -⟩ := hFirst
      refine ⟨({ allocation with category := .ofId category.categoryId }, item.2) :: others,
        .cons ⟨hAmount, rfl⟩ hOthers, congrArg (item.2.units :: ·) hUnits, ?_⟩
      rw [List.zipIdx_cons, List.mapM_cons, bind_eq_ok]
      exact ⟨_, bind_eq_ok.2 ⟨category, category_ofId hIds hCategory _, rfl⟩,
        bind_eq_ok.2 ⟨later, hResolved, rfl⟩⟩

/-- The same, of the allocations that are checked against an amount. -/
theorem stated_restored (hIds : CatalogIds context) {money : MoneyInput}
    {normalized : List (CategoryAllocationInput × NormalizedAmount)}
    (hNormalized : normalizeCategoryAllocations u money stated asset = .ok normalized)
    (h : resolveAllocations u context usageKind normalized = .ok allocations) :
    ∃ others, normalizeCategoryAllocations u money
        (restoredAllocations stated (categoryIdsOf allocations)) asset = .ok others
      ∧ resolveAllocations u context usageKind others = .ok allocations := by
  unfold normalizeCategoryAllocations at hNormalized ⊢
  simp only [bind_eq_ok, require_eq_ok] at hNormalized ⊢
  obtain ⟨total, hTotal, each, hEach, -, hSum, hSame⟩ := hNormalized
  cases pure_eq_ok.1 hSame
  obtain ⟨others, hOthers, hUnits, hResolved⟩ := resolve_restored hIds
    (normalized_iff.1 hEach) h
  refine ⟨others, ⟨total, hTotal, others, normalized_iff.2 hOthers, (), ?_, rfl⟩, hResolved⟩
  rw [hUnits]
  refine hSum.imp_left fun hNone => ?_
  rw [hNone] at hUnits
  exact List.map_eq_nil_iff.1 hUnits

theorem stated_length {money : MoneyInput}
    {normalized : List (CategoryAllocationInput × NormalizedAmount)}
    (hNormalized : normalizeCategoryAllocations u money stated asset = .ok normalized)
    (h : resolveAllocations u context usageKind normalized = .ok allocations) :
    allocations.length = stated.length := by
  unfold normalizeCategoryAllocations at hNormalized
  simp only [bind_eq_ok, pure_eq_ok] at hNormalized
  obtain ⟨total, -, each, hEach, -, -, rfl⟩ := hNormalized
  have hResolved := (mapM_eq_ok.1 h).length_eq
  rw [List.length_zipIdx, ← (mapM_eq_ok.1 hEach).length_eq] at hResolved
  exact hResolved.symm

theorem restoredAllocations_nil (categoryIds : List UUID) :
    restoredAllocations [] categoryIds = [] :=
  rfl

/-- A categorized entry with the ids in its place is allocated as it was. -/
theorem entryAllocations_restored (hIds : CatalogIds context)
    {entry restored : CategorizedEntryInput} {amount : NormalizedAmount}
    (hShape : entry.category.isSome = entry.categoryAllocations.isEmpty)
    (h : entryAllocations u context entry asset amount usageKind = .ok allocations)
    (hAmount : restored.amount = entry.amount)
    (hCategory : restored.category = restoredCategory entry.category (categoryIdsOf allocations))
    (hAllocations : restored.categoryAllocations = restoredAllocations entry.categoryAllocations
      ((categoryIdsOf allocations).drop entry.category.toList.length)) :
    entryAllocations u context restored asset amount usageKind = .ok allocations := by
  unfold entryAllocations at h ⊢
  rw [hAmount, hCategory, hAllocations]
  obtain ⟨normalized, hNormalized, h⟩ := bind_eq_ok.1 h
  cases hStated : entry.category with
  | some reference =>
      have hNone : entry.categoryAllocations = [] := by
        rw [hStated] at hShape
        exact List.isEmpty_iff.1 hShape.symm
      rw [hStated] at h
      rw [hNone] at hNormalized
      obtain ⟨category, hResolved, h⟩ := bind_eq_ok.1 h
      cases pure_eq_ok.1 h
      rw [hNone, restoredAllocations_nil]
      refine bind_eq_ok.2 ⟨normalized, hNormalized, ?_⟩
      exact bind_eq_ok.2 ⟨category, category_ofId hIds hResolved _, rfl⟩
  | none =>
      rw [hStated] at h
      obtain ⟨others, hOthers, hResolved⟩ := stated_restored hIds hNormalized h
      exact bind_eq_ok.2 ⟨others, hOthers, hResolved⟩

theorem refundAllocations_restored (hIds : CatalogIds context)
    {entry restored : RefundEntryInput} {original : OriginalEntry} {amount : NormalizedAmount}
    (h : refundAllocations u context entry original asset amount = .ok allocations)
    (hAmount : restored.amount = entry.amount)
    (hAllocations : restored.categoryAllocations
      = restoredAllocations entry.categoryAllocations (categoryIdsOf allocations)) :
    refundAllocations u context restored original asset amount = .ok allocations := by
  unfold refundAllocations at h ⊢
  rw [hAmount, hAllocations]
  by_cases hStated : entry.categoryAllocations = []
  · rw [if_neg (not_not_intro hStated)] at h
    rw [hStated, restoredAllocations_nil, if_neg (not_not_intro rfl)]
    exact h
  · rw [if_pos hStated] at h
    obtain ⟨money, hMoney, h⟩ := bind_eq_ok.1 h
    obtain ⟨normalized, hNormalized, h⟩ := bind_eq_ok.1 h
    obtain ⟨others, hOthers, hResolved⟩ := stated_restored hIds hNormalized h
    have hSome : restoredAllocations entry.categoryAllocations
        (categoryIdsOf allocations) ≠ [] := by
      intro hNone
      have hLength := congrArg List.length hNone
      rw [restoredAllocations, List.length_zipWith, categoryIdsOf, List.length_map,
        stated_length hNormalized h, min_self] at hLength
      exact hStated (List.length_eq_zero_iff.1 hLength)
    rw [if_pos hSome]
    exact bind_eq_ok.2 ⟨money, hMoney, bind_eq_ok.2 ⟨others, hOthers, hResolved⟩⟩

end Restored

/-! ## The stored entry is the entry, in what it drafts -/

section Restoring

variable {u : UnicodeTables} {uuid5 : UUID → String → UUID}
  {context : EntryCompilationContext} {entry : EverydayEntry} {draft : EntryDraft}
  {plan : CompiledEntry} {preview : EntryPreview} {resolved : ResolvedEntryReferences}

theorem entryAllocations_length {entry : CategorizedEntryInput} {asset : EntryAsset}
    {amount : NormalizedAmount} {usageKind : CategoryUsageKind}
    {allocations : List ResolvedAllocation}
    (hShape : entry.category.isSome = entry.categoryAllocations.isEmpty)
    (h : entryAllocations u context entry asset amount usageKind = .ok allocations) :
    allocations.length = entry.category.toList.length + entry.categoryAllocations.length := by
  unfold entryAllocations at h
  obtain ⟨normalized, hNormalized, h⟩ := bind_eq_ok.1 h
  cases hStated : entry.category with
  | some reference =>
      rw [hStated] at h hShape
      obtain ⟨category, -, h⟩ := bind_eq_ok.1 h
      cases pure_eq_ok.1 h
      rw [List.isEmpty_iff.1 hShape.symm]
      rfl
  | none =>
      rw [hStated] at h
      rw [stated_length hNormalized h, Option.toList_none, List.length_nil, zero_add]

theorem refundAllocations_length {entry : RefundEntryInput} {original : OriginalEntry}
    {asset : EntryAsset} {amount : NormalizedAmount} {allocations : List ResolvedAllocation}
    (h : refundAllocations u context entry original asset amount = .ok allocations) :
    entry.categoryAllocations.length ≤ allocations.length := by
  by_cases hStated : entry.categoryAllocations = []
  · rw [hStated]
    exact Nat.zero_le _
  · unfold refundAllocations at h
    rw [if_pos hStated] at h
    obtain ⟨money, -, h⟩ := bind_eq_ok.1 h
    obtain ⟨normalized, hNormalized, h⟩ := bind_eq_ok.1 h
    exact (stated_length hNormalized h).ge

theorem length_restored {stated : List CategoryAllocationInput} {categoryIds : List UUID}
    (h : stated.length ≤ categoryIds.length) :
    (restoredAllocations stated categoryIds).length = stated.length := by
  rw [restoredAllocations, List.length_zipWith, min_eq_left h]

theorem isSome_restored {stated : Option CategoryRef} {categoryIds : List UUID}
    (h : stated.toList.length ≤ categoryIds.length) :
    (restoredCategory stated categoryIds).isSome = stated.isSome := by
  cases stated with
  | none => rfl
  | some reference =>
      cases categoryIds with
      | nil => exact absurd h (by simp)
      | cons categoryId rest => rfl

theorem validateClassificationShape_ok {entry : CategorizedEntryInput} :
    entry.validateClassificationShape = .ok ()
      ↔ entry.categoryAllocations.length ≤ 64
        ∧ entry.category.isSome = entry.categoryAllocations.isEmpty := by
  simp only [CategorizedEntryInput.validateClassificationShape, checkAllocationCount, bind_eq_ok,
    require_eq_ok, exists_const]

theorem classification_restored {entry restored : CategorizedEntryInput} {categoryIds : List UUID}
    (hCount : entry.category.toList.length + entry.categoryAllocations.length
      ≤ categoryIds.length)
    (h : entry.validateClassificationShape = .ok ())
    (hCategory : restored.category = restoredCategory entry.category categoryIds)
    (hAllocations : restored.categoryAllocations = restoredAllocations entry.categoryAllocations
      (categoryIds.drop entry.category.toList.length)) :
    restored.validateClassificationShape = .ok () := by
  obtain ⟨hLimit, hShape⟩ := validateClassificationShape_ok.1 h
  have hLength := length_restored (length_le_drop hCount)
  rw [validateClassificationShape_ok, hCategory, hAllocations, hLength,
    isSome_restored (Nat.le_of_add_right_le hCount)]
  refine ⟨hLimit, hShape.trans ?_⟩
  rw [Bool.eq_iff_iff, List.isEmpty_iff_length_eq_zero, List.isEmpty_iff_length_eq_zero, hLength]

/-- Two references by different ids are different. -/
theorem ofId_injective {first second : UUID} (h : AccountRef.ofId first = AccountRef.ofId second) :
    first = second :=
  Option.some.inj (congrArg (fun reference : AccountRef => reference.1.accountId) h)

/-- What the contract of a card payment in one asset asks for. -/
theorem validatePaymentTarget_sameAsset {entry : CreditCardPaymentEntryInput}
    (hSame : entry.sourceAmount = none) : entry.validatePaymentTarget = .ok () ↔
      entry.cardAccount.isSome ≠ entry.paymentInstrument.isSome
        ∧ entry.cardAccount ≠ some entry.fundingAccount
        ∧ entry.feeAmount = none ∧ entry.feeCategory = none := by
  unfold CreditCardPaymentEntryInput.validatePaymentTarget
  simp only [bind_eq_ok, require_eq_ok, Unique.exists_iff, hSame]
  refine and_congr_right fun _ => and_congr_right fun _ => ?_
  cases entry.feeAmount <;> cases entry.feeCategory <;> simp [pure_eq_ok]

/-- What the contract of a card payment between two assets asks for. -/
theorem validatePaymentTarget_crossAsset {entry : CreditCardPaymentEntryInput}
    {source fee : MoneyInput} {category : CategoryRef}
    (hSource : entry.sourceAmount = some source) (hFee : entry.feeAmount = some fee)
    (hCategory : entry.feeCategory = some category) : entry.validatePaymentTarget = .ok () ↔
      entry.cardAccount.isSome ≠ entry.paymentInstrument.isSome
        ∧ entry.cardAccount ≠ some entry.fundingAccount
        ∧ source.1.assetCode ≠ entry.amount.1.assetCode
        ∧ fee.1.assetCode = source.1.assetCode := by
  unfold CreditCardPaymentEntryInput.validatePaymentTarget
  simp only [bind_eq_ok, require_eq_ok, Unique.exists_iff, hSource, hFee, hCategory]

/-- What is stored of an entry that compiled is valid, and drafts what the entry did. -/
theorem restored_drafts (hIds : CatalogIds context) (hEntry : entry.validate = .ok ())
    (hDrafts : Drafts u uuid5 context entry draft)
    (hPlan : draft.plan uuid5 context entry = .ok plan)
    (hPreview : previewAndResolved context entry plan = .ok (preview, resolved)) :
    entry.categoryCount ≤ resolved.categoryIds.length
      ∧ (entry.restored resolved).validate = .ok ()
      ∧ Drafts u uuid5 context (entry.restored resolved) draft := by
  obtain ⟨references, lines, hReferences, -, rfl⟩ := previewAndResolved_facts hPlan hPreview
  clear hPreview hPlan
  cases hDrafts with
  | @income entry asset amount destination clearing allocations postings hAsset hAmount
      hDestination hClearing hAllocations hPostings =>
      have hMoves : EntryFinancial.Moves (.posted ⟨context.transactionId, .standard, none,
        postings, none, []⟩) asset.assetCode amount.units destination.accountId
          clearing.accountId := twoPostings_facts hPostings
      rw [references_income hMoves, Except.ok.injEq] at hReferences
      subst hReferences
      have hShape : entry.validateClassificationShape = .ok () := hEntry
      have hCount : entry.category.toList.length + entry.categoryAllocations.length
          ≤ (categoryIdsOf allocations).length := by
        rw [categoryIdsOf, List.length_map, entryAllocations_length
          (validateClassificationShape_ok.1 hShape).2 hAllocations]
      refine ⟨hCount, ?_, ?_⟩
      · exact classification_restored hCount hShape rfl rfl
      · exact .income hAsset hAmount (account_ofId hIds hDestination _) hClearing
          (entryAllocations_restored hIds (validateClassificationShape_ok.1 hShape).2
            hAllocations rfl rfl rfl) hPostings
  | @expense entry asset amount reference source clearing allocations postings hAsset hAmount
      hReference hSource hClearing hAllocations hPostings =>
      obtain ⟨hSame, hDrafted, hCard⟩ : _ ∧ _ ∧ _ := expenseDraft_facts
      have hMoves : EntryFinancial.Moves (expenseDraft context source clearing allocations
        postings).financial asset.assetCode amount.units clearing.accountId source.accountId :=
          (congrArg _ hDrafted).trans (twoPostings_facts hPostings)
      rw [references_expense hMoves hCard, Except.ok.injEq] at hReferences
      subst hReferences
      rw [hSame]
      obtain ⟨hShape, hOne⟩ : entry.validateClassificationShape = .ok ()
          ∧ entry.sourceAccount.isSome ≠ entry.paymentInstrument.isSome := by
        simpa only [EverydayEntry.validate, ExpenseEntryInput.validatePaymentSource, bind_eq_ok,
          require_eq_ok, Unique.exists_iff] using hEntry
      have hCount : entry.category.toList.length + entry.categoryAllocations.length
          ≤ (categoryIdsOf allocations).length := by
        rw [categoryIdsOf, List.length_map, entryAllocations_length
          (validateClassificationShape_ok.1 hShape).2 hAllocations]
      refine ⟨hCount, ?_, ?_⟩
      · show ExpenseEntryInput.validatePaymentSource _ = _
        unfold ExpenseEntryInput.validatePaymentSource
        refine bind_eq_ok.2 ⟨(), classification_restored hCount hShape rfl rfl, ?_⟩
        rw [hReference] at hOne
        exact require_eq_ok.2 hOne
      · exact .expense hAsset hAmount rfl (account_ofId hIds hSource _) hClearing
          (entryAllocations_restored hIds (validateClassificationShape_ok.1 hShape).2
            hAllocations rfl rfl rfl) hPostings
  | @transfer entry asset amount source destination postings hAsset hAmount hSource hDestination
      hDistinct hPostings =>
      have hMoves : EntryFinancial.Moves (.posted ⟨context.transactionId, .transfer, none,
        postings, none, []⟩) asset.assetCode amount.units destination.accountId
          source.accountId := twoPostings_facts hPostings
      rw [references_transfer hMoves, Except.ok.injEq] at hReferences
      subst hReferences
      refine ⟨Nat.zero_le _, ?_, ?_⟩
      · exact require_eq_ok.2 fun hSame => hDistinct (ofId_injective hSame)
      · exact .transfer hAsset hAmount (account_ofId hIds hSource _)
          (account_ofId hIds hDestination _) hDistinct hPostings
  | @cardPayment entry asset amount reference funding card postings hSame hAsset hAmount
      hReference hFunding hCard hDistinct hPostings =>
      rw [references_cardPayment hSame, Except.ok.injEq] at hReferences
      subst hReferences
      obtain ⟨hOne, hNone⟩ : entry.cardAccount.isSome ≠ entry.paymentInstrument.isSome
          ∧ entry.feeAmount = none ∧ entry.feeCategory = none := by
        have hTarget := (validatePaymentTarget_sameAsset hSame).1 hEntry
        exact ⟨hTarget.1, hTarget.2.2⟩
      refine ⟨by simp [EverydayEntry.categoryCount, hNone.2], ?_, ?_⟩
      · rw [hReference] at hOne
        refine (validatePaymentTarget_sameAsset ?_).2 ⟨hOne, ?_, hNone.1, ?_⟩
        · exact hSame
        · exact fun h => hDistinct (ofId_injective (Option.some.inj h)).symm
        · rw [hNone.2]
          rfl
      · exact .cardPayment hSame hAsset hAmount rfl (account_ofId hIds hFunding _)
          (account_ofId hIds hCard _) hDistinct hPostings
  | @fxCardPayment entry sourceAmount feeAmount feeReference reference target source targetUnits
      sourceUnits feeUnits funding card sourceTrading targetTrading feeClearing category postings
      hSourceAmount hFeeAmount hFeeReference hReference hTarget hSource hTargetUnits hSourceUnits
      hFeeUnits hFunding hCard hSourceTrading hTargetTrading hFeeClearing hDistinct hCategory
      hPostings =>
      have hCross : entry.sourceAmount ≠ none := by
        rw [hSourceAmount]
        exact Option.some_ne_none _
      rw [references_fxCardPayment hCross (mixedPostings_facts hPostings), Except.ok.injEq]
        at hReferences
      subst hReferences
      obtain ⟨hOne, hAssets⟩ : entry.cardAccount.isSome ≠ entry.paymentInstrument.isSome
          ∧ sourceAmount.1.assetCode ≠ entry.amount.1.assetCode
          ∧ feeAmount.1.assetCode = sourceAmount.1.assetCode := by
        have hTarget :=
          (validatePaymentTarget_crossAsset hSourceAmount hFeeAmount hFeeReference).1 hEntry
        exact ⟨hTarget.1, hTarget.2.2⟩
      rw [hReference] at hOne
      refine ⟨by simp [EverydayEntry.categoryCount, hFeeReference], ?_, ?_⟩
      · have hStored : restoredCategory entry.feeCategory [category.categoryId]
            = some (.ofId category.categoryId) := by
          rw [hFeeReference]
          rfl
        refine (validatePaymentTarget_crossAsset ?_ ?_ hStored).2 ⟨hOne, ?_, hAssets⟩
        · exact hSourceAmount
        · exact hFeeAmount
        · exact fun h => hDistinct (ofId_injective (Option.some.inj h)).symm
      · exact .fxCardPayment hSourceAmount hFeeAmount (by rw [hFeeReference]; rfl) rfl hTarget
          hSource hTargetUnits hSourceUnits hFeeUnits (account_ofId hIds hFunding _)
          (account_ofId hIds hCard _) hSourceTrading hTargetTrading hFeeClearing hDistinct
          (category_ofId hIds hCategory _) hPostings
  | @refund entry asset assetCode original amount clearing allocations refunded hCode hAsset
      hOriginal hSame hAmount hUnits hClearing hAllocations hFinancial =>
      cases hReferences
      obtain ⟨hLimit, hPartial⟩ : entry.categoryAllocations.length ≤ 64
          ∧ (entry.categoryAllocations = [] ∨ entry.amount ≠ none) := by
        simpa only [EverydayEntry.validate, RefundEntryInput.validateRefundAllocations,
          checkAllocationCount, bind_eq_ok, require_eq_ok, exists_const] using hEntry
      have hCount : entry.categoryAllocations.length ≤ (categoryIdsOf allocations).length := by
        rw [categoryIdsOf, List.length_map]
        exact refundAllocations_length hAllocations
      refine ⟨hCount, ?_, ?_⟩
      · show RefundEntryInput.validateRefundAllocations _ = _
        simp only [RefundEntryInput.validateRefundAllocations, checkAllocationCount, bind_eq_ok,
          require_eq_ok, exists_const]
        refine ⟨(length_restored hCount).le.trans hLimit, hPartial.imp_left fun hNone => ?_⟩
        rw [hNone, restoredAllocations_nil]
      · exact .refund hCode hAsset hOriginal hSame hAmount hUnits hClearing
          (refundAllocations_restored hIds hAllocations rfl rfl) hFinancial
  | @adjustment entry asset actual account clearing current postings hAsset hActual hAccount
      hCurrent hDifferent hClearing hPostings =>
      have hMoves : EntryFinancial.Moves (.posted ⟨context.transactionId, .adjustment, none,
            postings, none, []⟩) asset.assetCode (actual.units - current : Int).natAbs
            account.accountId clearing.accountId
          ∨ EntryFinancial.Moves (.posted ⟨context.transactionId, .adjustment, none, postings,
            none, []⟩) asset.assetCode (actual.units - current : Int).natAbs clearing.accountId
            account.accountId := by
        split_ifs at hPostings
        · exact .inl (twoPostings_facts hPostings)
        · exact .inr (twoPostings_facts hPostings)
      rw [references_adjustment hIds.accounts (account_ok hAccount) (internal_ok hClearing) hMoves,
        Except.ok.injEq] at hReferences
      subst hReferences
      exact ⟨Nat.zero_le _, rfl, .adjustment hAsset hActual (account_ofId hIds hAccount _) hCurrent
        hDifferent hClearing hPostings⟩

end Restoring

/-! ## The payment instrument, once more -/

section Instruments

variable {ilike : String → String → Bool} {moment later : InstrumentMoment} {t : InstrumentTables}
  {reference : PaymentInstrumentRef} {assetCode : AssetCode} {occurredAt : Instant}
  {instrument : PaymentInstrumentRecord} {binding : PaymentInstrumentBindingRecord}

end Instruments

/-! ## A prepared entry is compiled again -/

section Recompiled

variable {u : UnicodeTables} {uuid5 : UUID → String → UUID} {ilike : String → String → Bool}
  {moment : InstrumentMoment} {t : InstrumentTables}
  {context later : EntryCompilationContext} {entry : EverydayEntry} {draft : EntryDraft}
  {plan : CompiledEntry} {resolved : ResolvedEntryReferences}

/-- A Book that is read again at a later position, for another command, and has the same rows. -/
structure SameBook (context later : EntryCompilationContext) : Prop where
  bookId : later.bookId = context.bookId
  transactionId : later.transactionId = context.transactionId
  assets : later.assets = context.assets
  accounts : later.accounts = context.accounts
  categories : later.categories = context.categories
  balance : later.currentBalanceUnits = context.currentBalanceUnits
  original : later.originalEntry = context.originalEntry

theorem SameBook.drafts (hSame : SameBook context later)
    (h : Drafts u uuid5 context entry draft) : Drafts u uuid5 later entry draft := by
  obtain ⟨bookId, commandId, transactionId, actor, position, assets, accounts, categories, balance,
    original⟩ := context
  obtain ⟨bookId', commandId', transactionId', actor', position', assets', accounts', categories',
    balance', original'⟩ := later
  obtain ⟨hBook, hTransaction, hAssets, hAccounts, hCategories, hBalance, hOriginal⟩ := hSame
  dsimp only at hBook hTransaction hAssets hAccounts hCategories hBalance hOriginal
  subst hBook hTransaction hAssets hAccounts hCategories hBalance hOriginal
  cases h with
  | expense hAsset hAmount hReference hSource hClearing hAllocations hPostings =>
      exact .expense hAsset hAmount hReference hSource hClearing hAllocations hPostings
  | income hAsset hAmount hDestination hClearing hAllocations hPostings =>
      exact .income hAsset hAmount hDestination hClearing hAllocations hPostings
  | transfer hAsset hAmount hSource hDestination hDistinct hPostings =>
      exact .transfer hAsset hAmount hSource hDestination hDistinct hPostings
  | cardPayment hSame hAsset hAmount hReference hFunding hCard hDistinct hPostings =>
      exact .cardPayment hSame hAsset hAmount hReference hFunding hCard hDistinct hPostings
  | fxCardPayment hSourceAmount hFeeAmount hFeeReference hReference hTarget hSource hTargetUnits
      hSourceUnits hFeeUnits hFunding hCard hSourceTrading hTargetTrading hFeeClearing hDistinct
      hCategory hPostings =>
      exact .fxCardPayment hSourceAmount hFeeAmount hFeeReference hReference hTarget hSource
        hTargetUnits hSourceUnits hFeeUnits hFunding hCard hSourceTrading hTargetTrading
        hFeeClearing hDistinct hCategory hPostings
  | refund hCode hAsset hOriginal hSame hAmount hUnits hClearing hAllocations hFinancial =>
      exact .refund hCode hAsset hOriginal hSame hAmount hUnits hClearing hAllocations hFinancial
  | adjustment hAsset hActual hAccount hCurrent hDifferent hClearing hPostings =>
      exact .adjustment hAsset hActual hAccount hCurrent hDifferent hClearing hPostings

end Recompiled

section Main

variable {u : UnicodeTables} {uuid5 : UUID → String → UUID} {ilike : String → String → Bool}
  {moment laterMoment : InstrumentMoment} {t : InstrumentTables}
  {context later : EntryCompilationContext} {entry input : EverydayEntry} {draft : EntryDraft}
  {instrument : Option InstrumentResolution} {payload : PreparedPayload}

/-- An id resolves to an account with that id. -/
theorem accountId_ofId {accountId : UUID} {assetCode : AssetCode} {use : AccountUse}
    {field : String} {account : EntryAccount}
    (h : context.account u (.ofId accountId) assetCode use field = .ok account) :
    account.accountId = accountId := by
  unfold EntryCompilationContext.account at h
  obtain ⟨resolution, hResolution, h⟩ := bind_eq_ok.1 h
  simp only [resolveAccount, AccountRef.ofId, AccountRefFields.byId, bind_eq_ok, require_eq_ok,
    fetch_eq_ok, pure_eq_ok] at hResolution
  obtain ⟨-, -, found, hFound, -, -, rfl⟩ := hResolution
  cases pure_eq_ok.1 h
  have hId := List.find?_some hFound
  simp only [decide_eq_true_eq] at hId
  exact hId.2

/-- A card that is paid is not the account that pays. -/
theorem Drafts.card_ne_funding {payment : CreditCardPaymentEntryInput} {accountId : UUID}
    (hCard : payment.cardAccount = some (.ofId accountId))
    (h : Drafts u uuid5 context (.creditCardPayment payment) draft) :
    payment.cardAccount ≠ some payment.fundingAccount := by
  intro hSame
  rw [hCard, Option.some.injEq] at hSame
  cases h with
  | cardPayment _ _ _ hReference hFunding hFound hDistinct _ =>
      rw [hCard, Option.some.injEq] at hReference
      rw [← hReference] at hFound
      rw [← hSame] at hFunding
      exact hDistinct ((accountId_ofId hFunding).trans (accountId_ofId hFound).symm)
  | fxCardPayment _ _ _ hReference _ _ _ _ _ hFunding hFound _ _ _ hDistinct _ _ =>
      rw [hCard, Option.some.injEq] at hReference
      rw [← hReference] at hFound
      rw [← hSame] at hFunding
      exact hDistinct ((accountId_ofId hFunding).trans (accountId_ofId hFound).symm)

/-- An entry whose instrument was resolved is valid, where it compiles. -/
theorem validate_resolved (hInput : input.validate = .ok ())
    (hSource : resolvePaymentInstrumentSource ilike moment t input = .ok (entry, instrument))
    (hDrafts : Drafts u uuid5 context entry draft) : entry.validate = .ok () := by
  unfold resolvePaymentInstrumentSource at hSource
  split at hSource
  · cases hSource
    exact hInput
  · next reference assetCode hReference =>
      obtain ⟨found, -, hSource⟩ := bind_eq_ok.1 hSource
      obtain ⟨_, -, hSource⟩ := bind_eq_ok.1 hSource
      cases pure_eq_ok.1 hSource
      cases input with
      | expense e =>
          obtain ⟨_, hShape, -⟩ := bind_eq_ok.1 hInput
          exact bind_eq_ok.2 ⟨(), hShape, require_eq_ok.2 (by simp)⟩
      | creditCardPayment e =>
          obtain ⟨_, -, hRest⟩ := bind_eq_ok.1 hInput
          obtain ⟨_, -, hAmounts⟩ := bind_eq_ok.1 hRest
          exact bind_eq_ok.2 ⟨(), require_eq_ok.2 (by simp),
            bind_eq_ok.2 ⟨(), require_eq_ok.2 (hDrafts.card_ne_funding rfl), hAmounts⟩⟩
      | _ => exact hInput

end Main

/-! ### A sample commit -/

def sampleMoment : InstrumentMoment := ⟨"user", true, [], ⟨sampleDate, 0⟩⟩

end TrackAnywhere.Ports
