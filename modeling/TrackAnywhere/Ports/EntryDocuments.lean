import TrackAnywhere.Ports.EntryResolution

/-!
# Documents of an entry

An entry is stored as its dump.  The texts that its amounts were read from are
private: `removeSourceText` takes them out of the document, `collectAmountSources`
lists them by the paths of their amounts, and `restoreEntry` puts them back and
validates the document as an entry.

A document is the dump of an entry after its enumerations, ids and times are read;
a key that is absent is `none`, and a key that is null is `some none`.
-/

namespace TrackAnywhere.Ports

open TrackAnywhere.Verified
open TrackAnywhere.Verified.Checked

/-! ## Documents -/

/-- The dump of an amount. -/
structure AmountDocument where
  value : String
  denomination : MoneyDenomination
  assetCode : AssetCode
  sourceText : Option String
deriving DecidableEq

structure AllocationDocument where
  category : CategoryRefFields
  amount : AmountDocument
deriving DecidableEq

/-- The dump of an entry. -/
structure EntryDocument where
  kind : EntryKind
  occurredAt : AwareDatetime
  narrative : Option (NarrativeFields AmountDocument)
  amount : Option (Option AmountDocument) := none
  actualBalance : Option (Option AmountDocument) := none
  sourceAmount : Option (Option AmountDocument) := none
  feeAmount : Option (Option AmountDocument) := none
  category : Option (Option CategoryRefFields) := none
  feeCategory : Option (Option CategoryRefFields) := none
  categoryAllocations : Option (List AllocationDocument) := none
  sourceAccount : Option (Option AccountRefFields) := none
  destinationAccount : Option (Option AccountRefFields) := none
  fundingAccount : Option (Option AccountRefFields) := none
  cardAccount : Option (Option AccountRefFields) := none
  account : Option (Option AccountRefFields) := none
  paymentInstrument : Option (Option PaymentInstrumentRefFields) := none
  originalTransactionId : Option UUID := none
deriving DecidableEq

def AmountFields.dump (self : AmountFields) : AmountDocument :=
  ⟨self.value, self.denomination, self.assetCode, some self.sourceText⟩

def CategoryAllocationInput.dump (self : CategoryAllocationInput) : AllocationDocument :=
  ⟨self.category.1, self.amount.1.dump⟩

def NarrativeFields.dump (self : NarrativeFields MoneyInput) : NarrativeFields AmountDocument :=
  ⟨self.merchant, self.channel, self.note, self.externalReference,
    self.grossAmount.map (·.1.dump), self.discountAmount.map (·.1.dump)⟩

/-- `model_dump` -/
def EverydayEntry.dump (entry : EverydayEntry) : EntryDocument :=
  let document : EntryDocument :=
    { kind := entry.kind
      occurredAt := entry.occurredAt
      narrative := entry.timed.narrative.map (·.1.dump) }
  match entry with
  | .expense e =>
      { document with
        amount := some (some e.amount.1.dump)
        category := some (e.category.map (·.1))
        categoryAllocations := some (e.categoryAllocations.map (·.dump))
        sourceAccount := some (e.sourceAccount.map (·.1))
        paymentInstrument := some (e.paymentInstrument.map (·.1)) }
  | .income e =>
      { document with
        amount := some (some e.amount.1.dump)
        category := some (e.category.map (·.1))
        categoryAllocations := some (e.categoryAllocations.map (·.dump))
        destinationAccount := some (some e.destinationAccount.1) }
  | .transfer e =>
      { document with
        amount := some (some e.amount.1.dump)
        sourceAccount := some (some e.sourceAccount.1)
        destinationAccount := some (some e.destinationAccount.1) }
  | .creditCardPayment e =>
      { document with
        amount := some (some e.amount.1.dump)
        fundingAccount := some (some e.fundingAccount.1)
        cardAccount := some (e.cardAccount.map (·.1))
        paymentInstrument := some (e.paymentInstrument.map (·.1))
        sourceAmount := some (e.sourceAmount.map (·.1.dump))
        feeAmount := some (e.feeAmount.map (·.1.dump))
        feeCategory := some (e.feeCategory.map (·.1)) }
  | .refund e =>
      { document with
        originalTransactionId := some e.originalTransactionId
        amount := some (e.amount.map (·.1.dump))
        categoryAllocations := some (e.categoryAllocations.map (·.dump)) }
  | .adjustment e =>
      { document with
        account := some (some e.account.1)
        actualBalance := some (some e.actualBalance.1.dump) }

/-! ## Amounts by their paths -/

/-- A private text, and the path of the amount that it was read from. -/
structure NarrativeAmountSource where
  fieldPath : String
  sourceText : String
deriving DecidableEq

def allocationPath (index : Nat) : String :=
  "category_allocations." ++ toString index ++ ".amount"

namespace EntryDocument

/-- The amount of a key, under its path. -/
def target (path : String) (amount : Option AmountDocument) : List (String × AmountDocument) :=
  (amount.map fun a => (path, a)).toList

/-- `_amount_source_targets` -/
def amountSourceTargets (self : EntryDocument) : List (String × AmountDocument) :=
  target "amount" self.amount.join ++ target "actual_balance" self.actualBalance.join
    ++ target "source_amount" self.sourceAmount.join ++ target "fee_amount" self.feeAmount.join
    ++ (self.categoryAllocations.getD []).zipIdx.map
      (fun (allocation, index) => (allocationPath index, allocation.amount))
    ++ target "narrative.gross_amount" (self.narrative.bind (·.grossAmount))
    ++ target "narrative.discount_amount" (self.narrative.bind (·.discountAmount))

/-- Every amount of a document, changed where it stands. -/
def mapAmounts (f : String → AmountDocument → AmountDocument) (self : EntryDocument) :
    EntryDocument :=
  { self with
    amount := self.amount.map (·.map (f "amount"))
    actualBalance := self.actualBalance.map (·.map (f "actual_balance"))
    sourceAmount := self.sourceAmount.map (·.map (f "source_amount"))
    feeAmount := self.feeAmount.map (·.map (f "fee_amount"))
    categoryAllocations := self.categoryAllocations.map fun allocations =>
      allocations.zipIdx.map fun (allocation, index) =>
        { allocation with amount := f (allocationPath index) allocation.amount }
    narrative := self.narrative.map fun narrative =>
      { narrative with
        grossAmount := narrative.grossAmount.map (f "narrative.gross_amount")
        discountAmount := narrative.discountAmount.map (f "narrative.discount_amount") } }

/-- `_retain_safe_narrative_amounts` -/
def retainSafeNarrativeAmounts (self : EntryDocument) : EntryDocument :=
  { self with
    narrative := self.narrative.bind fun narrative =>
      if narrative.grossAmount = none ∧ narrative.discountAmount = none then none
      else some ⟨none, none, none, none, narrative.grossAmount, narrative.discountAmount⟩ }

/-- `_remove_source_text` -/
def removeSourceText (self : EntryDocument) : EntryDocument :=
  self.mapAmounts fun _ amount => { amount with sourceText := none }

end EntryDocument

/-- `_collect_amount_sources` -/
def collectAmountSources (entry : EverydayEntry) : List NarrativeAmountSource :=
  let append (fieldPath : String) (amount : Option AmountFields) :=
    (amount.map fun a => NarrativeAmountSource.mk fieldPath a.sourceText).toList
  let allocated (allocations : List CategoryAllocationInput) :=
    allocations.zipIdx.map fun (allocation, index) =>
      NarrativeAmountSource.mk (allocationPath index) allocation.amount.1.sourceText
  (match entry with
    | .adjustment e => append "actual_balance" (some e.actualBalance.1)
    | .expense e => append "amount" (some e.amount.1)
    | .income e => append "amount" (some e.amount.1)
    | .transfer e => append "amount" (some e.amount.1)
    | .creditCardPayment e =>
        append "amount" (some e.amount.1) ++ append "source_amount" (e.sourceAmount.map (·.1))
          ++ append "fee_amount" (e.feeAmount.map (·.1))
    | .refund e => append "amount" (e.amount.map (·.1)))
  ++ (match entry with
    | .expense e => allocated e.categoryAllocations
    | .income e => allocated e.categoryAllocations
    | .refund e => allocated e.categoryAllocations
    | _ => [])
  ++ append "narrative.gross_amount" (entry.timed.narrative.bind (·.1.grossAmount.map (·.1)))
  ++ append "narrative.discount_amount"
    (entry.timed.narrative.bind (·.1.discountAmount.map (·.1)))

/-! ## What is restored -/

/-- `_restore_amount_sources` -/
def restoreAmountSources (document : EntryDocument) (sources : List NarrativeAmountSource) :
    Except EntryError EntryDocument := do
  let paths := sources.map (·.fieldPath)
  require (paths.Nodup ∧ paths.toFinset = (document.amountSourceTargets.map (·.1)).toFinset)
    (.gateway .intentStale "prepared amount sources do not match the entry shape" none)
  require (∀ target ∈ document.amountSourceTargets, target.2.sourceText = none)
    (.gateway .intentStale "the prepared entry payload is invalid" none)
  return document.mapAmounts fun path amount =>
    { amount with
      sourceText := (sources.find? fun source => source.fieldPath = path).map (·.sourceText) }

namespace AmountDocument

/-- The fields of an amount that has its text. -/
def fields (self : AmountDocument) : Except String AmountFields := do
  let sourceText ← fetch self.sourceText "Field required"
  return ⟨self.value, self.denomination, self.assetCode, sourceText⟩

def money (self : AmountDocument) : Except String MoneyInput := do
  let fields ← self.fields
  parse AmountFields.validateMoney fields

def balance (self : AmountDocument) : Except String BalanceInput := do
  let fields ← self.fields
  parse AmountFields.validateBalance fields

end AmountDocument

def AllocationDocument.allocation (self : AllocationDocument) :
    Except String CategoryAllocationInput := do
  let category ← parse CategoryRefFields.validate self.category
  let amount ← self.amount.money
  return ⟨category, amount⟩

/-- The value of a key that may be absent or null. -/
def optional {α β : Type} (read : α → Except String β) (key : Option (Option α)) :
    Except String (Option β) :=
  match key.join with
  | some value => do
      let value ← read value
      return some value
  | none => .ok none

/-- The value of a key that must be there. -/
def required {α β : Type} (read : α → Except String β) (key : Option (Option α)) :
    Except String β := do
  let value ← fetch key.join "Field required"
  read value

namespace EntryDocument

def readNarrative (self : EntryDocument) : Except String (Option EntryNarrativeInput) :=
  optional (fun narrative => do
    let gross ← optional AmountDocument.money (some narrative.grossAmount)
    let discount ← optional AmountDocument.money (some narrative.discountAmount)
    parse NarrativeFields.validate ⟨narrative.merchant, narrative.channel, narrative.note,
      narrative.externalReference, gross, discount⟩) (some self.narrative)

def readAllocations (self : EntryDocument) : Except String (List CategoryAllocationInput) :=
  (self.categoryAllocations.getD []).mapM (·.allocation)

/-- The keys of the document, as far as one kind does not have them. -/
def keys (self : EntryDocument) : List String :=
  [("amount", self.amount.isSome), ("actual_balance", self.actualBalance.isSome),
    ("source_amount", self.sourceAmount.isSome), ("fee_amount", self.feeAmount.isSome),
    ("category", self.category.isSome), ("fee_category", self.feeCategory.isSome),
    ("category_allocations", self.categoryAllocations.isSome),
    ("source_account", self.sourceAccount.isSome),
    ("destination_account", self.destinationAccount.isSome),
    ("funding_account", self.fundingAccount.isSome), ("card_account", self.cardAccount.isSome),
    ("account", self.account.isSome), ("payment_instrument", self.paymentInstrument.isSome),
    ("original_transaction_id", self.originalTransactionId.isSome)].filterMap fun key =>
      if key.2 then some key.1 else none

/-- The fields of the kind of the document; each kind forbids the keys of the others. -/
def readFields (self : EntryDocument) : Except String EverydayEntry := do
  let narrative ← self.readNarrative
  let timed : TimedEntryInput := ⟨self.occurredAt, narrative⟩
  match self.kind with
  | .expense => do
      require (∀ key ∈ self.keys, key ∈ ["amount", "category", "category_allocations",
        "source_account", "payment_instrument"]) "Extra inputs are not permitted"
      let amount ← required AmountDocument.money self.amount
      let category ← optional (parse CategoryRefFields.validate) self.category
      let allocations ← self.readAllocations
      let source ← optional (parse AccountRefFields.validate) self.sourceAccount
      let instrument ← optional (parse PaymentInstrumentRefFields.validate) self.paymentInstrument
      return .expense ⟨⟨timed, amount, category, allocations⟩, source, instrument⟩
  | .income => do
      require (∀ key ∈ self.keys, key ∈ ["amount", "category", "category_allocations",
        "destination_account"]) "Extra inputs are not permitted"
      let amount ← required AmountDocument.money self.amount
      let category ← optional (parse CategoryRefFields.validate) self.category
      let allocations ← self.readAllocations
      let destination ← required (parse AccountRefFields.validate) self.destinationAccount
      return .income ⟨⟨timed, amount, category, allocations⟩, destination⟩
  | .transfer => do
      require (∀ key ∈ self.keys, key ∈ ["amount", "source_account", "destination_account"])
        "Extra inputs are not permitted"
      let amount ← required AmountDocument.money self.amount
      let source ← required (parse AccountRefFields.validate) self.sourceAccount
      let destination ← required (parse AccountRefFields.validate) self.destinationAccount
      return .transfer ⟨timed, amount, source, destination⟩
  | .creditCardPayment => do
      require (∀ key ∈ self.keys, key ∈ ["amount", "funding_account", "card_account",
        "payment_instrument", "source_amount", "fee_amount", "fee_category"])
        "Extra inputs are not permitted"
      let amount ← required AmountDocument.money self.amount
      let funding ← required (parse AccountRefFields.validate) self.fundingAccount
      let card ← optional (parse AccountRefFields.validate) self.cardAccount
      let instrument ← optional (parse PaymentInstrumentRefFields.validate) self.paymentInstrument
      let source ← optional AmountDocument.money self.sourceAmount
      let fee ← optional AmountDocument.money self.feeAmount
      let feeCategory ← optional (parse CategoryRefFields.validate) self.feeCategory
      return .creditCardPayment ⟨timed, amount, funding, card, instrument, source, fee, feeCategory⟩
  | .refund => do
      require (∀ key ∈ self.keys, key ∈ ["original_transaction_id", "amount",
        "category_allocations"]) "Extra inputs are not permitted"
      let original ← fetch self.originalTransactionId "Field required"
      let amount ← optional AmountDocument.money self.amount
      let allocations ← self.readAllocations
      return .refund ⟨timed, original, amount, allocations⟩
  | .adjustment => do
      require (∀ key ∈ self.keys, key ∈ ["account", "actual_balance"])
        "Extra inputs are not permitted"
      let account ← required (parse AccountRefFields.validate) self.account
      let actual ← required AmountDocument.balance self.actualBalance
      return .adjustment ⟨timed, account, actual⟩

/-- `TypeAdapter(EverydayEntryInput).validate_python` -/
def validateEntry (self : EntryDocument) : Except String EverydayEntry := do
  let entry ← self.readFields
  entry.validate
  return entry

end EntryDocument

/-- `restore_entry` -/
def restoreEntry (document : EntryDocument) (sources : List NarrativeAmountSource) :
    Except EntryError EverydayEntry := do
  let document ← restoreAmountSources document sources
  document.validateEntry.mapError fun _ =>
    .gateway .intentStale "the prepared entry payload is invalid" none

/-! ## The texts are put back -/

section Amounts

variable {document : EntryDocument}

/-- The texts of a document, by the paths of its amounts. -/
def EntryDocument.amountSources (self : EntryDocument) : List NarrativeAmountSource :=
  self.amountSourceTargets.filterMap fun target =>
    target.2.sourceText.map (NarrativeAmountSource.mk target.1)

theorem zipIdx_map_zipIdx {α β : Type} (f : α × Nat → β) (items : List α) :
    (items.zipIdx.map f).zipIdx = items.zipIdx.map fun item => (f item, item.2) := by
  refine List.ext_getElem (by simp) fun index _ _ => ?_
  simp

theorem target_map (path : String) (f : AmountDocument → AmountDocument)
    (amount : Option AmountDocument) :
    EntryDocument.target path (amount.map f)
      = (EntryDocument.target path amount).map fun target => (target.1, f target.2) := by
  cases amount <;> rfl

theorem target_fst (path : String) (f : String → AmountDocument → AmountDocument)
    (amount : Option AmountDocument) :
    ((EntryDocument.target path amount).map fun target => (target.1, f path target.2))
      = (EntryDocument.target path amount).map fun target => (target.1, f target.1 target.2) := by
  cases amount <;> rfl

/-- The amounts of a changed document are the changed amounts, under the same paths. -/
theorem amountSourceTargets_mapAmounts (f : String → AmountDocument → AmountDocument) :
    (document.mapAmounts f).amountSourceTargets
      = document.amountSourceTargets.map fun target => (target.1, f target.1 target.2) := by
  have hAllocations : ∀ allocations : Option (List AllocationDocument),
      ((allocations.map fun items => items.zipIdx.map fun (allocation, index) =>
          { allocation with amount := f (allocationPath index) allocation.amount }).getD []
        ).zipIdx.map (fun (allocation, index) => (allocationPath index, allocation.amount))
      = ((allocations.getD []).zipIdx.map fun (allocation, index) =>
          (allocationPath index, allocation.amount)).map
            fun target => (target.1, f target.1 target.2) := by
    intro allocations
    cases allocations with
    | none => rfl
    | some items =>
        simp only [Option.map_some, Option.getD_some, zipIdx_map_zipIdx, List.map_map]
        rfl
  have hNarrative : ∀ (path : String)
      (part : NarrativeFields AmountDocument → Option AmountDocument)
      (change : NarrativeFields AmountDocument → NarrativeFields AmountDocument),
      (∀ narrative, part (change narrative) = (part narrative).map (f path)) →
        ((document.narrative.map change).bind part)
          = (document.narrative.bind part).map (f path) := by
    intro path part change hPart
    cases document.narrative with
    | none => rfl
    | some narrative => exact hPart narrative
  unfold EntryDocument.amountSourceTargets
  simp only [EntryDocument.mapAmounts, Option.join_map_eq_map_join, List.map_append, hAllocations]
  rw [hNarrative "narrative.gross_amount" (·.grossAmount) _ fun _ => rfl,
    hNarrative "narrative.discount_amount" (·.discountAmount) _ fun _ => rfl]
  simp only [target_map, target_fst]

theorem mapAmounts_mapAmounts (f g : String → AmountDocument → AmountDocument) :
    (document.mapAmounts f).mapAmounts g
      = document.mapAmounts fun path amount => g path (f path amount) := by
  have hKey : ∀ (path : String) (key : Option (Option AmountDocument)),
      (key.map (·.map (f path))).map (·.map (g path))
        = key.map (·.map fun amount => g path (f path amount)) := by
    intro path key
    rcases key with _ | _ | amount <;> rfl
  have hItems : ∀ items : List AllocationDocument,
      ((items.zipIdx.map fun (allocation, index) =>
          { allocation with amount := f (allocationPath index) allocation.amount }).zipIdx.map
        fun (allocation, index) =>
          { allocation with amount := g (allocationPath index) allocation.amount })
      = items.zipIdx.map fun (allocation, index) => { allocation with
          amount := g (allocationPath index) (f (allocationPath index) allocation.amount) } := by
    intro items
    rw [zipIdx_map_zipIdx, List.map_map]
    rfl
  simp only [EntryDocument.mapAmounts, hKey, Option.map_map, EntryDocument.mk.injEq, true_and,
    and_true]
  refine ⟨?_, ?_⟩
  · cases document.narrative with
    | none => rfl
    | some narrative =>
        simp only [Option.map_some, Function.comp_apply, Option.map_map]
        rfl
  · cases document.categoryAllocations with
    | none => rfl
    | some items => exact congrArg some (hItems items)

/-- A change that leaves every amount leaves the document. -/
theorem mapAmounts_eq_self {f : String → AmountDocument → AmountDocument}
    (h : ∀ target ∈ document.amountSourceTargets, f target.1 target.2 = target.2) :
    document.mapAmounts f = document := by
  have hKey : ∀ {path : String} {key : Option (Option AmountDocument)},
      (∀ target ∈ EntryDocument.target path key.join, f target.1 target.2 = target.2) →
        key.map (·.map (f path)) = key := by
    intro path key hKey
    rcases key with _ | _ | amount
    · rfl
    · rfl
    · rw [Option.map_some, Option.map_some]
      exact congrArg (fun a => some (some a)) (hKey (path, amount) (List.mem_singleton_self _))
  have hPart : ∀ {path : String} {part : Option AmountDocument},
      (∀ target ∈ EntryDocument.target path part, f target.1 target.2 = target.2) →
        part.map (f path) = part := by
    intro path part hPart
    rcases part with _ | amount
    · rfl
    · exact congrArg some (hPart (path, amount) (List.mem_singleton_self _))
  simp only [EntryDocument.amountSourceTargets, List.mem_append, or_imp, forall_and] at h
  obtain ⟨⟨⟨⟨⟨⟨hAmount, hActual⟩, hSource⟩, hFee⟩, hAllocations⟩, hGross⟩, hDiscount⟩ := h
  obtain ⟨kind, occurredAt, narrative, amount, actual, source, fee, category, feeCategory,
    allocations⟩ := document
  simp only [EntryDocument.mapAmounts, EntryDocument.mk.injEq, true_and, and_true]
  refine ⟨?_, hKey hAmount, hKey hActual, hKey hSource, hKey hFee, ?_⟩
  · cases narrative with
    | none => rfl
    | some narrative =>
        obtain ⟨merchant, channel, note, external, gross, discount⟩ := narrative
        simp only [Option.map_some, Option.some.injEq, NarrativeFields.mk.injEq, true_and]
        exact ⟨hPart hGross, hPart hDiscount⟩
  · cases allocations with
    | none => rfl
    | some items =>
        rw [Option.map_some, Option.some.injEq]
        refine List.ext_getElem (by simp) fun index hLeft hRight => ?_
        have hItem := hAllocations (allocationPath index, items[index].amount)
          (List.mem_map.2 ⟨(items[index], index),
            List.mem_zipIdx_iff_getElem?.2 (List.getElem?_eq_getElem hRight), rfl⟩)
        simp only [List.getElem_map, List.getElem_zipIdx, zero_add]
        rw [hItem]

theorem allocationPath_injective : Function.Injective allocationPath := by
  intro i j h
  have hText := congrArg String.toList h
  unfold allocationPath at hText
  rw [String.toList_append, String.toList_append, String.toList_append, String.toList_append]
    at hText
  have hIndex := List.append_cancel_left (List.append_cancel_right hText)
  exact Nat.repr_injective (String.toList_injective hIndex)

/-- No other path begins as the paths of the allocations do. -/
theorem allocationPath_ne {path : String} (h : path.toList.head? ≠ some 'c') (index : Nat) :
    allocationPath index ≠ path := by
  rintro rfl
  refine h ?_
  unfold allocationPath
  rw [String.toList_append, String.toList_append, List.append_assoc]
  rfl

theorem target_sublist (path : String) (amount : Option AmountDocument) :
    ((EntryDocument.target path amount).map (·.1)).Sublist [path] := by
  cases amount with
  | none => exact List.nil_sublist _
  | some amount => exact List.Sublist.refl _

theorem amountPaths_nodup : (document.amountSourceTargets.map (·.1)).Nodup := by
  have hAllocations : ((document.categoryAllocations.getD []).zipIdx.map
      (fun (allocation, index) => (allocationPath index, allocation.amount))).map (·.1)
      = (List.range (document.categoryAllocations.getD []).length).map allocationPath := by
    rw [List.range_eq_range', ← List.zipIdx_map_snd 0, List.map_map, List.map_map]
    rfl
  have hFixed : (["amount"] ++ ["actual_balance"] ++ ["source_amount"] ++ ["fee_amount"]
      ++ (["narrative.gross_amount"] ++ ["narrative.discount_amount"])).Nodup := by decide
  have hApart : ∀ path ∈ ["amount"] ++ ["actual_balance"] ++ ["source_amount"] ++ ["fee_amount"]
      ++ (["narrative.gross_amount"] ++ ["narrative.discount_amount"]),
      path.toList.head? ≠ some 'c' := by decide
  have hPaths : (["amount"] ++ ["actual_balance"] ++ ["source_amount"] ++ ["fee_amount"]
      ++ (List.range (document.categoryAllocations.getD []).length).map allocationPath
      ++ ["narrative.gross_amount"] ++ ["narrative.discount_amount"]).Nodup := by
    rw [List.append_assoc, List.append_assoc, (List.perm_append_comm.append_left _).nodup_iff,
      ← List.append_assoc]
    refine List.nodup_append.2 ⟨hFixed, List.nodup_range.map allocationPath_injective, ?_⟩
    rintro path hPath _ hMem rfl
    obtain ⟨index, -, hIndex⟩ := List.mem_map.1 hMem
    exact allocationPath_ne (hApart path hPath) index hIndex
  refine hPaths.sublist ?_
  unfold EntryDocument.amountSourceTargets
  simp only [List.map_append]
  rw [hAllocations]
  exact (((((((target_sublist _ _).append (target_sublist _ _)).append
    (target_sublist _ _)).append (target_sublist _ _)).append (List.Sublist.refl _)).append
    (target_sublist _ _)).append (target_sublist _ _))

end Amounts

section Sources

variable {document : EntryDocument}

theorem fieldPath_amountSources
    (hTexts : ∀ target ∈ document.amountSourceTargets, target.2.sourceText ≠ none) :
    document.amountSources.map (·.fieldPath) = document.amountSourceTargets.map (·.1) := by
  unfold EntryDocument.amountSources
  revert hTexts
  induction document.amountSourceTargets with
  | nil => exact fun _ => rfl
  | cons target targets ih =>
      intro hTexts
      obtain ⟨text, hText⟩ := Option.ne_none_iff_exists'.1 (hTexts target List.mem_cons_self)
      rw [List.filterMap_cons, hText]
      exact congrArg (target.1 :: ·) (ih fun other hOther =>
        hTexts other (List.mem_cons_of_mem _ hOther))

/-- The texts that were taken out are put back where they stood. -/
theorem restoreAmountSources_removed
    (hTexts : ∀ target ∈ document.amountSourceTargets, target.2.sourceText ≠ none) :
    restoreAmountSources document.removeSourceText document.amountSources = .ok document := by
  have hPaths := fieldPath_amountSources hTexts
  have hTargets : document.removeSourceText.amountSourceTargets
      = document.amountSourceTargets.map fun target =>
        (target.1, { target.2 with sourceText := none }) :=
    amountSourceTargets_mapAmounts _
  have hKeys : document.removeSourceText.amountSourceTargets.map (·.1)
      = document.amountSourceTargets.map (·.1) := by
    rw [hTargets, List.map_map]
    rfl
  have hText : ∀ target ∈ document.amountSourceTargets,
      (document.amountSources.find? fun source => source.fieldPath = target.1).map
        (·.sourceText) = target.2.sourceText := by
    intro target hTarget
    obtain ⟨text, hSome⟩ := Option.ne_none_iff_exists'.1 (hTexts target hTarget)
    have hSource : NarrativeAmountSource.mk target.1 text ∈ document.amountSources :=
      List.mem_filterMap.2 ⟨target, hTarget, by rw [hSome]; rfl⟩
    rw [find?_only hSource (decide_eq_true rfl) fun other hOther hSame =>
      List.inj_on_of_nodup_map (hPaths ▸ amountPaths_nodup) hOther hSource
        (of_decide_eq_true hSame), hSome]
    rfl
  unfold restoreAmountSources
  simp only [bind_eq_ok, require_eq_ok, pure_eq_ok, exists_const]
  refine ⟨⟨hPaths ▸ amountPaths_nodup, by rw [hPaths, hKeys]⟩, ?_, ?_⟩
  · rw [hTargets]
    intro target hMem
    obtain ⟨stated, -, rfl⟩ := List.mem_map.1 hMem
    rfl
  · rw [EntryDocument.removeSourceText, mapAmounts_mapAmounts]
    refine mapAmounts_eq_self fun target hTarget => ?_
    rw [hText target hTarget]

end Sources

/-! ## The texts of an entry -/

section Dumps

/-- The texts of a list of amounts. -/
def textsOf (targets : List (String × AmountDocument)) : List NarrativeAmountSource :=
  targets.filterMap fun target => target.2.sourceText.map (NarrativeAmountSource.mk target.1)

theorem textsOf_target (path : String) (amount : Option AmountFields) :
    textsOf (EntryDocument.target path (amount.map (·.dump)))
      = (amount.map fun a => NarrativeAmountSource.mk path a.sourceText).toList := by
  cases amount <;> rfl

theorem textsOf_allocations (allocations : List CategoryAllocationInput) :
    textsOf ((allocations.map (·.dump)).zipIdx.map fun (allocation, index) =>
        (allocationPath index, allocation.amount))
      = allocations.zipIdx.map fun (allocation, index) =>
        NarrativeAmountSource.mk (allocationPath index) allocation.amount.1.sourceText := by
  rw [List.zipIdx_map, List.map_map, textsOf, List.filterMap_map]
  exact List.filterMap_eq_map (f := fun item : CategoryAllocationInput × Nat =>
    NarrativeAmountSource.mk (allocationPath item.2) item.1.amount.1.sourceText) ▸ rfl

theorem textsOf_append (first second : List (String × AmountDocument)) :
    textsOf (first ++ second) = textsOf first ++ textsOf second :=
  List.filterMap_append

/-- The amount of a narrative, as its dump has it. -/
theorem narrative_amount (narrative : Option EntryNarrativeInput)
    (part : NarrativeFields MoneyInput → Option MoneyInput)
    (partDump : NarrativeFields AmountDocument → Option AmountDocument)
    (hPart : ∀ fields : NarrativeFields MoneyInput,
      partDump fields.dump = (part fields).map (·.1.dump)) :
    (narrative.map (·.1.dump)).bind partDump
      = (narrative.bind fun fields => (part fields.1).map (·.1)).map (·.dump) := by
  cases narrative with
  | none => rfl
  | some fields =>
      rw [Option.map_some, Option.bind_some, Option.bind_some, hPart, Option.map_map]
      rfl

/-- The texts that are collected of an entry are those of its dump. -/
theorem amountSources_dump (entry : EverydayEntry) :
    entry.dump.amountSources = collectAmountSources entry := by
  have hGross := narrative_amount entry.timed.narrative (·.grossAmount) (·.grossAmount)
    fun _ => rfl
  have hDiscount := narrative_amount entry.timed.narrative (·.discountAmount) (·.discountAmount)
    fun _ => rfl
  have hAmount : ∀ (path : String) (amount : Option MoneyInput),
      textsOf (EntryDocument.target path (amount.map (·.1.dump)))
        = ((amount.map (·.1)).map fun a => NarrativeAmountSource.mk path a.sourceText).toList := by
    intro path amount
    cases amount <;> rfl
  change textsOf _ = _
  have hNone : ∀ path : String, textsOf (EntryDocument.target path none) = [] := fun _ => rfl
  have hOne : ∀ (path : String) (amount : AmountFields),
      textsOf (EntryDocument.target path (some amount.dump))
        = [NarrativeAmountSource.mk path amount.sourceText] := fun _ _ => rfl
  cases entry <;>
    simp only [EverydayEntry.dump, EntryDocument.amountSourceTargets, textsOf_append, hGross,
      hDiscount, textsOf_target, Option.join_some, Option.join_none, Option.getD_some,
      Option.getD_none, textsOf_allocations, hAmount, hNone, hOne, collectAmountSources,
      Option.map_some, Option.toList_some, List.zipIdx_nil, List.map_nil, List.append_nil,
      List.nil_append]

/-- Every amount of a dump has its text. -/
theorem sourceText_dump (entry : EverydayEntry) :
    ∀ target ∈ entry.dump.amountSourceTargets, target.2.sourceText ≠ none := by
  have hTarget : ∀ {path : String} {amount : Option AmountDocument},
      (∃ fields : Option AmountFields, amount = fields.map (·.dump)) →
        ∀ target ∈ EntryDocument.target path amount, target.2.sourceText ≠ none := by
    rintro path _ ⟨_ | fields, rfl⟩ target hMem
    · exact absurd hMem List.not_mem_nil
    · rw [List.mem_singleton.1 hMem]
      exact Option.some_ne_none _
  have hKey : ∀ amount : Option MoneyInput, ∃ fields : Option AmountFields,
      (some (amount.map (·.1.dump))).join = fields.map (·.dump) := by
    rintro (_ | amount)
    · exact ⟨none, rfl⟩
    · exact ⟨some amount.1, rfl⟩
  have hOne : ∀ fields : AmountFields, ∃ found : Option AmountFields,
      (some (some fields.dump)).join = found.map (·.dump) := fun fields => ⟨some fields, rfl⟩
  have hNone : ∃ found : Option AmountFields,
      (none : Option (Option AmountDocument)).join = found.map (·.dump) := ⟨none, rfl⟩
  have hAllocations : ∀ allocations : List CategoryAllocationInput,
      ∀ target ∈ (allocations.map (·.dump)).zipIdx.map (fun (allocation, index) =>
        (allocationPath index, allocation.amount)), target.2.sourceText ≠ none := by
    intro allocations target hMem
    obtain ⟨item, hItem, rfl⟩ := List.mem_map.1 hMem
    obtain ⟨allocation, -, hDump⟩ := List.mem_map.1 (List.fst_mem_of_mem_zipIdx hItem)
    show item.1.amount.sourceText ≠ none
    rw [← hDump]
    exact Option.some_ne_none _
  intro target hMem
  simp only [EntryDocument.amountSourceTargets, List.mem_append] at hMem
  obtain (((((hMem | hMem) | hMem) | hMem) | hMem) | hMem) | hMem := hMem
  · refine hTarget ?_ target hMem
    cases entry <;> first | exact hOne _ | exact hKey _ | exact hNone
  · refine hTarget ?_ target hMem
    cases entry <;> first | exact hOne _ | exact hNone
  · refine hTarget ?_ target hMem
    cases entry <;> first | exact hKey _ | exact hNone
  · refine hTarget ?_ target hMem
    cases entry <;> first | exact hKey _ | exact hNone
  · cases entry <;> first | exact hAllocations _ target hMem | exact absurd hMem List.not_mem_nil
  · refine hTarget ?_ target hMem
    cases entry <;> exact ⟨_, narrative_amount _ (·.grossAmount) (·.grossAmount) fun _ => rfl⟩
  · refine hTarget ?_ target hMem
    cases entry <;> exact ⟨_, narrative_amount _ (·.discountAmount) (·.discountAmount) fun _ => rfl⟩

end Dumps

/-! ## A validated reference is validated again -/

section Texts

theorem length_strip_le (s : String) : (strip s).length ≤ s.length := by
  unfold strip
  rw [String.length_ofList, ← String.length_toList]
  exact (List.rdropWhile_prefix isPythonSpace _).length_le.trans (List.length_dropWhile_le _ _)

/-- Stripping the end leaves the front, from which nothing more is stripped. -/
theorem strip_strip (s : String) : strip (strip s) = strip s := by
  have hFront : ∀ cs : List Char, cs.dropWhile isPythonSpace = cs →
      (List.rdropWhile isPythonSpace cs).dropWhile isPythonSpace
        = List.rdropWhile isPythonSpace cs := by
    intro cs hSame
    rw [List.dropWhile_eq_self_iff] at hSame ⊢
    intro hLength
    obtain ⟨rest, hRest⟩ := List.rdropWhile_prefix isPythonSpace cs
    have hLong : 0 < (List.rdropWhile isPythonSpace cs ++ rest).length := by
      simp only [List.length_append]
      omega
    have hHead : (List.rdropWhile isPythonSpace cs ++ rest)[0]
        = (List.rdropWhile isPythonSpace cs)[0] := List.getElem_append_left hLength
    rw [← hHead]
    simp only [hRest]
    exact hSame _
  show String.ofList (List.rdropWhile isPythonSpace ((String.ofList (List.rdropWhile isPythonSpace
    (s.toList.dropWhile isPythonSpace))).toList.dropWhile isPythonSpace)) = _
  rw [String.toList_ofList, hFront _ (List.dropWhile_idempotent _ _),
    List.rdropWhile_idempotent]
  rfl

theorem forOption_eq_ok {α : Type} {value : Option α} {check : α → Except String Unit}
    {u : Unit} : forOption value check = .ok u ↔ ∀ a ∈ value, check a = .ok () := by
  simp [forOption]

/-- A text that was accepted is accepted when it is stripped. -/
theorem checkText_strip {maximum : Nat} {message s : String}
    (h : checkText maximum (fun s => strip s ≠ "") message s = .ok ()) :
    checkText maximum (fun s => strip s ≠ "") message (strip s) = .ok () := by
  simp only [checkText, bind_eq_ok, require_eq_ok, exists_const, decide_eq_true_eq,
    strip_strip] at h ⊢
  obtain ⟨-, hMaximum, hText⟩ := h
  refine ⟨?_, (length_strip_le s).trans hMaximum, hText⟩
  rw [Nat.one_le_iff_ne_zero, ne_eq, String.length_eq_zero_iff]
  exact hText

theorem forOption_strip {maximum : Nat} {message : String} {value : Option String}
    (h : forOption value (checkText maximum (fun s => strip s ≠ "") message) = .ok ()) :
    forOption (value.map strip) (checkText maximum (fun s => strip s ≠ "") message)
      = .ok () := by
  cases value with
  | none => exact h
  | some text =>
      rw [forOption_eq_ok] at h
      exact forOption_eq_ok.2 fun _ hMem =>
        Option.some.inj hMem ▸ checkText_strip (h text rfl)

theorem map_strip_strip (value : Option String) :
    (value.map strip).map strip = value.map strip := by
  cases value with
  | none => rfl
  | some text => exact congrArg some (strip_strip text)

end Texts

section Validated

theorem AccountRef.parse_validated (reference : AccountRef) :
    parse AccountRefFields.validate reference.1 = .ok reference := by
  obtain ⟨fields, raw, hRaw⟩ := reference
  rw [parse_eq_ok]
  simp only [AccountRefFields.validate, bind_eq_ok, require_eq_ok, Unique.exists_iff,
    pure_eq_ok] at hRaw
  obtain ⟨hQuery, hLast4, hSubtype, hOne, hHints, rfl⟩ := hRaw
  simp only [AccountRefFields.validate, bind_eq_ok, require_eq_ok, Unique.exists_iff, pure_eq_ok]
  refine ⟨forOption_strip hQuery, hLast4, hSubtype, ?_, hHints, ?_⟩
  · rwa [Option.isSome_map]
  · rw [map_strip_strip]

theorem PaymentInstrumentRef.parse_validated (reference : PaymentInstrumentRef) :
    parse PaymentInstrumentRefFields.validate reference.1 = .ok reference := by
  obtain ⟨fields, raw, hRaw⟩ := reference
  rw [parse_eq_ok]
  simp only [PaymentInstrumentRefFields.validate, bind_eq_ok, require_eq_ok, Unique.exists_iff,
    pure_eq_ok] at hRaw
  obtain ⟨hQuery, hLast4, hOne, hHints, rfl⟩ := hRaw
  simp only [PaymentInstrumentRefFields.validate, bind_eq_ok, require_eq_ok, Unique.exists_iff,
    pure_eq_ok]
  refine ⟨forOption_strip hQuery, hLast4, ?_, hHints, ?_⟩
  · rwa [Option.isSome_map]
  · rw [map_strip_strip]

theorem CategoryRef.parse_validated (reference : CategoryRef) :
    parse CategoryRefFields.validate reference.1 = .ok reference := by
  obtain ⟨fields, raw, hRaw⟩ := reference
  rw [parse_eq_ok]
  simp only [CategoryRefFields.validate, bind_eq_ok, require_eq_ok, exists_const,
    pure_eq_ok, forOption_eq_ok, forEach_eq_ok] at hRaw
  obtain ⟨hPath, hQuery, hOne, rfl⟩ := hRaw
  simp only [CategoryRefFields.validate, bind_eq_ok, require_eq_ok, Unique.exists_iff, pure_eq_ok]
  refine ⟨?_, forOption_strip (forOption_eq_ok.2 hQuery), ?_, ?_⟩
  · rw [forOption_eq_ok]
    rintro _ hMem
    obtain ⟨path, hStated, rfl⟩ := Option.mem_map.1 hMem
    obtain ⟨hLength, hParts⟩ := hPath path hStated
    simp only [bind_eq_ok, require_eq_ok, exists_const, List.length_map, forEach_eq_ok,
      List.forall_mem_map, strip_strip]
    exact ⟨hLength, hParts⟩
  · simpa only [Option.isSome_map] using hOne
  · have hParts : ∀ path : Option (List String),
        (path.map (·.map strip)).map (·.map strip) = path.map (·.map strip) := by
      intro path
      cases path with
      | none => rfl
      | some parts => simp [strip_strip]
    rw [map_strip_strip, hParts]

theorem EntryNarrativeInput.parse_validated (narrative : EntryNarrativeInput) :
    parse (@NarrativeFields.validate MoneyInput) narrative.1 = .ok narrative := by
  obtain ⟨fields, raw, hRaw⟩ := narrative
  rw [parse_eq_ok]
  have hSame : raw = fields := by
    simp only [NarrativeFields.validate, bind_eq_ok, pure_eq_ok] at hRaw
    obtain ⟨-, -, -, -, -, -, rfl⟩ := hRaw
    rfl
  rwa [hSame] at hRaw

theorem money_dump (amount : MoneyInput) : amount.1.dump.money = .ok amount :=
  AmountFields.parse_validated amount

theorem balance_dump (amount : BalanceInput) : amount.1.dump.balance = .ok amount :=
  AmountFields.parse_validated amount

theorem optional_dump {α β : Type} {read : α → Except String β} {dump : β → α}
    (h : ∀ value, read (dump value) = .ok value) (value : Option β) :
    optional read (some (value.map dump)) = .ok value := by
  cases value with
  | none => rfl
  | some value =>
      unfold optional
      rw [Option.map_some, Option.join_some]
      dsimp only
      rw [h]
      rfl

theorem required_dump {α β : Type} {read : α → Except String β} {dump : β → α}
    (h : ∀ value, read (dump value) = .ok value) (value : β) :
    required read (some (some (dump value))) = .ok value :=
  h value

theorem readAllocations_dump (allocations : List CategoryAllocationInput) :
    (allocations.map (·.dump)).mapM (·.allocation) = .ok allocations := by
  rw [mapM_eq_ok, List.forall₂_map_left_iff, List.forall₂_same]
  intro allocation _
  unfold AllocationDocument.allocation
  simp only [bind_eq_ok, pure_eq_ok]
  exact ⟨allocation.category, allocation.category.parse_validated, allocation.amount,
    money_dump allocation.amount, rfl⟩

theorem readNarrative_dump (entry : EverydayEntry) :
    entry.dump.readNarrative = .ok entry.timed.narrative := by
  have hNarrative : entry.dump.narrative = entry.timed.narrative.map (·.1.dump) := by
    cases entry <;> rfl
  unfold EntryDocument.readNarrative
  rw [hNarrative]
  refine optional_dump (fun narrative => ?_) _
  simp only [bind_eq_ok]
  exact ⟨_, optional_dump money_dump _, _, optional_dump money_dump _, narrative.parse_validated⟩

/-- The dump of an entry that is valid is validated as that entry. -/
theorem validateEntry_dump {entry : EverydayEntry} (h : entry.validate = .ok ()) :
    entry.dump.validateEntry = .ok entry := by
  have hRead : entry.dump.readFields = .ok entry := by
    have hNarrative := readNarrative_dump entry
    unfold EntryDocument.readFields
    rw [hNarrative]
    cases entry <;>
      simp only [EverydayEntry.dump, EverydayEntry.kind, bind_eq_ok, Unique.exists_iff, pure_eq_ok,
        Except.ok.injEq, exists_eq_left', EntryDocument.readAllocations,
        Option.getD_some, readAllocations_dump, fetch_eq_ok, Option.some.injEq,
        optional_dump AccountRef.parse_validated, optional_dump CategoryRef.parse_validated,
        optional_dump PaymentInstrumentRef.parse_validated, optional_dump money_dump,
        required_dump AccountRef.parse_validated, required_dump money_dump,
        required_dump balance_dump] <;>
      exact ⟨by simp [EntryDocument.keys], rfl⟩
  unfold EntryDocument.validateEntry
  simp only [bind_eq_ok, pure_eq_ok]
  exact ⟨entry, hRead, (), h, rfl⟩

end Validated

/-- An entry whose texts are kept apart is read back with them. -/
theorem restoreEntry_removed {entry : EverydayEntry} (h : entry.validate = .ok ()) :
    restoreEntry entry.dump.removeSourceText (collectAmountSources entry) = .ok entry := by
  have hSources := restoreAmountSources_removed (sourceText_dump entry)
  rw [amountSources_dump] at hSources
  unfold restoreEntry
  simp only [bind_eq_ok, mapError_eq_ok]
  exact ⟨entry.dump, hSources, validateEntry_dump h⟩

end TrackAnywhere.Ports
