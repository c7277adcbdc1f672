import TrackAnywhere.Ports.CompiledPlans

/-!
# Previews of an entry

`prepare_entry` shows an entry twice: as `previewAndResolved` of its plan, when it
compiles, and as `nonreadyPreview` of what was typed, when it does not.  The plan
has its amount in ledger units, which are written at the scale of the asset; the
other preview repeats the text of the amount, whatever its denomination.
-/

namespace TrackAnywhere.Ports

open TrackAnywhere.Verified
open TrackAnywhere.Verified.Checked
open TrackAnywhere.Verified.FixedPoint

/-! ## Previews -/

structure PreviewMoney where
  value : String
  assetCode : AssetCode
  display : String
deriving DecidableEq

/-- A value, and how it is displayed. -/
def PreviewMoney.of (value : String) (assetCode : AssetCode) : PreviewMoney :=
  ⟨value, assetCode, value ++ " " ++ assetCode.1⟩

inductive PreviewRole
  | source
  | destination
  | funding
  | card
  | adjusted
deriving DecidableEq

structure PreviewAccount where
  role : PreviewRole
  displayName : String
deriving DecidableEq

structure EntryPreview where
  kind : EntryKind
  summary : String
  amount : PreviewMoney
  sourceAmount : Option PreviewMoney
  feeAmount : Option PreviewMoney
  occurredAt : AwareDatetime
  accounts : List PreviewAccount
  categoryPaths : List (List String)
deriving DecidableEq

/-- The references of a plan; those of a payment instrument are set afterwards. -/
structure ResolvedEntryReferences where
  sourceAccountId : Option UUID
  destinationAccountId : Option UUID
  fundingAccountId : Option UUID
  cardAccountId : Option UUID
  adjustedAccountId : Option UUID
  sourceTradingAccountId : Option UUID
  targetTradingAccountId : Option UUID
  categoryIds : List UUID
  categoryVersionIds : List UUID
  originalTransactionId : Option UUID
deriving DecidableEq

namespace ResolvedEntryReferences

def empty : ResolvedEntryReferences :=
  ⟨none, none, none, none, none, none, none, [], [], none⟩

/-- The accounts that a preview names, by their roles. -/
def roles (self : ResolvedEntryReferences) : List (PreviewRole × UUID) :=
  [(PreviewRole.source, self.sourceAccountId), (.destination, self.destinationAccountId),
    (.funding, self.fundingAccountId), (.card, self.cardAccountId),
    (.adjusted, self.adjustedAccountId)].filterMap fun item =>
      item.2.map fun accountId => (item.1, accountId)

end ResolvedEntryReferences

/-- `entry.kind.replace("_", " ").title()` -/
def EntryKind.title : EntryKind → String
  | expense => "Expense"
  | income => "Income"
  | transfer => "Transfer"
  | creditCardPayment => "Credit Card Payment"
  | refund => "Refund"
  | adjustment => "Adjustment"

section Previews

variable (context : EntryCompilationContext)

/-- The first asset with the code. -/
def previewAsset (assetCode : AssetCode) : Except EntryError EntryAsset :=
  fetch (context.assets.find? fun a => a.assetCode = assetCode) (.runtime "StopIteration")

/-- The financial event of a plan. -/
def planFinancial (plan : CompiledEntry) : Except EntryError EntryFinancial :=
  match plan.events.head?.map fun event : PendingEvent => event.payload.1 with
  | some (.journalTransactionPosted posted) => .ok (.posted posted)
  | some (.creditCardTransactionRecorded recorded) => .ok (.recorded recorded)
  | _ => .error (.runtime "entry compiler returned an invalid financial event")

/-- The reporting lines of a plan. -/
def planLines (plan : CompiledEntry) : Except EntryError (List ReportingLine) :=
  match plan.events[1]?.map fun event : PendingEvent => event.payload.1 with
  | none => .ok []
  | some (.reportingLinesAssigned assigned) => .ok assigned.lines
  | some _ => .error (.runtime "entry compiler returned an invalid reporting event")

/-- The posting of the financial event at an index. -/
def EntryFinancial.posting (financial : EntryFinancial) (index : Nat) :
    Except EntryError JournalPostingFact :=
  fetch financial.postings[index]? (.runtime "tuple index out of range")

/-- The accounts of the entry, by what its kind calls them. -/
def planReferences (entry : EverydayEntry) (financial : EntryFinancial) :
    Except EntryError ResolvedEntryReferences :=
  let references := ResolvedEntryReferences.empty
  match entry, financial with
  | .expense _, .recorded recorded =>
      .ok { references with sourceAccountId := recorded.cardAccountId }
  | .expense _, .posted _ => do
      let source ← financial.posting 1
      return { references with sourceAccountId := source.accountId }
  | .income _, _ => do
      let destination ← financial.posting 0
      return { references with destinationAccountId := destination.accountId }
  | .transfer _, _ => do
      let destination ← financial.posting 0
      let source ← financial.posting 1
      return { references with sourceAccountId := source.accountId
                               destinationAccountId := destination.accountId }
  | .creditCardPayment payment, .recorded recorded => do
      require (payment.sourceAmount = none) (.runtime "AssertionError")
      return { references with fundingAccountId := recorded.counterAccountId
                               cardAccountId := recorded.cardAccountId }
  | .creditCardPayment payment, .posted _ => do
      require (payment.sourceAmount ≠ none) (.runtime "AssertionError")
      let card ← financial.posting 0
      let targetTrading ← financial.posting 1
      let sourceTrading ← financial.posting 2
      let funding ← financial.posting 4
      return { references with fundingAccountId := funding.accountId
                               cardAccountId := card.accountId
                               sourceTradingAccountId := sourceTrading.accountId
                               targetTradingAccountId := targetTrading.accountId }
  | .adjustment _, _ => do
      let adjusted ← fetch (financial.postings.find? fun posting =>
        context.accounts.any fun a => a.accountId = posting.accountId
          ∧ a.systemRole = .standard) (.runtime "StopIteration")
      return { references with adjustedAccountId := adjusted.accountId }
  | .refund refund, _ =>
      .ok { references with originalTransactionId := refund.originalTransactionId }

/-- The source, the fee and the summary of a cross-asset payment. -/
def crossAssetPreview (financial : EntryFinancial) (amount : PreviewMoney) :
    Except EntryError (PreviewMoney × PreviewMoney × String) := do
  let source ← financial.posting 2
  let fee ← financial.posting 3
  let gross ← financial.posting 4
  let asset ← previewAsset context source.assetCode
  let sourceValue := Gateway.formatUnits source.units.1 asset.ledgerScale
  let feeValue := Gateway.formatUnits fee.units.1 asset.ledgerScale
  let grossValue := Gateway.formatUnits gross.units.1 asset.ledgerScale
  return (.of sourceValue asset.assetCode, .of feeValue asset.assetCode,
    "Cross-asset card payment " ++ amount.display ++ "; funding total " ++ grossValue ++ " "
      ++ asset.assetCode.1 ++ " (principal " ++ sourceValue ++ ", fee " ++ feeValue ++ ")")

/-- Whether an entry is paid out of another asset. -/
def EverydayEntry.isCrossAsset : EverydayEntry → Bool
  | .creditCardPayment payment => payment.sourceAmount.isSome
  | _ => false

/-- `preview_and_resolved` -/
def previewAndResolved (entry : EverydayEntry) (plan : CompiledEntry) :
    Except EntryError (EntryPreview × ResolvedEntryReferences) := do
  let financial ← planFinancial plan
  let first ← financial.posting 0
  let asset ← previewAsset context first.assetCode
  let amount := PreviewMoney.of (Gateway.formatUnits first.units.1 asset.ledgerScale)
    first.assetCode
  let lines ← planLines plan
  let references ← planReferences context entry financial
  let categoryIds := lines.filterMap (·.dimensionId)
  let accounts ← references.roles.mapM fun (role, accountId) => do
    let account ← fetch (context.accounts.find? fun a => a.accountId = accountId)
      (.runtime "KeyError")
    return PreviewAccount.mk role account.displayName
  let categoryPaths ← categoryIds.mapM fun categoryId => do
    let category ← fetch (context.categories.find? fun c => c.categoryId = categoryId)
      (.runtime "KeyError")
    return category.path
  let resolved := { references with categoryIds := categoryIds
                                    categoryVersionIds := lines.map (·.catalogId) }
  let preview : EntryPreview :=
    { kind := entry.kind
      summary := entry.kind.title ++ " " ++ amount.display
      amount := amount
      sourceAmount := none
      feeAmount := none
      occurredAt := entry.occurredAt
      accounts := accounts
      categoryPaths := categoryPaths }
  if entry.isCrossAsset then do
    let (source, fee, summary) ← crossAssetPreview context financial amount
    return ({ preview with summary := summary, sourceAmount := some source,
                           feeAmount := some fee }, resolved)
  else return (preview, resolved)

/-- The amount that `_nonready_prepared` shows. -/
def nonreadyAmount : EverydayEntry → Except EntryError PreviewMoney
  | .adjustment entry =>
      .ok (.of entry.actualBalance.1.value entry.actualBalance.1.assetCode)
  | .refund entry =>
      match entry.amount, context.originalEntry with
      | some amount, _ => .ok (.of amount.1.value amount.1.assetCode)
      | none, some original => do
          let asset ← previewAsset context original.assetCode
          return .of (Gateway.formatUnits original.units asset.ledgerScale) original.assetCode
      | none, none => .error (.runtime "AttributeError")
  | .expense entry => .ok (.of entry.amount.1.value entry.amount.1.assetCode)
  | .income entry => .ok (.of entry.amount.1.value entry.amount.1.assetCode)
  | .transfer entry => .ok (.of entry.amount.1.value entry.amount.1.assetCode)
  | .creditCardPayment entry => .ok (.of entry.amount.1.value entry.amount.1.assetCode)

/-- The preview of `_nonready_prepared`. -/
def nonreadyPreview (entry : EverydayEntry) : Except EntryError EntryPreview := do
  let amount ← nonreadyAmount context entry
  return { kind := entry.kind
           summary := entry.kind.title ++ " " ++ amount.display
           amount := amount
           sourceAmount := none
           feeAmount := none
           occurredAt := entry.occurredAt
           accounts := []
           categoryPaths := [] }

end Previews

/-- What `prepare_entry` shows of an entry. -/
inductive PreparedPreview
  | ready (preview : EntryPreview) (resolved : ResolvedEntryReferences)
  | needsClarification (preview : EntryPreview) (choices : List ClarificationChoice)
  | unsupported (preview : EntryPreview)
deriving DecidableEq

/-- The previews of `prepare_entry`, by what the compiler raises. -/
def preparePreview (u : UnicodeTables) (uuid5 : UUID → String → UUID)
    (context : EntryCompilationContext) (entry : EverydayEntry) :
    Except EntryError PreparedPreview :=
  match compileEntry u uuid5 context entry with
  | .ok plan => do
      let (preview, resolved) ← previewAndResolved context entry plan
      return .ready preview resolved
  | .error (.clarification _ _ _ _ choices) => do
      let preview ← nonreadyPreview context entry
      return .needsClarification preview choices
  | .error (.gateway .unsupported _ _) => do
      let preview ← nonreadyPreview context entry
      return .unsupported preview
  | .error error => .error error

/-! ## The amount of a preview -/

/-- The amount that an entry states; a refund may leave it to its original. -/
def EverydayEntry.statedAmount : EverydayEntry → Option MoneyInput
  | .expense entry => some entry.amount
  | .income entry => some entry.amount
  | .transfer entry => some entry.amount
  | .creditCardPayment entry => some entry.amount
  | .refund entry => entry.amount
  | .adjustment _ => none

/-- The units of an entry: those of the amount that it states, or else of its original. -/
def StatedUnits (u : UnicodeTables) (context : EntryCompilationContext)
    (entry : EverydayEntry) (asset : EntryAsset) (units : Nat) : Prop :=
  match entry.statedAmount with
  | some money => ∃ normalized, normalizeAmount u money.1 asset false = .ok normalized
      ∧ units = normalized.units
  | none => ∃ original, context.originalEntry = some original
      ∧ original.assetCode = asset.assetCode ∧ units = original.units

section Amounts

variable {u : UnicodeTables} {uuid5 : UUID → String → UUID}
  {context : EntryCompilationContext} {entry : EverydayEntry}

/-- The number that written units denote. -/
theorem decimalValue_formatUnits (n scale : Nat) :
    decimalValue (Gateway.formatUnits n scale) * 10 ^ scale = n := by
  obtain ⟨-, hFraction⟩ := partitionDot_joinDot
    (digits_append_iff.1 (digits_at scale n)).1 (fractionAt scale n)
  have hLength : fractionLength (joinDot (wholeAt scale n) (fractionAt scale n)) ≤ scale := by
    rw [fractionLength, hFraction, length_fractionAt]
  rw [Gateway.formatUnits_eq, ← unitsAt_eq hLength, unitsAt_fixedText]

theorem EntryFinancial.Moves.head {financial : EntryFinancial} {assetCode : AssetCode}
    {units : Nat} {debit credit : UUID} (h : financial.Moves assetCode units debit credit) :
    ∃ first ∈ financial.postings.head?,
      first.assetCode = assetCode ∧ first.units.1 = units := by
  have hHead := congrArg List.head? h
  rw [List.head?_map] at hHead
  obtain ⟨first, hFirst, hPosted⟩ := Option.map_eq_some_iff.1 hHead
  exact ⟨first, hFirst, congrArg PostedUnits.assetCode hPosted,
    congrArg PostedUnits.units hPosted⟩

/-- The first posting of a plan has the units of its entry. -/
theorem firstPosting_of_compiledAs {financial : EntryFinancial}
    {allocations : List ResolvedAllocation} {assetCode : AssetCode}
    {lineKind : ReportingLineKind} (hKind : entry.kind ≠ .adjustment)
    (h : CompiledAs u context entry financial allocations assetCode lineKind) :
    ∃ asset, context.asset asset.assetCode = .ok asset
      ∧ ∃ first ∈ financial.postings.head?, first.assetCode = asset.assetCode
        ∧ StatedUnits u context entry asset first.units.1 := by
  cases h with
  | expense hPolicy hAmount hSource hClearing hMoves hCard hOther hCategories hAllocations =>
      obtain ⟨first, hFirst, hAsset, hUnits⟩ := hMoves.head
      exact ⟨_, hPolicy, first, hFirst, hAsset, _, hAmount, hUnits⟩
  | income hPolicy hAmount hDestination hClearing hMoves hPosted hCategories hAllocations =>
      obtain ⟨first, hFirst, hAsset, hUnits⟩ := hMoves.head
      exact ⟨_, hPolicy, first, hFirst, hAsset, _, hAmount, hUnits⟩
  | transfer hPolicy hAmount hSource hDestination hDistinct hMoves hPosted =>
      obtain ⟨first, hFirst, hAsset, hUnits⟩ := hMoves.head
      exact ⟨_, hPolicy, first, hFirst, hAsset, _, hAmount, hUnits⟩
  | cardPayment hSame hPolicy hAmount hFunding hCard hDistinct hMoves hRecorded =>
      obtain ⟨first, hFirst, hAsset, hUnits⟩ := hMoves.head
      exact ⟨_, hPolicy, first, hFirst, hAsset, _, hAmount, hUnits⟩
  | fxCardPayment hSource hFee hTarget hPolicy hTargetUnits hSourceUnits hFeeUnits hFunding
      hCard hTargetTrading hSourceTrading hFeeClearing hDistinct hLegs hPosted hCategories =>
      have hHead := congrArg List.head? hLegs
      rw [List.head?_map] at hHead
      obtain ⟨first, hFirst, hPostedFirst⟩ := Option.map_eq_some_iff.1 hHead
      exact ⟨_, hTarget, first, hFirst, congrArg PostedUnits.assetCode hPostedFirst, _,
        hTargetUnits, congrArg PostedUnits.units hPostedFirst⟩
  | @refund refund asset original amount _ _ _ _ hPolicy hOriginal hId hAsset hAmount hUnits
      hClearing hMoves hCharge hExpense hAllocations =>
      obtain ⟨first, hFirst, hFirstAsset, hFirstUnits⟩ := hMoves.head
      refine ⟨asset, hPolicy, first, hFirst, hFirstAsset, ?_⟩
      unfold refundAmount at hAmount
      have hIs : (EverydayEntry.refund refund).statedAmount = refund.amount := rfl
      unfold StatedUnits
      rw [hIs]
      cases hStated : refund.amount with
      | none =>
          rw [hStated] at hAmount
          cases hAmount
          exact ⟨original, hOriginal, hAsset, hFirstUnits⟩
      | some money =>
          rw [hStated] at hAmount
          exact ⟨amount, hAmount, hFirstUnits⟩
  | adjustment => exact absurd rfl hKind

/-- An asset that is the only one with its code is the first one. -/
theorem previewAsset_eq {assetCode : AssetCode} {asset : EntryAsset}
    (h : context.asset assetCode = .ok asset) :
    previewAsset context assetCode = .ok asset := by
  unfold EntryCompilationContext.asset at h
  split at h
  · next found hFound =>
      cases h
      rw [previewAsset, ← List.head?_filter, hFound]
      rfl
  · exact nomatch h

/-- What the preview of a plan shows: the units of the entry, written at the scale of the
asset. -/
theorem readyAmount_ok {plan : CompiledEntry} {preview : EntryPreview}
    {resolved : ResolvedEntryReferences} (hKind : entry.kind ≠ .adjustment)
    (hPlan : compileEntry u uuid5 context entry = .ok plan)
    (h : previewAndResolved context entry plan = .ok (preview, resolved)) :
    ∃ asset units, context.asset asset.assetCode = .ok asset
      ∧ StatedUnits u context entry asset units
      ∧ preview.amount = .of (Gateway.formatUnits units asset.ledgerScale)
        asset.assetCode := by
  obtain ⟨financial, allocations, assetCode, lineKind, -, hShape, hCompiled⟩ :=
    compileEntry_plans hPlan
  obtain ⟨asset, hPolicy, first, hFirst, hAsset, hUnits⟩ :=
    firstPosting_of_compiledAs hKind hCompiled
  obtain ⟨event, rest, hEvents, hPayload, -⟩ := hShape.events
  have hFinancial : planFinancial plan = .ok financial := by
    unfold planFinancial
    rw [hEvents, List.head?_cons, Option.map_some, hPayload]
    cases financial with
    | posted posted => rfl
    | recorded recorded => rfl
  have hFirst : financial.posting 0 = .ok first := by
    rw [EntryFinancial.posting, ← List.head?_eq_getElem?, hFirst]
    rfl
  refine ⟨asset, first.units.1, hPolicy, hUnits, ?_⟩
  unfold previewAndResolved at h
  rw [hFinancial] at h
  simp only [bind_eq_ok, Except.ok.injEq, exists_eq_left', hFirst, hAsset,
    previewAsset_eq hPolicy] at h
  obtain ⟨lines, -, references, -, accounts, -, paths, -, h⟩ := h
  split at h
  · obtain ⟨cross, -, h⟩ := bind_eq_ok.1 h
    cases h
    rfl
  · cases h
    rfl

/-- What the preview before a choice shows: the text of the amount, or the units of the
original. -/
theorem nonreadyAmount_ok {amount : PreviewMoney} (hKind : entry.kind ≠ .adjustment)
    (h : nonreadyAmount context entry = .ok amount) :
    (∀ money ∈ entry.statedAmount, amount.value = money.1.value)
      ∧ (entry.statedAmount = none → ∃ original asset, context.originalEntry = some original
        ∧ previewAsset context original.assetCode = .ok asset
        ∧ amount.value = Gateway.formatUnits original.units asset.ledgerScale) := by
  cases entry with
  | adjustment entry => exact absurd rfl hKind
  | refund entry =>
      simp only [nonreadyAmount] at h
      have hIs : (EverydayEntry.refund entry).statedAmount = entry.amount := rfl
      rw [hIs]
      cases hStated : entry.amount with
      | some money =>
          rw [hStated] at h
          cases h
          refine ⟨?_, fun hNone => nomatch hNone⟩
          rintro _ ⟨⟩
          rfl
      | none =>
          rw [hStated] at h
          cases hOriginal : context.originalEntry with
          | none =>
              rw [hOriginal] at h
              exact nomatch h
          | some original =>
              rw [hOriginal] at h
              obtain ⟨asset, hAsset, h⟩ := bind_eq_ok.1 h
              rw [← pure_eq_ok.1 h]
              refine ⟨?_, fun _ => ⟨original, asset, rfl, hAsset, rfl⟩⟩
              rintro _ ⟨⟩
  | _ =>
      cases h
      refine ⟨?_, fun hNone => nomatch hNone⟩
      rintro _ ⟨⟩
      rfl

/-- The amount is in the unit of the asset, or the minor unit of the asset is that unit. -/
def ShownExactly (context : EntryCompilationContext) (entry : EverydayEntry) : Prop :=
  ∀ money ∈ entry.statedAmount, money.1.denomination = .minorUnit →
    ∀ asset, context.asset money.1.assetCode = .ok asset → asset.minorUnitScale = some 0

/-- The same entry after a choice: its kind and amount are the same, in a Book with the same
assets and the same original. -/
structure ClarificationAnswered (context : EntryCompilationContext) (entry : EverydayEntry)
    (context' : EntryCompilationContext) (answered : EverydayEntry) : Prop where
  kind : answered.kind = entry.kind
  amount : answered.statedAmount = entry.statedAmount
  assets : context'.assets = context.assets
  original : context'.originalEntry = context.originalEntry

/-- An amount in minor units has the value of its text only where the minor unit is the unit
of the asset. -/
theorem value_of_minor_units {asset : EntryAsset} {amount : AmountFields}
    {normalized : NormalizedAmount} {value : ℚ}
    (hUnits : normalizeAmount u amount asset false = .ok normalized)
    (hValue : value * 10 ^ asset.ledgerScale = normalized.units) :
    decimalValue amount.value = value
      ↔ (amount.denomination = .minorUnit → asset.minorUnitScale = some 0) := by
  obtain ⟨scales, hScales, hStated⟩ := normalizeAmount_value hUnits
  have hPositive : (normalized.units : ℚ) ≠ 0 := by
    obtain ⟨-, -, -, _, -, hRead, -⟩ := normalizeAmount_ok.1 hUnits
    obtain ⟨-, -, hNonzero, -⟩ := parseNonNegative_ok.1 hRead
    exact Nat.cast_ne_zero.2 (hNonzero.resolve_right Bool.false_ne_true)
  have hText : decimalValue amount.value ≠ 0 := by
    intro hZero
    rw [hZero, zero_mul] at hStated
    exact hPositive hStated
  -- the text and the value differ by the scale of the denomination
  have hScale : decimalValue amount.value = value ↔ scales.1 = asset.ledgerScale := by
    rw [hStated] at hValue
    constructor
    · rintro rfl
      exact (pow_right_injective₀ (by norm_num) (by norm_num)
        (mul_left_cancel₀ hText hValue)).symm
    · intro hEq
      rw [hEq] at hValue
      exact (mul_right_cancel₀ (by positivity) hValue).symm
  rw [hScale]
  unfold denominationScales at hScales
  split at hScales
  · next hUnit =>
      cases hScales
      exact iff_of_true rfl fun hMinor => nomatch hUnit.symm.trans hMinor
  · next hMinorUnit =>
      split at hScales
      · next minorUnitScale hMinor =>
          have hLe := asset.hMinor minorUnitScale hMinor
          split_ifs at hScales
          cases hScales
          rw [hMinor, Option.some.injEq]
          constructor
          · intro hEq _
            simp only at hEq
            omega
          · intro hZero
            simp only [hZero hMinorUnit, Nat.sub_zero]
      · exact nomatch hScales

/-- The preview that asks and the preview that is ready show one value exactly where the
amount is not in a minor unit of its own. -/
theorem clarification_shows_same_value_iff {context' : EntryCompilationContext}
    {answered : EverydayEntry} {asked ready : EntryPreview}
    {choices : List ClarificationChoice} {resolved : ResolvedEntryReferences}
    (hKind : entry.kind ≠ .adjustment)
    (hAnswered : ClarificationAnswered context entry context' answered)
    (hAsked : preparePreview u uuid5 context entry = .ok (.needsClarification asked choices))
    (hReady : preparePreview u uuid5 context' answered = .ok (.ready ready resolved)) :
    decimalValue asked.amount.value = decimalValue ready.amount.value
      ↔ ShownExactly context entry := by
  have hAskedAmount : nonreadyAmount context entry = .ok asked.amount := by
    unfold preparePreview at hAsked
    split at hAsked
    · obtain ⟨_, -, h⟩ := bind_eq_ok.1 hAsked
      cases h
    · simp only [nonreadyPreview, bind_eq_ok, pure_eq_ok,
        PreparedPreview.needsClarification.injEq] at hAsked
      obtain ⟨_, ⟨amount, hAmount, rfl⟩, rfl, -⟩ := hAsked
      exact hAmount
    · obtain ⟨_, -, h⟩ := bind_eq_ok.1 hAsked
      cases h
    · cases hAsked
  obtain ⟨plan, hPlan, hPreview⟩ : ∃ plan, compileEntry u uuid5 context' answered = .ok plan
      ∧ previewAndResolved context' answered plan = .ok (ready, resolved) := by
    unfold preparePreview at hReady
    split at hReady
    · next plan hPlan =>
        obtain ⟨shown, hShown, h⟩ := bind_eq_ok.1 hReady
        cases h
        exact ⟨plan, hPlan, hShown⟩
    · obtain ⟨_, -, h⟩ := bind_eq_ok.1 hReady
      cases h
    · obtain ⟨_, -, h⟩ := bind_eq_ok.1 hReady
      cases h
    · cases hReady
  obtain ⟨asset, units, hPolicy, hUnits, hShown⟩ :=
    readyAmount_ok (hAnswered.kind ▸ hKind) hPlan hPreview
  obtain ⟨hText, hOriginal⟩ := nonreadyAmount_ok hKind hAskedAmount
  have hPolicy' : context.asset asset.assetCode = .ok asset := by
    rw [EntryCompilationContext.asset, ← hAnswered.assets]
    exact hPolicy
  have hValue := decimalValue_formatUnits units asset.ledgerScale
  rw [hShown]
  unfold StatedUnits at hUnits
  rw [hAnswered.amount, hAnswered.original] at hUnits
  unfold ShownExactly
  cases hStated : entry.statedAmount with
  | none =>
      rw [hStated] at hUnits
      obtain ⟨original, hFound, hCode, rfl⟩ := hUnits
      obtain ⟨other, otherAsset, hOther, hOtherAsset, hAskedValue⟩ := hOriginal hStated
      rw [hFound, Option.some.injEq] at hOther
      subst hOther
      rw [hCode, previewAsset_eq hPolicy', Except.ok.injEq] at hOtherAsset
      rw [hAskedValue, ← hOtherAsset]
      refine iff_of_true rfl ?_
      rintro _ ⟨⟩
  | some money =>
      rw [hStated] at hUnits
      obtain ⟨normalized, hNormalized, rfl⟩ := hUnits
      have hCode := (normalizeAmount_ok.1 hNormalized).1
      rw [hText money hStated]
      rw [show (PreviewMoney.of (Gateway.formatUnits normalized.units asset.ledgerScale)
        asset.assetCode).value = Gateway.formatUnits normalized.units asset.ledgerScale from rfl,
        value_of_minor_units hNormalized hValue]
      constructor
      · rintro hExact _ ⟨⟩ hMinor other hOther
        rw [hCode, hPolicy', Except.ok.injEq] at hOther
        exact hOther ▸ hExact hMinor
      · exact fun hExact hMinor => hExact money rfl hMinor asset (hCode ▸ hPolicy')

end Amounts

/-! ### A sample of cents -/

theorem sampleEuro_scales : 2 ≤ 2 ∧ 2 ≤ 30 := by
  decide

theorem sampleEuro_minor : ∀ scale ∈ some 2, scale ≤ 2 := by
  decide

/-- A currency as the loader reads it, its minor unit at the scale of the ledger. -/
def sampleEuro : EntryAsset where
  assetCode := sampleAsset
  kind := "fiat"
  ledgerScale := 2
  inputScale := 2
  minorUnitScale := some 2
  status := "active"
  hScale := sampleEuro_scales
  hMinor := sampleEuro_minor

def sampleEuroContext : EntryCompilationContext :=
  { sampleEntryContext with assets := [sampleEuro] }

theorem sampleQuery_validates :
    AccountRefFields.validate ⟨none, some "Account", none, none⟩
      = .ok ⟨none, some "Account", none, none⟩ := by
  decide

/-- The name of every account of the sample. -/
def sampleQuery : AccountRef :=
  ⟨⟨none, some "Account", none, none⟩, ⟨none, some "Account", none, none⟩,
    sampleQuery_validates⟩

theorem sampleCents_validates : AmountFields.validateMoney sampleCents = .ok sampleCents := by
  decide

/-- 1250 cents for food. -/
def sampleCentsExpense (source : AccountRef) : EverydayEntry :=
  .expense
    { occurredAt := ⟨⟨sampleDate, 0⟩, 0⟩
      narrative := none
      amount := ⟨sampleCents, sampleCents, sampleCents_validates⟩
      category := some (.ofId 6)
      categoryAllocations := []
      sourceAccount := some source
      paymentInstrument := none }

/-- The amount that a preview shows, with what kind of preview it is. -/
def PreparedPreview.shown : PreparedPreview → PreparedStatus × String
  | ready preview _ => (.ready, preview.amount.value)
  | needsClarification preview _ => (.needsClarification, preview.amount.value)
  | unsupported preview => (.unsupported, preview.amount.value)

theorem sampleCents_asked : (preparePreview sampleUnicode sampleEntryUuid5 sampleEuroContext
    (sampleCentsExpense sampleQuery)).toOption.any
      (fun preview => preview.shown = (.needsClarification, "1250")) = true := by
  decide +kernel

theorem sampleCents_ready : (preparePreview sampleUnicode sampleEntryUuid5 sampleEuroContext
    (sampleCentsExpense (.ofId 2))).toOption.any
      (fun preview => preview.shown = (.ready, "12.50")) = true := by
  decide +kernel

/-- The two previews of the sample. -/
theorem sampleCents_previews : ∃ asked choices ready resolved,
    preparePreview sampleUnicode sampleEntryUuid5 sampleEuroContext (sampleCentsExpense sampleQuery)
        = .ok (.needsClarification asked choices)
      ∧ preparePreview sampleUnicode sampleEntryUuid5 sampleEuroContext
        (sampleCentsExpense (.ofId 2)) = .ok (.ready ready resolved)
      ∧ asked.amount.value = "1250" ∧ ready.amount.value = "12.50" := by
  obtain ⟨first, hFirst, hAsked⟩ := exists_ok_of_any sampleCents_asked
  obtain ⟨second, hSecond, hReady⟩ := exists_ok_of_any sampleCents_ready
  cases first with
  | needsClarification asked choices =>
      cases second with
      | ready ready resolved =>
          simp only [PreparedPreview.shown, Prod.mk.injEq, true_and, decide_eq_true_eq]
            at hAsked hReady
          exact ⟨asked, choices, ready, resolved, hFirst, hSecond, hAsked, hReady⟩
      | _ => simp [PreparedPreview.shown] at hReady
  | _ => simp [PreparedPreview.shown] at hAsked

theorem clarification_shows_same_value_iff_sample : ∃ asked choices ready resolved,
    preparePreview sampleUnicode sampleEntryUuid5 sampleEuroContext (sampleCentsExpense sampleQuery)
        = .ok (.needsClarification asked choices)
      ∧ preparePreview sampleUnicode sampleEntryUuid5 sampleEuroContext
        (sampleCentsExpense (.ofId 2)) = .ok (.ready ready resolved)
      ∧ (decimalValue asked.amount.value = decimalValue ready.amount.value
        ↔ ShownExactly sampleEuroContext (sampleCentsExpense sampleQuery)) := by
  obtain ⟨asked, choices, ready, resolved, hAsked, hReady, -, -⟩ := sampleCents_previews
  have hAnswered : ClarificationAnswered sampleEuroContext (sampleCentsExpense sampleQuery)
      sampleEuroContext (sampleCentsExpense (.ofId 2)) := ⟨rfl, rfl, rfl, rfl⟩
  exact ⟨asked, choices, ready, resolved, hAsked, hReady,
    clarification_shows_same_value_iff (by decide) hAnswered hAsked hReady⟩

/-- 1250 cents are shown as 1250 before the card is chosen, and as 12.50 afterwards. -/
theorem clarification_shows_cents_as_units : ∃ asked choices ready resolved,
    preparePreview sampleUnicode sampleEntryUuid5 sampleEuroContext (sampleCentsExpense sampleQuery)
        = .ok (.needsClarification asked choices)
      ∧ preparePreview sampleUnicode sampleEntryUuid5 sampleEuroContext
        (sampleCentsExpense (.ofId 2)) = .ok (.ready ready resolved)
      ∧ decimalValue asked.amount.value ≠ decimalValue ready.amount.value := by
  obtain ⟨asked, choices, ready, resolved, hAsked, hReady, hAskedValue, hReadyValue⟩ :=
    sampleCents_previews
  refine ⟨asked, choices, ready, resolved, hAsked, hReady, ?_⟩
  rw [hAskedValue, hReadyValue]
  decide +kernel

end TrackAnywhere.Ports
