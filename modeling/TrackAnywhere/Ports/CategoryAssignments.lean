import TrackAnywhere.Ports.ReportingCommands
import TrackAnywhere.Ports.ScaledUnits
import TrackAnywhere.Verified.DecimalContext

/-!
# Category assignments

The tool that changes the category of a transaction assigns its full amount.  It reads the
amount back from the text of the everyday view, with `Decimal` in the default context of 28
digits, while the ledger holds units of 38 digits: what is behind the twenty-eighth digit is
rounded away, and the check for exactness is made on the rounded number.
-/

namespace TrackAnywhere.Ports

open TrackAnywhere.Verified
open TrackAnywhere.Verified.Checked
open TrackAnywhere.Verified.FixedPoint
open TrackAnywhere.Verified.DecimalContext

/-! ## The amount -/

/-- The precision of the default context. -/
def decimalPrecision : Nat := 28

/-- `Decimal(value)`, for the plain decimals that amounts are written as. -/
def plainDecimalNumber (value : String) : Option Decimal :=
  if plainDecimal value then
    some
      { negative := false
        coefficient := units ((partitionDot value).1 ++ (partitionDot value).2.getD [])
        exponent := -(((partitionDot value).2.getD []).length : Int) }
  else none

/-- `Decimal(10) ** scale` -/
def powerOfTen (scale : Nat) : Decimal :=
  (Decimal.mk false (10 ^ scale) 0).rounded decimalPrecision

/-- The kinds of entries that have a category. -/
def categoryLineKind : EverydayEntryKind → Option ReportingLineKind
  | .income => some .income
  | .expense => some .expense
  | .refund => some .expense
  | _ => none

/-- `_entry_category_allocation`; the text of the units is the number it denotes. -/
def entryCategoryAllocation (entry : EverydayEntryView) :
    Except String (AssetCode × Nat × ReportingLineKind) := do
  let lineKind ← fetch (categoryLineKind entry.kind)
    "only expense, income, and refund entries can have a category"
  let amount ← fetch entry.amount "entry amount is unavailable for category assignment"
  let value ← fetch (plainDecimalNumber amount.value) "[<class 'decimal.ConversionSyntax'>]"
  let scaled := value.mul decimalPrecision (powerOfTen amount.scale)
  let integral := scaled.toIntegral
  require (scaled.value = integral.value ∧ 0 < integral.value)
    "entry amount cannot be represented in exact ledger units"
  return (amount.assetCode, integral.natAbs, lineKind)

/-! ## The tool -/

/-- The columns of a category that the tool looks at. -/
structure CategoryDetail where
  categoryId : UUID
  currentVersionId : UUID
  status : String
  usageKind : CategoryUsageKind

def CategoryUsageKind.value : CategoryUsageKind → String
  | expense => "expense"
  | income => "income"
  | both => "both"

/-- `_category_lines_match` -/
def categoryLinesMatch (lines : List ReportingLineView) (category : CategoryDetail)
    (assetCode : AssetCode) (units : Nat) (lineKind : ReportingLineKind) : Bool :=
  match lines with
  | [line] => decide (line.catalogId = category.currentVersionId ∧ line.assetCode = assetCode
      ∧ line.units = units ∧ line.lineKind = lineKind ∧ line.dimension = .category
      ∧ line.dimensionId = some category.categoryId)
  | _ => false

/-- The identifiers that the tool derives from the request. -/
structure CategoryWriteIds where
  commandId : UUID
  lineId : UUID
  lineVersionId : UUID

/-- `ledger_set_transaction_category`, up to the command that it executes; there is none when the
category is the current one. -/
def ledgerSetTransactionCategory (entry : EverydayEntryView) (revision : Nat)
    (currentLines : List ReportingLineView) (category : Option CategoryDetail)
    (ids : CategoryWriteIds) (effectiveAt : Instant) :
    Except String (Option AssignReportingLinesCommand) := do
  let category ← fetch (category.filter fun category => category.status = "active")
    "category_id must identify an active category in the requested Book"
  let (assetCode, units, lineKind) ← entryCategoryAllocation entry
  require (¬((lineKind = .expense ∧ category.usageKind ∉ [.expense, .both])
      ∨ (lineKind = .income ∧ category.usageKind ∉ [.income, .both])))
    ("category usage_kind '" ++ category.usageKind.value ++ "' does not support "
      ++ lineKind.value ++ " entries")
  if categoryLinesMatch currentLines category assetCode units lineKind then
    return none
  else if hUnits : 0 < units ∧ units < 10 ^ 38 then
    return some
      { commandId := ids.commandId
        transactionId := entry.transactionId
        expectedRevision := revision
        lines := [
          { lineId := ids.lineId
            lineVersionId := ids.lineVersionId
            catalogId := category.currentVersionId
            assetCode
            units := ⟨units, hUnits⟩
            lineKind
            dimension := .category
            dimensionId := some category.categoryId
            descriptionRef := none }]
        effectiveAt }
  else
    .error "reporting units must be a canonical positive integer string"

/-! ## What is read back -/

section Allocation

variable {entry : EverydayEntryView} {amount : AssetUnitAmount} {lineKind : ReportingLineKind}
  {postings : List JournalPosting} {assets : List AssetFact} {n scale : Nat}

/-- The number of an amount that was written. -/
theorem plainDecimalNumber_written (scale n : Nat) :
    plainDecimalNumber (joinDot (wholeAt scale n) (fractionAt scale n))
      = some ⟨false, n, -(scale : Int)⟩ := by
  have hDigits := (digits_append_iff.1 (digits_at scale n)).1
  obtain ⟨hWhole, hFraction⟩ := partitionDot_joinDot hDigits (fractionAt scale n)
  have hPlain : plainDecimal (joinDot (wholeAt scale n) (fractionAt scale n)) = true :=
    plainDecimal_joinDot (canonical_written scale n).nonempty (digits_at scale n)
  unfold plainDecimalNumber
  rw [if_pos hPlain, hWhole, hFraction, length_fractionAt, units_at]

/-- Scaling an amount gives its units, rounded to the context. -/
theorem magnitude_scaled (hn : 0 < n) (scale : Nat) :
    ((Decimal.mk false n (-(scale : Int))).mul decimalPrecision (powerOfTen scale)).magnitude
      = Decimal.roundedNat decimalPrecision n := by
  obtain ⟨k, hk, hPower⟩ : ∃ k ≤ scale, powerOfTen scale = ⟨false, 10 ^ (scale - k), k⟩ := by
    have hPlaces : places (10 ^ scale) = 1 + scale := by
      rw [← one_mul (10 ^ scale), places_mul_pow one_pos]
      rfl
    have hDvd : 10 ^ (1 + scale - decimalPrecision) ∣ 10 ^ scale :=
      Nat.pow_dvd_pow 10 (by unfold decimalPrecision; omega)
    refine ⟨1 + scale - decimalPrecision, by unfold decimalPrecision; omega, ?_⟩
    unfold powerOfTen Decimal.rounded Decimal.shorten
    rw [hPlaces, halfEven_of_dvd hDvd, Nat.pow_div (by unfold decimalPrecision; omega) (by decide),
      zero_add]
  rw [hPower, ← @Decimal.magnitude_rounded_nat false]
  unfold Decimal.mul
  exact Decimal.magnitude_rounded_zeros (j := scale - k) hn rfl (by dsimp only; omega)

/-- The amount of a transaction is the units of its debits, written at the scale of the asset. -/
theorem transactionAmount_ok (h : transactionAmount postings assets = .ok (some amount)) :
    0 < sideUnits postings .debit amount.assetCode
      ∧ amount.value = joinDot
        (wholeAt amount.scale (sideUnits postings .debit amount.assetCode))
        (fractionAt amount.scale (sideUnits postings .debit amount.assetCode)) := by
  unfold transactionAmount at h
  split at h
  · next assetCode hAssets =>
      split_ifs at h
      · split at h
        · exact absurd (Except.ok.inj h) (Option.some_ne_none amount).symm
        · next asset hAsset =>
            obtain ⟨value, hValue, hAmount⟩ := bind_eq_ok.1 h
            have hSame := Option.some.inj (pure_eq_ok.1 hAmount)
            subst hSame
            have hChecks := hValue
            simp only [formatUnits, bind_eq_ok, require_eq_ok, exists_const] at hChecks
            rw [formatUnits_eq hChecks.1 hChecks.2.1] at hValue
            exact ⟨hChecks.1, (Except.ok.inj hValue).symm⟩
      · exact absurd (Except.ok.inj h) (Option.some_ne_none amount).symm
  · exact absurd (Except.ok.inj h) (Option.some_ne_none amount).symm

/-- What the tool reads is the amount, rounded to the digits of the context. -/
theorem entryCategoryAllocation_eq (hAmount : transactionAmount postings assets = .ok (some amount))
    (hEntry : entry.amount = some amount) (hKind : categoryLineKind entry.kind = some lineKind) :
    entryCategoryAllocation entry = .ok (amount.assetCode,
      Decimal.roundedNat decimalPrecision (sideUnits postings .debit amount.assetCode),
      lineKind) := by
  obtain ⟨hPositive, hText⟩ := transactionAmount_ok hAmount
  have hMagnitude := magnitude_scaled hPositive amount.scale
  have hRounded := Decimal.roundedNat_pos (show 0 < decimalPrecision by decide) hPositive
  obtain ⟨hIntegral, hAbs⟩ := Decimal.toIntegral_of_eq hMagnitude
  have hSign : ((Decimal.mk false (sideUnits postings .debit amount.assetCode)
      (-(amount.scale : Int))).mul decimalPrecision (powerOfTen amount.scale)).negative
        = false := rfl
  simp only [entryCategoryAllocation, bind_eq_ok, fetch_eq_ok, require_eq_ok, pure_eq_ok,
    exists_const]
  refine ⟨lineKind, hKind, amount, hEntry, _, by rw [hText, plainDecimalNumber_written], ?_, ?_⟩
  · constructor
    · exact (Decimal.value_eq_iff Decimal.negative_toIntegral.symm).2
        (hMagnitude.trans hIntegral.symm)
    · unfold Decimal.value
      rw [Decimal.negative_toIntegral, hSign, hIntegral]
      exact Nat.cast_pos.2 hRounded
  · rw [hAbs]

/-- The command assigns the amount that was read. -/
theorem lines_of_command {revision : Nat} {currentLines : List ReportingLineView}
    {category : Option CategoryDetail} {ids : CategoryWriteIds} {effectiveAt : Instant}
    {command : AssignReportingLinesCommand} {assetCode : AssetCode} {units : Nat}
    (hAllocation : entryCategoryAllocation entry = .ok (assetCode, units, lineKind))
    (h : ledgerSetTransactionCategory entry revision currentLines category ids effectiveAt
      = .ok (some command)) :
    command.lines.map (fun line => (line.assetCode, line.units.1)) = [(assetCode, units)] := by
  unfold ledgerSetTransactionCategory at h
  rw [hAllocation] at h
  obtain ⟨current, -, h⟩ := bind_eq_ok.1 h
  obtain ⟨allocation, hSame, h⟩ := bind_eq_ok.1 h
  obtain rfl := Except.ok.inj hSame
  obtain ⟨-, -, h⟩ := bind_eq_ok.1 h
  split at h
  · exact absurd (Except.ok.inj h) (Option.some_ne_none command).symm
  · split at h
    · rw [← Option.some.inj (Except.ok.inj h)]
      rfl
    · exact nomatch h

/-- The tool reads the full amount of a transaction, and assigns nothing else, exactly when the
digits of the amount behind the twenty-eighth are zeros. -/
theorem categoryAssignment_exact_iff
    (hAmount : transactionAmount postings assets = .ok (some amount))
    (hEntry : entry.amount = some amount) (hKind : categoryLineKind entry.kind = some lineKind) :
    (entryCategoryAllocation entry
        = .ok (amount.assetCode, sideUnits postings .debit amount.assetCode, lineKind)
      ∧ ∀ revision currentLines category ids effectiveAt command,
        ledgerSetTransactionCategory entry revision currentLines category ids effectiveAt
            = .ok (some command) →
          command.lines.map (fun line => (line.assetCode, line.units.1))
            = [(amount.assetCode, sideUnits postings .debit amount.assetCode)])
      ↔ 10 ^ (places (sideUnits postings .debit amount.assetCode) - decimalPrecision)
        ∣ sideUnits postings .debit amount.assetCode := by
  have hRead := entryCategoryAllocation_eq hAmount hEntry hKind
  rw [← Decimal.roundedNat_eq_self_iff]
  constructor
  · rintro ⟨hExact, -⟩
    have hSame := Except.ok.inj (hRead.symm.trans hExact)
    exact (Prod.mk.inj (Prod.mk.inj hSame).2).1
  · intro hExact
    rw [hExact] at hRead
    exact ⟨hRead, fun _ _ _ _ _ _ h => lines_of_command hRead h⟩

end Allocation

/-! ### An expense of 29 digits -/

/-- An expense of one asset without decimals. -/
def sampleExpenseEntry (units : Nat) : EverydayEntryView where
  entryId := 1
  transactionId := 1
  kind := .expense
  amount := some ⟨String.ofList (Nat.toDigits 10 units), ⟨"TWD", rfl⟩, 0⟩
  amountAvailability := .available
  sourceAccount := none
  targetAccount := none
  paymentAccount := none
  accountDisplayAvailability := .unavailable
  categoryAllocations := []
  categoryAvailability := .unavailable
  occurredAt := hashPlaceholderRecordedAt
  originalTransactionId := none
  reversedByTransactionId := none
  reversesTransactionId := none
  relationshipAvailability := .notApplicable
  narrative := ⟨.absent, none, none⟩
  rawJournal := ⟨1, 1, .standard⟩

def sampleExpensePostings (units : Nat) : List JournalPosting :=
  [⟨1, 0, 1, ⟨"TWD", rfl⟩, .debit, units⟩, ⟨2, 1, 2, ⟨"TWD", rfl⟩, .credit, units⟩]

def sampleExpenseAssets : List AssetFact := [⟨⟨"TWD", rfl⟩, 0⟩]

theorem categoryAssignment_exact_sample :
    entryCategoryAllocation (sampleExpenseEntry (10 ^ 30))
      = .ok (⟨"TWD", rfl⟩, 10 ^ 30, .expense) := by
  have hAmount : transactionAmount (sampleExpensePostings (10 ^ 30)) sampleExpenseAssets
      = .ok (sampleExpenseEntry (10 ^ 30)).amount := by decide
  exact ((categoryAssignment_exact_iff hAmount rfl rfl).2 (by decide)).1

/-- Of 10000000000000000000000000001 units the tool assigns all but one. -/
theorem categoryAssignment_rounds :
    ¬ ∀ (postings : List JournalPosting) (assets : List AssetFact) (amount : AssetUnitAmount)
      (entry : EverydayEntryView) (lineKind : ReportingLineKind),
      transactionAmount postings assets = .ok (some amount) → entry.amount = some amount →
      categoryLineKind entry.kind = some lineKind →
      sideUnits postings .debit amount.assetCode < 10 ^ 38 →
        entryCategoryAllocation entry
          = .ok (amount.assetCode, sideUnits postings .debit amount.assetCode, lineKind) := by
  intro hExact
  have hAmount : transactionAmount (sampleExpensePostings (10 ^ 28 + 1)) sampleExpenseAssets
      = .ok (sampleExpenseEntry (10 ^ 28 + 1)).amount := by decide
  have hFull := hExact _ _ _ (sampleExpenseEntry (10 ^ 28 + 1)) _ hAmount rfl rfl
    (by decide)
  exact absurd hFull (by decide +kernel)

end TrackAnywhere.Ports
