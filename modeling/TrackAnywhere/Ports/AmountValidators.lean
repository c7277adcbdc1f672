import TrackAnywhere.Ports.ScaledUnits

/-!
# Amounts as commands and entries state them

Four commands check that an amount is a positive plain decimal, each with a copy
of one test: the text matches the grammar, and is not empty or `0` once trailing
zeros and then trailing points are stripped.  Two readers then turn an amount
into ledger units: `AssetPolicy.parse_online` for the commands, and
`normalize_amount` for the entries, which also reads amounts in minor units.
-/

namespace TrackAnywhere.Ports

open TrackAnywhere.Verified
open TrackAnywhere.Verified.Checked
open TrackAnywhere.Verified.FixedPoint

/-! ## The positive decimals -/

/-- The check that the four commands share, on a field of a name. -/
def requirePositiveDecimal (name value : String) : Except String Unit :=
  require (positivePlainDecimal value)
    (name ++ " must be a positive unsigned plain-decimal string")

/-- `MoneyInput.validate_positive_plain_decimal` -/
def MoneyInput.validatePositivePlainDecimal (value : String) : Except String Unit :=
  requirePositiveDecimal "value" value

/-- The amount of `CreditCardCommand`. -/
def CreditCardCommand.validateAmount (amount : String) : Except String Unit :=
  requirePositiveDecimal "amount" amount

/-- The amount of `SimpleTransactionCommand`. -/
def SimpleTransactionCommand.validateAmount (amount : String) : Except String Unit :=
  requirePositiveDecimal "amount" amount

/-- The fee of `RecordFxCreditCardPaymentCommand`. -/
def RecordFxCreditCardPaymentCommand.validateFeeAmount (feeAmount : String) :
    Except String Unit :=
  requirePositiveDecimal "fee_amount" feeAmount

/-- The copies of the check. -/
def positiveDecimalChecks : List (String → Except String Unit) :=
  [MoneyInput.validatePositivePlainDecimal, CreditCardCommand.validateAmount,
    SimpleTransactionCommand.validateAmount, RecordFxCreditCardPaymentCommand.validateFeeAmount]

/-- A zero with two digits or more before its point. -/
def paddedZero (value : String) : Bool :=
  decide (2 ≤ (partitionDot value).1.length) && (partitionDot value).1.all (· = '0')
    && (partitionDot value).2.any fun digits => !digits.isEmpty && digits.all (· = '0')

section Positive

variable {value : String} {whole fraction : List Char}

/-- Stripping stops at once behind a character that is not stripped. -/
theorem rstripWhile_eq_self {p : Char → Bool} {cs : List Char}
    (h : ∀ c ∈ cs.getLast?, p c = false) : rstripWhile p cs = cs := by
  unfold rstripWhile
  rw [← List.head?_reverse] at h
  cases hReverse : cs.reverse with
  | nil =>
      rw [List.reverse_eq_nil_iff.1 hReverse]
      rfl
  | cons c rest =>
      rw [hReverse] at h
      rw [List.dropWhile_cons_of_neg (by simp [h c rfl]), ← hReverse, List.reverse_reverse]

/-- No point is stripped from digits. -/
theorem rstripDots_digits (h : Digits whole) : rstripWhile (· = '.') whole = whole := by
  apply rstripWhile_eq_self
  intro c hc
  exact decide_eq_false fun hDot => dot_notMem h (hDot ▸ List.mem_of_getLast? hc)

theorem digits_trimmed_of_digits (h : Digits whole) : Digits (trimmed whole) := by
  obtain ⟨k, hZeros⟩ := trimmed_append_zeros whole
  rw [hZeros] at h
  exact (digits_append_iff.1 h).1

/-- The text that the test compares with the empty text and with `0`. -/
def strippedDecimal (cs : List Char) : List Char := rstripWhile (· = '.') (trimmed cs)

theorem strippedDecimal_whole (h : Digits whole) : strippedDecimal whole = trimmed whole :=
  rstripDots_digits (digits_trimmed_of_digits h)

theorem trimmed_eq_nil_iff {cs : List Char} : trimmed cs = [] ↔ ∀ c ∈ cs, c = '0' := by
  rw [trimmed, List.reverse_eq_nil_iff, List.dropWhile_eq_nil_iff]
  simp

/-- Decimals that are not all zero keep the point. -/
theorem strippedDecimal_point (whole : List Char) (hFraction : Digits fraction)
    (h : trimmed fraction ≠ []) :
    '.' ∈ strippedDecimal (whole ++ '.' :: fraction) := by
  have hTrimmed : trimmed (whole ++ '.' :: fraction) = whole ++ '.' :: trimmed fraction := by
    have hNil : (fraction.reverse.dropWhile (fun c => decide (c = '0'))).isEmpty = false := by
      rw [List.isEmpty_eq_false_iff]
      exact fun hEmpty => h (List.reverse_eq_nil_iff.2 hEmpty)
    rw [trimmed, List.reverse_append, List.reverse_cons, List.append_assoc,
      List.dropWhile_append, hNil]
    simp [trimmed]
  have hLast : (whole ++ '.' :: trimmed fraction).getLast? = (trimmed fraction).getLast? := by
    rw [List.getLast?_append, List.getLast?_cons]
    rw [List.getLast?_eq_some_getLast h]
    rfl
  rw [strippedDecimal, hTrimmed, rstripWhile_eq_self]
  · exact List.mem_append_right _ List.mem_cons_self
  · intro c hc
    rw [hLast] at hc
    exact decide_eq_false fun hDot =>
      dot_notMem (digits_trimmed_of_digits hFraction) (hDot ▸ List.mem_of_getLast? hc)

/-- Decimals that are all zero are stripped, and the point before them. -/
theorem strippedDecimal_zeros (hWhole : Digits whole) (h : trimmed fraction = []) :
    strippedDecimal (whole ++ '.' :: fraction) = whole := by
  have hTrimmed : trimmed (whole ++ '.' :: fraction) = whole ++ ['.'] := by
    have hNil : (fraction.reverse.dropWhile (fun c => decide (c = '0'))) = [] :=
      List.reverse_eq_nil_iff.1 h
    rw [trimmed, List.reverse_append, List.reverse_cons, List.append_assoc,
      List.dropWhile_append, hNil]
    simp
  rw [strippedDecimal, hTrimmed, rstripWhile, List.reverse_append]
  exact rstripDots_digits hWhole

theorem toList_partitionDot (value : String) :
    value.toList = (partitionDot value).1
      ++ (partitionDot value).2.elim [] fun fraction => '.' :: fraction := by
  have hSplit := (List.takeWhile_append_dropWhile (p := fun c => decide (c ≠ '.'))
    (l := value.toList)).symm
  unfold partitionDot
  cases hDrop : value.toList.dropWhile (fun c => decide (c ≠ '.')) with
  | nil =>
      rw [hDrop] at hSplit
      exact hSplit
  | cons c rest =>
      have hHead := List.head?_dropWhile_not (fun c : Char => decide (c ≠ '.')) value.toList
      rw [hDrop] at hHead
      have hDot : c = '.' := by simpa using hHead
      rw [hDrop, hDot] at hSplit
      exact hSplit

theorem positivePlainDecimal_iff (h : plainDecimal value = true) :
    positivePlainDecimal value = true
      ↔ strippedDecimal value.toList ≠ [] ∧ strippedDecimal value.toList ≠ ['0'] := by
  have hText : ∀ cs : List Char, String.ofList cs = "" ↔ cs = [] := by
    intro cs
    rw [← String.ofList_nil, String.ofList_inj]
  have hZero : ∀ cs : List Char, String.ofList cs = "0" ↔ cs = ['0'] := by
    intro cs
    rw [show ("0" : String) = String.ofList ['0'] from rfl, String.ofList_inj]
  unfold positivePlainDecimal
  rw [h, Bool.true_and]
  show (!(["", "0"].contains (String.ofList (strippedDecimal value.toList)))) = true ↔ _
  simp [hText, hZero]

theorem paddedZero_iff : paddedZero value = true
    ↔ 2 ≤ (partitionDot value).1.length ∧ (∀ c ∈ (partitionDot value).1, c = '0')
      ∧ ∃ digits ∈ (partitionDot value).2, digits ≠ [] ∧ ∀ c ∈ digits, c = '0' := by
  unfold paddedZero
  simp [Option.any_eq_true, and_assoc]

/-- The test accepts the positive decimals, and the zeros padded before a point. -/
theorem positivePlainDecimal_accepts (h : plainDecimal value = true) :
    positivePlainDecimal value = true ↔ 0 < decimalValue value ∨ paddedZero value = true := by
  obtain ⟨hNonempty, hWhole, hFractions⟩ := plainDecimal_iff.1 h
  have hDigits := digits_of_plainDecimal h
  have hZeros := units_eq_zero hDigits
  rw [positivePlainDecimal_iff h, decimalValue, quotient_pos, toList_partitionDot,
    paddedZero_iff, ne_eq, ne_eq, ne_eq, hZeros]
  cases hRun : (partitionDot value).2 with
  | none =>
      -- digits alone: what is left does not end in a zero
      have hLast := trimmed_getLast (partitionDot value).1
      rw [Option.elim_none, List.append_nil, Option.getD_none, List.append_nil,
        strippedDecimal_whole hWhole, trimmed_eq_nil_iff]
      constructor
      · exact fun hLeft => .inl hLeft.1
      · rintro (hPositive | ⟨-, -, digits, hNone, -⟩)
        · refine ⟨hPositive, ?_⟩
          intro hOne
          rw [hOne] at hLast
          exact hLast rfl
        · cases hNone
  | some fraction =>
      obtain ⟨hSome, hDecimals⟩ := hFractions fraction hRun
      rw [Option.elim_some, Option.getD_some]
      by_cases hTrimmed : trimmed fraction = []
      · have hFraction := trimmed_eq_nil_iff.1 hTrimmed
        rw [strippedDecimal_zeros hWhole hTrimmed]
        have hAll : (∀ c ∈ (partitionDot value).1 ++ fraction, c = '0')
            ↔ ∀ c ∈ (partitionDot value).1, c = '0' := by
          rw [List.forall_mem_append]
          exact and_iff_left hFraction
        rw [hAll]
        have hPadded : (∃ digits ∈ some fraction, digits ≠ [] ∧ ∀ c ∈ digits, c = '0') :=
          ⟨fraction, rfl, hSome, hFraction⟩
        constructor
        · rintro ⟨-, hNotZero⟩
          by_cases hWholeZeros : ∀ c ∈ (partitionDot value).1, c = '0'
          · refine .inr ⟨?_, hWholeZeros, hPadded⟩
            -- one zero before the point is the text `0`
            by_contra hShort
            have hPos := List.length_pos_iff.2 hNonempty
            have hOne : (partitionDot value).1.length = 1 := by omega
            have hReplicate := List.eq_replicate_of_mem hWholeZeros
            rw [hOne] at hReplicate
            exact hNotZero hReplicate
          · exact .inl hWholeZeros
        · rintro (hPositive | ⟨hLong, -⟩)
          · refine ⟨hNonempty, ?_⟩
            intro hZero
            rw [hZero] at hPositive
            exact hPositive fun c hc => List.mem_singleton.1 hc
          · refine ⟨hNonempty, ?_⟩
            intro hZero
            rw [hZero] at hLong
            exact absurd hLong (by decide)
      · have hDot := strippedDecimal_point (partitionDot value).1 hDecimals hTrimmed
        have hNotZeros : ¬ ∀ c ∈ (partitionDot value).1 ++ fraction, c = '0' := fun hAll =>
          hTrimmed (trimmed_eq_nil_iff.2 fun c hc => hAll c (List.mem_append_right _ hc))
        refine iff_of_true ⟨?_, ?_⟩ (.inl hNotZeros)
        · intro hNil
          rw [hNil] at hDot
          cases hDot
        · intro hZero
          rw [hZero] at hDot
          exact absurd hDot (by decide)

/-- A padded zero is a plain decimal of no value. -/
theorem paddedZero_value (h : paddedZero value = true) :
    plainDecimal value = true ∧ decimalValue value = 0 := by
  obtain ⟨hLong, hWhole, fraction, hRun, hNonempty, hFraction⟩ := paddedZero_iff.1 h
  have hRun : (partitionDot value).2 = some fraction := hRun
  have hDigits : ∀ {cs : List Char}, (∀ c ∈ cs, c = '0') → Digits cs := by
    intro cs hZeros c hc
    rw [hZeros c hc]
    rfl
  constructor
  · rw [plainDecimal_iff, hRun]
    refine ⟨?_, hDigits hWhole, ?_⟩
    · intro hNil
      rw [hNil] at hLong
      exact absurd hLong (by decide)
    · intro other hOther
      cases hOther
      exact ⟨hNonempty, hDigits hFraction⟩
  · have hAll : ∀ c ∈ (partitionDot value).1 ++ fraction, c = '0' :=
      List.forall_mem_append.2 ⟨hWhole, hFraction⟩
    rw [decimalValue, hRun, Option.getD_some, quotient,
      (units_eq_zero (hDigits hAll)).2 hAll, Nat.cast_zero, zero_div]

theorem check_eq_ok {check : String → Except String Unit}
    (hCheck : check ∈ positiveDecimalChecks) :
    check value = .ok () ↔ positivePlainDecimal value = true := by
  simp only [positiveDecimalChecks, List.mem_cons, List.not_mem_nil, or_false] at hCheck
  rcases hCheck with rfl | rfl | rfl | rfl <;> exact require_eq_ok

/-- On a plain decimal each check accepts exactly the positive ones, unless the
text is a zero padded before its point; and the checks agree with one another. -/
theorem positiveDecimal_accepts_iff (value : String) :
    (∀ check ∈ positiveDecimalChecks,
      (check value = .ok () ↔ plainDecimal value = true ∧ 0 < decimalValue value)
        ↔ ¬ paddedZero value = true)
      ∧ ∀ check ∈ positiveDecimalChecks, ∀ other ∈ positiveDecimalChecks,
        check value = .ok () ↔ other value = .ok () := by
  refine ⟨?_, ?_⟩
  · intro check hCheck
    rw [check_eq_ok hCheck]
    constructor
    · intro hExact hPadded
      obtain ⟨hPlain, hZero⟩ := paddedZero_value hPadded
      have hAccepted := (positivePlainDecimal_accepts hPlain).2 (.inr hPadded)
      exact (hExact.1 hAccepted).2.ne' hZero
    · intro hPadded
      constructor
      · intro hAccepted
        have hPlain : plainDecimal value = true := by
          unfold positivePlainDecimal at hAccepted
          exact (Bool.and_eq_true_iff.1 hAccepted).1
        exact ⟨hPlain,
          ((positivePlainDecimal_accepts hPlain).1 hAccepted).resolve_right hPadded⟩
      · rintro ⟨hPlain, hPositive⟩
        exact (positivePlainDecimal_accepts hPlain).2 (.inl hPositive)
  · intro check hCheck other hOther
    rw [check_eq_ok hCheck, check_eq_ok hOther]

/-- `00.0` is accepted, and is zero. -/
theorem positiveDecimal_accepts_zero :
    plainDecimal "00.0" = true ∧ ¬ (MoneyInput.validatePositivePlainDecimal "00.0" = .ok ()
      ↔ 0 < decimalValue "00.0") := by
  have hPadded : paddedZero "00.0" = true := by decide
  obtain ⟨hPlain, hZero⟩ := paddedZero_value hPadded
  refine ⟨hPlain, ?_⟩
  intro hExact
  have hCheck : MoneyInput.validatePositivePlainDecimal ∈ positiveDecimalChecks :=
    List.mem_cons_self
  have hAccepted := (check_eq_ok hCheck).2
    ((positivePlainDecimal_accepts hPlain).2 (.inr hPadded))
  exact (hExact.1 hAccepted).ne' hZero

end Positive

/-! ## The two readers -/

/-- The policy of an asset, as the commands read it. -/
def EntryAsset.policy (asset : EntryAsset) : AssetPolicy :=
  ⟨asset.inputScale, asset.ledgerScale, asset.hScale⟩

/-- The asset, with the input scale of its ledger scale. -/
def EntryAsset.exactInput (asset : EntryAsset) : EntryAsset :=
  { asset with
    inputScale := asset.ledgerScale
    hScale := ⟨le_rfl, asset.hScale.2⟩ }

/-- A plain decimal shifted right by some places; any other text stays. -/
def shiftRight (places : Nat) (value : String) : String :=
  if plainDecimal value then
    let whole := (partitionDot value).1.leftpad (places + 1) '0'
    joinDot (whole.take (whole.length - places))
      (whole.drop (whole.length - places) ++ (partitionDot value).2.getD [])
  else value

/-- The entry gateway reads an amount as this number of units. -/
def Normalizes (u : UnicodeTables) (amount : AmountFields) (asset : EntryAsset) (n : Nat) :
    Prop :=
  ∃ normalized, normalizeAmount u amount asset false = .ok normalized ∧ normalized.units = n

section Readers

variable {u : UnicodeTables} {amount : AmountFields} {asset : EntryAsset} {n : Nat}
  {value : String} {places scale : Nat}

theorem normalizeAmount_ok {allowZero : Bool} {normalized : NormalizedAmount} :
    normalizeAmount u amount asset allowZero = .ok normalized
      ↔ amount.assetCode = asset.assetCode ∧ asset.status = "active"
        ∧ validateAmountSourceConsistency u amount = .ok ()
        ∧ ∃ scales, denominationScales asset amount.denomination = .ok scales
          ∧ parseNonNegative amount.value scales.1 scales.2 allowZero = .ok normalized.units
          ∧ normalized = ⟨normalized.units, asset.ledgerScale, asset.assetCode⟩ := by
  unfold normalizeAmount
  simp only [bind_eq_ok, require_eq_ok, exists_const, mapError_eq_ok, pure_eq_ok]
  constructor
  · rintro ⟨hAsset, hActive, ⟨⟩, hSource, scales, hScales, units, hUnits, -, rfl⟩
    exact ⟨hAsset, hActive, hSource, scales, hScales, hUnits, rfl⟩
  · rintro ⟨hAsset, hActive, hSource, scales, hScales, hUnits, hNormalized⟩
    exact ⟨hAsset, hActive, (), hSource, scales, hScales, _, hUnits,
      (parseNonNegative_ok.1 hUnits).2.2.2.1, hNormalized.symm⟩

/-- The decimals of the input are among those of the units. -/
theorem denominationScales_le {denomination : MoneyDenomination} {scales : Nat × Nat}
    (h : denominationScales asset denomination = .ok scales) : scales.2 ≤ scales.1 := by
  unfold denominationScales at h
  split at h
  · cases h
    exact asset.hScale.1
  · split at h
    · split_ifs at h
      cases h
      exact le_rfl
    · exact nomatch h

/-- The units are those of the value that the text denotes. -/
theorem normalizeAmount_value {allowZero : Bool} {normalized : NormalizedAmount}
    (h : normalizeAmount u amount asset allowZero = .ok normalized) :
    ∃ scales, denominationScales asset amount.denomination = .ok scales
      ∧ (normalized.units : ℚ) = decimalValue amount.value * 10 ^ scales.1 := by
  obtain ⟨-, -, -, scales, hScales, hUnits, -⟩ := normalizeAmount_ok.1 h
  obtain ⟨-, hFraction, -, -, hValue⟩ := parseNonNegative_ok.1 hUnits
  refine ⟨scales, hScales, ?_⟩
  rw [hValue]
  exact unitsAt_eq (hFraction.trans (denominationScales_le hScales))

/-- An amount of a matching, active asset is read at the scales of its
denomination. -/
theorem normalizes_iff {scales : Nat × Nat} (hAsset : amount.assetCode = asset.assetCode)
    (hActive : asset.status = "active")
    (hSource : validateAmountSourceConsistency u amount = .ok ())
    (hScales : denominationScales asset amount.denomination = .ok scales) :
    Normalizes u amount asset n
      ↔ parseNonNegative amount.value scales.1 scales.2 false = .ok n := by
  constructor
  · rintro ⟨normalized, hNormalized, rfl⟩
    obtain ⟨-, -, -, others, hOthers, hUnits, -⟩ := normalizeAmount_ok.1 hNormalized
    rw [hScales] at hOthers
    cases hOthers
    exact hUnits
  · intro hUnits
    exact ⟨⟨n, asset.ledgerScale, asset.assetCode⟩,
      normalizeAmount_ok.2 ⟨hAsset, hActive, hSource, scales, hScales, hUnits, rfl⟩, rfl⟩

/-- The entry gateway and `ScaledUnits` read alike at the same scales. -/
theorem parseNonNegative_iff_parse {maxInputScale : Nat}
    (hScale : maxInputScale ≤ scale ∧ scale ≤ 30) :
    parseNonNegative value scale maxInputScale false = .ok n
      ↔ ∃ parsed, ScaledUnits.parse value scale maxInputScale = .ok parsed
        ∧ parsed.units.1 = n := by
  rw [parseNonNegative_ok]
  constructor
  · rintro ⟨hPlain, hFraction, hPositive, hRange, hUnits⟩
    have hNonzero : n ≠ 0 := hPositive.resolve_right Bool.false_ne_true
    exact ⟨⟨⟨n, Nat.pos_of_ne_zero hNonzero, hRange⟩, scale, hScale.2⟩,
      ScaledUnits.parse_ok.2 ⟨hScale, hPlain, hFraction, hUnits, rfl⟩, rfl⟩
  · rintro ⟨parsed, hParsed, rfl⟩
    obtain ⟨-, hPlain, hFraction, hUnits, -⟩ := ScaledUnits.parse_ok.1 hParsed
    exact ⟨hPlain, hFraction, .inl parsed.units.2.1.ne', parsed.units.2.2, hUnits⟩

/-- The runs of a shifted decimal. -/
theorem partitionDot_shiftRight (places : Nat) (h : plainDecimal value = true) :
    (partitionDot (shiftRight places value)).1
        = wholePart places (padLeft (places + 1) (partitionDot value).1)
      ∧ (partitionDot (shiftRight places value)).2.getD []
        = fractionPart places (padLeft (places + 1) (partitionDot value).1)
          ++ (partitionDot value).2.getD [] := by
  have hWhole := (digits_append_iff.1 (digits_of_plainDecimal h)).1
  have hParts := (hWhole.padLeft (places + 1)).parts places
  unfold shiftRight
  rw [if_pos h]
  exact partitionDot_joinDot hParts.1 _

theorem plainDecimal_shiftRight :
    plainDecimal (shiftRight places value) = true ↔ plainDecimal value = true := by
  by_cases h : plainDecimal value = true
  · refine iff_of_true ?_ h
    have hDigits := digits_of_plainDecimal h
    obtain ⟨hWhole, hFraction⟩ := digits_append_iff.1 hDigits
    have hParts := (hWhole.padLeft (places + 1)).parts places
    unfold shiftRight
    rw [if_pos h]
    apply plainDecimal_joinDot
    · intro hNil
      have hLength := congrArg List.length hNil
      rw [List.length_take, leftpad_eq, padLeft, List.length_append,
        List.length_replicate, List.length_nil] at hLength
      omega
    · exact hParts.1.append (hParts.2.append hFraction)
  · unfold shiftRight
    rw [if_neg h]

theorem length_fractionPart_padLeft (places : Nat) (cs : List Char) :
    (fractionPart places (padLeft (places + 1) cs)).length = places := by
  rw [fractionPart, List.length_drop, padLeft, List.length_append, List.length_replicate]
  omega

theorem fractionLength_shiftRight (places : Nat) (h : plainDecimal value = true) :
    fractionLength (shiftRight places value) = places + fractionLength value := by
  rw [fractionLength, (partitionDot_shiftRight places h).2, List.length_append,
    length_fractionPart_padLeft]
  rfl

/-- Shifted by some places, a decimal has at a scale the units that it had with
so many decimals fewer. -/
theorem unitsAt_shiftRight (h : plainDecimal value = true) :
    unitsAt scale (shiftRight places value) = unitsAt (scale - places) value := by
  obtain ⟨hWhole, hFraction⟩ := partitionDot_shiftRight places h
  have hPad : ∀ fraction : List Char,
      padRight scale (fractionPart places (padLeft (places + 1) (partitionDot value).1)
          ++ fraction)
        = fractionPart places (padLeft (places + 1) (partitionDot value).1)
          ++ padRight (scale - places) fraction := by
    intro fraction
    rw [padRight, padRight, List.length_append, length_fractionPart_padLeft,
      List.append_assoc, Nat.sub_add_eq]
  rw [unitsAt, hWhole, hFraction, hPad, ← List.append_assoc, wholePart_append_fractionPart,
    units_append, units_padLeft, ← units_append]
  rfl

/-- On an active asset that matches, with a source text that does not contradict
the denomination: an amount in asset units is read as the commands read it, and an
amount in minor units as the amount in asset units that it is when it is shifted
by the minor-unit scale, under the input scale of the ledger. -/
theorem normalizeAmount_agrees_with_parseOnline
    (hAsset : amount.assetCode = asset.assetCode) (hActive : asset.status = "active")
    (hSource : validateAmountSourceConsistency u amount = .ok ()) :
    (amount.denomination = .assetUnit → ∀ n, Normalizes u amount asset n
      ↔ ∃ parsed, asset.policy.parseOnline amount.value = .ok parsed ∧ parsed.units.1 = n)
      ∧ ∀ minorUnitScale, amount.denomination = .minorUnit → asset.kind = "fiat" →
        asset.minorUnitScale = some minorUnitScale → ∀ shifted : AmountFields,
          shifted.value = shiftRight minorUnitScale amount.value →
          shifted.denomination = .assetUnit → shifted.assetCode = asset.assetCode →
          validateAmountSourceConsistency u shifted = .ok () →
          ∀ n, Normalizes u amount asset n ↔ Normalizes u shifted asset.exactInput n := by
  refine ⟨?_, ?_⟩
  · intro hUnit n
    have hScales : denominationScales asset amount.denomination
        = .ok (asset.ledgerScale, asset.inputScale) := by
      rw [hUnit]
      rfl
    rw [normalizes_iff hAsset hActive hSource hScales]
    exact parseNonNegative_iff_parse asset.hScale
  · intro minorUnitScale hMinor hFiat hScale shifted hValue hUnit hCode hShifted n
    have hScales : denominationScales asset amount.denomination
        = .ok (asset.ledgerScale - minorUnitScale, asset.ledgerScale - minorUnitScale) := by
      rw [hMinor, denominationScales, hScale]
      exact if_pos hFiat
    have hExact : denominationScales asset.exactInput shifted.denomination
        = .ok (asset.ledgerScale, asset.ledgerScale) := by
      rw [hUnit]
      rfl
    have hBound := asset.hMinor minorUnitScale hScale
    have hExactCode : shifted.assetCode = asset.exactInput.assetCode := hCode
    have hExactActive : asset.exactInput.status = "active" := hActive
    have hExactIff := normalizes_iff (n := n) hExactCode hExactActive hShifted hExact
    refine (normalizes_iff hAsset hActive hSource hScales).trans (Iff.trans ?_ hExactIff.symm)
    rw [parseNonNegative_ok, parseNonNegative_ok, hValue, plainDecimal_shiftRight]
    constructor
    · rintro ⟨hPlain, hFraction, hRest⟩
      rw [fractionLength_shiftRight _ hPlain, unitsAt_shiftRight hPlain]
      exact ⟨hPlain, by omega, hRest⟩
    · rintro ⟨hPlain, hFraction, hRest⟩
      rw [fractionLength_shiftRight _ hPlain] at hFraction
      rw [unitsAt_shiftRight hPlain] at hRest
      exact ⟨hPlain, by omega, hRest⟩

end Readers

/-! ### A sample amount -/

/-- Tables that fold ASCII text only, and know the ASCII digits. -/
def sampleUnicode : UnicodeTables := ⟨String.toLower, isDigit⟩

/-- A currency of four decimals, two of them for input, with cents. -/
def sampleCurrency : EntryAsset where
  assetCode := sampleAsset
  kind := "fiat"
  ledgerScale := 4
  inputScale := 2
  minorUnitScale := some 2
  status := "active"
  hScale := by decide
  hMinor := by decide

/-- 1250 cents. -/
def sampleCents : AmountFields := ⟨"1250", .minorUnit, sampleAsset, "1250 Cents"⟩

/-- 12.50 in asset units. -/
def sampleUnits : AmountFields := ⟨"12.50", .assetUnit, sampleAsset, "12.50"⟩

theorem normalizeAmount_agrees_with_parseOnline_sample :
    (Normalizes sampleUnicode sampleUnits sampleCurrency 125000
        ↔ ∃ parsed, sampleCurrency.policy.parseOnline "12.50" = .ok parsed
          ∧ parsed.units.1 = 125000)
      ∧ (Normalizes sampleUnicode sampleCents sampleCurrency 125000
        ↔ Normalizes sampleUnicode sampleUnits sampleCurrency.exactInput 125000) :=
  ⟨(normalizeAmount_agrees_with_parseOnline rfl rfl (by decide +kernel)).1 rfl 125000,
    (normalizeAmount_agrees_with_parseOnline rfl rfl (by decide +kernel)).2 2 rfl rfl rfl
      sampleUnits (by decide +kernel) rfl rfl (by decide +kernel) 125000⟩

example : normalizeAmount sampleUnicode sampleCents sampleCurrency false
    = .ok ⟨125000, 4, sampleAsset⟩ := by
  decide +kernel

end TrackAnywhere.Ports
