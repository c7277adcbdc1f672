import TrackAnywhere.Ports.EntryResolution
import TrackAnywhere.Ports.EverydayEntries
import TrackAnywhere.Ports.JournalCursor
import TrackAnywhere.Verified.FixedPoint

/-!
# Fixed-point amounts

`ScaledUnits` reads an amount at the scale of an asset and writes units as a
decimal without trailing zeros.  The everyday query writes units with every
decimal of the scale (`formatUnits`) and reads them back (`parseFixedUnits`);
the entry gateway has a pair of its own (`Gateway.formatUnits`,
`Gateway.parseUnits`).
-/

namespace TrackAnywhere.Ports

open TrackAnywhere.Verified
open TrackAnywhere.Verified.Checked
open TrackAnywhere.Verified.FixedPoint

/-! ## `ScaledUnits` -/

/-- The members of `MoneyError`; the amount a text shows is not repeated. -/
inductive MoneyError
  | invalidAmountFormat
  | amountScaleExceeded (maxInputScale : Nat)
  | amountOutOfRange
  | invalidScale (message : String)
deriving DecidableEq

def MoneyError.message : MoneyError → String
  | invalidAmountFormat => "amount must be an unsigned plain-decimal string"
  | amountScaleExceeded maxInputScale =>
      s!"amount exceeds the permitted input scale of {maxInputScale}"
  | amountOutOfRange => "amount units must be positive and contain at most 38 digits"
  | invalidScale message => message

/-- `_validate_scale` -/
def validateScale (scale : Nat) (label : String) : Except MoneyError Unit :=
  require (scale ≤ 30) (.invalidScale (label ++ " must be an integer between 0 and 30"))

structure ScaledUnits where
  units : CanonicalUnits
  scale : Nat
  hScale : scale ≤ 30

namespace ScaledUnits

/-- The constructor, with its checks. -/
def make (units scale : Nat) : Except MoneyError ScaledUnits :=
  if hScale : scale ≤ 30 then
    if h : 0 < units ∧ units < 10 ^ 38 then .ok ⟨⟨units, h⟩, scale, hScale⟩
    else .error .amountOutOfRange
  else .error (.invalidScale "scale must be an integer between 0 and 30")

def parse (raw : String) (scale maxInputScale : Nat) : Except MoneyError ScaledUnits := do
  validateScale scale "scale"
  validateScale maxInputScale "max_input_scale"
  require (maxInputScale ≤ scale) (.invalidScale "max_input_scale cannot exceed scale")
  require (plainDecimal raw) .invalidAmountFormat
  let whole := (partitionDot raw).1
  let fraction := (partitionDot raw).2.getD []
  require (fraction.length ≤ maxInputScale) (.amountScaleExceeded maxInputScale)
  let digits := whole ++ ljustZeros scale fraction
  let significantDigits := digits.dropWhile (· = '0')
  require (significantDigits ≠ [] ∧ significantDigits.length ≤ 38) .amountOutOfRange
  make (digitsValue significantDigits) scale

/-- The text of units at a scale, without trailing zeros. -/
def decode (self : ScaledUnits) : String :=
  if self.scale = 0 then String.ofList (Nat.toDigits 10 self.units.1)
  else
    let digits := (Nat.toDigits 10 self.units.1).leftpad (self.scale + 1) '0'
    let whole := digits.take (digits.length - self.scale)
    let fraction := rstripWhile (· = '0') (digits.drop (digits.length - self.scale))
    if fraction = [] then String.ofList whole else String.ofList (whole ++ '.' :: fraction)

end ScaledUnits

structure AssetPolicy where
  inputScale : Nat
  ledgerScale : Nat
  hScale : inputScale ≤ ledgerScale ∧ ledgerScale ≤ 30

def AssetPolicy.parseOnline (self : AssetPolicy) (raw : String) :
    Except MoneyError ScaledUnits :=
  ScaledUnits.parse raw self.ledgerScale self.inputScale

/-! ## The writers and readers of the gateway and of the query -/

namespace Gateway

/-- `_format_units` of the gateway -/
def formatUnits (units : Int) (scale : Nat) : String :=
  let digits := (renderInt units).leftpad (scale + 1) '0'
  if scale = 0 then String.ofList digits
  else String.ofList (digits.take (digits.length - scale) ++ '.'
    :: digits.drop (digits.length - scale))

/-- `_parse_units`: the errors are those of the scale and of `int`. -/
def parseUnits (value : String) (scale : Nat) : Except String Int := do
  let whole := (partitionDot value).1
  let fraction := (partitionDot value).2.getD []
  require (fraction.length ≤ scale) "read-model amount exceeds its scale"
  fetch (readInt (whole ++ ljustZeros scale fraction)) "invalid literal for int"

end Gateway

/-- `_parse_fixed_units` -/
def parseFixedUnits (value : String) (scale : Nat) : Except String Int :=
  let whole := (partitionDot value).1
  if scale = 0 then do
    require ((partitionDot value).2 = none) "zero-scale amount cannot contain a fraction"
    fetch (readInt whole) "invalid literal for int"
  else do
    let fraction ← fetch ((partitionDot value).2.filter fun f => f.length = scale)
      "amount does not match its exact scale"
    fetch (readInt (whole ++ fraction)) "invalid literal for int"

/-! ## The number that a text denotes -/

/-- The value of a plain decimal. -/
def decimalValue (s : String) : ℚ :=
  quotient (partitionDot s).1 ((partitionDot s).2.getD [])

/-- The text of two runs: a point stands between them when there is a fraction. -/
def joinDot (whole fraction : List Char) : String :=
  if fraction = [] then String.ofList whole else String.ofList (whole ++ '.' :: fraction)

/-- The canonical texts: digits without needless zeros on either side. -/
def CanonicalDecimal (s : String) : Prop :=
  plainDecimal s ∧ ((partitionDot s).1.head? = some '0' → (partitionDot s).1.length = 1)
    ∧ ((partitionDot s).2.getD []).getLast? ≠ some '0'

section Runs

variable {whole fraction : List Char} {s : String}

theorem isDigit_iff {c : Char} : isDigit c = true ↔ c.isDigit = true := by
  simp [isDigit, Char.isDigit, Char.le_def]

theorem digits_of_all {cs : List Char} : cs.all isDigit = true ↔ Digits cs := by
  rw [List.all_eq_true]
  exact forall₂_congr fun c _ => isDigit_iff

theorem ljustZeros_eq (width : Nat) (cs : List Char) :
    ljustZeros width cs = padRight width cs := rfl

theorem leftpad_eq (width : Nat) (cs : List Char) :
    cs.leftpad width '0' = padLeft width cs := rfl

/-- A digit is not the point. -/
theorem dot_notMem {cs : List Char} (h : Digits cs) : '.' ∉ cs := by
  intro hMem
  exact absurd (h '.' hMem) (by decide)

/-- A plain decimal is two runs of digits, the second not empty if it is there. -/
theorem plainDecimal_iff : plainDecimal s = true ↔
    (partitionDot s).1 ≠ [] ∧ Digits (partitionDot s).1
      ∧ ∀ fraction ∈ (partitionDot s).2, fraction ≠ [] ∧ Digits fraction := by
  have hDigits : ∀ cs : List Char, (∀ c ∈ cs, isDigit c = true) ↔ Digits cs :=
    fun cs => forall₂_congr fun c _ => isDigit_iff
  unfold plainDecimal
  obtain ⟨whole, fraction⟩ := partitionDot s
  cases fraction with
  | none => simp [hDigits]
  | some fraction => simp [hDigits, and_assoc]

/-- Both runs of a plain decimal are digits. -/
theorem digits_of_plainDecimal (h : plainDecimal s = true) :
    Digits ((partitionDot s).1 ++ (partitionDot s).2.getD []) := by
  obtain ⟨-, hWhole, hFraction⟩ := plainDecimal_iff.1 h
  apply hWhole.append
  cases hRun : (partitionDot s).2 with
  | none => exact digits_nil
  | some fraction => exact (hFraction fraction hRun).2

theorem partitionDot_whole (h : Digits whole) :
    partitionDot (String.ofList whole) = (whole, none) := by
  have hKeep : ∀ c ∈ whole, (decide (c ≠ '.')) = true := by
    intro c hc
    exact decide_eq_true fun hDot => dot_notMem h (hDot ▸ hc)
  unfold partitionDot
  rw [String.toList_ofList, List.takeWhile_eq_self_iff.2 hKeep, List.dropWhile_eq_nil_iff.2 hKeep]

theorem partitionDot_point (h : Digits whole) :
    partitionDot (String.ofList (whole ++ '.' :: fraction)) = (whole, some fraction) := by
  have hKeep : ∀ c ∈ whole, (decide (c ≠ '.')) = true := by
    intro c hc
    exact decide_eq_true fun hDot => dot_notMem h (hDot ▸ hc)
  unfold partitionDot
  rw [String.toList_ofList, List.takeWhile_append_of_pos hKeep,
    List.dropWhile_append_of_pos hKeep]
  simp

/-- The runs of a joined text are the runs it was joined from. -/
theorem partitionDot_joinDot (h : Digits whole) (fraction : List Char) :
    (partitionDot (joinDot whole fraction)).1 = whole
      ∧ (partitionDot (joinDot whole fraction)).2.getD [] = fraction := by
  unfold joinDot
  by_cases hNil : fraction = []
  · rw [if_pos hNil, partitionDot_whole h, hNil]
    exact ⟨rfl, rfl⟩
  · rw [if_neg hNil, partitionDot_point h]
    exact ⟨rfl, rfl⟩

theorem plainDecimal_joinDot (hWhole : whole ≠ []) (h : Digits (whole ++ fraction)) :
    plainDecimal (joinDot whole fraction) = true := by
  obtain ⟨hDigits, hFraction⟩ := digits_append_iff.1 h
  rw [plainDecimal_iff]
  unfold joinDot
  by_cases hNil : fraction = []
  · rw [if_pos hNil, partitionDot_whole hDigits]
    refine ⟨hWhole, hDigits, ?_⟩
    intro other hOther
    cases hOther
  · rw [if_neg hNil, partitionDot_point hDigits]
    refine ⟨hWhole, hDigits, ?_⟩
    intro other hOther
    cases hOther
    exact ⟨hNil, hFraction⟩

end Runs

/-! ## What is accepted -/

/-- The units of a plain decimal at a scale. -/
def unitsAt (scale : Nat) (raw : String) : Nat :=
  units ((partitionDot raw).1 ++ padRight scale ((partitionDot raw).2.getD []))

/-- The digits after the point. -/
def fractionLength (raw : String) : Nat := ((partitionDot raw).2.getD []).length

section Accepted

variable {raw : String} {scale maxInputScale n : Nat} {parsed : ScaledUnits}

theorem digits_unitsAt (scale : Nat) (h : plainDecimal raw = true) :
    Digits ((partitionDot raw).1 ++ padRight scale ((partitionDot raw).2.getD [])) := by
  obtain ⟨hWhole, hFraction⟩ := digits_append_iff.1 (digits_of_plainDecimal h)
  exact hWhole.append hFraction.padRight

theorem ScaledUnits.make_ok :
    ScaledUnits.make n scale = .ok parsed ↔ parsed.units.1 = n ∧ parsed.scale = scale := by
  obtain ⟨⟨units, hUnits⟩, parsedScale, hScale⟩ := parsed
  unfold ScaledUnits.make
  constructor
  · intro h
    split_ifs at h
    cases h
    exact ⟨rfl, rfl⟩
  · rintro ⟨rfl, rfl⟩
    rw [dif_pos hScale, dif_pos hUnits]

/-- A plain decimal with few enough decimals, of positive units in range. -/
theorem ScaledUnits.parse_ok :
    ScaledUnits.parse raw scale maxInputScale = .ok parsed
      ↔ (maxInputScale ≤ scale ∧ scale ≤ 30) ∧ plainDecimal raw = true
        ∧ fractionLength raw ≤ maxInputScale
        ∧ parsed.units.1 = unitsAt scale raw ∧ parsed.scale = scale := by
  unfold ScaledUnits.parse validateScale
  simp only [bind_eq_ok, require_eq_ok, exists_const, ScaledUnits.make_ok]
  constructor
  · rintro ⟨hScale, -, hMax, hPlain, hFraction, -, hUnits, hParsed⟩
    refine ⟨⟨hMax, hScale⟩, hPlain, hFraction, ?_, hParsed⟩
    rw [hUnits]
    exact units_significant _
  · rintro ⟨⟨hMax, hScale⟩, hPlain, hFraction, hUnits, hParsed⟩
    have hDigits := digits_unitsAt scale hPlain
    have hRange := parsed.units.2
    rw [hUnits] at hRange
    refine ⟨hScale, hMax.trans hScale, hMax, hPlain, hFraction, ⟨?_, ?_⟩, ?_, hParsed⟩
    · intro hNil
      exact hRange.1.ne' ((significant_eq_nil hDigits).1 hNil)
    · exact (significant_length hDigits).2 hRange.2
    · rw [hUnits]
      exact (units_significant _).symm

/-- The reader of the entry gateway accepts the same, and zero where it is allowed. -/
theorem parseNonNegative_ok {allowZero : Bool} :
    parseNonNegative raw scale maxInputScale allowZero = .ok n
      ↔ plainDecimal raw = true ∧ fractionLength raw ≤ maxInputScale
        ∧ (n ≠ 0 ∨ allowZero = true) ∧ n < 10 ^ 38 ∧ n = unitsAt scale raw := by
  unfold parseNonNegative
  simp only [bind_eq_ok, require_eq_ok, exists_const, pure_eq_ok]
  constructor
  · rintro ⟨hPlain, hFraction, hZero, hLength, rfl⟩
    exact ⟨hPlain, hFraction, hZero,
      (significant_length (digits_unitsAt scale hPlain)).1 hLength, rfl⟩
  · rintro ⟨hPlain, hFraction, hZero, hRange, rfl⟩
    exact ⟨hPlain, hFraction, hZero,
      (significant_length (digits_unitsAt scale hPlain)).2 hRange, rfl⟩

/-- The units at a scale are the value times ten to the scale. -/
theorem unitsAt_eq (h : fractionLength raw ≤ scale) :
    (unitsAt scale raw : ℚ) = decimalValue raw * 10 ^ scale :=
  units_padded _ h

/-- Units with few decimals are multiples of the unit of the input. -/
theorem dvd_unitsAt (hFraction : fractionLength raw ≤ maxInputScale) :
    10 ^ (scale - maxInputScale) ∣ unitsAt scale raw := by
  unfold unitsAt padRight
  rw [← List.append_assoc, units_append, units_zeros, List.length_replicate, Nat.add_zero]
  apply Dvd.dvd.mul_right
  apply Nat.pow_dvd_pow
  have hLength : ((partitionDot raw).2.getD []).length ≤ maxInputScale := hFraction
  omega

end Accepted

/-! ## What is written -/

/-- The digits before the point of a number at a scale. -/
def wholeAt (scale n : Nat) : List Char := wholePart scale (written scale n)

/-- The decimals of a number at a scale. -/
def fractionAt (scale n : Nat) : List Char := fractionPart scale (written scale n)

section Written

variable {scale n width : Nat}

theorem digits_at (scale n : Nat) : Digits (wholeAt scale n ++ fractionAt scale n) :=
  (canonical_written scale n).digits

theorem units_at (scale n : Nat) : units (wholeAt scale n ++ fractionAt scale n) = n := by
  rw [wholeAt, fractionAt, written_parts, units_written]

@[simp] theorem length_fractionAt (scale n : Nat) : (fractionAt scale n).length = scale :=
  length_fractionPart_written scale n

theorem fractionAt_zero (n : Nat) : fractionAt 0 n = [] :=
  List.length_eq_zero_iff.1 (length_fractionAt 0 n)

theorem wholeAt_zero (n : Nat) : wholeAt 0 n = Nat.toDigits 10 n := by
  have hPos : 0 < (Nat.toDigits 10 n).length := Nat.length_toDigits_pos
  rw [wholeAt, wholePart, Nat.sub_zero, List.take_length, written, padLeft,
    show 0 + 1 - (Nat.toDigits 10 n).length = 0 by omega]
  rfl

/-- The text with every decimal of the scale. -/
theorem written_text (scale n : Nat) :
    (if scale = 0 then String.ofList (Nat.toDigits 10 n)
      else String.ofList (wholeAt scale n ++ '.' :: fractionAt scale n))
      = joinDot (wholeAt scale n) (fractionAt scale n) := by
  unfold joinDot
  by_cases hScale : scale = 0
  · subst hScale
    rw [if_pos rfl, if_pos (fractionAt_zero n), wholeAt_zero]
  · have hFraction : fractionAt scale n ≠ [] := by
      intro hNil
      have hLength := length_fractionAt scale n
      rw [hNil, List.length_nil] at hLength
      exact hScale hLength.symm
    rw [if_neg hScale, if_neg hFraction]

theorem ScaledUnits.decode_eq (self : ScaledUnits) :
    self.decode = joinDot (wholeAt self.scale self.units.1)
      (trimmed (fractionAt self.scale self.units.1)) := by
  by_cases hScale : self.scale = 0
  · rw [ScaledUnits.decode, if_pos hScale, hScale, fractionAt_zero, wholeAt_zero]
    rfl
  · rw [ScaledUnits.decode, if_neg hScale]
    rfl

theorem formatUnits_eq (hUnits : 0 < n) (hScale : scale ≤ 30) :
    formatUnits n scale = .ok (joinDot (wholeAt scale n) (fractionAt scale n)) := by
  rw [← written_text]
  simp only [formatUnits, bind_eq_ok, require_eq_ok, exists_const, pure_eq_ok]
  exact ⟨hUnits, hScale, rfl⟩

theorem Gateway.formatUnits_eq (n scale : Nat) :
    Gateway.formatUnits n scale = joinDot (wholeAt scale n) (fractionAt scale n) := by
  rw [← written_text]
  unfold Gateway.formatUnits
  rw [show renderInt (n : Int) = Nat.toDigits 10 n from renderInt_ofNat n]
  by_cases hScale : scale = 0
  · have hWhole := wholeAt_zero n
    rw [wholeAt, wholePart, Nat.sub_zero, List.take_length] at hWhole
    rw [if_pos hScale, if_pos hScale, hScale]
    exact congrArg String.ofList hWhole
  · rw [if_neg hScale, if_neg hScale]
    rfl

/-- Decimals beyond those of a multiple are zeros. -/
theorem trimmed_fractionAt_length (h : 10 ^ (scale - width) ∣ n) :
    (trimmed (fractionAt scale n)).length ≤ width := by
  have hSplit := (List.take_append_drop width (fractionAt scale n)).symm
  have hDigits := digits_at scale n
  have hUnits := units_at scale n
  have hLast : ((fractionAt scale n).drop width).length = scale - width := by
    rw [List.length_drop, length_fractionAt]
  have hDigitsLast : Digits ((fractionAt scale n).drop width) :=
    fun c hc => hDigits c (List.mem_append_right _ ((List.drop_suffix _ _).subset hc))
  -- the last digits are the remainder of the number
  have hZero : units ((fractionAt scale n).drop width) = 0 := by
    rw [hSplit, ← List.append_assoc, units_append, hLast] at hUnits
    have hDvd : 10 ^ (scale - width) ∣ units ((fractionAt scale n).drop width) :=
      (Nat.dvd_add_right (Nat.dvd_mul_right _ _)).1 (hUnits ▸ h)
    exact Nat.eq_zero_of_dvd_of_lt hDvd (hLast ▸ units_lt hDigitsLast)
  have hZeros : (fractionAt scale n).drop width = List.replicate (scale - width) '0' := by
    rw [← hLast]
    exact List.eq_replicate_of_mem ((units_eq_zero hDigitsLast).1 hZero)
  have hLength := trimmed_length_le (hSplit.trans (by rw [hZeros]))
  rw [List.length_take, length_fractionAt] at hLength
  exact hLength.trans (Nat.min_le_left _ _)

/-- The units of runs that the decimals of a number begin. -/
theorem units_trimmed (scale n : Nat) :
    units (wholeAt scale n ++ padRight scale (trimmed (fractionAt scale n))) = n := by
  obtain ⟨k, hFraction⟩ := trimmed_append_zeros (fractionAt scale n)
  have hLength := congrArg List.length hFraction
  rw [length_fractionAt, List.length_append, List.length_replicate] at hLength
  rw [padRight, show scale - (trimmed (fractionAt scale n)).length = k by omega, ← hFraction]
  exact units_at scale n

end Written

/-! ## Writing and reading -/

section RoundTrips

variable {scale n maxInputScale : Nat} {raw : String}

theorem digits_trimmed (scale n : Nat) :
    Digits (wholeAt scale n ++ trimmed (fractionAt scale n)) := by
  obtain ⟨hWhole, hFraction⟩ := digits_append_iff.1 (digits_at scale n)
  apply hWhole.append
  obtain ⟨k, hZeros⟩ := trimmed_append_zeros (fractionAt scale n)
  rw [hZeros] at hFraction
  exact (digits_append_iff.1 hFraction).1

/-- The runs of the decoded text. -/
theorem partitionDot_decode (self : ScaledUnits) :
    (partitionDot self.decode).1 = wholeAt self.scale self.units.1
      ∧ (partitionDot self.decode).2.getD []
        = trimmed (fractionAt self.scale self.units.1) := by
  rw [ScaledUnits.decode_eq]
  exact partitionDot_joinDot (digits_append_iff.1 (digits_at _ _)).1 _

theorem canonical_decode (self : ScaledUnits) : CanonicalDecimal self.decode := by
  obtain ⟨hWhole, hFraction⟩ := partitionDot_decode self
  have hCanonical := canonical_written self.scale self.units.1
  refine ⟨?_, ?_, ?_⟩
  · rw [ScaledUnits.decode_eq]
    exact plainDecimal_joinDot hCanonical.nonempty (digits_trimmed _ _)
  · rw [hWhole]
    exact hCanonical.leading
  · rw [hFraction]
    exact trimmed_getLast _

/-- The decoded text is read back where the input may have its decimals. -/
theorem parse_decode (self : ScaledUnits) (hMax : maxInputScale ≤ self.scale)
    (hUnits : 10 ^ (self.scale - maxInputScale) ∣ self.units.1) :
    ScaledUnits.parse self.decode self.scale maxInputScale = .ok self := by
  obtain ⟨hWhole, hFraction⟩ := partitionDot_decode self
  rw [ScaledUnits.parse_ok]
  refine ⟨⟨hMax, self.hScale⟩, (canonical_decode self).1, ?_, ?_, rfl⟩
  · rw [fractionLength, hFraction]
    exact trimmed_fractionAt_length hUnits
  · rw [unitsAt, hWhole, hFraction]
    exact (units_trimmed _ _).symm

/-- Decoding what was parsed gives the canonical text of the same number. -/
theorem parse_decode_canonical {parsed : ScaledUnits}
    (h : ScaledUnits.parse raw scale maxInputScale = .ok parsed) :
    CanonicalDecimal parsed.decode ∧ decimalValue parsed.decode = decimalValue raw := by
  refine ⟨canonical_decode parsed, ?_⟩
  obtain ⟨⟨hMax, -⟩, -, hFraction, hUnits, hScale⟩ := ScaledUnits.parse_ok.1 h
  have hValue : (parsed.units.1 : ℚ) = decimalValue parsed.decode * 10 ^ scale := by
    obtain ⟨hWhole, hRun⟩ := partitionDot_decode parsed
    rw [hScale] at hWhole hRun
    have hLength : fractionLength parsed.decode ≤ scale := by
      rw [fractionLength, hRun]
      exact (trimmed_length _).trans (length_fractionAt _ _).le
    rw [← unitsAt_eq hLength, unitsAt, hWhole, hRun, units_trimmed]
  rw [hUnits, unitsAt_eq (hFraction.trans hMax)] at hValue
  exact (mul_right_cancel₀ (by positivity) hValue).symm

/-- A text at a scale: canonical before the point, and with every decimal. -/
structure FixedText (scale : Nat) (value : String) : Prop where
  runs : Canonical scale (partitionDot value).1 ((partitionDot value).2.getD [])
  point : (partitionDot value).2 = none ↔ scale = 0
  joined : value = joinDot (partitionDot value).1 ((partitionDot value).2.getD [])

theorem fixedText_at (scale n : Nat) :
    FixedText scale (joinDot (wholeAt scale n) (fractionAt scale n)) where
  runs := by
    obtain ⟨hWhole, hFraction⟩ := partitionDot_joinDot
      (digits_append_iff.1 (digits_at scale n)).1 (fractionAt scale n)
    rw [hWhole, hFraction]
    exact canonical_written scale n
  point := by
    have hDigits := (digits_append_iff.1 (digits_at scale n)).1
    rw [← written_text]
    by_cases hScale : scale = 0
    · rw [if_pos hScale, partitionDot_whole (digits_toDigits n)]
      exact iff_of_true rfl hScale
    · rw [if_neg hScale, partitionDot_point hDigits]
      exact iff_of_false (Option.some_ne_none _) hScale
  joined := by
    obtain ⟨hWhole, hFraction⟩ := partitionDot_joinDot
      (digits_append_iff.1 (digits_at scale n)).1 (fractionAt scale n)
    rw [hWhole, hFraction]

/-- A text at a scale is written of the number it denotes. -/
theorem FixedText.written {value : String} (h : FixedText scale value) :
    joinDot (wholeAt scale (unitsAt scale value)) (fractionAt scale (unitsAt scale value))
      = value := by
  have hPad : padRight scale ((partitionDot value).2.getD [])
      = (partitionDot value).2.getD [] := by
    rw [padRight, h.runs.length, Nat.sub_self]
    exact List.append_nil _
  obtain ⟨hWhole, hFraction⟩ := h.runs.parts
  rw [unitsAt, hPad, wholeAt, fractionAt, written_units h.runs, hWhole, hFraction]
  exact h.joined.symm

/-- Both readers of the read model give the units of a text at the scale. -/
theorem FixedText.read {value : String} (h : FixedText scale value) :
    Gateway.parseUnits value scale = .ok (unitsAt scale value : Int)
      ∧ parseFixedUnits value scale = .ok (unitsAt scale value : Int) := by
  have hPad : padRight scale ((partitionDot value).2.getD [])
      = (partitionDot value).2.getD [] := by
    rw [padRight, h.runs.length, Nat.sub_self]
    exact List.append_nil _
  have hNonempty : (partitionDot value).1 ++ (partitionDot value).2.getD [] ≠ [] :=
    List.append_ne_nil_of_left_ne_nil h.runs.nonempty _
  have hRead : readInt ((partitionDot value).1 ++ (partitionDot value).2.getD [])
      = some (unitsAt scale value : Int) := by
    rw [readInt_digits hNonempty h.runs.digits, unitsAt, hPad]
  constructor
  · unfold Gateway.parseUnits
    simp only [bind_eq_ok, require_eq_ok, exists_const, fetch_eq_ok]
    refine ⟨h.runs.length.le, ?_⟩
    rw [ljustZeros_eq, hPad]
    exact hRead
  · unfold parseFixedUnits
    by_cases hScale : scale = 0
    · have hNone := h.point.2 hScale
      rw [hNone, Option.getD_none, List.append_nil] at hRead
      rw [if_pos hScale]
      simp only [bind_eq_ok, require_eq_ok, exists_const, fetch_eq_ok]
      exact ⟨hNone, hRead⟩
    · obtain ⟨fraction, hSome⟩ := Option.ne_none_iff_exists'.1 fun hNone =>
        hScale (h.point.1 hNone)
      have hLength := h.runs.length
      rw [hSome, Option.getD_some] at hRead hLength
      rw [if_neg hScale]
      simp only [bind_eq_ok, fetch_eq_ok]
      refine ⟨fraction, ?_, hRead⟩
      rw [hSome, Option.filter_some, decide_eq_true hLength]
      rfl

theorem FixedText.plain {value : String} (h : FixedText scale value) :
    plainDecimal value = true := by
  rw [h.joined]
  exact plainDecimal_joinDot h.runs.nonempty h.runs.digits

theorem unitsAt_fixedText (scale n : Nat) :
    unitsAt scale (joinDot (wholeAt scale n) (fractionAt scale n)) = n := by
  obtain ⟨hWhole, hFraction⟩ := partitionDot_joinDot
    (digits_append_iff.1 (digits_at scale n)).1 (fractionAt scale n)
  rw [unitsAt, hWhole, hFraction, padRight, length_fractionAt, Nat.sub_self]
  exact (congrArg units (congrArg _ (List.append_nil _))).trans (units_at scale n)

/-- The readers and writers at a scale are inverse to one another, and agree:
units in range are written by both writers as one text, of the value of the
decoded text, which every reader reads back; a text at the scale is written of
the units that are read from it; and decoding what was parsed gives the canonical
text of the same number. -/
theorem fixedPoint_roundTrips :
    (∀ self : ScaledUnits,
      ScaledUnits.parse self.decode self.scale self.scale = .ok self
        ∧ ∃ value, formatUnits self.units.1 self.scale = .ok value
          ∧ Gateway.formatUnits self.units.1 self.scale = value
          ∧ Gateway.parseUnits value self.scale = .ok (self.units.1 : Int)
          ∧ parseFixedUnits value self.scale = .ok (self.units.1 : Int)
          ∧ ScaledUnits.parse value self.scale self.scale = .ok self
          ∧ Gateway.parseUnits self.decode self.scale = .ok (self.units.1 : Int)
          ∧ decimalValue value = decimalValue self.decode)
      ∧ (∀ (raw : String) (scale maxInputScale : Nat) (parsed : ScaledUnits),
        ScaledUnits.parse raw scale maxInputScale = .ok parsed →
          CanonicalDecimal parsed.decode ∧ decimalValue parsed.decode = decimalValue raw)
      ∧ ∀ (self : ScaledUnits) (value : String), FixedText self.scale value →
        (ScaledUnits.parse value self.scale self.scale = .ok self
            ↔ parseFixedUnits value self.scale = .ok (self.units.1 : Int))
          ∧ (Gateway.parseUnits value self.scale = .ok (self.units.1 : Int)
            ↔ parseFixedUnits value self.scale = .ok (self.units.1 : Int))
          ∧ (parseFixedUnits value self.scale = .ok (self.units.1 : Int) →
            formatUnits self.units.1 self.scale = .ok value
              ∧ Gateway.formatUnits self.units.1 self.scale = value) := by
  refine ⟨?_, fun _ _ _ _ => parse_decode_canonical, ?_⟩
  · intro self
    have hText := fixedText_at self.scale self.units.1
    have hUnits := unitsAt_fixedText self.scale self.units.1
    obtain ⟨hGateway, hFixed⟩ := hText.read
    rw [hUnits] at hGateway hFixed
    have hDecode := parse_decode self le_rfl (by rw [Nat.sub_self, pow_zero]; exact one_dvd _)
    have hParse : ScaledUnits.parse (joinDot (wholeAt self.scale self.units.1)
        (fractionAt self.scale self.units.1)) self.scale self.scale = .ok self :=
      ScaledUnits.parse_ok.2 ⟨⟨le_rfl, self.hScale⟩, hText.plain, hText.runs.length.le,
        hUnits.symm, rfl⟩
    refine ⟨hDecode, _, formatUnits_eq self.units.2.1 self.hScale,
      Gateway.formatUnits_eq _ _, hGateway, hFixed, hParse, ?_, ?_⟩
    · obtain ⟨-, hPlain, hFraction, hDecoded, -⟩ := ScaledUnits.parse_ok.1 hDecode
      have hNonempty := (plainDecimal_iff.1 hPlain).1
      unfold Gateway.parseUnits
      simp only [bind_eq_ok, require_eq_ok, exists_const, fetch_eq_ok]
      refine ⟨hFraction, ?_⟩
      rw [ljustZeros_eq, readInt_digits (List.append_ne_nil_of_left_ne_nil hNonempty _)
        (digits_unitsAt _ hPlain), hDecoded]
      rfl
    · exact (parse_decode_canonical hParse).2.symm
  · intro self value hText
    obtain ⟨hGateway, hFixed⟩ := hText.read
    have hCast : ∀ {m n : Nat}, (Except.ok (m : Int) : Except String Int) = .ok (n : Int)
        ↔ n = m := by
      intro m n
      rw [Except.ok.injEq, Nat.cast_inj, eq_comm]
    rw [hGateway, hFixed, hCast]
    refine ⟨?_, Iff.rfl, ?_⟩
    · rw [ScaledUnits.parse_ok]
      constructor
      · rintro ⟨-, -, -, hUnits, -⟩
        exact hUnits
      · intro hUnits
        exact ⟨⟨le_rfl, self.hScale⟩, hText.plain, hText.runs.length.le, hUnits, rfl⟩
    · intro hUnits
      have hWritten := hText.written
      rw [← hUnits] at hWritten
      rw [formatUnits_eq self.units.2.1 self.hScale, Gateway.formatUnits_eq, hWritten]
      exact ⟨rfl, rfl⟩

end RoundTrips

end TrackAnywhere.Ports
