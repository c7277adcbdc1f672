import TrackAnywhere.Ports.Events
import TrackAnywhere.Ports.ScaledUnits
import TrackAnywhere.Verified.DecimalContext

/-!
# Amounts of the frozen history

The import planner reads the amounts of the old database with integers only
(`_signed_exact_units`); the reference reducer, which checks the planner's result, reads them
with `Decimal` in a context of 100 digits (`_source_exact_amount`).  The reducer takes at most
128 characters and exponents of at most 100.
-/

namespace TrackAnywhere.Ports

open TrackAnywhere.Verified
open TrackAnywhere.Verified.Checked
open TrackAnywhere.Verified.KeyedSum
open TrackAnywhere.Verified.FixedPoint
open TrackAnywhere.Verified.DecimalContext

/-! ## The text -/

/-- The part before the first such character, and the part after it where there is one. -/
def partitionAt (separator : Char → Bool) (cs : List Char) : List Char × Option (List Char) :=
  (cs.takeWhile fun c => !separator c,
    match cs.dropWhile fun c => !separator c with
    | [] => none
    | _ :: rest => some rest)

/-- The digits of an exponent, which may have a sign. -/
def unsignedExponent : List Char → List Char
  | '+' :: digits => digits
  | '-' :: digits => digits
  | digits => digits

/-- `(?:0|[1-9][0-9]*)` -/
def isWhole (cs : List Char) : Bool :=
  !cs.isEmpty && cs.all isDigit && (decide (cs.length = 1) || decide (cs.head? ≠ some '0'))

/-- `[0-9]+` -/
def isDigits (cs : List Char) : Bool := !cs.isEmpty && cs.all isDigit

/-- The groups of a decimal text; a group that is not there is empty. -/
structure DecimalText where
  negative : Bool
  whole : List Char
  fraction : List Char
  exponent : List Char
  hWhole : isWhole whole = true
  hFraction : fraction.all isDigit = true
  hExponent : (unsignedExponent exponent).all isDigit = true

/-- `_HISTORICAL_DECIMAL` and `_SOURCE_DECIMAL`, which match the same texts. -/
def historicalDecimal (amount : String) : Option DecimalText :=
  let cs := amount.toList
  let negative := decide (cs.head? = some '-')
  let parts := partitionAt (fun c => c = 'e' || c = 'E') (if negative then cs.tail else cs)
  let mantissa := partitionAt (fun c => c = '.') parts.1
  if h : isWhole mantissa.1 = true
      ∧ mantissa.2.all isDigits = true
      ∧ parts.2.all (fun exponent => isDigits (unsignedExponent exponent)) = true then
    some
      { negative := negative
        whole := mantissa.1
        fraction := mantissa.2.getD []
        exponent := parts.2.getD []
        hWhole := h.1
        hFraction := by
          have hDigits := h.2.1
          cases hRun : mantissa.2 with
          | none => rfl
          | some fraction =>
              rw [hRun] at hDigits
              exact (Bool.and_eq_true_iff.1 hDigits).2
        hExponent := by
          have hDigits := h.2.2
          cases hRun : parts.2 with
          | none => rfl
          | some exponent =>
              rw [hRun] at hDigits
              exact (Bool.and_eq_true_iff.1 hDigits).2 }
  else none

namespace DecimalText

variable (text : DecimalText)

/-- The digits on both sides of the point. -/
def digits : List Char := text.whole ++ text.fraction

/-- `int(exponent)`; zero where there is none. -/
def exponentValue : Int :=
  if text.exponent.head? = some '-' then -(units (unsignedExponent text.exponent) : Int)
  else units (unsignedExponent text.exponent)

/-- `Decimal(amount)` -/
def decimal : Decimal where
  negative := text.negative
  coefficient := units text.digits
  exponent := text.exponentValue - text.fraction.length

end DecimalText

/-! ## The planner -/

/-- `HistoricalAssetScale` -/
structure HistoricalAssetScale where
  ledgerScale : Nat
  inputScale : Nat
  displayScale : Nat
  hLedgerScale : ledgerScale ≤ 30
  hInputScale : inputScale ≤ ledgerScale
  hDisplayScale : displayScale ≤ ledgerScale

/-- The magnitude at the exponent of a unit. -/
def exactMagnitude (coefficient : List Char) (unitExponent : Int) : Except String Nat := do
  if 0 ≤ unitExponent then
    require (coefficient.length + unitExponent.toNat ≤ 38)
      "historical amount exceeds the ledger unit bound"
    return units coefficient * 10 ^ unitExponent.toNat
  else
    let discarded := (-unitExponent).toNat
    require (discarded ≤ coefficient.length
        ∧ coefficient.drop (coefficient.length - discarded) = List.replicate discarded '0')
      "historical amount is not exact at ledger scale"
    let retained := coefficient.take (coefficient.length - discarded)
    require (retained ≠ []) "historical amount units must be positive"
    return units retained

/-- `_signed_exact_units` -/
def signedExactUnits (amount : String) (ledgerScale : Nat) : Except String Int := do
  require (ledgerScale ≤ 30) "ledger scale is outside its allowed range"
  let text ← fetch (historicalDecimal amount) "historical amount must be an exact decimal string"
  let coefficient := significant text.digits
  require (coefficient ≠ []) "historical amount units must be positive"
  let rawExponent := if text.exponent = [] then ['0'] else text.exponent
  let exponentDigits := significant (rawExponent.dropWhile fun c => c = '+' || c = '-')
  require (exponentDigits.length ≤ 6) "historical amount exponent is outside the supported range"
  let exponent : Int :=
    if rawExponent.head? = some '-' then -(units exponentDigits : Int) else units exponentDigits
  let magnitude ← exactMagnitude coefficient (exponent - text.fraction.length + ledgerScale)
  require (0 < magnitude ∧ places magnitude ≤ 38) "historical amount exceeds the ledger unit bound"
  return if text.negative then -(magnitude : Int) else magnitude

/-- `normalize_legacy_signed_amount` -/
def normalizeLegacySignedAmount (amount : String) (ledgerScale : Nat) :
    Except String (PostingSide × Nat) := do
  let signed ← signedExactUnits amount ledgerScale
  return (if 0 < signed then .debit else .credit, signed.natAbs)

/-- `exact_units` -/
def exactUnits (amount : String) (ledgerScale : Nat) : Except String Nat := do
  let units ← signedExactUnits amount ledgerScale
  require (0 < units) "historical amount must be unsigned and positive"
  return units.toNat

/-- The sides that a text names. -/
def postingSideOf (side : String) : Option PostingSide :=
  if side = "debit" then some .debit else if side = "credit" then some .credit else none

/-- `normalize_explicit_amount` -/
def normalizeExplicitAmount (amount side : String) (ledgerScale : Nat) :
    Except String (PostingSide × Nat) := do
  require ((historicalDecimal amount).any fun text => !text.negative)
    "explicit debit/credit amount must be unsigned decimal text"
  let side ← fetch (postingSideOf side) "explicit posting side must be debit or credit"
  let units ← exactUnits amount ledgerScale
  return (side, units)

/-- The fields of a posting row that the amount is read from; there may be no semantics, and
nothing stands for an amount or a side that is not a text. -/
structure SourcePostingAmount where
  currency : String
  amountSemantics : Option String
  amount : Option String
  side : Option String

/-- `_normalize_posting`; every error of a reader becomes the same one. -/
def normalizePosting (policies : Dict String HistoricalAssetScale) (row : SourcePostingAmount) :
    Except String (PostingSide × Nat) := do
  let policy ← fetch (policies.lookup row.currency) "frozen posting asset is invalid"
  let amount ← fetch row.amount "frozen posting amount is invalid"
  (if row.amountSemantics = none ∨ row.amountSemantics = some "legacy_signed" then
      normalizeLegacySignedAmount amount policy.ledgerScale
    else if row.amountSemantics = some "debit_credit" then do
      let side ← fetch row.side "frozen source contains invalid required text"
      require (strip side ≠ "") "frozen source contains invalid required text"
      normalizeExplicitAmount amount side policy.ledgerScale
    else .error "frozen posting semantics are unsupported").mapError
      fun _ => "frozen posting amount is invalid"

/-! ## The reducer -/

/-- `_source_exact_amount` -/
def sourceExactAmount (amount semantics explicitSide : Option String) (ledgerScale : Nat) :
    Except String (PostingSide × Nat) := do
  let amount ← fetch amount invalid
  require (amount.length ≤ 128) invalid
  let text ← fetch (historicalDecimal amount) invalid
  require (ledgerScale ≤ 30) invalid
  require (text.exponentValue.natAbs ≤ 100) invalid
  let scaled := text.decimal.mul 100 ⟨false, 10 ^ ledgerScale, 0⟩
  let integral := scaled.toIntegral
  require (scaled.value = integral.value ∧ integral.value ≠ 0) invalid
  let units := integral.natAbs
  require (places units ≤ 38) invalid
  if semantics = none ∨ semantics = some "legacy_signed" then
    return (if 0 < integral.value then .debit else .credit, units)
  else do
    require (semantics = some "debit_credit") invalid
    require (amount.toList.head? ≠ some '-') invalid
    let side ← fetch (explicitSide.bind postingSideOf) invalid
    return (side, units)
where
  invalid : String := "source_amount_invalid"

/-! ## What the planner accepts -/

section Planner

variable {amount : String} {text : DecimalText} {scale m : Nat} {n unitExponent : Int}
  {cs : List Char}

theorem historicalDecimal_negative (h : historicalDecimal amount = some text) :
    text.negative = true ↔ amount.toList.head? = some '-' := by
  unfold historicalDecimal at h
  simp only [Option.dite_none_right_eq_some, Option.some.injEq] at h
  obtain ⟨-, rfl⟩ := h
  exact decide_eq_true_iff

theorem DecimalText.digits_digits (text : DecimalText) : Digits text.digits :=
  (digits_of_all.1 (Bool.and_eq_true_iff.1 (Bool.and_eq_true_iff.1 text.hWhole).1).2).append
    (digits_of_all.1 text.hFraction)

theorem places_units (h : Digits cs) : places (units cs) = (significant cs).length := by
  refine le_antisymm (places_le.2 ?_) ((significant_length h).2 (places_le.1 le_rfl))
  exact (significant_length h).1 le_rfl

/-- Digits have no sign to strip. -/
theorem dropWhile_sign (h : Digits cs) : cs.dropWhile (fun c => c = '+' || c = '-') = cs := by
  cases cs with
  | nil => rfl
  | cons c cs =>
      refine List.dropWhile_cons_of_neg fun hSign => ?_
      have hDigit := h c List.mem_cons_self
      rw [Bool.or_eq_true, decide_eq_true_eq, decide_eq_true_eq] at hSign
      obtain rfl | rfl := hSign <;> exact absurd hDigit (by decide)

/-- The planner's own reading of the exponent gives its value. -/
theorem exponent_read (text : DecimalText) :
    let rawExponent := if text.exponent = [] then ['0'] else text.exponent
    let exponentDigits := significant (rawExponent.dropWhile fun c => c = '+' || c = '-')
    (exponentDigits.length ≤ 6 ↔ text.exponentValue.natAbs < 10 ^ 6)
      ∧ (if rawExponent.head? = some '-' then -(units exponentDigits : Int)
          else units exponentDigits) = text.exponentValue := by
  have hDigits := digits_of_all.1 text.hExponent
  unfold DecimalText.exponentValue
  generalize text.exponent = exponent at hDigits ⊢
  have hRead (ds : List Char) (hds : Digits ds) :
      units (significant ds) = units ds
        ∧ ((significant ds).length ≤ 6 ↔ units ds < 10 ^ 6) :=
    ⟨units_significant ds, significant_length hds⟩
  cases exponent with
  | nil => decide
  | cons c ds =>
      simp only [List.cons_ne_nil, if_false, List.head?_cons, Option.some.injEq]
      by_cases hPlus : c = '+'
      · subst hPlus
        have hSkip : ('+' :: ds).dropWhile (fun c => c = '+' || c = '-') = ds :=
          dropWhile_sign hDigits
        obtain ⟨hUnits, hLength⟩ := hRead ds hDigits
        rw [hSkip, if_neg (by decide), if_neg (by decide), hUnits]
        exact ⟨hLength, rfl⟩
      · by_cases hMinus : c = '-'
        · subst hMinus
          have hSkip : ('-' :: ds).dropWhile (fun c => c = '+' || c = '-') = ds :=
            dropWhile_sign hDigits
          obtain ⟨hUnits, hLength⟩ := hRead ds hDigits
          rw [hSkip, if_pos rfl, if_pos rfl, hUnits, Int.natAbs_neg]
          exact ⟨hLength, rfl⟩
        · have hSelf : unsignedExponent (c :: ds) = c :: ds := by
            unfold unsignedExponent
            split
            · next hCons => exact absurd (List.cons.inj hCons).1 hPlus
            · next hCons => exact absurd (List.cons.inj hCons).1 hMinus
            · rfl
          rw [hSelf] at hDigits ⊢
          obtain ⟨hUnits, hLength⟩ := hRead (c :: ds) hDigits
          rw [dropWhile_sign hDigits, if_neg hMinus, if_neg hMinus, hUnits]
          exact ⟨hLength, rfl⟩

/-- Dropping zeros at the end of the digits divides the number. -/
theorem units_take_iff {k : Nat} (h : Digits cs) (hm : 0 < m) :
    ((k ≤ cs.length ∧ cs.drop (cs.length - k) = List.replicate k '0')
      ∧ cs.take (cs.length - k) ≠ [] ∧ units (cs.take (cs.length - k)) = m)
    ↔ units cs = m * 10 ^ k := by
  have hParts : cs.take (cs.length - k) ++ cs.drop (cs.length - k) = cs :=
    List.take_append_drop _ cs
  constructor
  · rintro ⟨⟨hLength, hZeros⟩, -, hUnits⟩
    rw [← hParts, hZeros, units_append, units_zeros, hUnits, List.length_replicate,
      Nat.add_zero, Nat.mul_comm]
  · intro hUnits
    have hLength : k ≤ cs.length := by
      by_contra hShort
      have hLess := (units_lt h).trans_le
        (Nat.pow_le_pow_right (by decide : 0 < 10) (not_le.1 hShort).le)
      exact absurd (hUnits ▸ Nat.le_mul_of_pos_left (10 ^ k) hm) (not_le.2 hLess)
    have hDrop : (cs.drop (cs.length - k)).length = k := by
      rw [List.length_drop]
      omega
    have hDigits : Digits (cs.drop (cs.length - k)) := fun c hc => h c (List.mem_of_mem_drop hc)
    have hLess := hDrop ▸ units_lt hDigits
    have hSplit : 10 ^ k * units (cs.take (cs.length - k)) + units (cs.drop (cs.length - k))
        = m * 10 ^ k := by
      rw [← hUnits, ← congrArg units hParts, units_append, hDrop]
    have hRest : units (cs.drop (cs.length - k)) = 0 := by
      have hMod := congrArg (· % 10 ^ k) hSplit
      simpa only [Nat.mul_add_mod, Nat.mod_eq_of_lt hLess, Nat.mul_mod_left] using hMod
    have hTake : units (cs.take (cs.length - k)) = m := by
      rw [hRest, Nat.add_zero, Nat.mul_comm] at hSplit
      exact Nat.eq_of_mul_eq_mul_right (by positivity) hSplit
    refine ⟨⟨hLength, List.eq_replicate_iff.2 ⟨hDrop, (units_eq_zero hDigits).1 hRest⟩⟩, ?_, hTake⟩
    intro hNil
    rw [hNil] at hTake
    exact hm.ne hTake

/-- The two ways to the unit, by the number that the digits denote. -/
theorem exactMagnitude_ok (h : Digits cs) (hPositive : 0 < units cs) :
    (exactMagnitude (significant cs) unitExponent = .ok m ∧ 0 < m ∧ places m ≤ 38)
      ↔ 0 < m ∧ m < 10 ^ 38 ∧ (units cs : ℚ) * 10 ^ unitExponent = m := by
  rw [places_le, mul_zpow_eq_iff]
  unfold exactMagnitude
  by_cases hExponent : 0 ≤ unitExponent
  · simp only [if_pos hExponent, bind_eq_ok, require_eq_ok, pure_eq_ok, exists_const,
      units_significant]
    constructor
    · rintro ⟨⟨-, hUnits⟩, hm, hBound⟩
      exact ⟨hm, hBound, hUnits⟩
    · rintro ⟨hm, hBound, hUnits⟩
      refine ⟨⟨?_, hUnits⟩, hm, hBound⟩
      rw [← places_units h, ← places_mul_pow hPositive, hUnits]
      exact places_le.2 hBound
  · simp only [if_neg hExponent, bind_eq_ok, require_eq_ok, pure_eq_ok, exists_const]
    constructor
    · rintro ⟨hRead, hm, hBound⟩
      exact ⟨hm, hBound, units_significant cs ▸ (units_take_iff h.significant hm).1 hRead⟩
    · rintro ⟨hm, hBound, hUnits⟩
      rw [← units_significant cs] at hUnits
      exact ⟨(units_take_iff h.significant hm).2 hUnits, hm, hBound⟩

/-- The units of a text at a scale, as an exact number. -/
def DecimalText.Units (text : DecimalText) (scale m : Nat) : Prop :=
  0 < m ∧ m < 10 ^ 38 ∧ text.decimal.magnitude * 10 ^ scale = m

theorem DecimalText.units_scaled (text : DecimalText) (scale : Nat) :
    text.decimal.magnitude * 10 ^ scale
      = (units text.digits : ℚ) * 10 ^ (text.exponentValue - text.fraction.length + scale) := by
  unfold Decimal.magnitude DecimalText.decimal
  rw [mul_assoc, ← zpow_natCast, ← zpow_add₀ (by norm_num)]

theorem signedExactUnits_ok : signedExactUnits amount scale = .ok n ↔
    scale ≤ 30 ∧ ∃ text, historicalDecimal amount = some text
      ∧ text.exponentValue.natAbs < 10 ^ 6 ∧ ∃ m, text.Units scale m
        ∧ n = if text.negative then -(m : Int) else m := by
  simp only [signedExactUnits, bind_eq_ok, require_eq_ok, fetch_eq_ok, pure_eq_ok, exists_const]
  refine and_congr_right fun _ => exists_congr fun text => and_congr_right fun _ => ?_
  obtain ⟨hPlaces, hExponent⟩ := exponent_read text
  rw [hPlaces, hExponent]
  have hDigits := text.digits_digits
  constructor
  · rintro ⟨hSome, hBound, m, hMagnitude, ⟨hm, hUnit⟩, hSign⟩
    have hPositive : 0 < units text.digits :=
      Nat.pos_of_ne_zero fun hZero => hSome ((significant_eq_nil hDigits).2 hZero)
    have hUnits := (exactMagnitude_ok hDigits hPositive).1 ⟨hMagnitude, hm, hUnit⟩
    refine ⟨hBound, m, ?_, hSign.symm⟩
    exact ⟨hUnits.1, hUnits.2.1, (text.units_scaled scale).trans hUnits.2.2⟩
  · rintro ⟨hBound, m, ⟨hm, hUnit, hUnits⟩, hSign⟩
    have hPositive : 0 < units text.digits := by
      refine Nat.pos_of_ne_zero fun hZero => ?_
      rw [text.units_scaled, hZero, Nat.cast_zero, zero_mul] at hUnits
      exact hm.ne' (Nat.cast_eq_zero.1 hUnits.symm)
    obtain ⟨hMagnitude, hRest⟩ := (exactMagnitude_ok hDigits hPositive).2
      ⟨hm, hUnit, (text.units_scaled scale).symm.trans hUnits⟩
    exact ⟨fun hNil => hPositive.ne' ((significant_eq_nil hDigits).1 hNil), hBound, m, hMagnitude,
      hRest, hSign.symm⟩

/-- How a side is found: from the sign, or given beside an amount without one. -/
def SideRead (semantics explicitSide : Option String) (negative : Bool) (side : PostingSide) :
    Prop :=
  ((semantics = none ∨ semantics = some "legacy_signed")
      ∧ side = if negative then .credit else .debit)
    ∨ (semantics = some "debit_credit" ∧ negative = false
      ∧ explicitSide.bind postingSideOf = some side)

theorem sideRead_legacy {semantics explicitSide : Option String} {negative : Bool}
    {side : PostingSide} (h : semantics = none ∨ semantics = some "legacy_signed") :
    SideRead semantics explicitSide negative side
      ↔ side = if negative then .credit else .debit := by
  have hOther : semantics ≠ some "debit_credit" := by
    obtain rfl | rfl := h <;> decide
  unfold SideRead
  rw [and_iff_right h, or_iff_left fun hBoth => hOther hBoth.1]

theorem sideRead_explicit {semantics explicitSide : Option String} {negative : Bool}
    {side : PostingSide} (h : ¬ (semantics = none ∨ semantics = some "legacy_signed")) :
    SideRead semantics explicitSide negative side
      ↔ semantics = some "debit_credit" ∧ negative = false
        ∧ explicitSide.bind postingSideOf = some side := by
  unfold SideRead
  rw [or_iff_right fun hBoth => h hBoth.1]

/-- The sign of the units is the sign of the text. -/
theorem sign_side (negative : Bool) (hm : 0 < m) :
    (if 0 < (if negative then -(m : Int) else m) then PostingSide.debit else .credit)
        = (if negative then .credit else .debit)
      ∧ (if negative then -(m : Int) else m).natAbs = m := by
  cases negative
  · exact ⟨if_pos (Int.natCast_pos.2 hm), rfl⟩
  · exact ⟨if_neg (by show ¬ 0 < -(m : Int); omega), Int.natAbs_neg m⟩

theorem normalizeLegacySignedAmount_ok {side : PostingSide} :
    normalizeLegacySignedAmount amount scale = .ok (side, m) ↔
      scale ≤ 30 ∧ ∃ text, historicalDecimal amount = some text
        ∧ text.exponentValue.natAbs < 10 ^ 6 ∧ text.Units scale m
        ∧ side = if text.negative then .credit else .debit := by
  simp only [normalizeLegacySignedAmount, bind_eq_ok, pure_eq_ok, signedExactUnits_ok,
    Prod.mk.injEq]
  constructor
  · rintro ⟨_, ⟨hScale, text, hText, hExponent, k, hUnits, rfl⟩, hSide, hAbs⟩
    obtain ⟨hSign, hMagnitude⟩ := sign_side text.negative hUnits.1
    have hk : k = m := hMagnitude.symm.trans hAbs
    exact ⟨hScale, text, hText, hExponent, hk ▸ hUnits, hSide.symm.trans hSign⟩
  · rintro ⟨hScale, text, hText, hExponent, hUnits, rfl⟩
    exact ⟨_, ⟨hScale, text, hText, hExponent, m, hUnits, rfl⟩, sign_side text.negative hUnits.1⟩

theorem normalizeExplicitAmount_ok {given : String} {side : PostingSide} :
    normalizeExplicitAmount amount given scale = .ok (side, m) ↔
      scale ≤ 30 ∧ ∃ text, historicalDecimal amount = some text
        ∧ text.exponentValue.natAbs < 10 ^ 6 ∧ text.Units scale m
        ∧ text.negative = false ∧ postingSideOf given = some side := by
  simp only [normalizeExplicitAmount, exactUnits, bind_eq_ok, require_eq_ok, fetch_eq_ok,
    pure_eq_ok, exists_const, signedExactUnits_ok, Prod.mk.injEq, Option.any_eq_true,
    Bool.not_eq_true']
  constructor
  · rintro ⟨⟨text, hText, hNegative⟩, _, hSide, _, ⟨_, ⟨hScale, text', hText', hExponent, k,
      hUnits, rfl⟩, hPositive, rfl⟩, rfl, hAbs⟩
    obtain rfl : text = text' := Option.some.inj (hText.symm.trans hText')
    rw [hNegative] at hAbs
    have hk : k = m := hAbs
    exact ⟨hScale, text, hText, hExponent, hk ▸ hUnits, hNegative, hSide⟩
  · rintro ⟨hScale, text, hText, hExponent, hUnits, hNegative, hSide⟩
    refine ⟨⟨text, hText, hNegative⟩, side, hSide, m, ⟨m, ⟨hScale, text, hText, hExponent, m,
      hUnits, ?_⟩, Int.natCast_pos.2 hUnits.1, Int.toNat_natCast m⟩, rfl, rfl⟩
    rw [hNegative]
    rfl

/-- A side that is named is not blank. -/
theorem strip_named {given : String} {side : PostingSide} (h : postingSideOf given = some side) :
    strip given ≠ "" := by
  unfold postingSideOf at h
  split at h
  · next hDebit =>
      rw [hDebit]
      decide
  · split at h
    · next hCredit =>
        rw [hCredit]
        decide
    · cases h

variable {policies : Dict String HistoricalAssetScale} {row : SourcePostingAmount}
  {policy : HistoricalAssetScale} {side : PostingSide}

theorem normalizePosting_ok (hPolicy : policies.lookup row.currency = some policy)
    (hAmount : row.amount = some amount) : normalizePosting policies row = .ok (side, m) ↔
      ∃ text, historicalDecimal amount = some text
        ∧ text.exponentValue.natAbs < 10 ^ 6 ∧ text.Units policy.ledgerScale m
        ∧ SideRead row.amountSemantics row.side text.negative side := by
  have hScale := policy.hLedgerScale
  simp only [normalizePosting, hPolicy, hAmount, bind_eq_ok, fetch_eq_ok, Option.some.injEq,
    exists_eq_left', mapError_eq_ok]
  by_cases hLegacy : row.amountSemantics = none ∨ row.amountSemantics = some "legacy_signed"
  · rw [if_pos hLegacy, normalizeLegacySignedAmount_ok, and_iff_right hScale]
    simp only [sideRead_legacy hLegacy]
  · rw [if_neg hLegacy]
    simp only [sideRead_explicit hLegacy]
    by_cases hExplicit : row.amountSemantics = some "debit_credit"
    · rw [if_pos hExplicit]
      simp only [bind_eq_ok, fetch_eq_ok, require_eq_ok, exists_const,
        normalizeExplicitAmount_ok, and_iff_right hScale, and_iff_right hExplicit]
      constructor
      · rintro ⟨given, hGiven, -, text, hText, hExponent, hUnits, hNegative, hSide⟩
        exact ⟨text, hText, hExponent, hUnits, hNegative, hGiven ▸ hSide⟩
      · rintro ⟨text, hText, hExponent, hUnits, hNegative, hSide⟩
        obtain ⟨given, hGiven, hNamed⟩ := Option.bind_eq_some_iff.1 hSide
        exact ⟨given, hGiven, strip_named hNamed, text, hText, hExponent, hUnits, hNegative,
          hNamed⟩
    · rw [if_neg hExplicit]
      constructor
      · intro hError
        cases hError
      · rintro ⟨_, -, -, -, hSemantics, -⟩
        exact absurd hSemantics hExplicit

end Planner

/-! ## What the reducer accepts -/

section Reducer

variable {amount : String} {text : DecimalText} {scale m : Nat} {d : Decimal}
  {semantics explicitSide : Option String} {side : PostingSide}

/-- `scaled`, in the context of 100 digits. -/
def DecimalText.scaled (text : DecimalText) (scale : Nat) : Decimal :=
  text.decimal.mul 100 ⟨false, 10 ^ scale, 0⟩

theorem DecimalText.negative_scaled (text : DecimalText) (scale : Nat) :
    (text.scaled scale).negative = text.negative := Bool.xor_false text.negative

/-- The checks of the integral part, by its magnitude. -/
theorem integral_iff : ((d.value = d.toIntegral.value ∧ d.toIntegral.value ≠ 0)
      ∧ places d.toIntegral.natAbs ≤ 38 ∧ d.toIntegral.natAbs = m)
    ↔ 0 < m ∧ m < 10 ^ 38 ∧ d.magnitude = m := by
  rw [Decimal.value_eq_iff Decimal.negative_toIntegral.symm, places_le]
  have hZero : d.toIntegral.value = 0 ↔ d.toIntegral.magnitude = 0 := by
    unfold Decimal.value
    split
    · exact neg_eq_zero
    · exact Iff.rfl
  rw [ne_eq, hZero]
  constructor
  · rintro ⟨⟨hEq, hSome⟩, hBound, hAbs⟩
    obtain ⟨k, hk⟩ := d.exists_magnitude_toIntegral
    have hMagnitude : d.magnitude = k := hEq.trans hk
    obtain rfl : k = m := (Decimal.toIntegral_of_eq hMagnitude).2.symm.trans hAbs
    refine ⟨Nat.pos_of_ne_zero fun hNone => hSome ?_, hAbs ▸ hBound, hMagnitude⟩
    rw [hk, hNone, Nat.cast_zero]
  · rintro ⟨hm, hBound, hMagnitude⟩
    obtain ⟨hIntegral, hAbs⟩ := Decimal.toIntegral_of_eq hMagnitude
    refine ⟨⟨hMagnitude.trans hIntegral.symm, ?_⟩, hAbs.symm ▸ hBound, hAbs⟩
    rw [hIntegral]
    exact Nat.cast_ne_zero.2 hm.ne'

theorem integral_positive (hm : 0 < m) (hMagnitude : d.magnitude = m) :
    (if 0 < d.toIntegral.value then PostingSide.debit else .credit)
      = if d.negative then .credit else .debit := by
  have hPositive : (0 : ℚ) < m := Nat.cast_pos.2 hm
  unfold Decimal.value
  rw [Decimal.negative_toIntegral, (Decimal.toIntegral_of_eq hMagnitude).1]
  cases d.negative
  · exact if_pos hPositive
  · exact if_neg (not_lt.2 (neg_nonpos.2 hPositive.le))

theorem sourceExactAmount_ok :
    sourceExactAmount (some amount) semantics explicitSide scale = .ok (side, m) ↔
      amount.length ≤ 128 ∧ scale ≤ 30 ∧ ∃ text, historicalDecimal amount = some text
        ∧ text.exponentValue.natAbs ≤ 100
        ∧ (0 < m ∧ m < 10 ^ 38 ∧ (text.scaled scale).magnitude = m)
        ∧ SideRead semantics explicitSide text.negative side := by
  have hSides (text : DecimalText) (hText : historicalDecimal amount = some text)
      (units : Nat) (hUnits : 0 < units) (hMagnitude : (text.scaled scale).magnitude = units) :
      (if semantics = none ∨ semantics = some "legacy_signed" then
          pure (if 0 < (text.scaled scale).toIntegral.value then PostingSide.debit else .credit,
            units)
        else do
          require (semantics = some "debit_credit") sourceExactAmount.invalid
          require (amount.toList.head? ≠ some '-') sourceExactAmount.invalid
          let side ← fetch (explicitSide.bind postingSideOf) sourceExactAmount.invalid
          return (side, units)) = .ok (side, m)
        ↔ units = m ∧ SideRead semantics explicitSide text.negative side := by
    by_cases hLegacy : semantics = none ∨ semantics = some "legacy_signed"
    · rw [if_pos hLegacy, sideRead_legacy hLegacy, integral_positive hUnits hMagnitude,
        text.negative_scaled, pure_eq_ok, Prod.mk.injEq, and_comm]
      exact and_congr_right fun _ => eq_comm
    · have hSign : amount.toList.head? ≠ some '-' ↔ text.negative = false := by
        rw [ne_eq, ← historicalDecimal_negative hText, Bool.not_eq_true]
      rw [if_neg hLegacy, sideRead_explicit hLegacy]
      simp only [bind_eq_ok, require_eq_ok, fetch_eq_ok, pure_eq_ok, exists_const, hSign,
        Prod.mk.injEq]
      constructor
      · rintro ⟨hSemantics, hNegative, given, hGiven, rfl, rfl⟩
        exact ⟨rfl, hSemantics, hNegative, hGiven⟩
      · rintro ⟨rfl, hSemantics, hNegative, hGiven⟩
        exact ⟨hSemantics, hNegative, side, hGiven, rfl, rfl⟩
  simp only [sourceExactAmount, bind_eq_ok, fetch_eq_ok, require_eq_ok, exists_const,
    Option.some.injEq, exists_eq_left']
  refine and_congr_right fun _ => ?_
  constructor
  · rintro ⟨text, hText, hScale, hExponent, hIntegral, hPlaces, hSide⟩
    have hUnits := (integral_iff (d := text.scaled scale)).1 ⟨hIntegral, hPlaces, rfl⟩
    obtain ⟨rfl, hRead⟩ := (hSides text hText _ hUnits.1 hUnits.2.2).1 hSide
    exact ⟨hScale, text, hText, hExponent, hUnits, hRead⟩
  · rintro ⟨hScale, text, hText, hExponent, hUnits, hRead⟩
    obtain ⟨hIntegral, hPlaces, hAbs⟩ := (integral_iff (d := text.scaled scale)).2 hUnits
    refine ⟨text, hText, hScale, hExponent, hIntegral, hPlaces, ?_⟩
    exact (hSides text hText _ (hAbs.symm ▸ hUnits.1) (hAbs.symm ▸ hUnits.2.2)).2 ⟨hAbs, hRead⟩

/-- The digits of the coefficient after the first hundred are zeros, so the context keeps the
number. -/
def DecimalText.FitsContext (text : DecimalText) : Prop :=
  10 ^ (places (units text.digits) - 100) ∣ units text.digits

/-- Then scaling is exact. -/
theorem DecimalText.magnitude_scaled (h : text.FitsContext) :
    (text.scaled scale).magnitude = text.decimal.magnitude * 10 ^ scale := by
  have hDigits : 10 ^ (places (units text.digits * 10 ^ scale) - 100)
      ∣ units text.digits * 10 ^ scale := by
    obtain hZero | hPositive := Nat.eq_zero_or_pos (units text.digits)
    · rw [hZero, Nat.zero_mul]
      exact Nat.dvd_zero _
    · rw [places_mul_pow hPositive]
      refine (Nat.pow_dvd_pow 10 ?_).trans (pow_add 10 _ _ ▸ Nat.mul_dvd_mul_right h _)
      omega
  refine (Decimal.magnitude_rounded hDigits).trans ?_
  unfold Decimal.magnitude DecimalText.decimal
  push_cast
  rw [add_zero]
  ring

/-- Units within the ledger's bound leave only zeros there. -/
theorem DecimalText.Units.fitsContext (h : text.Units scale m) : text.FitsContext := by
  have hUnits := h.2.2
  rw [text.units_scaled] at hUnits
  exact places_dvd_of_eq hUnits (h.2.1.trans_le (Nat.pow_le_pow_right (by decide) (by decide)))

end Reducer

/-! ## Both -/

/-- The bounds that the reducer puts on a text. -/
def WithinReducer (amount : String) : Prop :=
  amount.length ≤ 128 ∧ ∀ text ∈ historicalDecimal amount, text.exponentValue.natAbs ≤ 100

/-- What the planner accepts the reducer accepts within its bounds, with the same side and
units; and what the reducer accepts is within its bounds, and the planner accepts it unless the
reducer's context had to round the digits. -/
theorem frozen_amounts_agree {policies : Dict String HistoricalAssetScale}
    {row : SourcePostingAmount} {policy : HistoricalAssetScale} {amount : String}
    (hPolicy : policies.lookup row.currency = some policy) (hAmount : row.amount = some amount) :
    (∀ result, normalizePosting policies row = .ok result →
      (sourceExactAmount row.amount row.amountSemantics row.side policy.ledgerScale = .ok result
        ↔ WithinReducer amount))
    ∧ ∀ result,
      sourceExactAmount row.amount row.amountSemantics row.side policy.ledgerScale = .ok result →
        WithinReducer amount
          ∧ ((∀ text ∈ historicalDecimal amount, text.FitsContext) →
            normalizePosting policies row = .ok result) := by
  rw [hAmount]
  constructor
  · rintro ⟨side, m⟩ hPlanned
    obtain ⟨text, hText, -, hUnits, hRead⟩ := (normalizePosting_ok hPolicy hAmount).1 hPlanned
    rw [sourceExactAmount_ok]
    constructor
    · rintro ⟨hLength, -, other, hOther, hExponent, -⟩
      obtain rfl : text = other := Option.some.inj (hText.symm.trans hOther)
      refine ⟨hLength, fun given hGiven => ?_⟩
      obtain rfl : text = given := Option.some.inj (hText.symm.trans hGiven)
      exact hExponent
    · rintro ⟨hLength, hExponent⟩
      refine ⟨hLength, policy.hLedgerScale, text, hText, hExponent text hText, ?_, hRead⟩
      rw [DecimalText.magnitude_scaled hUnits.fitsContext]
      exact hUnits
  · rintro ⟨side, m⟩ hReduced
    obtain ⟨hLength, -, text, hText, hExponent, hUnits, hRead⟩ := sourceExactAmount_ok.1 hReduced
    refine ⟨⟨hLength, fun given hGiven => ?_⟩, fun hFits => ?_⟩
    · obtain rfl : text = given := Option.some.inj (hText.symm.trans hGiven)
      exact hExponent
    · rw [DecimalText.magnitude_scaled (hFits text hText)] at hUnits
      exact (normalizePosting_ok hPolicy hAmount).2
        ⟨text, hText, hExponent.trans_lt (by decide), hUnits, hRead⟩

/-! ### Amounts at a scale of two -/

def sampleScale : HistoricalAssetScale := ⟨2, 2, 2, by decide, by decide, by decide⟩

def samplePolicies : Dict String HistoricalAssetScale := AList.singleton "TWD" sampleScale

def sampleAmount (amount : String) : SourcePostingAmount :=
  ⟨"TWD", some "legacy_signed", some amount, none⟩

theorem frozen_amounts_agree_sample :
    sourceExactAmount (some "-12.50") (some "legacy_signed") none 2 = .ok (.credit, 1250) := by
  have hPlanned : normalizePosting samplePolicies (sampleAmount "-12.50")
      = .ok (.credit, 1250) := by decide
  have hAgree := @frozen_amounts_agree samplePolicies (sampleAmount "-12.50") sampleScale "-12.50"
    rfl rfl
  refine (hAgree.1 _ hPlanned).2 ⟨by decide, fun text hText => ?_⟩
  have hAll : (historicalDecimal "-12.50").all (fun text =>
      decide (text.exponentValue.natAbs ≤ 100)) = true := by decide
  rw [hText] at hAll
  exact of_decide_eq_true hAll

/-- One unit with 127 decimals: the planner reads a hundred units of the ledger, the reducer
refuses the text for its length. -/
def longAmount : String := String.ofList ('1' :: '.' :: List.replicate 127 '0')

theorem frozen_amounts_differ : ¬ ∀ (policies : Dict String HistoricalAssetScale)
    (row : SourcePostingAmount) (policy : HistoricalAssetScale) (amount : String),
    policies.lookup row.currency = some policy → row.amount = some amount →
    ∀ result, normalizePosting policies row = .ok result ↔
      sourceExactAmount row.amount row.amountSemantics row.side policy.ledgerScale
        = .ok result := by
  intro hAgree
  have hPlanned : normalizePosting samplePolicies (sampleAmount longAmount)
      = .ok (.debit, 100) := by decide +kernel
  have hReduced := (hAgree samplePolicies (sampleAmount longAmount) sampleScale longAmount rfl rfl
    (.debit, 100)).1 hPlanned
  exact absurd hReduced (by decide +kernel)

end TrackAnywhere.Ports
