import Mathlib

/-!
# Decimal numbers in a context

A decimal is a sign, a coefficient and an exponent.  An operation in a context computes the
exact decimal and rounds its coefficient to the precision, half to even; a decimal whose
places beyond the precision are zeros keeps its value.
-/

namespace TrackAnywhere.Verified.DecimalContext

/-- A sign, the digits and the place of the last one. -/
structure Decimal where
  negative : Bool
  coefficient : Nat
  exponent : Int
deriving DecidableEq

/-- How many digits a number has; none for zero. -/
def places (n : Nat) : Nat := (Nat.digits 10 n).length

/-- The number without its last `k` digits, rounded half to even. -/
def halfEven (n k : Nat) : Nat :=
  if 10 ^ k < 2 * (n % 10 ^ k) ∨ (2 * (n % 10 ^ k) = 10 ^ k ∧ n / 10 ^ k % 2 = 1) then
    n / 10 ^ k + 1
  else n / 10 ^ k

namespace Decimal

/-- The absolute value. -/
def magnitude (d : Decimal) : ℚ := d.coefficient * 10 ^ d.exponent

def value (d : Decimal) : ℚ := if d.negative then -d.magnitude else d.magnitude

/-- Round the last `k` digits away; a carry into one more place stays in the coefficient. -/
def shorten (k : Nat) (d : Decimal) : Decimal where
  negative := d.negative
  coefficient := halfEven d.coefficient k
  exponent := d.exponent + k

/-- Round the coefficient to the precision. -/
def rounded (precision : Nat) (d : Decimal) : Decimal :=
  d.shorten (places d.coefficient - precision)

/-- Round the coefficient to the precision, and the exponent to the least one. -/
def limited (precision : Nat) (least : Int) (d : Decimal) : Decimal :=
  d.shorten (max (places d.coefficient - precision) (least - d.exponent).toNat)

/-- The exponent of the first digit. -/
def adjusted (d : Decimal) : Int := d.exponent + places d.coefficient - 1

/-- The product in a context. -/
def mul (precision : Nat) (a b : Decimal) : Decimal :=
  rounded precision
    { negative := a.negative ^^ b.negative
      coefficient := a.coefficient * b.coefficient
      exponent := a.exponent + b.exponent }

/-- `to_integral_value` -/
def toIntegral (d : Decimal) : Decimal :=
  if 0 ≤ d.exponent then d
  else { d with coefficient := halfEven d.coefficient (-d.exponent).toNat, exponent := 0 }

/-- The absolute value of `int(d)`, which drops the fraction. -/
def natAbs (d : Decimal) : Nat :=
  if 0 ≤ d.exponent then d.coefficient * 10 ^ d.exponent.toNat
  else d.coefficient / 10 ^ (-d.exponent).toNat

end Decimal

variable {n m k precision : Nat} {exponent : Int} {d : Decimal}

/-! ## Places -/

theorem places_le : places n ≤ k ↔ n < 10 ^ k := Nat.digits_length_le_iff (by decide) n

theorem places_mul_pow (hn : 0 < n) (k : Nat) : places (n * 10 ^ k) = places n + k := by
  unfold places
  rw [Nat.mul_comm, Nat.digits_base_pow_mul (by decide) hn, List.length_append,
    List.length_replicate, Nat.add_comm]

/-- A decimal that is a natural number, in natural numbers. -/
theorem mul_zpow_eq_iff : (n : ℚ) * 10 ^ exponent = m ↔
    if 0 ≤ exponent then n * 10 ^ exponent.toNat = m else n = m * 10 ^ (-exponent).toNat := by
  split
  · next hExponent =>
      obtain ⟨k, rfl⟩ := Int.eq_ofNat_of_zero_le hExponent
      rw [Int.toNat_natCast, zpow_natCast, ← Nat.cast_inj (R := ℚ)]
      push_cast
      rfl
  · next hExponent =>
      obtain ⟨k, rfl⟩ : ∃ k : Nat, exponent = -k := ⟨(-exponent).toNat, by omega⟩
      rw [neg_neg, Int.toNat_natCast, zpow_neg, zpow_natCast, ← div_eq_mul_inv,
        div_eq_iff (by positivity), ← Nat.cast_inj (R := ℚ)]
      push_cast
      rfl

/-- The places beyond the precision are zeros in a decimal that denotes a smaller integer. -/
theorem places_dvd_of_eq (hEq : (n : ℚ) * 10 ^ exponent = m) (hm : m < 10 ^ precision) :
    10 ^ (places n - precision) ∣ n := by
  rw [mul_zpow_eq_iff] at hEq
  split at hEq
  · have hn : n ≤ m := hEq ▸ Nat.le_mul_of_pos_right n (by positivity)
    rw [Nat.sub_eq_zero_of_le (places_le.2 (hn.trans_lt hm)), pow_zero]
    exact Nat.one_dvd n
  · obtain rfl | hPositive := m.eq_zero_or_pos
    · rw [hEq, Nat.zero_mul]
      exact Nat.dvd_zero _
    · have hPlaces := places_mul_pow hPositive (-exponent).toNat
      have hShort := places_le.2 hm
      rw [← hEq] at hPlaces
      refine (Nat.pow_dvd_pow 10 ?_).trans (Dvd.intro_left m hEq.symm)
      omega

/-! ## Rounding -/

theorem halfEven_of_dvd (h : 10 ^ k ∣ n) : halfEven n k = n / 10 ^ k := by
  have hZero : n % 10 ^ k = 0 := Nat.mod_eq_zero_of_dvd h
  have hPow : 0 < 10 ^ k := by positivity
  unfold halfEven
  rw [hZero, if_neg (by omega)]

theorem halfEven_mul_pow (n k j : Nat) : halfEven (n * 10 ^ j) (k + j) = halfEven n k := by
  have hPow : 0 < 10 ^ j := by positivity
  have hLeft : 10 ^ k * 10 ^ j < 2 * (n % 10 ^ k * 10 ^ j) ↔ 10 ^ k < 2 * (n % 10 ^ k) := by
    rw [← Nat.mul_assoc]
    exact Nat.mul_lt_mul_right hPow
  have hTie : 2 * (n % 10 ^ k * 10 ^ j) = 10 ^ k * 10 ^ j ↔ 2 * (n % 10 ^ k) = 10 ^ k := by
    rw [← Nat.mul_assoc]
    exact Nat.mul_left_inj hPow.ne'
  unfold halfEven
  rw [pow_add, Nat.mul_mod_mul_right, Nat.mul_div_mul_right _ _ hPow]
  simp only [hLeft, hTie]

namespace Decimal

theorem magnitude_shorten (h : 10 ^ k ∣ d.coefficient) :
    (d.shorten k).magnitude = d.magnitude := by
  unfold magnitude shorten
  obtain ⟨q, hq⟩ := h
  simp only [halfEven_of_dvd (Dvd.intro q hq.symm)]
  rw [zpow_add₀ (by norm_num), zpow_natCast, mul_comm ((10 : ℚ) ^ d.exponent), ← mul_assoc]
  refine congrArg (· * (10 : ℚ) ^ d.exponent) ?_
  exact_mod_cast Nat.div_mul_cancel (Dvd.intro q hq.symm)

theorem magnitude_rounded (h : 10 ^ (places d.coefficient - precision) ∣ d.coefficient) :
    (d.rounded precision).magnitude = d.magnitude := magnitude_shorten h

/-- A zero more at the end of the coefficient changes no magnitude. -/
theorem magnitude_zeros {e : Decimal} {j : Nat}
    (hCoefficient : d.coefficient = e.coefficient * 10 ^ j)
    (hExponent : d.exponent + j = e.exponent) : d.magnitude = e.magnitude := by
  unfold magnitude
  rw [hCoefficient, ← hExponent, zpow_add₀ (by norm_num), zpow_natCast]
  push_cast
  ring

/-- With zeros at the end of the coefficient the digits are cut at the same position of the
number, or only zeros are cut. -/
theorem magnitude_limited_zeros {least : Int} {e : Decimal} {j : Nat}
    (hPositive : 0 < e.coefficient)
    (hCoefficient : d.coefficient = e.coefficient * 10 ^ j)
    (hExponent : d.exponent + j = e.exponent) :
    (d.limited precision least).magnitude = (e.limited precision least).magnitude := by
  have hPlaces : places d.coefficient = places e.coefficient + j :=
    hCoefficient ▸ places_mul_pow hPositive j
  unfold limited
  rw [hPlaces]
  by_cases hSame : max (places e.coefficient + j - precision) (least - d.exponent).toNat
      = max (places e.coefficient - precision) (least - e.exponent).toNat + j
  · rw [hSame]
    unfold magnitude shorten
    rw [hCoefficient, halfEven_mul_pow]
    congr 2
    push_cast
    omega
  · have hNone : max (places e.coefficient - precision) (least - e.exponent).toNat = 0 := by omega
    have hZeros : max (places e.coefficient + j - precision) (least - d.exponent).toNat ≤ j := by
      omega
    rw [hNone, magnitude_shorten (hCoefficient ▸ Dvd.dvd.mul_left (Nat.pow_dvd_pow 10 hZeros) _),
      magnitude_shorten (pow_zero 10 ▸ Nat.one_dvd _)]
    exact magnitude_zeros hCoefficient hExponent

/-- Without a least exponent. -/
theorem magnitude_rounded_zeros {e : Decimal} {j : Nat} (hPositive : 0 < e.coefficient)
    (hCoefficient : d.coefficient = e.coefficient * 10 ^ j)
    (hExponent : d.exponent + j = e.exponent) :
    (d.rounded precision).magnitude = (e.rounded precision).magnitude := by
  have hRounded (a : Decimal) (hLeast : d.exponent ≤ a.exponent) :
      a.rounded precision = a.limited precision d.exponent := by
    unfold rounded limited
    rw [Int.toNat_eq_zero.2 (by omega), Nat.max_zero]
  rw [hRounded d le_rfl, hRounded e (by omega)]
  exact magnitude_limited_zeros hPositive hCoefficient hExponent

/-- Rounding as a function of the number. -/
noncomputable def roundMagnitude (precision : Nat) (least : Int) (q : ℚ) : ℚ :=
  open Classical in
  if h : ∃ d : Decimal, 0 < d.coefficient ∧ d.magnitude = q then
    (h.choose.limited precision least).magnitude
  else q

/-- An integer, rounded to the precision. -/
def roundedNat (precision n : Nat) : Nat :=
  halfEven n (places n - precision) * 10 ^ (places n - precision)

theorem magnitude_rounded_nat {negative : Bool} (precision n : Nat) :
    ((Decimal.mk negative n 0).rounded precision).magnitude = roundedNat precision n := by
  unfold magnitude rounded shorten roundedNat
  push_cast
  rw [zero_add, zpow_natCast]

/-- The digits beyond the precision have to be zeros. -/
theorem roundedNat_eq_self_iff :
    roundedNat precision n = n ↔ 10 ^ (places n - precision) ∣ n := by
  constructor
  · intro h
    exact Dvd.intro_left _ h
  · intro h
    rw [roundedNat, halfEven_of_dvd h, Nat.div_mul_cancel h]

/-- A precision of one digit keeps a positive integer positive. -/
theorem roundedNat_pos (hPrecision : 0 < precision) (hn : 0 < n) : 0 < roundedNat precision n := by
  have hPow : 10 ^ (places n - precision) ≤ n := by
    by_contra hLarge
    have hPlaces : places n ≤ places n - precision := places_le.2 (not_le.1 hLarge)
    have hSome : ¬places n ≤ 0 := fun hNone => by
      have := places_le.1 hNone
      omega
    omega
  have hQuotient : 0 < n / 10 ^ (places n - precision) := Nat.div_pos hPow (by positivity)
  have hHalf : n / 10 ^ (places n - precision) ≤ halfEven n (places n - precision) := by
    unfold halfEven
    split <;> omega
  exact Nat.mul_pos (hQuotient.trans_le hHalf) (by positivity)

/-- The integer that an integral decimal denotes. -/
theorem toIntegral_of_eq (h : d.magnitude = m) :
    d.toIntegral.magnitude = m ∧ d.toIntegral.natAbs = m := by
  have hUnits := mul_zpow_eq_iff.1 h
  unfold toIntegral
  by_cases hExponent : 0 ≤ d.exponent
  · rw [if_pos hExponent] at hUnits
    rw [if_pos hExponent]
    exact ⟨h, by rw [natAbs, if_pos hExponent, hUnits]⟩
  · rw [if_neg hExponent] at hUnits
    have hRounded : halfEven d.coefficient (-d.exponent).toNat = m := by
      rw [halfEven_of_dvd (Dvd.intro_left m hUnits.symm), hUnits]
      exact Nat.mul_div_cancel m (by positivity)
    rw [if_neg hExponent]
    constructor
    · simp only [magnitude, hRounded, zpow_zero, mul_one]
    · simp only [natAbs, hRounded, le_refl, if_true, Int.toNat_zero, pow_zero, Nat.mul_one]

/-- What is rounded to an integer is one. -/
theorem exists_magnitude_toIntegral (d : Decimal) : ∃ m : Nat, d.toIntegral.magnitude = m := by
  unfold toIntegral
  by_cases hExponent : 0 ≤ d.exponent
  · refine ⟨d.coefficient * 10 ^ d.exponent.toNat, ?_⟩
    rw [if_pos hExponent]
    exact mul_zpow_eq_iff.2 (by rw [if_pos hExponent])
  · refine ⟨halfEven d.coefficient (-d.exponent).toNat, ?_⟩
    rw [if_neg hExponent]
    simp only [magnitude, zpow_zero, mul_one]

@[simp] theorem negative_toIntegral : d.toIntegral.negative = d.negative := by
  unfold toIntegral
  split <;> rfl

@[simp] theorem negative_rounded : (d.rounded precision).negative = d.negative := rfl

/-- Decimals of one sign are equal as numbers when their absolute values are. -/
theorem value_eq_iff {e : Decimal} (hSign : d.negative = e.negative) :
    d.value = e.value ↔ d.magnitude = e.magnitude := by
  unfold value
  rw [hSign]
  split
  · exact neg_inj
  · exact Iff.rfl

end Decimal

end TrackAnywhere.Verified.DecimalContext
