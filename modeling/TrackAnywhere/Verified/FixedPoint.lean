import Mathlib

/-!
# Fixed-point decimals

A fixed-point text is a run of digits with a point before the last `scale` of
them.  `units` is the number that a run of digits denotes; padding on the left
and dropping zeros on the left keep it, a zero on the right multiplies it by
ten.  Reading a fraction at a scale is padding it on the right, writing a number
at a scale is padding it on the left and cutting it before the last digits.

Two runs of the same length that denote the same number are the same run, so
reading and writing at one scale are inverse.
-/

namespace TrackAnywhere.Verified.FixedPoint

/-- The number that digits denote. -/
abbrev units (digits : List Char) : Nat := Nat.ofDigitChars 10 digits 0

/-- Every character is an ASCII digit. -/
def Digits (cs : List Char) : Prop := ∀ c ∈ cs, c.isDigit = true

/-- At least `width` characters, by zeros on the left. -/
def padLeft (width : Nat) (cs : List Char) : List Char :=
  List.replicate (width - cs.length) '0' ++ cs

/-- At least `width` characters, by zeros on the right. -/
def padRight (width : Nat) (cs : List Char) : List Char :=
  cs ++ List.replicate (width - cs.length) '0'

/-- The digits without leading zeros. -/
def significant (cs : List Char) : List Char := cs.dropWhile (· = '0')

/-- The digits without trailing zeros. -/
def trimmed (cs : List Char) : List Char := (cs.reverse.dropWhile (· = '0')).reverse

/-- What stands before the last `scale` characters. -/
def wholePart (scale : Nat) (cs : List Char) : List Char := cs.take (cs.length - scale)

/-- The last `scale` characters. -/
def fractionPart (scale : Nat) (cs : List Char) : List Char := cs.drop (cs.length - scale)

variable {cs ds : List Char} {n scale width : Nat}

/-! ## Digits -/

theorem digits_nil : Digits [] := by
  intro c hc
  cases hc

theorem Digits.append (hcs : Digits cs) (hds : Digits ds) : Digits (cs ++ ds) := by
  intro c hc
  rcases List.mem_append.1 hc with h | h
  · exact hcs c h
  · exact hds c h

theorem digits_append_iff : Digits (cs ++ ds) ↔ Digits cs ∧ Digits ds := by
  constructor
  · intro h
    exact ⟨fun c hc => h c (List.mem_append_left _ hc),
      fun c hc => h c (List.mem_append_right _ hc)⟩
  · rintro ⟨hcs, hds⟩
    exact hcs.append hds

theorem digits_zeros (n : Nat) : Digits (List.replicate n '0') := by
  intro c hc
  rw [List.eq_of_mem_replicate hc]
  rfl

theorem digits_toDigits (n : Nat) : Digits (Nat.toDigits 10 n) :=
  fun _ hc => Nat.isDigit_of_mem_toDigits (by decide) le_rfl hc

theorem Digits.padLeft (h : Digits cs) (width : Nat) : Digits (padLeft width cs) :=
  (digits_zeros _).append h

theorem Digits.padRight (h : Digits cs) : Digits (padRight width cs) :=
  h.append (digits_zeros _)

theorem wholePart_append_fractionPart (scale : Nat) (cs : List Char) :
    wholePart scale cs ++ fractionPart scale cs = cs :=
  List.take_append_drop _ _

theorem Digits.parts (h : Digits cs) (scale : Nat) :
    Digits (wholePart scale cs) ∧ Digits (fractionPart scale cs) := by
  rw [← digits_append_iff, wholePart_append_fractionPart]
  exact h

/-- The value of one digit. -/
theorem digit_lt {c : Char} (h : c.isDigit = true) : c.toNat - '0'.toNat < 10 := by
  have hRange : 48 ≤ c.toNat ∧ c.toNat ≤ 57 := by
    simpa [Char.isDigit, UInt32.le_iff_toNat_le] using h
  show c.toNat - 48 < 10
  omega

theorem digit_eq_zero {c : Char} (h : c.isDigit = true) :
    c.toNat - '0'.toNat = 0 ↔ c = '0' := by
  have hRange : 48 ≤ c.toNat ∧ c.toNat ≤ 57 := by
    simpa [Char.isDigit, UInt32.le_iff_toNat_le] using h
  constructor
  · intro hZero
    apply Char.ext
    apply UInt32.toNat_inj.1
    show c.toNat = 48
    have hDiff : c.toNat - 48 = 0 := hZero
    omega
  · rintro rfl
    rfl

/-! ## The number that digits denote -/

@[simp] theorem units_nil : units [] = 0 := rfl

theorem units_append (cs ds : List Char) :
    units (cs ++ ds) = 10 ^ ds.length * units cs + units ds := by
  rw [units, Nat.ofDigitChars_append, Nat.ofDigitChars_eq_ofDigitChars_zero]

theorem units_cons (c : Char) (cs : List Char) :
    units (c :: cs) = 10 ^ cs.length * (c.toNat - '0'.toNat) + units cs := by
  rw [units, Nat.ofDigitChars_cons, Nat.ofDigitChars_eq_ofDigitChars_zero, Nat.mul_zero,
    Nat.zero_add]

@[simp] theorem units_zeros (n : Nat) : units (List.replicate n '0') = 0 := by
  rw [units, Nat.ofDigitChars_replicate_zero, Nat.mul_zero]

@[simp] theorem units_toDigits (n : Nat) : units (Nat.toDigits 10 n) = n :=
  Nat.ofDigitChars_ten_toDigits

@[simp] theorem units_padLeft (width : Nat) (cs : List Char) :
    units (padLeft width cs) = units cs := by
  rw [padLeft, units_append, units_zeros, Nat.mul_zero, Nat.zero_add]

theorem units_lt (h : Digits cs) : units cs < 10 ^ cs.length := by
  induction cs with
  | nil => exact Nat.one_pos
  | cons c cs ih =>
      have hFirst := digit_lt (h c List.mem_cons_self)
      have hRest := ih fun d hd => h d (List.mem_cons_of_mem _ hd)
      rw [units_cons, List.length_cons, Nat.pow_succ]
      calc 10 ^ cs.length * (c.toNat - '0'.toNat) + units cs
          < 10 ^ cs.length * (c.toNat - '0'.toNat) + 10 ^ cs.length := by omega
        _ = 10 ^ cs.length * (c.toNat - '0'.toNat + 1) := by ring
        _ ≤ 10 ^ cs.length * 10 := Nat.mul_le_mul_left _ hFirst

theorem units_eq_zero (h : Digits cs) : units cs = 0 ↔ ∀ c ∈ cs, c = '0' := by
  induction cs with
  | nil => simp
  | cons c cs ih =>
      have hFirst := digit_eq_zero (h c List.mem_cons_self)
      have hRest := ih fun d hd => h d (List.mem_cons_of_mem _ hd)
      have hPow : 10 ^ cs.length ≠ 0 := by positivity
      rw [units_cons, Nat.add_eq_zero_iff, Nat.mul_eq_zero, or_iff_right hPow, hFirst, hRest,
        List.forall_mem_cons]

/-- Runs of one length that denote one number are one run. -/
theorem digits_injective (hcs : Digits cs) (hds : Digits ds)
    (hLength : cs.length = ds.length) (hUnits : units cs = units ds) : cs = ds := by
  induction cs generalizing ds with
  | nil => exact (List.length_eq_zero_iff.1 hLength.symm).symm
  | cons c cs ih =>
      cases ds with
      | nil => simp at hLength
      | cons d ds =>
          have hTail : cs.length = ds.length := by simpa using hLength
          have hcs' : Digits cs := fun e he => hcs e (List.mem_cons_of_mem _ he)
          have hds' : Digits ds := fun e he => hds e (List.mem_cons_of_mem _ he)
          have hLow := units_lt hcs'
          have hLow' := units_lt hds'
          rw [units_cons, units_cons, ← hTail] at hUnits
          rw [← hTail] at hLow'
          have hPow : 0 < 10 ^ cs.length := by positivity
          -- the tails are remainders, the heads quotients
          have hMod := congrArg (· % 10 ^ cs.length) hUnits
          have hDiv := congrArg (· / 10 ^ cs.length) hUnits
          simp only [Nat.mul_add_mod, Nat.mod_eq_of_lt hLow, Nat.mod_eq_of_lt hLow'] at hMod
          simp only [Nat.mul_add_div hPow, Nat.div_eq_of_lt hLow, Nat.div_eq_of_lt hLow',
            Nat.add_zero] at hDiv
          have hHead : c = d := by
            have hc : 48 ≤ c.toNat ∧ c.toNat ≤ 57 := by
              simpa [Char.isDigit, UInt32.le_iff_toNat_le] using hcs c List.mem_cons_self
            have hd : 48 ≤ d.toNat ∧ d.toNat ≤ 57 := by
              simpa [Char.isDigit, UInt32.le_iff_toNat_le] using hds d List.mem_cons_self
            apply Char.ext
            apply UInt32.toNat_inj.1
            show c.toNat = d.toNat
            have hDiff : c.toNat - 48 = d.toNat - 48 := hDiv
            omega
          rw [hHead, ih hcs' hds' hTail hMod]

/-! ## Leading zeros -/

theorem zeros_append_significant (cs : List Char) :
    ∃ k, cs = List.replicate k '0' ++ significant cs := by
  refine ⟨(cs.takeWhile (· = '0')).length, ?_⟩
  have hZeros : cs.takeWhile (· = '0')
      = List.replicate (cs.takeWhile (· = '0')).length '0' :=
    List.eq_replicate_of_mem fun c hc => by simpa using List.mem_takeWhile_imp hc
  rw [← hZeros, significant, List.takeWhile_append_dropWhile]

@[simp] theorem units_significant (cs : List Char) : units (significant cs) = units cs := by
  obtain ⟨k, hcs⟩ := zeros_append_significant cs
  conv_rhs => rw [hcs, units_append, units_zeros, Nat.mul_zero, Nat.zero_add]

theorem Digits.significant (h : Digits cs) : Digits (significant cs) :=
  fun c hc => h c ((List.dropWhile_suffix _).subset hc)

/-- A first digit that is not zero takes its whole place. -/
theorem le_units_cons {c : Char} (cs : List Char) (hDigit : c.isDigit = true)
    (hc : c ≠ '0') :
    10 ^ cs.length ≤ units (c :: cs) := by
  have hFirst : 0 < c.toNat - '0'.toNat :=
    Nat.pos_of_ne_zero fun hZero => hc ((digit_eq_zero hDigit).1 hZero)
  rw [units_cons]
  exact Nat.le_add_right_of_le (Nat.le_mul_of_pos_right _ hFirst)

theorem significant_cons_ne {c : Char} (h : significant cs = c :: ds) : c ≠ '0' := by
  intro hc
  have hHead := List.head?_dropWhile_not (fun c : Char => decide (c = '0')) cs
  rw [show cs.dropWhile (fun c => decide (c = '0')) = c :: ds from h] at hHead
  simp [hc] at hHead

/-- The digits without leading zeros count the places of the number. -/
theorem significant_length (h : Digits cs) :
    (significant cs).length ≤ n ↔ units cs < 10 ^ n := by
  have hDigits := h.significant
  rw [← units_significant]
  cases hRun : significant cs with
  | nil => simp
  | cons c ds =>
      rw [hRun] at hDigits
      constructor
      · intro hLength
        exact lt_of_lt_of_le (units_lt hDigits) (Nat.pow_le_pow_right (by decide) hLength)
      · intro hUnits
        have hPlace := le_units_cons ds (hDigits c List.mem_cons_self)
          (significant_cons_ne hRun)
        exact (Nat.pow_lt_pow_iff_right (by decide)).1 (lt_of_le_of_lt hPlace hUnits)

theorem significant_eq_nil (h : Digits cs) : significant cs = [] ↔ units cs = 0 := by
  rw [← List.length_eq_zero_iff, ← Nat.le_zero, significant_length h, pow_zero,
    Nat.lt_one_iff]

/-! ## Writing at a scale -/

/-- The digits of a number at a scale: one at least before the point. -/
def written (scale n : Nat) : List Char := padLeft (scale + 1) (Nat.toDigits 10 n)

/-- The canonical runs at a scale: a digit before the point, and no zero before
other digits there. -/
structure Canonical (scale : Nat) (whole fraction : List Char) : Prop where
  digits : Digits (whole ++ fraction)
  length : fraction.length = scale
  leading : whole.head? = some '0' → whole.length = 1
  nonempty : whole ≠ []

theorem digits_written (scale n : Nat) : Digits (written scale n) :=
  (digits_toDigits n).padLeft _

@[simp] theorem units_written (scale n : Nat) : units (written scale n) = n := by
  rw [written, units_padLeft, units_toDigits]

theorem length_written (scale n : Nat) :
    (written scale n).length = max (scale + 1) (Nat.toDigits 10 n).length := by
  rw [written, padLeft, List.length_append, List.length_replicate]
  omega

theorem written_parts (scale n : Nat) :
    wholePart scale (written scale n) ++ fractionPart scale (written scale n)
      = written scale n :=
  wholePart_append_fractionPart _ _

theorem length_fractionPart_written (scale n : Nat) :
    (fractionPart scale (written scale n)).length = scale := by
  have hLength := length_written scale n
  rw [fractionPart, List.length_drop]
  omega

theorem length_wholePart_written (scale n : Nat) :
    (wholePart scale (written scale n)).length = (written scale n).length - scale := by
  rw [wholePart, List.length_take]
  omega

/-- What is written at a scale is canonical. -/
theorem canonical_written (scale n : Nat) :
    Canonical scale (wholePart scale (written scale n))
      (fractionPart scale (written scale n)) where
  digits := by
    rw [written_parts]
    exact digits_written scale n
  length := length_fractionPart_written scale n
  nonempty := by
    intro hNil
    have hLength := length_wholePart_written scale n
    have hWritten := length_written scale n
    rw [hNil, List.length_nil] at hLength
    omega
  leading := by
    intro hZero
    by_contra hLong
    have hWritten := length_written scale n
    have hWhole := length_wholePart_written scale n
    have hMore : scale + 1 < (Nat.toDigits 10 n).length := by omega
    -- the number fills the places, so that its first digit is not zero
    have hPad : written scale n = Nat.toDigits 10 n := by
      rw [written, padLeft, show scale + 1 - (Nat.toDigits 10 n).length = 0 by omega]
      rfl
    obtain ⟨rest, hRest⟩ : ∃ rest, Nat.toDigits 10 n = '0' :: rest := by
      rw [hPad] at hZero
      unfold wholePart at hZero
      cases hDigits : Nat.toDigits 10 n with
      | nil => simp [hDigits] at hZero
      | cons c rest =>
          have hTake : (c :: rest).length - scale = ((c :: rest).length - scale - 1) + 1 := by
            rw [hDigits] at hMore
            omega
          rw [hDigits, hTake, List.take_succ_cons, List.head?_cons] at hZero
          exact ⟨rest, by rw [Option.some.inj hZero]⟩
    have hRestDigits : Digits rest := by
      intro c hc
      exact digits_toDigits n c (hRest ▸ List.mem_cons_of_mem _ hc)
    have hUnits : units rest = n := by
      have hAll := units_toDigits n
      rw [hRest, units_cons] at hAll
      simpa using hAll
    have hSmall : n < 10 ^ rest.length := hUnits ▸ units_lt hRestDigits
    have hPos : 0 < rest.length := by
      rw [hRest, List.length_cons] at hMore
      omega
    have hShort := (Nat.length_toDigits_le_iff (by decide) hPos).2 hSmall
    rw [hRest, List.length_cons] at hShort
    omega

/-- Canonical runs are what is written of their number. -/
theorem written_units {whole fraction : List Char} (h : Canonical scale whole fraction) :
    written scale (units (whole ++ fraction)) = whole ++ fraction := by
  apply digits_injective (digits_written _ _) h.digits
  · have hFraction := h.length
    have hWhole : 0 < whole.length := List.length_pos_iff.2 h.nonempty
    have hLength : (whole ++ fraction).length = whole.length + scale := by
      rw [List.length_append, hFraction]
    rw [length_written, hLength]
    have hLow := units_lt h.digits
    rw [hLength] at hLow
    have hUpper := (Nat.length_toDigits_le_iff (b := 10) (by decide)
      (by omega : 0 < whole.length + scale)).2 hLow
    by_cases hOne : whole.length = 1
    · omega
    · -- more than one digit before the point: the first is not zero
      cases whole with
      | nil => exact absurd rfl h.nonempty
      | cons c rest =>
          have hc : c ≠ '0' := by
            intro hZero
            exact hOne (h.leading (by rw [List.head?_cons, hZero]))
          have hPlace := le_units_cons (rest ++ fraction)
            (h.digits c List.mem_cons_self) hc
          have hLower : ¬ (Nat.toDigits 10 (units (c :: rest ++ fraction))).length
              ≤ (rest ++ fraction).length := by
            intro hShort
            have hPos : 0 < (rest ++ fraction).length := by
              rw [List.length_append]
              rw [List.length_cons] at hOne
              omega
            have hSmall := (Nat.length_toDigits_le_iff (by decide) hPos).1 hShort
            exact absurd hSmall (not_lt.2 hPlace)
          rw [List.length_append, hFraction] at hLower
          rw [List.length_cons] at hUpper ⊢
          omega
  · exact units_written _ _

/-- The parts of canonical runs are the runs themselves. -/
theorem Canonical.parts {whole fraction : List Char} (h : Canonical scale whole fraction) :
    wholePart scale (whole ++ fraction) = whole
      ∧ fractionPart scale (whole ++ fraction) = fraction := by
  have hCut : (whole ++ fraction).length - scale = whole.length := by
    rw [List.length_append, h.length]
    omega
  rw [wholePart, fractionPart, hCut]
  exact ⟨List.take_left, List.drop_left⟩

/-! ## Trailing zeros, and the quotient -/

theorem trimmed_append_zeros (cs : List Char) :
    ∃ k, cs = trimmed cs ++ List.replicate k '0' := by
  obtain ⟨k, hcs⟩ := zeros_append_significant cs.reverse
  refine ⟨k, ?_⟩
  have hReverse := congrArg List.reverse hcs
  rwa [List.reverse_reverse, List.reverse_append, List.reverse_replicate] at hReverse

theorem trimmed_getLast (cs : List Char) : (trimmed cs).getLast? ≠ some '0' := by
  rw [trimmed, List.getLast?_reverse]
  intro hHead
  cases hRun : significant cs.reverse with
  | nil =>
      rw [show cs.reverse.dropWhile (fun c => decide (c = '0')) = [] from hRun] at hHead
      cases hHead
  | cons c ds =>
      rw [show cs.reverse.dropWhile (fun c => decide (c = '0')) = c :: ds from hRun] at hHead
      exact significant_cons_ne hRun (Option.some.inj hHead)

theorem trimmed_length (cs : List Char) : (trimmed cs).length ≤ cs.length := by
  obtain ⟨k, hcs⟩ := trimmed_append_zeros cs
  conv_rhs => rw [hcs, List.length_append]
  omega

/-- Every run between the trimmed one and the run is trimmed to the same. -/
theorem trimmed_length_le (hcs : cs = ds ++ List.replicate n '0') :
    (trimmed cs).length ≤ ds.length := by
  subst hcs
  rw [trimmed, List.reverse_append, List.reverse_replicate, List.length_reverse]
  have hDrop : (List.replicate n '0' ++ ds.reverse).dropWhile (fun c => decide (c = '0'))
      = ds.reverse.dropWhile (fun c => decide (c = '0')) := by
    rw [List.dropWhile_append]
    simp
  rw [hDrop]
  simpa using (List.dropWhile_suffix (fun c : Char => decide (c = '0'))
    (l := ds.reverse)).length_le

/-- The number that digits with a point among them denote. -/
def quotient (whole fraction : List Char) : ℚ :=
  units (whole ++ fraction) / 10 ^ fraction.length

theorem quotient_append_zeros (whole fraction : List Char) (k : Nat) :
    quotient whole (fraction ++ List.replicate k '0') = quotient whole fraction := by
  unfold quotient
  rw [← List.append_assoc, units_append, units_zeros, List.length_append,
    List.length_replicate, Nat.add_zero, pow_add]
  push_cast
  field_simp

/-- Padding the fraction keeps the quotient. -/
theorem quotient_of_padded (whole fraction : List Char) (width : Nat) :
    quotient whole (padRight width fraction) = quotient whole fraction :=
  quotient_append_zeros _ _ _

/-- The units at a scale are the quotient times ten to the scale. -/
theorem units_padded (whole : List Char) {fraction : List Char}
    (h : fraction.length ≤ scale) :
    (units (whole ++ padRight scale fraction) : ℚ)
      = quotient whole fraction * 10 ^ scale := by
  have hLength : (padRight scale fraction).length = scale := by
    rw [padRight, List.length_append, List.length_replicate]
    omega
  rw [← quotient_of_padded whole fraction scale, quotient, hLength]
  field_simp

theorem quotient_pos (whole fraction : List Char) :
    0 < quotient whole fraction ↔ units (whole ++ fraction) ≠ 0 := by
  unfold quotient
  rw [div_pos_iff_of_pos_right (by positivity), Nat.cast_pos, Nat.pos_iff_ne_zero]

end TrackAnywhere.Verified.FixedPoint
