import Mathlib.Algebra.Order.Field.Basic
import Mathlib.Tactic.Linarith
import Mathlib.Tactic.Ring

/-!
# Token buckets

A bucket holds tokens, at most `capacity` of them, and gains `refill` tokens in a unit of
time.  It stores the time at which its tokens were last counted; a request counts them again
and takes one if there is one.

What the stored numbers are does not matter to later requests, only the `level` they give at
each later time; a bucket that was never stored is a full one.
-/

namespace TrackAnywhere.Verified.TokenBucket

variable {α : Type*} [Field α] [LinearOrder α] [IsStrictOrderedRing α]

/-- The tokens, and when they were counted. -/
structure Bucket (α : Type*) where
  tokens : α
  updatedAt : α
deriving DecidableEq

/-- The bucket without one of its tokens. -/
def Bucket.spent (bucket : Bucket α) : Bucket α :=
  { bucket with tokens := bucket.tokens - 1 }

/-- How many tokens a bucket holds, and how fast they come back. -/
structure Rate (α : Type*) [Field α] [LinearOrder α] where
  capacity : α
  refill : α
  hCapacity : 1 ≤ capacity
  hRefill : 0 < refill

namespace Rate

variable (rate : Rate α)

/-- A bucket that is stored for the first time. -/
def full (now : α) : Bucket α := ⟨rate.capacity, now⟩

/-- The bucket with its tokens counted again. -/
def refilled (bucket : Bucket α) (now : α) : Bucket α where
  tokens := min rate.capacity (bucket.tokens + max 0 (now - bucket.updatedAt) * rate.refill)
  updatedAt := now

/-- The tokens that are there at a time. -/
def level : Option (Bucket α) → α → α
  | none, _ => rate.capacity
  | some bucket, now => (rate.refilled bucket now).tokens

variable {rate} {bucket : Bucket α} {now later wait : α}

/-! ## Levels -/

omit [IsStrictOrderedRing α] in
theorem level_le_capacity (stored : Option (Bucket α)) : rate.level stored now ≤ rate.capacity := by
  cases stored with
  | none => exact le_rfl
  | some bucket => exact min_le_left _ _

omit [IsStrictOrderedRing α] in
/-- At the time of the count the tokens are the level. -/
theorem level_self (hTokens : bucket.tokens ≤ rate.capacity) :
    rate.level (some bucket) bucket.updatedAt = bucket.tokens := by
  show min _ (_ + max 0 (bucket.updatedAt - bucket.updatedAt) * _) = _
  rw [sub_self, max_self, zero_mul, add_zero, min_eq_right hTokens]

/-- Between two counts the level rises at the rate, up to the capacity. -/
theorem level_of_le (hStored : bucket.updatedAt ≤ now) (hLater : now ≤ later) :
    rate.level (some bucket) later
      = min rate.capacity (rate.level (some bucket) now + (later - now) * rate.refill) := by
  have hGain : 0 ≤ (later - now) * rate.refill :=
    mul_nonneg (sub_nonneg.2 hLater) rate.hRefill.le
  have hSum : bucket.tokens + (later - bucket.updatedAt) * rate.refill
      = bucket.tokens + (now - bucket.updatedAt) * rate.refill + (later - now) * rate.refill := by
    ring
  show min _ (_ + max 0 (later - _) * _) = min _ (min _ (_ + max 0 (now - _) * _) + _)
  rw [max_eq_right (sub_nonneg.2 hStored), max_eq_right (sub_nonneg.2 (hStored.trans hLater)),
    min_add, hSum, ← min_assoc, min_eq_left (le_add_of_nonneg_right hGain)]

/-- Counting the tokens is not seen later. -/
theorem level_refilled (hStored : bucket.updatedAt ≤ now) (hLater : now ≤ later) :
    rate.level (some (rate.refilled bucket now)) later = rate.level (some bucket) later := by
  rw [level_of_le hStored hLater]
  show min _ (_ + max 0 (later - now) * _) = _
  rw [max_eq_right (sub_nonneg.2 hLater)]
  rfl

theorem level_full (later : α) : rate.level (some (rate.full now)) later = rate.capacity := by
  refine min_eq_left (le_add_of_nonneg_right ?_)
  exact mul_nonneg (le_max_left _ _) rate.hRefill.le

/-- After a wait that makes up for the missing part there is a token. -/
theorem one_le_level_of_wait (hStored : bucket.updatedAt ≤ now)
    (hWait : 1 ≤ rate.level (some bucket) now + wait * rate.refill)
    (hPositive : 0 ≤ wait) (hLater : now + wait ≤ later) :
    1 ≤ rate.level (some bucket) later := by
  rw [level_of_le hStored (by linarith)]
  refine le_min rate.hCapacity (hWait.trans (add_le_add_right ?_ _))
  exact mul_le_mul_of_nonneg_right (by linarith) rate.hRefill.le

end Rate

/-! ## The tokens spent in an interval -/

/-- What holds of a bucket when `count` tokens were spent between `first` and `last`. -/
structure SpentBound (rate : Rate α) (first last : α) (count : ℕ)
    (stored : Option (Bucket α)) : Prop where
  total : count ≤ rate.capacity + (last - first) * rate.refill
  absent : stored = none → count = 0
  early : ∀ bucket ∈ stored, bucket.updatedAt < first → count = 0
  left : ∀ bucket ∈ stored, bucket.updatedAt ≤ last →
    count + bucket.tokens ≤ rate.capacity + max 0 (bucket.updatedAt - first) * rate.refill

namespace SpentBound

variable {rate : Rate α} {first last now : α} {count : ℕ} {bucket : Bucket α}
  {stored : Option (Bucket α)}

theorem start (hInterval : first ≤ last) : SpentBound rate first last 0 none where
  total := by
    rw [Nat.cast_zero]
    have hGain := mul_nonneg (sub_nonneg.2 hInterval) rate.hRefill.le
    linarith [rate.hCapacity]
  absent _ := rfl
  early _ h := nomatch h
  left _ h := nomatch h

/-- A bucket is stored for the first time. -/
theorem full (h : SpentBound rate first last count none) :
    SpentBound rate first last count (some (rate.full now)) where
  total := h.total
  absent hStored := nomatch hStored
  early _ _ _ := h.absent rfl
  left := by
    rintro _ ⟨⟩ -
    rw [h.absent rfl, Nat.cast_zero, zero_add]
    exact le_add_of_nonneg_right (mul_nonneg (le_max_left _ _) rate.hRefill.le)

/-- The tokens are counted again, not before they were counted last. -/
theorem refilled (h : SpentBound rate first last count (some bucket))
    (hOrder : bucket.updatedAt ≤ now) :
    SpentBound rate first last count (some (rate.refilled bucket now)) where
  total := h.total
  absent hStored := nomatch hStored
  early := by
    rintro _ ⟨⟩ hNow
    exact h.early bucket rfl (hOrder.trans_lt hNow)
  left := by
    rintro _ ⟨⟩ hNow
    show (count : α) + min _ _ ≤ _ + max 0 (now - first) * _
    have hGain : 0 ≤ max 0 (now - first) * rate.refill :=
      mul_nonneg (le_max_left _ _) rate.hRefill.le
    by_cases hEarly : bucket.updatedAt < first
    · rw [h.early bucket rfl hEarly, Nat.cast_zero, zero_add]
      exact (min_le_left _ _).trans (le_add_of_nonneg_right hGain)
    · have hLeft := h.left bucket rfl (hOrder.trans hNow)
      have hFirst := not_lt.1 hEarly
      have hCount := min_le_right rate.capacity
        (bucket.tokens + max 0 (now - bucket.updatedAt) * rate.refill)
      rw [max_eq_right (sub_nonneg.2 hFirst)] at hLeft
      rw [max_eq_right (sub_nonneg.2 hOrder)] at hCount ⊢
      rw [max_eq_right (sub_nonneg.2 (hFirst.trans hOrder))]
      linarith

/-- Stored or not, the bucket has its level after the count. -/
theorem counted (h : SpentBound rate first last count stored)
    (hOrder : ∀ bucket ∈ stored, bucket.updatedAt ≤ now) :
    SpentBound rate first last count (some ⟨rate.level stored now, now⟩) := by
  cases stored with
  | none => exact h.full
  | some bucket => exact h.refilled (hOrder bucket rfl)

/-- A token is taken at the time at which the tokens were counted. -/
theorem spent (h : SpentBound rate first last count (some bucket)) (hToken : 1 ≤ bucket.tokens) :
    SpentBound rate first last
      (count + if first ≤ bucket.updatedAt ∧ bucket.updatedAt ≤ last then 1 else 0)
      (some bucket.spent) := by
  split
  · next hInside =>
      have hLeft := h.left bucket rfl hInside.2
      rw [max_eq_right (sub_nonneg.2 hInside.1)] at hLeft
      have hGain := mul_le_mul_of_nonneg_right (sub_le_sub_right hInside.2 first)
        rate.hRefill.le
      refine ⟨?_, fun hStored => (Option.some_ne_none _ hStored).elim, ?_, ?_⟩
      · push_cast
        linarith
      · rintro _ ⟨⟩ hEarly
        exact absurd hInside.1 (not_le.2 hEarly)
      · rintro _ ⟨⟩ -
        show ((count + 1 : ℕ) : α) + (bucket.tokens - 1)
          ≤ _ + max 0 (bucket.updatedAt - first) * _
        rw [max_eq_right (sub_nonneg.2 hInside.1)]
        push_cast
        linarith
  · refine ⟨h.total, fun hStored => (Option.some_ne_none _ hStored).elim, ?_, ?_⟩
    · rintro _ ⟨⟩ hEarly
      exact h.early bucket rfl hEarly
    · rintro _ ⟨⟩ hLast
      have hLeft := h.left bucket rfl hLast
      show (count : α) + (bucket.tokens - 1) ≤ _
      exact le_trans (by linarith) hLeft

end SpentBound

end TrackAnywhere.Verified.TokenBucket
