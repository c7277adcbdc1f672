import Mathlib

/-!
# Numbered and linked logs

Two shapes of an append-only log: its records count up from a start, and each
record points to the link of the one before it.  Both are read from the left
and compose under append, which is how a log grows.
-/

namespace TrackAnywhere.Verified.ChainedLog

variable {ι β : Type}

/-- The records are numbered one after the other, from `start + 1`. -/
def Numbered (number : ι → Nat) (start : Nat) (items : List ι) : Prop :=
  items.map number = List.range' (start + 1) items.length

/-- Each record points to the link of the one before it, the first to
`start`. -/
def Linked (link previous : ι → β) : β → List ι → Prop
  | _, [] => True
  | start, item :: rest =>
      previous item = start ∧ Linked link previous (link item) rest

/-- The link of the last record. -/
def lastLink (link : ι → β) (start : β) (items : List ι) : β :=
  (items.getLast?.map link).getD start

section Numbers

variable {number : ι → Nat} {start : Nat} {xs ys : List ι}

@[simp] theorem numbered_nil : Numbered number start [] := rfl

@[simp] theorem numbered_singleton {item : ι} :
    Numbered number start [item] ↔ number item = start + 1 := by
  simp [Numbered]

theorem numbered_append : Numbered number start (xs ++ ys) ↔
    Numbered number start xs ∧ Numbered number (start + xs.length) ys := by
  unfold Numbered
  rw [List.map_append, List.length_append, ← List.range'_append_1,
    Nat.add_right_comm]
  constructor
  · exact fun h => List.append_inj h (by simp)
  · rintro ⟨hXs, hYs⟩
    rw [hXs, hYs]

theorem numbered_cons {item : ι} : Numbered number start (item :: xs) ↔
    number item = start + 1 ∧ Numbered number (start + 1) xs := by
  rw [← List.singleton_append, numbered_append, numbered_singleton]
  rfl

/-- Later records have larger numbers. -/
theorem Numbered.pairwise (h : Numbered number start xs) :
    xs.Pairwise fun a b => number a < number b := by
  have hRange : (xs.map number).Pairwise (· < ·) := by
    rw [h]
    exact List.pairwise_lt_range'
  exact List.pairwise_map.1 hRange

/-- The last record has the number of the length. -/
theorem Numbered.getLast (h : Numbered number start xs) {last : ι}
    (hLast : xs.getLast? = some last) : number last = start + xs.length := by
  obtain ⟨init, rfl⟩ := List.getLast?_eq_some_iff.1 hLast
  have hEnd := (numbered_append.1 h).2
  rw [numbered_singleton] at hEnd
  rw [hEnd, List.length_append, List.length_singleton]
  omega

end Numbers

section Links

variable {link previous : ι → β} {start : β} {xs ys : List ι}

@[simp] theorem linked_nil : Linked link previous start [] := trivial

@[simp] theorem lastLink_nil : lastLink link start [] = start := rfl

@[simp] theorem lastLink_cons {item : ι} :
    lastLink link start (item :: xs) = lastLink link (link item) xs := by
  unfold lastLink
  rw [List.getLast?_cons]
  cases xs.getLast? <;> rfl

theorem lastLink_append :
    lastLink link start (xs ++ ys) = lastLink link (lastLink link start xs) ys := by
  induction xs generalizing start with
  | nil => rfl
  | cons item xs ih =>
      rw [List.cons_append, lastLink_cons, ih, lastLink_cons]

theorem linked_append : Linked link previous start (xs ++ ys) ↔
    Linked link previous start xs
      ∧ Linked link previous (lastLink link start xs) ys := by
  induction xs generalizing start with
  | nil => simp
  | cons item xs ih =>
      rw [List.cons_append, lastLink_cons]
      show (_ ∧ Linked link previous (link item) (xs ++ ys)) ↔
        (_ ∧ Linked link previous (link item) xs) ∧ _
      rw [ih, and_assoc]

end Links

end TrackAnywhere.Verified.ChainedLog
