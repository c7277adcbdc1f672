import Mathlib

/-!
# Logs ordered by a position

A log is a list whose entries carry strictly increasing positions.  `through`
is the part up to a position and `after` the rest; the log is the one followed
by the other, so a position cuts the log like an index does.
-/

namespace TrackAnywhere.Verified.OrderedLog

variable {α β : Type*} [LinearOrder β] (position : α → β)

/-- The positions increase along the log. -/
def Ordered (log : List α) : Prop :=
  log.Pairwise fun a b => position a < position b

instance (log : List α) : Decidable (Ordered position log) :=
  inferInstanceAs (Decidable (log.Pairwise fun a b => position a < position b))

/-- The entries up to a position. -/
def through (log : List α) (q : β) : List α :=
  log.filter fun a => position a ≤ q

/-- The entries past a position. -/
def after (log : List α) (q : β) : List α :=
  log.filter fun a => q < position a

variable {position} {log short : List α} {p q : β}

@[simp] theorem mem_through {a : α} :
    a ∈ through position log q ↔ a ∈ log ∧ position a ≤ q := by
  simp [through]

@[simp] theorem mem_after {a : α} :
    a ∈ after position log q ↔ a ∈ log ∧ q < position a := by
  simp [after]

namespace Ordered

theorem of_prefix (h : Ordered position log) (hPrefix : short <+: log) :
    Ordered position short :=
  h.sublist hPrefix.sublist

theorem of_through (h : Ordered position log) :
    Ordered position (through position log q) :=
  h.sublist List.filter_sublist

theorem of_after (h : Ordered position log) :
    Ordered position (after position log q) :=
  h.sublist List.filter_sublist

end Ordered

/-- A position cuts an ordered log in two. -/
theorem through_append_after (h : Ordered position log) (q : β) :
    through position log q ++ after position log q = log := by
  induction log with
  | nil => rfl
  | cons a log ih =>
      obtain ⟨hHead, hTail⟩ := List.pairwise_cons.1 h
      have hRest := ih hTail
      by_cases ha : position a ≤ q
      · have hNot : ¬ q < position a := not_lt.2 ha
        unfold through after at hRest ⊢
        rw [List.filter_cons_of_pos (by simpa using ha),
          List.filter_cons_of_neg (by simpa using hNot), List.cons_append,
          hRest]
      · have hLater : ∀ b ∈ log, q < position b := fun b hb =>
          lt_trans (not_le.1 ha) (hHead b hb)
        have hNone : through position (a :: log) q = [] := by
          unfold through
          rw [List.filter_eq_nil_iff]
          intro b hb
          obtain rfl | hb := List.mem_cons.1 hb
          · simpa using not_le.1 ha
          · simpa using hLater b hb
        have hAll : after position (a :: log) q = a :: log := by
          unfold after
          rw [List.filter_eq_self]
          intro b hb
          obtain rfl | hb := List.mem_cons.1 hb
          · simpa using not_le.1 ha
          · simpa using hLater b hb
        rw [hNone, hAll, List.nil_append]

theorem prefix_through (h : Ordered position log) (q : β) :
    through position log q <+: log :=
  ⟨_, through_append_after h q⟩

/-- The part up to a position, cut at an earlier one. -/
theorem through_append_between (h : Ordered position log) (hLe : p ≤ q) :
    through position log p ++ after position (through position log q) p
      = through position log q := by
  have hThrough : through position (through position log q) p
      = through position log p := by
    unfold through
    rw [List.filter_filter]
    refine List.filter_congr fun a _ => ?_
    rw [← Bool.decide_and]
    refine decide_eq_decide.2 ⟨And.left, fun ha => ⟨ha, ha.trans hLe⟩⟩
  rw [← hThrough]
  exact through_append_after h.of_through p

/-- A prefix that reaches a position has everything up to it. -/
theorem through_of_prefix (h : Ordered position log) (hPrefix : short <+: log)
    {a : α} (hMem : a ∈ short) :
    through position short (position a)
      = through position log (position a) := by
  obtain ⟨rest, rfl⟩ := hPrefix
  have hRest : through position rest (position a) = [] := by
    unfold through
    rw [List.filter_eq_nil_iff]
    intro b hb
    have hlt := (List.pairwise_append.1 h).2.2 a hMem b hb
    simpa using hlt
  rw [through, through, List.filter_append]
  rw [through] at hRest
  rw [hRest, List.append_nil]

/-- Entries past a position are not in the part up to it. -/
theorem through_append_of_lt {rest : List α}
    (h : ∀ a ∈ rest, q < position a) :
    through position (log ++ rest) q = through position log q := by
  have hRest : rest.filter (fun a => position a ≤ q) = [] := by
    rw [List.filter_eq_nil_iff]
    intro a ha
    simpa using h a ha
  rw [through, List.filter_append, hRest, List.append_nil]
  rfl

/-- The first entries past a position are those up to the last of them. -/
theorem take_after (h : Ordered position log) {limit : Nat} {last : α}
    (hLast : ((after position log p).take limit).getLast? = some last) :
    (after position log p).take limit
      = after position (through position log (position last)) p := by
  have hOrdered : Ordered position (after position log p) := h.of_after
  have hMem : last ∈ (after position log p).take limit :=
    List.mem_of_getLast? hLast
  have hPrefix := List.take_prefix limit (after position log p)
  have hSame := through_of_prefix hOrdered hPrefix hMem
  have hAll : through position ((after position log p).take limit)
      (position last) = (after position log p).take limit := by
    unfold through
    rw [List.filter_eq_self]
    intro a ha
    obtain ⟨init, hInit⟩ := List.getLast?_eq_some_iff.1 hLast
    rw [hInit] at ha
    have hInitOrdered := hOrdered.of_prefix hPrefix
    rw [hInit] at hInitOrdered
    obtain ha | ha := List.mem_append.1 ha
    · have hlt := (List.pairwise_append.1 hInitOrdered).2.2 a ha last
        (List.mem_singleton.2 rfl)
      simpa using hlt.le
    · rw [List.mem_singleton.1 ha]
      simp
  rw [← hAll, hSame]
  unfold through after
  rw [List.filter_filter, List.filter_filter]
  refine List.filter_congr fun a _ => ?_
  rw [Bool.and_comm]

end TrackAnywhere.Verified.OrderedLog
