import Mathlib

/-!
# Validity spans

Rows that hold for a half-open span of time, `[from, to)`, or from a time on.
Rows of one key are apart when no time is in the spans of two of them.  A row
that begins when every row of its key has ended keeps the table apart, and so
does ending a row.
-/

namespace TrackAnywhere.Verified.ValiditySpans

variable {τ ρ κ : Type*} [LinearOrder τ]

/-- The times from `start` on, up to `stop` where there is one. -/
structure Span (τ : Type*) where
  start : τ
  stop : Option τ
deriving DecidableEq

namespace Span

def Covers (span : Span τ) (time : τ) : Prop :=
  span.start ≤ time ∧ ∀ stop ∈ span.stop, time < stop

instance (span : Span τ) (time : τ) : Decidable (span.Covers time) :=
  inferInstanceAs (Decidable (_ ∧ _))

/-- No time is in both. -/
def Apart (a b : Span τ) : Prop := ∀ time, a.Covers time → ¬b.Covers time

theorem Apart.symm {a b : Span τ} (h : a.Apart b) : b.Apart a :=
  fun time hb ha => h time ha hb

/-- The span ends by the time, if it ends at all. -/
def EndsBy (span : Span τ) (time : τ) : Prop := ∃ stop ∈ span.stop, stop ≤ time

theorem apart_of_endsBy {a b : Span τ} (h : a.EndsBy b.start) : a.Apart b := by
  obtain ⟨stop, hStop, hLe⟩ := h
  intro time ha hb
  exact absurd (ha.2 stop hStop) (not_lt.2 (hLe.trans hb.1))

/-- A span within another is apart from what that one is apart from. -/
theorem Apart.of_covers {a b c : Span τ} (h : a.Apart c)
    (hWithin : ∀ time, b.Covers time → a.Covers time) : b.Apart c :=
  fun time hb => h time (hWithin time hb)

end Span

/-- Rows of one key are apart. -/
def Separate (key : ρ → κ) (span : ρ → Span τ) (rows : List ρ) : Prop :=
  rows.Pairwise fun a b => key a = key b → (span a).Apart (span b)

variable {key : ρ → κ} {span : ρ → Span τ} {rows : List ρ}

/-- A row that begins when the others of its key have ended. -/
theorem Separate.append (h : Separate key span rows) {row : ρ}
    (hEnded : ∀ other ∈ rows, key other = key row → (span other).EndsBy (span row).start) :
    Separate key span (rows ++ [row]) := by
  refine List.pairwise_append.2 ⟨h, List.pairwise_singleton _ _, ?_⟩
  intro other hOther last hLast hKey
  rw [List.mem_singleton] at hLast
  subst hLast
  exact Span.apart_of_endsBy (hEnded other hOther hKey)

/-- Rows that keep their key and hold at no new time. -/
theorem Separate.update (h : Separate key span rows) {f : ρ → ρ}
    (hKey : ∀ row ∈ rows, key (f row) = key row)
    (hWithin : ∀ row ∈ rows, ∀ time, (span (f row)).Covers time → (span row).Covers time) :
    Separate key span (rows.map f) := by
  refine List.pairwise_map.2 (h.imp_of_mem ?_)
  intro a b ha hb hApart hSame
  rw [hKey a ha, hKey b hb] at hSame
  have hLeft := (hApart hSame).of_covers (hWithin a ha)
  exact (hLeft.symm.of_covers (hWithin b hb)).symm

/-- At most one row of a key holds at a time. -/
theorem Separate.covering_length (h : Separate key span rows) {p : ρ → Bool} {time : τ}
    (hCovers : ∀ row ∈ rows, p row → (span row).Covers time)
    (hKey : ∀ a ∈ rows, ∀ b ∈ rows, p a → p b → key a = key b) :
    (rows.filter p).length ≤ 1 := by
  have hFiltered : (rows.filter p).Pairwise fun _ _ => False := by
    refine (List.Pairwise.sublist List.filter_sublist h).imp_of_mem ?_
    intro a b ha hb hApart
    obtain ⟨haRow, haHolds⟩ := List.mem_filter.1 ha
    obtain ⟨hbRow, hbHolds⟩ := List.mem_filter.1 hb
    exact hApart (hKey a haRow b hbRow haHolds hbHolds) time
      (hCovers a haRow haHolds) (hCovers b hbRow hbHolds)
  cases hRows : rows.filter p with
  | nil => exact Nat.zero_le 1
  | cons a rest =>
      rw [hRows] at hFiltered
      cases rest with
      | nil => exact Nat.le_refl 1
      | cons b rest => exact (List.rel_of_pairwise_cons hFiltered List.mem_cons_self).elim

end TrackAnywhere.Verified.ValiditySpans
