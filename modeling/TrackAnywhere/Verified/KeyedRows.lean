import Mathlib

/-!
# Rows under a key

A table whose rows carry their key: `row?` finds the row with a key, and
`updateRow` changes it in place.  What an update does to lookups and to sums
over the rows does not depend on what the rows are.
-/

namespace TrackAnywhere.Verified.KeyedRows

variable {α κ : Type} [DecidableEq κ] {key : α → κ} {rows : List α} {k : κ}

/-- The row with this key. -/
def row? (key : α → κ) (rows : List α) (k : κ) : Option α :=
  rows.find? fun r => key r = k

/-- Change the row with this key. -/
def updateRow (key : α → κ) (rows : List α) (k : κ) (f : α → α) : List α :=
  rows.map fun r => if key r = k then f r else r

theorem mem_of_row? {r : α} (h : row? key rows k = some r) : r ∈ rows :=
  List.mem_of_find?_eq_some h

theorem key_of_row? {r : α} (h : row? key rows k = some r) : key r = k := by
  simpa using List.find?_some h

theorem row?_eq_none : row? key rows k = none ↔ k ∉ rows.map key := by
  unfold row?
  rw [List.find?_eq_none]
  simp

theorem row?_of_mem {r : α} (hKeys : (rows.map key).Nodup) (hMem : r ∈ rows) :
    row? key rows (key r) = some r := by
  induction rows with
  | nil => cases hMem
  | cons row rest ih =>
      rw [List.map_cons, List.nodup_cons] at hKeys
      unfold row?
      rw [List.find?_cons]
      rcases List.mem_cons.1 hMem with rfl | hRest
      · simp
      · have hNe : key row ≠ key r := by
          intro hSame
          exact hKeys.1 (hSame ▸ List.mem_map.2 ⟨r, hRest, rfl⟩)
        simp only [hNe, decide_false]
        exact ih hKeys.2 hRest

theorem row?_perm {rows' : List α} (hKeys : (rows.map key).Nodup)
    (h : rows.Perm rows') : row? key rows' k = row? key rows k := by
  have hKeys' : (rows'.map key).Nodup := (h.map key).nodup_iff.1 hKeys
  cases hRow : row? key rows k with
  | none =>
      rw [row?_eq_none] at hRow ⊢
      exact fun hMem => hRow ((h.map key).mem_iff.2 hMem)
  | some r =>
      have hFound := row?_of_mem hKeys' (h.mem_iff.1 (mem_of_row? hRow))
      rwa [key_of_row? hRow] at hFound

theorem row?_append (new : α) : row? key (rows ++ [new]) k
    = (row? key rows k).or (if key new = k then some new else none) := by
  unfold row?
  rw [List.find?_append]
  by_cases hKey : key new = k <;> simp [hKey]

section Update

variable {f : α → α} (hKey : ∀ r, key r = k → key (f r) = k)
include hKey

theorem keys_updateRow : (updateRow key rows k f).map key = rows.map key := by
  unfold updateRow
  rw [List.map_map]
  refine List.map_congr_left fun r _ => ?_
  show key (if key r = k then f r else r) = key r
  split_ifs with hSame
  · rw [hKey r hSame, hSame]
  · rfl

theorem row?_updateRow (other : κ) : row? key (updateRow key rows k f) other
    = if other = k then (row? key rows k).map f else row? key rows other := by
  unfold row? updateRow
  induction rows with
  | nil => split_ifs <;> rfl
  | cons row rest ih =>
      rw [List.map_cons, List.find?_cons, List.find?_cons, List.find?_cons, ih]
      by_cases hRow : key row = k
      · by_cases hOther : other = k
        · simp [hRow, hOther, hKey row hRow]
        · have hNe : k ≠ other := Ne.symm hOther
          simp [hRow, hOther, hKey row hRow, hNe]
      · by_cases hOther : other = k
        · simp [hRow, hOther]
        · simp [hRow, hOther]

end Update

/-- An update moves a sum by what it does to its row. -/
theorem sum_updateRow {f : α → α} {old : α} (g : α → Nat)
    (hKeys : (rows.map key).Nodup) (hOld : row? key rows k = some old) :
    ((updateRow key rows k f).map g).sum + g old
      = (rows.map g).sum + g (f old) := by
  unfold row? updateRow at *
  induction rows with
  | nil => cases hOld
  | cons row rest ih =>
      rw [List.map_cons, List.nodup_cons] at hKeys
      rw [List.find?_cons] at hOld
      by_cases hRow : key row = k
      · simp only [hRow, decide_true, Option.some.injEq] at hOld
        subst hOld
        have hRest : (rest.map fun r => if key r = k then f r else r) = rest := by
          refine (List.map_congr_left fun r hMem => ?_).trans (List.map_id rest)
          refine if_neg fun hSame => hKeys.1 ?_
          rw [hRow, ← hSame]
          exact List.mem_map.2 ⟨r, hMem, rfl⟩
        simp only [List.map_cons, List.sum_cons, if_pos hRow, hRest]
        omega
      · simp only [hRow, decide_false] at hOld
        have hIh := ih hKeys.2 hOld
        simp only [List.map_cons, List.sum_cons, if_neg hRow]
        omega

end TrackAnywhere.Verified.KeyedRows
