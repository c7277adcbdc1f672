import Mathlib

/-!
# Finite functional graphs

A dictionary from nodes to nodes is a graph in which at most one edge leaves a node.  Following
the edges from a node either comes to an end or comes back, and after as many steps as there are
edges this is known.
-/

namespace TrackAnywhere.Verified.FunctionalGraph

open Relation

variable {α : Type} [DecidableEq α]

/-- Where the edge of a node leads. -/
def next (edges : List (α × α)) (a : α) : Option α :=
  (edges.find? fun edge => edge.1 = a).map (·.2)

variable {edges : List (α × α)} {a b current : α} {seen remaining : List α} {fuel : Nat}

/-- The item of a key, in a dictionary that is the list of its items. -/
theorem find?_key {β : Type} {items : List (α × β)} {item : α × β}
    (hKeys : (items.map Prod.fst).Nodup) :
    (items.find? fun item => item.1 = a) = some item ↔ item ∈ items ∧ item.1 = a := by
  constructor
  · intro hFind
    exact ⟨List.mem_of_find?_eq_some hFind, by simpa using List.find?_some hFind⟩
  · rintro ⟨hMem, hKey⟩
    cases hFind : items.find? fun item => decide (item.1 = a) with
    | none => exact absurd (decide_eq_true hKey) (List.find?_eq_none.1 hFind item hMem)
    | some found =>
        have hFound : found.1 = a := by simpa using List.find?_some hFind
        exact congrArg some (List.inj_on_of_nodup_map hKeys (List.mem_of_find?_eq_some hFind) hMem
          (hFound.trans hKey.symm))

theorem next_eq_some (hKeys : (edges.map Prod.fst).Nodup) :
    next edges a = some b ↔ (a, b) ∈ edges := by
  unfold next
  simp only [Option.map_eq_some_iff, find?_key hKeys]
  constructor
  · rintro ⟨edge, ⟨hMem, rfl⟩, rfl⟩
    exact hMem
  · exact fun hMem => ⟨(a, b), ⟨hMem, rfl⟩, rfl⟩

end TrackAnywhere.Verified.FunctionalGraph
