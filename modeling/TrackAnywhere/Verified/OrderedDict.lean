import TrackAnywhere.Verified.KeyedSum
import Mathlib.Data.List.Induction
import Mathlib.Data.List.Nodup

/-!
# Dictionaries that keep the order of insertion

`put` is the assignment of an item to its key: the first item of a key gives it its place,
the last one its value.  `ofItems` assigns the items of a list one by one, which is what a
comprehension `{key: item for item in items}` evaluates to.
-/

namespace TrackAnywhere.Verified.OrderedDict

variable {α κ : Type} [DecidableEq κ] {key : α → κ} {items rest : List α} {item other : α}

/-- Assign the item to its key. -/
def put (key : α → κ) (items : List α) (item : α) : List α :=
  if key item ∈ items.map key then
    items.map fun old => if key old = key item then item else old
  else items ++ [item]

/-- Assign the items to their keys, from left to right. -/
def ofItems (key : α → κ) (items : List α) : List α :=
  items.foldl (put key) []

/-! ## One assignment -/

theorem keys_put : (put key items item).map key
    = if key item ∈ items.map key then items.map key else items.map key ++ [key item] := by
  unfold put
  split
  · rw [List.map_map]
    refine List.map_congr_left fun old _ => ?_
    show key (if key old = key item then item else old) = key old
    split
    · next hSame => exact hSame.symm
    · rfl
  · rw [List.map_append, List.map_singleton]

theorem mem_put : other ∈ put key items item
    ↔ other = item ∨ (other ∈ items ∧ key other ≠ key item) := by
  unfold put
  split
  · next hThere =>
      rw [List.mem_map]
      constructor
      · rintro ⟨old, hOld, rfl⟩
        split
        · exact .inl rfl
        · next hOther => exact .inr ⟨hOld, hOther⟩
      · rintro (rfl | ⟨hOther, hKey⟩)
        · obtain ⟨old, hOld, hSame⟩ := List.mem_map.1 hThere
          exact ⟨old, hOld, if_pos hSame⟩
        · exact ⟨other, hOther, if_neg hKey⟩
  · next hNew =>
      rw [List.mem_append, List.mem_singleton, or_comm]
      refine or_congr_right ⟨fun hOther => ⟨hOther, fun hSame => ?_⟩, And.left⟩
      exact hNew (hSame ▸ List.mem_map_of_mem hOther)

/-- An item of another key stays in its place. -/
theorem put_cons (hKey : key item ≠ key other) :
    put key (item :: items) other = item :: put key items other := by
  unfold put
  rw [List.map_cons, List.map_cons, if_neg hKey]
  by_cases hThere : key other ∈ items.map key
  · rw [if_pos hThere, if_pos (List.mem_cons_of_mem _ hThere)]
  · have hAbsent : key other ∉ key item :: items.map key :=
      fun hMem => (List.mem_cons.1 hMem).elim (fun hSame => hKey hSame.symm) hThere
    rw [if_neg hThere, if_neg hAbsent, List.cons_append]

/-! ## All assignments -/

theorem ofItems_append_singleton :
    ofItems key (items ++ [item]) = put key (ofItems key items) item := by
  unfold ofItems
  rw [List.foldl_append]
  rfl

theorem keys_ofItems {k : κ} : k ∈ (ofItems key items).map key ↔ k ∈ items.map key := by
  induction items using List.reverseRecOn with
  | nil => rfl
  | append_singleton items item ih =>
      rw [ofItems_append_singleton, keys_put, List.map_append, List.map_singleton,
        List.mem_append, List.mem_singleton, ← ih]
      split
      · next hThere =>
          refine ⟨Or.inl, ?_⟩
          rintro (hMem | rfl)
          · exact hMem
          · exact hThere
      · rw [List.mem_append, List.mem_singleton]

theorem nodup_ofItems : ((ofItems key items).map key).Nodup := by
  induction items using List.reverseRecOn with
  | nil => exact List.nodup_nil
  | append_singleton items item ih =>
      rw [ofItems_append_singleton, keys_put]
      split
      · exact ih
      · next hNew => exact List.nodup_append.2 ⟨ih, List.nodup_singleton _, by grind⟩

/-- The last item of a key is its value. -/
theorem mem_ofItems : item ∈ ofItems key items
    ↔ ∃ before after, items = before ++ item :: after ∧ key item ∉ after.map key := by
  induction items using List.reverseRecOn with
  | nil => simp [ofItems]
  | append_singleton items last ih =>
      rw [ofItems_append_singleton, mem_put, ih]
      constructor
      · rintro (rfl | ⟨⟨before, after, rfl, hAfter⟩, hKey⟩)
        · exact ⟨items, [], rfl, List.not_mem_nil⟩
        · refine ⟨before, after ++ [last], by rw [List.append_assoc, List.cons_append], ?_⟩
          rw [List.map_append, List.map_singleton, List.mem_append, List.mem_singleton]
          exact fun hMem => hMem.elim hAfter hKey
      · rintro ⟨before, after, hItems, hAfter⟩
        obtain rfl | ⟨after, found, rfl⟩ := List.eq_nil_or_concat' after
        · exact .inl (List.singleton_inj.1 (List.append_inj_right' hItems rfl)).symm
        · rw [← List.cons_append, ← List.append_assoc] at hItems
          obtain ⟨rfl, hLast⟩ := List.append_inj' hItems rfl
          obtain rfl := List.singleton_inj.1 hLast
          rw [List.map_append, List.map_singleton, List.mem_append, List.mem_singleton,
            not_or] at hAfter
          exact .inr ⟨⟨before, after, rfl, hAfter.1⟩, hAfter.2⟩

/-- What stays was assigned. -/
theorem mem_of_mem_ofItems (h : item ∈ ofItems key items) : item ∈ items := by
  obtain ⟨before, after, rfl, -⟩ := mem_ofItems.1 h
  exact List.mem_append_right before List.mem_cons_self

theorem ofItems_cons (hKey : key item ∉ rest.map key) :
    ofItems key (item :: rest) = item :: ofItems key rest := by
  induction rest using List.reverseRecOn with
  | nil => rfl
  | append_singleton rest last ih =>
      rw [List.map_append, List.map_singleton, List.mem_append, List.mem_singleton,
        not_or] at hKey
      rw [← List.cons_append, ofItems_append_singleton, ofItems_append_singleton, ih hKey.1,
        put_cons hKey.2]

/-! ## Amounts -/

section Amounts

open TrackAnywhere.Verified.KeyedSum

variable {M : Type} [AddCommGroup M] {amounts entries : List (κ × M)} {entry : κ × M} {k : κ}
  {n : M}

/-- The amount under a key, zero when there is none. -/
def amountAt (entries : List (κ × M)) (k : κ) : M :=
  ((entries.find? fun entry => entry.1 = k).map Prod.snd).getD 0

/-- The assignment `d[k] += n`, which starts from zero. -/
def addTo (entries : List (κ × M)) (entry : κ × M) : List (κ × M) :=
  put Prod.fst entries (entry.1, amountAt entries entry.1 + entry.2)

/-- Add the amounts under their keys, from left to right. -/
def totals (amounts : List (κ × M)) : List (κ × M) :=
  amounts.foldl addTo []

theorem amountAt_of_mem (hNodup : (entries.map Prod.fst).Nodup) (h : (k, n) ∈ entries) :
    amountAt entries k = n := by
  unfold amountAt
  cases hFound : entries.find? fun entry => entry.1 = k with
  | none => exact absurd (decide_eq_true rfl) (List.find?_eq_none.1 hFound (k, n) h)
  | some found =>
      have hHit := List.find?_some hFound
      have hKey : found.1 = k := of_decide_eq_true hHit
      have hSame : found = (k, n) :=
        List.inj_on_of_nodup_map hNodup (List.mem_of_find?_eq_some hFound) h hKey
      rw [hSame]
      rfl

theorem amountAt_of_notMem (h : k ∉ entries.map Prod.fst) : amountAt entries k = 0 := by
  unfold amountAt
  have hNone : (entries.find? fun entry => entry.1 = k) = none := by
    refine List.find?_eq_none.2 fun entry hMem hKey => h ?_
    exact List.mem_map.2 ⟨entry, hMem, of_decide_eq_true hKey⟩
  rw [hNone]
  rfl

theorem totals_snoc : totals (amounts ++ [entry]) = addTo (totals amounts) entry := by
  unfold totals
  rw [List.foldl_append]
  rfl

theorem nodup_totals : ((totals amounts).map Prod.fst).Nodup := by
  induction amounts using List.reverseRecOn with
  | nil => exact List.nodup_nil
  | append_singleton amounts entry ih =>
      rw [totals_snoc, addTo, keys_put]
      split
      · exact ih
      · next hNew => exact List.nodup_append.2 ⟨ih, List.nodup_singleton _, by grind⟩

/-- A key of the amounts is there with their sum, and no other key is. -/
theorem mem_totals : (k, n) ∈ totals amounts ↔ k ∈ amounts.map Prod.fst ∧ n = sumAt amounts k := by
  induction amounts using List.reverseRecOn generalizing k n with
  | nil => exact ⟨fun h => absurd h List.not_mem_nil, fun h => absurd h.1 List.not_mem_nil⟩
  | append_singleton amounts entry ih =>
      have hAmount : ∀ k, amountAt (totals amounts) k = sumAt amounts k := by
        intro k
        by_cases hKey : k ∈ amounts.map Prod.fst
        · exact amountAt_of_mem nodup_totals (ih.2 ⟨hKey, rfl⟩)
        · rw [sumAt_eq_zero hKey]
          refine amountAt_of_notMem fun hMem => hKey ?_
          obtain ⟨⟨_, m⟩, hEntry, rfl⟩ := List.mem_map.1 hMem
          exact (ih.1 hEntry).1
      rw [totals_snoc, addTo, mem_put, ih, hAmount, sumAt_append, sumAt_cons, sumAt_nil, add_zero,
        List.map_append, List.map_singleton, List.mem_append, List.mem_singleton, Prod.mk.injEq]
      by_cases hKey : k = entry.1
      · subst hKey
        rw [if_pos rfl]
        simp
      · rw [if_neg (Ne.symm hKey), add_zero]
        simp [hKey]

end Amounts

end TrackAnywhere.Verified.OrderedDict
