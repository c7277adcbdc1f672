import Mathlib

/-!
# Keyed sums

Two ways of totalling a list of keyed amounts: one upsert per item into a
dictionary, and one grouped sum over the whole list.  `accumulate` is the
first, `groupSum` the second, and both are compared with `sumAt`, the sum of
the amounts filed under one key.

The dictionary is Mathlib's association list, and its values may carry more
than the amount: `view` reads the amount of a stored value, and the upsert's
`merge` has to add amounts under that view.
-/

namespace TrackAnywhere.Verified.KeyedSum

variable {κ ν M : Type} [DecidableEq κ] [AddCommGroup M]

/-- A finite map from `κ` to `ν`. -/
abbrev Dict (κ ν : Type) := AList (fun _ : κ => ν)

/-! ## The sum filed under one key -/

/-- Sum of the amounts filed under `k`. -/
def sumAt (items : List (κ × M)) (k : κ) : M :=
  ((items.filter (fun e => e.1 = k)).map Prod.snd).sum

@[simp] theorem sumAt_nil (k : κ) : sumAt ([] : List (κ × M)) k = 0 := rfl

theorem sumAt_cons (e : κ × M) (items : List (κ × M)) (k : κ) :
    sumAt (e :: items) k = (if e.1 = k then e.2 else 0) + sumAt items k := by
  unfold sumAt
  by_cases h : e.1 = k <;> simp [h]

@[simp] theorem sumAt_append (xs ys : List (κ × M)) (k : κ) :
    sumAt (xs ++ ys) k = sumAt xs k + sumAt ys k := by
  simp [sumAt]

theorem sumAt_eq_zero {items : List (κ × M)} {k : κ}
    (h : k ∉ items.map Prod.fst) : sumAt items k = 0 := by
  induction items with
  | nil => rfl
  | cons e items ih =>
      simp only [List.map_cons, List.mem_cons, not_or] at h
      rw [sumAt_cons, if_neg (Ne.symm h.1), ih h.2, add_zero]

/-- The order of the items does not matter. -/
theorem sumAt_perm {xs ys : List (κ × M)} (h : xs.Perm ys) (k : κ) :
    sumAt xs k = sumAt ys k :=
  ((h.filter _).map _).sum_eq

theorem sumAt_neg (items : List (κ × M)) (k : κ) :
    sumAt (items.map fun e => (e.1, -e.2)) k = -sumAt items k := by
  induction items with
  | nil => rw [List.map_nil, sumAt_nil, neg_zero]
  | cons e items ih =>
      rw [List.map_cons, sumAt_cons, sumAt_cons, ih, neg_add]
      by_cases h : e.1 = k
      · rw [if_pos h, if_pos h]
      · rw [if_neg h, if_neg h, neg_zero]

/-! ## Upserts -/

/-- Insert `v` under `k`, or merge it into the value already there. -/
def upsert (merge : ν → ν → ν) (d : Dict κ ν) (k : κ) (v : ν) : Dict κ ν :=
  d.insert k (match d.lookup k with
    | none => v
    | some w => merge w v)

/-- One upsert for each item, in order. -/
def accumulate (merge : ν → ν → ν) (d : Dict κ ν) (items : List (κ × ν)) :
    Dict κ ν :=
  items.foldl (fun d e => upsert merge d e.1 e.2) d

/-- The amount stored under `k`, zero when there is none. -/
def valueAt (view : ν → M) (d : Dict κ ν) (k : κ) : M :=
  match d.lookup k with
  | none => 0
  | some v => view v

omit [DecidableEq κ] in
@[simp] theorem accumulate_nil [DecidableEq κ] (merge : ν → ν → ν)
    (d : Dict κ ν) : accumulate merge d [] = d := rfl

@[simp] theorem accumulate_cons (merge : ν → ν → ν) (d : Dict κ ν)
    (e : κ × ν) (items : List (κ × ν)) :
    accumulate merge d (e :: items)
      = accumulate merge (upsert merge d e.1 e.2) items := rfl

@[simp] theorem mem_upsert {merge : ν → ν → ν} {d : Dict κ ν} {k j : κ}
    {v : ν} : j ∈ upsert merge d k v ↔ j = k ∨ j ∈ d := by
  simp [upsert]

/-- A key is present after the upserts exactly when it was before, or is the
key of an item. -/
theorem mem_accumulate {merge : ν → ν → ν} {d : Dict κ ν}
    {items : List (κ × ν)} {k : κ} :
    k ∈ accumulate merge d items ↔ k ∈ d ∨ k ∈ items.map Prod.fst := by
  induction items generalizing d with
  | nil => simp
  | cons e items ih =>
      rw [accumulate_cons, ih]
      simp only [mem_upsert, List.map_cons, List.mem_cons]
      tauto

theorem valueAt_eq_zero {view : ν → M} {d : Dict κ ν} {k : κ}
    (h : k ∉ d) : valueAt view d k = 0 := by
  simp [valueAt, AList.lookup_eq_none.2 h]

@[simp] theorem valueAt_empty (view : ν → M) (k : κ) :
    valueAt view (∅ : Dict κ ν) k = 0 := rfl

/-- A lookup, spelled as presence and amount. -/
theorem lookup_eq {d : Dict κ M} {k : κ} :
    d.lookup k = if k ∈ d then some (valueAt id d k) else none := by
  cases h : d.lookup k with
  | none => rw [if_neg (AList.lookup_eq_none.1 h)]
  | some v =>
      rw [if_pos (AList.lookup_isSome.1 (by simp [h]))]
      simp [valueAt, h]

section View

variable {merge : ν → ν → ν} {view : ν → M}
  (hMerge : ∀ a b, view (merge a b) = view a + view b)
include hMerge

theorem valueAt_upsert (d : Dict κ ν) (k j : κ) (v : ν) :
    valueAt view (upsert merge d k v) j
      = valueAt view d j + if k = j then view v else 0 := by
  by_cases h : k = j
  · subst h
    simp only [valueAt, upsert, AList.lookup_insert, if_true]
    cases d.lookup k with
    | none => simp
    | some w => exact hMerge w v
  · have hLookup : (upsert merge d k v).lookup j = d.lookup j :=
      AList.lookup_insert_ne (Ne.symm h)
    simp [valueAt, hLookup, h]

/-- The amount under every key grows by the items filed under it. -/
theorem valueAt_accumulate (d : Dict κ ν) (items : List (κ × ν)) (k : κ) :
    valueAt view (accumulate merge d items) k
      = valueAt view d k
        + sumAt (items.map (fun e => (e.1, view e.2))) k := by
  induction items generalizing d with
  | nil => simp
  | cons e items ih =>
      rw [accumulate_cons, ih, valueAt_upsert hMerge, List.map_cons,
        sumAt_cons, add_assoc]

end View

/-- The upsert `d[k] = d.get(k, 0) + amount`, item by item. -/
theorem valueAt_accumulate_add (d : Dict κ M) (items : List (κ × M)) (k : κ) :
    valueAt id (accumulate (· + ·) d items) k
      = valueAt id d k + sumAt items k := by
  have h := @valueAt_accumulate κ M M _ _ (· + ·) id (fun _ _ => rfl) d items k
  simpa using h

/-! ## Sums over the entries -/

/-- Sum of `f` over the entries. -/
def sumEntries (f : κ → ν → M) (d : Dict κ ν) : M :=
  (d.entries.map fun e => f e.1 e.2).sum

/-- `f` at the entry of `k`, zero when there is none. -/
def entryAt (f : κ → ν → M) (d : Dict κ ν) (k : κ) : M :=
  match d.lookup k with
  | none => 0
  | some v => f k v

omit [DecidableEq κ] in
@[simp] theorem sumEntries_empty (f : κ → ν → M) :
    sumEntries f (∅ : Dict κ ν) = 0 := rfl

omit [DecidableEq κ] in
/-- Functions that agree on the entries have one sum. -/
theorem sumEntries_congr {f g : κ → ν → M} {d : Dict κ ν}
    (h : ∀ e ∈ d.entries, f e.1 e.2 = g e.1 e.2) :
    sumEntries f d = sumEntries g d := by
  unfold sumEntries
  rw [List.map_congr_left h]

/-- Taking the entry of `k` out of the sum. -/
theorem sumEntries_erase (f : κ → ν → M) (d : Dict κ ν) (k : κ) :
    entryAt f d k + sumEntries f (d.erase k) = sumEntries f d := by
  by_cases hk : k ∈ d
  · obtain ⟨v, pre, post, -, hEntries, hErase⟩ :=
      List.exists_of_kerase (AList.mem_keys.1 hk)
    have hLookup : d.lookup k = some v :=
      AList.mem_lookup_iff.2 (by simp [hEntries])
    have hErased : (d.erase k).entries = pre ++ post := hErase
    simp [sumEntries, entryAt, hLookup, hErased, hEntries]
    abel
  · have hErase : d.erase k = d :=
      AList.ext (List.kerase_of_notMem_keys hk)
    simp [hErase, entryAt, AList.lookup_eq_none.2 hk]

/-- Putting `v` under `k` replaces the old entry in the sum. -/
theorem sumEntries_insert (f : κ → ν → M) (d : Dict κ ν) (k : κ) (v : ν) :
    sumEntries f (d.insert k v) = sumEntries f d - entryAt f d k + f k v := by
  have hOld := sumEntries_erase f d k
  have hNew := sumEntries_erase f (d.insert k v) k
  have hSame : (d.insert k v).erase k = d.erase k :=
    AList.ext (by simp [AList.erase, AList.insert])
  have hEntry : entryAt f (d.insert k v) k = f k v := by
    simp [entryAt, AList.lookup_insert]
  rw [hSame, hEntry] at hNew
  rw [← hNew, ← hOld]
  abel

/-! ## Totals over a set of keys -/

/-- Sum of the amounts of all keys satisfying `p`. -/
def totalOn (view : ν → M) (p : κ → Bool) (d : Dict κ ν) : M :=
  sumEntries (fun k v => if p k then view v else 0) d

omit [DecidableEq κ] in
@[simp] theorem totalOn_empty (view : ν → M) (p : κ → Bool) :
    totalOn view p (∅ : Dict κ ν) = 0 := rfl

section View

variable {merge : ν → ν → ν} {view : ν → M}
  (hMerge : ∀ a b, view (merge a b) = view a + view b)
include hMerge

private theorem totalOn_upsert (p : κ → Bool) (d : Dict κ ν) (k : κ) (v : ν) :
    totalOn view p (upsert merge d k v)
      = totalOn view p d + if p k then view v else 0 := by
  unfold totalOn upsert
  rw [sumEntries_insert]
  cases hLookup : d.lookup k with
  | none => simp [entryAt, hLookup]
  | some w =>
      simp only [entryAt, hLookup]
      cases hp : p k
      · simp
      · simp only [if_true, hMerge]
        abel

/-- The total over a set of keys grows by the items of that set. -/
theorem totalOn_accumulate (p : κ → Bool) (d : Dict κ ν)
    (items : List (κ × ν)) :
    totalOn view p (accumulate merge d items)
      = totalOn view p d
        + ((items.filter (fun e => p e.1)).map (fun e => view e.2)).sum := by
  induction items generalizing d with
  | nil => simp
  | cons e items ih =>
      rw [accumulate_cons, ih, totalOn_upsert hMerge, add_assoc]
      cases hp : p e.1 <;> simp [hp]

end View

/-- The same for the upsert `d[k] = d.get(k, 0) + amount`. -/
theorem totalOn_accumulate_add (p : κ → Bool) (d : Dict κ M)
    (items : List (κ × M)) :
    totalOn id p (accumulate (· + ·) d items)
      = totalOn id p d
        + ((items.filter (fun e => p e.1)).map Prod.snd).sum :=
  totalOn_accumulate (fun _ _ => rfl) p d items

/-! ## Sums over fibers -/

private theorem sum_ite_eq {keys : List κ} (h : keys.Nodup) (k : κ) (x : M) :
    (keys.map fun j => if k = j then x else 0).sum
      = if k ∈ keys then x else 0 := by
  induction keys with
  | nil => rfl
  | cons j keys ih =>
      rw [List.nodup_cons] at h
      rw [List.map_cons, List.sum_cons, ih h.2]
      by_cases hk : k = j
      · subst hk
        simp [h.1]
      · simp [hk]

/-- A sum taken apart by the key of its items, when no key is missing. -/
theorem sum_fibers {ι : Type} {keys : List κ} (hKeys : keys.Nodup)
    {items : List ι} {key : ι → κ} {amount : ι → M}
    (hMem : ∀ i ∈ items, amount i ≠ 0 → key i ∈ keys) :
    (keys.map fun k =>
        (items.map fun i => if key i = k then amount i else 0).sum).sum
      = (items.map amount).sum := by
  induction items with
  | nil => simp
  | cons i items ih =>
      have hHead : (if key i ∈ keys then amount i else 0) = amount i := by
        by_cases hZero : amount i = 0
        · simp [hZero]
        · rw [if_pos (hMem i List.mem_cons_self hZero)]
      simp only [List.map_cons, List.sum_cons]
      rw [List.sum_map_add, sum_ite_eq hKeys, hHead,
        ih fun j hj => hMem j (List.mem_cons_of_mem _ hj)]

/-! ## Grouped sums -/

/-- One entry for each key of the list, holding the sum filed under it. -/
def groupSum (items : List (κ × M)) : Dict κ M where
  entries := (items.map Prod.fst).dedup.map (fun k => ⟨k, sumAt items k⟩)
  nodupKeys := by
    simp only [List.NodupKeys, List.keys, List.map_map, Function.comp_def,
      List.map_id']
    exact List.nodup_dedup _

/-- The grouped sum has an entry exactly for the keys of the list. -/
theorem lookup_groupSum (items : List (κ × M)) (k : κ) :
    (groupSum items).lookup k
      = if k ∈ items.map Prod.fst then some (sumAt items k) else none := by
  by_cases hk : k ∈ items.map Prod.fst
  · rw [if_pos hk]
    refine AList.mem_lookup_iff.2 ?_
    simp only [groupSum, List.mem_map, List.mem_dedup]
    exact ⟨k, List.mem_map.1 hk, rfl⟩
  · rw [if_neg hk]
    refine AList.lookup_eq_none.2 fun hMem => hk ?_
    simpa [AList.mem_keys, AList.keys, groupSum, List.keys] using hMem

end TrackAnywhere.Verified.KeyedSum
