import TrackAnywhere.Verified.LogReplay
import TrackAnywhere.Verified.OrderedDict

/-!
# One pass over a grouped list

The items of a group stand next to each other.  A scan keeps the key of the running group and
what it has gathered of it; an item with another key closes the group and starts the next one,
and the end of the list closes the last group.
-/

namespace TrackAnywhere.Verified.GroupedScan

open TrackAnywhere.Verified.OrderedDict

variable {α κ σ β : Type} [DecidableEq κ]

/-! ## Grouped lists -/

/-- An item of a key that has come before follows an item of that key. -/
def Grouped (key : α → κ) (items : List α) : Prop :=
  EachAfter (fun before item => key item ∈ before.map key →
    before.getLast?.map key = some (key item)) items

/-- The keys, in the order in which they first come. -/
def groups (key : α → κ) (items : List α) : List κ :=
  ofItems id (items.map key)

/-- The items of one key. -/
def groupOf (key : α → κ) (items : List α) (k : κ) : List α :=
  items.filter fun item => key item = k

section Groups

variable {key : α → κ} {items : List α} {item : α} {k : κ}

theorem mem_groups : k ∈ groups key items ↔ k ∈ items.map key := by
  have h := @keys_ofItems κ κ _ id (items.map key) k
  rwa [List.map_id, List.map_id] at h

theorem nodup_groups : (groups key items).Nodup := by
  have h := @nodup_ofItems κ κ _ id (items.map key)
  rwa [List.map_id] at h

theorem groups_snoc : groups key (items ++ [item])
    = if key item ∈ items.map key then groups key items
      else groups key items ++ [key item] := by
  have hKeys := @keys_put κ κ _ id (groups key items) (key item)
  rw [List.map_id, List.map_id] at hKeys
  unfold groups at hKeys ⊢
  rw [List.map_append, List.map_singleton, ofItems_append_singleton, hKeys]
  exact if_congr mem_groups rfl rfl

theorem groupOf_snoc : groupOf key (items ++ [item]) k
    = groupOf key items k ++ if key item = k then [item] else [] := by
  unfold groupOf
  rw [List.filter_append]
  congr 1
  by_cases hKey : key item = k
  · rw [if_pos hKey, List.filter_singleton, decide_eq_true hKey]
    rfl
  · rw [if_neg hKey, List.filter_singleton, decide_eq_false hKey]
    rfl

theorem groupOf_eq_nil (h : k ∉ items.map key) : groupOf key items k = [] := by
  refine List.filter_eq_nil_iff.2 fun item hItem hKey => h ?_
  exact List.mem_map.2 ⟨item, hItem, of_decide_eq_true hKey⟩

omit [DecidableEq κ] in
/-- A sorted list is grouped, when the order puts nothing else between two items of a key. -/
theorem grouped_of_pairwise {le : α → α → Prop} (hSorted : items.Pairwise le)
    (hBetween : ∀ a b c, le a b → le b c → key a = key c → key b = key c) :
    Grouped key items := by
  intro before item after hSplit hKey
  obtain ⟨earlier, hEarlier, hSame⟩ := List.mem_map.1 hKey
  rw [hSplit] at hSorted
  obtain ⟨hBefore, -, hCross⟩ := List.pairwise_append.1 hSorted
  cases before using List.reverseRecOn with
  | nil => exact absurd hEarlier List.not_mem_nil
  | append_singleton before last =>
      rw [List.getLast?_append, List.getLast?_singleton]
      show some (key last) = some (key item)
      have hLast : le last item :=
        hCross last (List.mem_append_right _ List.mem_cons_self) item List.mem_cons_self
      obtain hInit | hIsLast := List.mem_append.1 hEarlier
      · have hOrder : le earlier last :=
          (List.pairwise_append.1 hBefore).2.2 earlier hInit last List.mem_cons_self
        rw [hBetween earlier last item hOrder hLast hSame]
      · rw [← List.mem_singleton.1 hIsLast, hSame]

end Groups

/-! ## The scan -/

/-- The running group, what is gathered of it, and what the closed groups gave. -/
structure Scan (κ σ β : Type) where
  current : Option κ
  gathered : σ
  out : List β

section Pass

variable (key : α → κ) (start : σ) (add : σ → α → σ) (finish : κ → σ → List β)

/-- Close the running group. -/
def close (s : Scan κ σ β) : List β :=
  match s.current with
  | none => s.out
  | some k => s.out ++ finish k s.gathered

/-- Take one item. -/
def step (s : Scan κ σ β) (item : α) : Scan κ σ β :=
  let s := if some (key item) ≠ s.current then
      { current := some (key item), gathered := start, out := close finish s }
    else s
  { s with gathered := add s.gathered item }

/-- What is gathered of a group when all its items are taken. -/
def total (items : List α) (k : κ) : σ :=
  (groupOf key items k).foldl add start

/-- What a scan of the items holds, when it started behind some output. -/
structure Scanned (before : List β) (items : List α) (s : Scan κ σ β) : Prop where
  current : s.current = items.getLast?.map key
  gathered : ∀ k, s.current = some k → s.gathered = total key start add items k
  out : ∃ closed, groups key items = closed ++ s.current.toList
    ∧ s.out = before ++ closed.flatMap fun k => finish k (total key start add items k)

variable {key start add finish} {before : List β} {items : List α}
  {item : α} {s : Scan κ σ β}

theorem total_snoc_of_ne {k : κ} (h : key item ≠ k) :
    total key start add (items ++ [item]) k = total key start add items k := by
  unfold total
  rw [groupOf_snoc, if_neg h, List.append_nil]

theorem total_snoc_self : total key start add (items ++ [item]) (key item)
    = add (total key start add items (key item)) item := by
  unfold total
  rw [groupOf_snoc, if_pos rfl, List.foldl_append]
  rfl

/-- Closing the running group gives every group its part. -/
theorem Scanned.close_eq (h : Scanned key start add finish before items s) :
    close finish s
      = before ++ (groups key items).flatMap fun k =>
        finish k (total key start add items k) := by
  obtain ⟨closed, hGroups, hOut⟩ := h.out
  rw [hGroups, List.flatMap_append, ← List.append_assoc, ← hOut]
  unfold close
  cases hCurrent : s.current with
  | none => exact (List.append_nil s.out).symm
  | some k =>
      show s.out ++ finish k s.gathered = s.out ++ [k].flatMap _
      rw [h.gathered k hCurrent, List.flatMap_singleton]

/-- Taking an item of a group that has not come before closes the running one. -/
theorem Scanned.step_new (h : Scanned key start add finish before items s)
    (hNew : key item ∉ items.map key) :
    Scanned key start add finish before (items ++ [item]) (step key start add finish s item) := by
  have hChange : some (key item) ≠ s.current := by
    intro hSame
    rw [h.current, eq_comm, Option.map_eq_some_iff] at hSame
    obtain ⟨last, hLast, hKey⟩ := hSame
    exact hNew (List.mem_map.2 ⟨last, List.mem_of_getLast? hLast, hKey⟩)
  have hStep : step key start add finish s item
      = ⟨some (key item), add start item, close finish s⟩ := by
    unfold step
    rw [if_pos hChange]
  rw [hStep]
  refine ⟨by rw [List.getLast?_append, List.getLast?_singleton]; rfl, ?_,
    groups key items, by rw [groups_snoc, if_neg hNew]; rfl, ?_⟩
  · intro k hKey
    obtain rfl := Option.some.inj hKey
    rw [total_snoc_self, total, groupOf_eq_nil hNew]
    rfl
  · show close finish s = _
    rw [h.close_eq]
    refine congrArg (before ++ ·) (List.flatMap_congr fun k hMem => ?_)
    have hOther : key item ≠ k := by
      rintro rfl
      exact hNew (mem_groups.1 hMem)
    rw [total_snoc_of_ne hOther]

/-- Taking an item of the running group adds to what is gathered of it. -/
theorem Scanned.step_same (h : Scanned key start add finish before items s)
    (hSame : items.getLast?.map key = some (key item)) :
    Scanned key start add finish before (items ++ [item]) (step key start add finish s item) := by
  have hCurrent : s.current = some (key item) := h.current.trans hSame
  have hMem : key item ∈ items.map key := by
    obtain ⟨last, hLast, hKey⟩ := Option.map_eq_some_iff.1 hSame
    exact List.mem_map.2 ⟨last, List.mem_of_getLast? hLast, hKey⟩
  have hStep : step key start add finish s item
      = { s with gathered := add s.gathered item } := by
    unfold step
    rw [if_neg (not_not.2 hCurrent.symm)]
  rw [hStep]
  obtain ⟨closed, hGroups, hOut⟩ := h.out
  refine ⟨by rw [List.getLast?_append, List.getLast?_singleton]; exact hCurrent, ?_,
    closed, by rw [groups_snoc, if_pos hMem]; exact hGroups, ?_⟩
  · intro k hKey
    have hk : key item = k := Option.some.inj (hCurrent.symm.trans hKey)
    subst hk
    rw [total_snoc_self, h.gathered (key item) hCurrent]
  · show s.out = _
    rw [hOut]
    refine congrArg (before ++ ·) (List.flatMap_congr fun k hClosed => ?_)
    have hOther : key item ≠ k := by
      have hNodup := @nodup_groups α κ _ key items
      rw [hGroups, hCurrent] at hNodup
      exact fun hKey => (List.nodup_append.1 hNodup).2.2 k hClosed (key item)
        List.mem_cons_self hKey.symm
    rw [total_snoc_of_ne hOther]

theorem scanned_foldl (hGrouped : Grouped key items) {initial : σ} :
    Scanned key start add finish before items
      (items.foldl (step key start add finish) ⟨none, initial, before⟩) := by
  induction items using List.reverseRecOn with
  | nil => exact ⟨rfl, (fun _ h => nomatch h), [], rfl, (List.append_nil before).symm⟩
  | append_singleton items item ih =>
      obtain ⟨hInit, hItem⟩ := eachAfter_snoc.1 hGrouped
      rw [List.foldl_append, List.foldl_cons, List.foldl_nil]
      by_cases hMem : key item ∈ items.map key
      · exact (ih hInit).step_same (hItem hMem)
      · exact (ih hInit).step_new hMem

/-- The scan closes every group once, in order, with all its items. -/
theorem close_scan (hGrouped : Grouped key items) (initial : σ) (before : List β) :
    close finish (items.foldl (step key start add finish) ⟨none, initial, before⟩)
      = before ++ (groups key items).flatMap fun k =>
        finish k (total key start add items k) :=
  (scanned_foldl hGrouped).close_eq

end Pass

end TrackAnywhere.Verified.GroupedScan
