import Mathlib

/-!
# Keyset pages

A query returns its rows in the order of a unique key, one page at a time.  A
page asks for the rows past a key, the cursor, and for one row more than it
shows; where that row exists, the last shown key is the next cursor.
-/

namespace TrackAnywhere.Verified.KeysetPages

variable {κ : Type*} [LinearOrder κ]

/-- The key is past the cursor. -/
def beyond (cursor : Option κ) (k : κ) : Bool := decide (∀ c ∈ cursor, c < k)

/-- The keys past a cursor. -/
def past (keys : List κ) (cursor : Option κ) : List κ := keys.filter (beyond cursor)

structure Page (κ : Type*) where
  items : List κ
  next : Option κ

/-- The page past a cursor, with the probe for one more row. -/
def page (keys : List κ) (cursor : Option κ) (limit : Nat) : Page κ :=
  let rows := (past keys cursor).take (limit + 1)
  let items := rows.take limit
  ⟨items, if limit < rows.length then items.getLast? else none⟩

/-- The pages of a reader who follows the cursors, asking for a number of rows
each time, until there is no next cursor or no further request. -/
def follow (keys : List κ) : Option κ → List Nat → List (Page κ)
  | _, [] => []
  | cursor, limit :: limits =>
      let first := page keys cursor limit
      match first.next with
      | none => [first]
      | some next => first :: follow keys (some next) limits

@[simp] theorem past_none (keys : List κ) : past keys none = keys := by
  simp [past, beyond]

/-- A strictly sorted list is a prefix and what is past its last key. -/
theorem take_append_past {keys : List κ} (hSorted : keys.Pairwise (· < ·)) {n : Nat}
    {last : κ} (hLast : (keys.take n).getLast? = some last) :
    keys.take n ++ past keys (some last) = keys := by
  obtain ⟨init, hInit⟩ := List.getLast?_eq_some_iff.1 hLast
  have hSplit : keys.take n ++ keys.drop n = keys := List.take_append_drop n keys
  have hPairs := hSplit ▸ hSorted
  obtain ⟨hTake, -, hCross⟩ := List.pairwise_append.1 hPairs
  rw [hInit] at hTake hCross
  have hBefore : past (keys.take n) (some last) = [] := by
    unfold past
    rw [List.filter_eq_nil_iff, hInit]
    intro k hk
    have hLe : k ≤ last := by
      rcases List.mem_append.1 hk with hk | hk
      · exact ((List.pairwise_append.1 hTake).2.2 k hk last
          (List.mem_singleton_self _)).le
      · exact (List.mem_singleton.1 hk).le
    simpa [beyond] using hLe
  have hAfter : past (keys.drop n) (some last) = keys.drop n := by
    unfold past
    rw [List.filter_eq_self]
    intro k hk
    simpa [beyond] using hCross last (by simp) k hk
  have hPast : past keys (some last) = keys.drop n := by
    conv_lhs => rw [← hSplit]
    rw [past, List.filter_append]
    exact (congrArg₂ (· ++ ·) hBefore hAfter).trans (List.nil_append _)
  rw [hPast, hSplit]

/-- Past a later cursor. -/
theorem past_past {keys : List κ} {cursor : Option κ} {last : κ}
    (hLast : last ∈ past keys cursor) :
    past (past keys cursor) (some last) = past keys (some last) := by
  have hCursor : ∀ c ∈ cursor, c < last := of_decide_eq_true (List.mem_filter.1 hLast).2
  unfold past
  rw [List.filter_filter]
  refine List.filter_congr fun k _ => ?_
  unfold beyond
  rw [← Bool.decide_and, decide_eq_decide]
  constructor
  · exact And.left
  · exact fun hk => ⟨hk, fun c hc => (hCursor c hc).trans (hk last rfl)⟩

/-- A page and what is past its next cursor are what was past the cursor. -/
theorem page_append_past {keys : List κ} (hSorted : keys.Pairwise (· < ·))
    {cursor : Option κ} {limit : Nat} (hLimit : 0 < limit) :
    (page keys cursor limit).items ++ (match (page keys cursor limit).next with
      | some next => past keys (some next)
      | none => []) = past keys cursor := by
  have hRows : (past keys cursor).Pairwise (· < ·) := hSorted.sublist List.filter_sublist
  have hTake : ((past keys cursor).take (limit + 1)).take limit
      = (past keys cursor).take limit := by
    rw [List.take_take, Nat.min_eq_left (Nat.le_succ _)]
  unfold page
  dsimp only
  rw [hTake, List.length_take]
  split_ifs with hMore
  · have hNonempty : (past keys cursor).take limit ≠ [] := by
      intro hNil
      have hLength := congrArg List.length hNil
      rw [List.length_take, List.length_nil] at hLength
      omega
    obtain ⟨last, hLast⟩ := Option.isSome_iff_exists.1
      (List.getLast?_isSome.2 hNonempty)
    have hMem : last ∈ past keys cursor :=
      List.mem_of_mem_take (List.mem_of_getLast? hLast)
    rw [hLast]
    dsimp only
    rw [← past_past hMem]
    exact take_append_past hRows hLast
  · rw [List.append_nil, List.take_of_length_le (by omega)]

/-- The length of a page that has a next one. -/
theorem length_page_of_next {keys : List κ} {cursor : Option κ} {limit : Nat} {next : κ}
    (h : (page keys cursor limit).next = some next) :
    (page keys cursor limit).items.length = limit := by
  unfold page at h ⊢
  dsimp only at h ⊢
  split_ifs at h with hMore
  rw [List.length_take]
  omega

/-- A cursor is the key of a row. -/
theorem mem_of_next {keys : List κ} {cursor : Option κ} {limit : Nat} {next : κ}
    (h : (page keys cursor limit).next = some next) : next ∈ keys := by
  unfold page at h
  dsimp only at h
  split_ifs at h
  exact List.mem_of_mem_filter
    (List.mem_of_mem_take (List.mem_of_mem_take (List.mem_of_getLast? h)))

/-- Following the cursors shows the first of the keys, in order. -/
theorem follow_initial {keys : List κ} (hSorted : keys.Pairwise (· < ·))
    {cursor : Option κ} {limits : List Nat} (hLimits : ∀ limit ∈ limits, 0 < limit) :
    (follow keys cursor limits).flatMap (·.items) <+: past keys cursor := by
  induction limits generalizing cursor with
  | nil => exact List.nil_prefix
  | cons limit limits ih =>
      have hPage := @page_append_past _ _ _ hSorted cursor _
        (hLimits limit List.mem_cons_self)
      unfold follow
      dsimp only
      cases hNext : (page keys cursor limit).next with
      | none =>
          rw [hNext, List.append_nil] at hPage
          dsimp only
          have hAll : [page keys cursor limit].flatMap (·.items) = past keys cursor := by
            rw [List.flatMap_singleton, hPage]
          exact hAll ▸ List.prefix_rfl
      | some next =>
          rw [hNext] at hPage
          dsimp only at hPage ⊢
          rw [List.flatMap_cons, ← hPage, List.prefix_append_right_inj]
          exact ih fun other hOther => hLimits other (List.mem_cons_of_mem _ hOther)

/-- As many requests as there are keys show all of them, and the last page has
no next cursor. -/
theorem follow_complete {keys : List κ} (hSorted : keys.Pairwise (· < ·))
    {cursor : Option κ} {limits : List Nat} (hLimits : ∀ limit ∈ limits, 0 < limit)
    (hEnough : (past keys cursor).length < limits.length) :
    (follow keys cursor limits).flatMap (·.items) = past keys cursor
      ∧ (follow keys cursor limits).getLast?.map (·.next) = some none := by
  induction limits generalizing cursor with
  | nil => exact absurd hEnough (Nat.not_lt_zero _)
  | cons limit limits ih =>
      have hPositive := hLimits limit List.mem_cons_self
      have hPage := @page_append_past _ _ _ hSorted cursor _ hPositive
      unfold follow
      dsimp only
      cases hNext : (page keys cursor limit).next with
      | none =>
          rw [hNext, List.append_nil] at hPage
          dsimp only
          rw [List.flatMap_singleton, hPage]
          exact ⟨rfl, congrArg some hNext⟩
      | some next =>
          have hFull := length_page_of_next hNext
          rw [hNext] at hPage
          dsimp only at hPage ⊢
          have hLength := congrArg List.length hPage
          rw [List.length_append, hFull] at hLength
          rw [List.length_cons] at hEnough
          obtain ⟨hAll, hEnd⟩ := @ih (some next)
            (fun other hOther => hLimits other (List.mem_cons_of_mem _ hOther)) (by omega)
          refine ⟨by rw [List.flatMap_cons, hAll, hPage], ?_⟩
          rw [List.getLast?_cons, ← hEnd]
          cases hRest : (follow keys (some next) limits).getLast? with
          | none =>
              rw [hRest] at hEnd
              exact nomatch hEnd
          | some final => rfl

end TrackAnywhere.Verified.KeysetPages
