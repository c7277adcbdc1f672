import Mathlib

/-!
# Texts that can be read in one way only

`Reads text same follows x` says that no other value has a text that starts
like the one of `x`: whatever comes behind the two texts, as long as it may
follow a value, the values agree up to `same` and what comes behind is equal.
-/

namespace TrackAnywhere.Verified.UniqueReading

variable {α β κ ν : Type*}

/-- The text of `x` can be read in one way only. -/
def Reads (text : α → List β) (same : α → α → Prop) (follows : List β → Prop)
    (x : α) : Prop :=
  ∀ y r r', follows r → follows r' → text x ++ r = text y ++ r' →
    same x y ∧ r = r'

/-- A word of letters in `p` ends at the first letter that is not. -/
theorem append_inj_of_class {p : β → Prop} {x y r r' : List β}
    (hX : ∀ b ∈ x, p b) (hY : ∀ b ∈ y, p b) (hR : ∀ b ∈ r.head?, ¬p b)
    (hR' : ∀ b ∈ r'.head?, ¬p b) (h : x ++ r = y ++ r') : x = y ∧ r = r' := by
  induction x generalizing y with
  | nil =>
      cases y with
      | nil => exact ⟨rfl, h⟩
      | cons b y =>
          rw [List.nil_append] at h
          exact absurd (hY b List.mem_cons_self) (hR b (by rw [h]; rfl))
  | cons a x ih =>
      cases y with
      | nil =>
          rw [List.nil_append] at h
          exact absurd (hX a List.mem_cons_self) (hR' a (by rw [← h]; rfl))
      | cons b y =>
          obtain ⟨rfl, hRest⟩ := List.cons.inj h
          obtain ⟨rfl, hEnd⟩ := ih (fun b hb => hX b (List.mem_cons_of_mem _ hb))
            (fun b hb => hY b (List.mem_cons_of_mem _ hb)) hRest
          exact ⟨rfl, hEnd⟩

/-- A word without the letter `stop` ends at the first `stop`. -/
theorem append_inj_of_stop {stop : β} {x y r r' : List β}
    (hX : stop ∉ x) (hY : stop ∉ y) (h : x ++ stop :: r = y ++ stop :: r') :
    x = y ∧ r = r' := by
  have hSplit := append_inj_of_class (p := fun b => b ≠ stop)
    (fun b hb hEq => hX (hEq ▸ hb)) (fun b hb hEq => hY (hEq ▸ hb))
    (by simp) (by simp) h
  exact ⟨hSplit.1, (List.cons.inj hSplit.2).2⟩

section Separated

variable {text : α → List β} {same : α → α → Prop} {follows : List β → Prop}
variable {sep close : β}

theorem intercalate_cons (a : List β) (l : List (List β)) (r : List β) :
    List.intercalate [sep] (a :: l) ++ close :: r
      = a ++ (match l with
        | [] => close :: r
        | _ :: _ => sep :: (List.intercalate [sep] l ++ close :: r)) := by
  cases l with
  | nil => simp [List.intercalate]
  | cons b l => simp [List.intercalate, List.intersperse]

/-- Items with a separator between them and a bracket behind them are read one
by one. -/
theorem separated_reads (hSep : ∀ r, follows (sep :: r))
    (hClose : ∀ r, follows (close :: r)) (hApart : sep ≠ close)
    (hStart : ∀ x, ∃ b rest, text x = b :: rest ∧ b ≠ close) {xs : List α}
    (hReads : ∀ x ∈ xs, Reads text same follows x) {ys : List α}
    {r r' : List β}
    (h : List.intercalate [sep] (xs.map text) ++ close :: r
      = List.intercalate [sep] (ys.map text) ++ close :: r') :
    List.Forall₂ same xs ys ∧ r = r' := by
  -- the bracket does not start an item
  have hOpen : ∀ (x : α) (xs : List α) (r r' : List β),
      close :: r ≠ List.intercalate [sep] ((x :: xs).map text) ++ close :: r' := by
    intro x xs r r' hEq
    obtain ⟨b, rest, hText, hNe⟩ := hStart x
    rw [List.map_cons, intercalate_cons, hText, List.cons_append] at hEq
    exact hNe (List.cons.inj hEq).1.symm
  induction xs generalizing ys with
  | nil =>
      cases ys with
      | nil => exact ⟨.nil, (List.cons.inj h).2⟩
      | cons y ys => exact absurd h (hOpen y ys r r')
  | cons x xs ih =>
      cases ys with
      | nil => exact absurd h.symm (hOpen x xs r' r)
      | cons y ys =>
          rw [List.map_cons, List.map_cons, intercalate_cons,
            intercalate_cons] at h
          have hFollows : ∀ (l : List α) (r : List β), follows
              (match l.map text with
                | [] => close :: r
                | _ :: _ => sep ::
                  (List.intercalate [sep] (l.map text) ++ close :: r)) := by
            intro l r
            cases l with
            | nil => exact hClose r
            | cons z l => exact hSep _
          obtain ⟨hSame, hTail⟩ := hReads x List.mem_cons_self y _ _
            (hFollows xs r) (hFollows ys r') h
          cases xs with
          | nil =>
              cases ys with
              | nil => exact ⟨.cons hSame .nil, (List.cons.inj hTail).2⟩
              | cons z ys => exact absurd (List.cons.inj hTail).1.symm hApart
          | cons w xs =>
              cases ys with
              | nil => exact absurd (List.cons.inj hTail).1 hApart
              | cons z ys =>
                  obtain ⟨hRest, hEnd⟩ := ih
                    (fun x hx => hReads x (List.mem_cons_of_mem _ hx))
                    (List.cons.inj hTail).2
                  exact ⟨.cons hSame hRest, hEnd⟩

end Separated

/-- The same members under the same distinct keys are in the same places. -/
theorem eq_of_perm_of_keys {xs ys : List (κ × ν)} (hPerm : xs.Perm ys)
    (hKeys : xs.map Prod.fst = ys.map Prod.fst)
    (hDistinct : (xs.map Prod.fst).Nodup) : xs = ys := by
  have hLength := hPerm.length_eq
  refine List.ext_getElem hLength fun i hX hY => ?_
  have hMem : xs[i] ∈ ys := hPerm.mem_iff.1 (List.getElem_mem hX)
  have hKey : xs[i].1 = ys[i].1 := by
    have hAt := congrArg (·[i]?) hKeys
    simpa [List.getElem?_eq_getElem hX, List.getElem?_eq_getElem hY] using hAt
  exact List.inj_on_of_nodup_map (hKeys ▸ hDistinct) hMem (List.getElem_mem hY)
    hKey

end TrackAnywhere.Verified.UniqueReading
