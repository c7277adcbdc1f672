import TrackAnywhere.Verified.Checked

/-!
# Folds in which one action may move

A fold of a step that can fail, over states that are compared by a relation.
An action that commutes with every action of a segment, up to the relation, can
be taken before the segment or after it.
-/

namespace TrackAnywhere.Verified.Commuting

variable {σ α ε : Type} {Same : σ → σ → Prop} {step : σ → α → Except ε σ}

/-- One outcome: the same error, or related states. -/
inductive SameOutcome (Same : σ → σ → Prop) : Except ε σ → Except ε σ → Prop
  | ok {s s' : σ} (h : Same s s') : SameOutcome Same (.ok s) (.ok s')
  | error (e : ε) : SameOutcome Same (.error e) (.error e)

theorem SameOutcome.refl (hSame : Equivalence Same) (x : Except ε σ) :
    SameOutcome Same x x := by
  cases x with
  | ok s => exact .ok (hSame.refl s)
  | error e => exact .error e

theorem SameOutcome.trans (hSame : Equivalence Same) {x y z : Except ε σ}
    (h : SameOutcome Same x y) (h' : SameOutcome Same y z) :
    SameOutcome Same x z := by
  cases h with
  | ok hFirst =>
      cases h' with
      | ok hSecond => exact .ok (hSame.trans hFirst hSecond)
  | error e => exact h'

/-- Related outcomes go on alike. -/
theorem SameOutcome.bind {x y : Except ε σ} {f g : σ → Except ε σ}
    (h : SameOutcome Same x y)
    (hNext : ∀ {s s'}, Same s s' → SameOutcome Same (f s) (g s')) :
    SameOutcome Same (x >>= f) (y >>= g) := by
  cases h with
  | ok hSame => exact hNext hSame
  | error e => exact .error e

/-- A computation of another type, and then related outcomes. -/
theorem SameOutcome.after {β : Type} (x : Except ε β) {f g : β → Except ε σ}
    (h : ∀ b, SameOutcome Same (f b) (g b)) : SameOutcome Same (x >>= f) (x >>= g) := by
  cases x with
  | ok b => exact h b
  | error e => exact .error e

/-- Related states have the same outcome. -/
theorem foldlM_congr
    (hStep : ∀ a {s s'}, Same s s' → SameOutcome Same (step s a) (step s' a))
    (actions : List α) {s s' : σ} (h : Same s s') :
    SameOutcome Same (actions.foldlM step s) (actions.foldlM step s') := by
  induction actions generalizing s s' with
  | nil => exact .ok h
  | cons a actions ih => exact (hStep a h).bind ih

/-- An action that commutes with each action of a segment is taken before it or
after it, with the same outcome. -/
theorem foldlM_moved (hSame : Equivalence Same)
    (hStep : ∀ a {s s'}, Same s s' → SameOutcome Same (step s a) (step s' a))
    (action : α) (segment : List α)
    (hCommutes : ∀ a ∈ segment, ∀ s, SameOutcome Same
      (step s action >>= fun s => step s a) (step s a >>= fun s => step s action))
    (s : σ) :
    SameOutcome Same ((action :: segment).foldlM step s)
      ((segment ++ [action]).foldlM step s) := by
  induction segment generalizing s with
  | nil => exact .refl hSame _
  | cons a segment ih =>
      have hFirst : SameOutcome Same ((action :: a :: segment).foldlM step s)
          ((a :: action :: segment).foldlM step s) := by
        have hSwap := (hCommutes a List.mem_cons_self s).bind
          (foldlM_congr hStep segment)
        simpa [List.foldlM_cons] using hSwap
      refine SameOutcome.trans hSame hFirst ?_
      rw [List.cons_append, List.foldlM_cons, List.foldlM_cons]
      refine (SameOutcome.refl hSame (step s a)).bind fun {s₁ s₂} hStates => ?_
      exact SameOutcome.trans hSame (foldlM_congr hStep _ hStates)
        (ih (fun b hb => hCommutes b (List.mem_cons_of_mem _ hb)) s₂)

end TrackAnywhere.Verified.Commuting
