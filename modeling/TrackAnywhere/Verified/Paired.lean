import TrackAnywhere.Verified.Checked
import Mathlib

/-!
# Paired computations

A statement about two runs of a checked program compares two computations in
`Except`.  `Paired r x y` says that both raise the same error or both return, and
then values that `r` relates.  It is kept by the operations that checked programs
are written with.
-/

namespace TrackAnywhere.Verified.Checked

variable {ε ε' α β γ δ : Type}

/-- Both computations raise the same error, or return related values. -/
inductive Paired (r : α → β → Prop) : Except ε α → Except ε β → Prop
  | error (e : ε) : Paired r (.error e) (.error e)
  | ok {a : α} {b : β} (hRelated : r a b) : Paired r (.ok a) (.ok b)

namespace Paired

variable {r : α → β → Prop} {s : γ → δ → Prop}

/-- One computation, with what is known of the value it returns. -/
theorem of_eq {p : α → Prop} {x y : Except ε α} (hSame : x = y)
    (hReturns : ∀ a, x = .ok a → p a) : Paired (fun a b => a = b ∧ p a) x y := by
  subst hSame
  cases x with
  | error e => exact .error e
  | ok a => exact .ok ⟨rfl, hReturns a rfl⟩

theorem bind {x : Except ε α} {y : Except ε β} {f : α → Except ε γ} {g : β → Except ε δ}
    (hFirst : Paired r x y) (hRest : ∀ a b, r a b → Paired s (f a) (g b)) :
    Paired s (x >>= f) (y >>= g) := by
  cases hFirst with
  | error e => exact .error e
  | ok hRelated => exact hRest _ _ hRelated

theorem pure {c : γ} {d : δ} (hRelated : s c d) :
    Paired s (Pure.pure c : Except ε γ) (Pure.pure d) :=
  .ok hRelated

theorem mapError {x : Except ε α} {y : Except ε β} (f : ε → ε') (h : Paired r x y) :
    Paired r (x.mapError f) (y.mapError f) := by
  cases h with
  | error e => exact .error (f e)
  | ok hRelated => exact .ok hRelated

/-- The first of related lists, or the same error. -/
theorem fetch_head {as : List α} {bs : List β} (h : List.Forall₂ r as bs) (e : ε) :
    Paired r (fetch as.head? e) (fetch bs.head? e) := by
  cases h with
  | nil => exact .error e
  | cons hFirst _ => exact .ok hFirst

theorem mapM {as : List α} {bs : List β} {f : α → Except ε γ} {g : β → Except ε δ}
    (h : List.Forall₂ r as bs) (hStep : ∀ a b, r a b → Paired s (f a) (g b)) :
    Paired (List.Forall₂ s) (as.mapM f) (bs.mapM g) := by
  induction h with
  | nil => exact .ok .nil
  | cons hFirst _ ih =>
      rw [List.mapM_cons, List.mapM_cons]
      refine (hStep _ _ hFirst).bind fun c d hRelated => ?_
      exact ih.bind fun cs ds hRest => .ok (.cons hRelated hRest)

end Paired

end TrackAnywhere.Verified.Checked
