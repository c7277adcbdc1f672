import Mathlib

/-!
# Runs of a step relation

A system is a step relation `step s a s'`: in state `s` the action `a` is
accepted and leads to `s'`.  `Run step s actions s'` chains accepted actions
from `s` to `s'`; an action that is refused is simply not a step, so a run is
the list of what was accepted.
-/

namespace TrackAnywhere.Verified

variable {σ α : Type*}

/-- The actions of the list are accepted one after the other, from the first
state to the second. -/
inductive Run (step : σ → α → σ → Prop) : σ → List α → σ → Prop
  | nil (s : σ) : Run step s [] s
  | cons {s s₁ s' : σ} {a : α} {rest : List α} :
      step s a s₁ → Run step s₁ rest s' → Run step s (a :: rest) s'

namespace Run

variable {step : σ → α → σ → Prop} {s s₁ s' : σ}

@[simp] theorem nil_iff : Run step s [] s' ↔ s' = s := by
  constructor
  · intro h
    cases h
    rfl
  · rintro rfl
    exact .nil _

@[simp] theorem cons_iff {a : α} {rest : List α} :
    Run step s (a :: rest) s' ↔ ∃ s₁, step s a s₁ ∧ Run step s₁ rest s' := by
  constructor
  · intro h
    cases h with
    | cons hStep hRest => exact ⟨_, hStep, hRest⟩
  · rintro ⟨s₁, hStep, hRest⟩
    exact .cons hStep hRest

theorem append {as bs : List α} (h₁ : Run step s as s₁)
    (h₂ : Run step s₁ bs s') : Run step s (as ++ bs) s' := by
  induction h₁ with
  | nil => exact h₂
  | cons hStep _ ih => exact .cons hStep (ih h₂)

/-- A run over a concatenation passes through an intermediate state. -/
theorem split {as bs : List α} (h : Run step s (as ++ bs) s') :
    ∃ s₁, Run step s as s₁ ∧ Run step s₁ bs s' := by
  induction as generalizing s with
  | nil => exact ⟨s, .nil s, h⟩
  | cons a as ih =>
      obtain ⟨s₁, hStep, hRest⟩ := cons_iff.1 h
      obtain ⟨s₂, hAs, hBs⟩ := ih hRest
      exact ⟨s₂, .cons hStep hAs, hBs⟩

theorem snoc {as : List α} {a : α} (h : Run step s as s₁)
    (hStep : step s₁ a s') : Run step s (as ++ [a]) s' :=
  h.append (.cons hStep (.nil _))

/-- The last action of a run, taken off. -/
theorem unsnoc {as : List α} {a : α} (h : Run step s (as ++ [a]) s') :
    ∃ s₁, Run step s as s₁ ∧ step s₁ a s' := by
  obtain ⟨s₁, hAs, hLast⟩ := h.split
  obtain ⟨s₂, hStep, hNil⟩ := cons_iff.1 hLast
  rw [nil_iff.1 hNil]
  exact ⟨s₁, hAs, hStep⟩

/-- A relation between the accepted actions and the state that holds before
any action and is preserved by each accepted one holds at the end. -/
theorem traceInvariant {I : List α → σ → Prop} (hInit : I [] s)
    (hStep : ∀ done s₁ a s₂, Run step s done s₁ → I done s₁ →
      step s₁ a s₂ → I (done ++ [a]) s₂)
    {as : List α} (h : Run step s as s') : I as s' := by
  induction as using List.reverseRecOn generalizing s' with
  | nil => rwa [nil_iff.1 h]
  | append_singleton as a ih =>
      obtain ⟨s₁, hAs, hLast⟩ := h.unsnoc
      exact hStep as s₁ a s' hAs (ih hAs) hLast

/-- What one step preserves, every run preserves. -/
theorem invariant {I : σ → Prop} (hInit : I s)
    (hStep : ∀ s₁ a s₂, I s₁ → step s₁ a s₂ → I s₂)
    {as : List α} (h : Run step s as s') : I s' :=
  traceInvariant (I := fun _ => I) hInit
    (fun _ s₁ a s₂ _ hI hS => hStep s₁ a s₂ hI hS) h

end Run

end TrackAnywhere.Verified
