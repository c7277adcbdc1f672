import Mathlib.Data.Option.Basic
import Mathlib.Tactic.Common

/-!
# Programs of operations that may fail

A program performs operations one at a time on a state that others change as well.  An
operation answers or fails, and the program goes on from either, so that a handler is
part of the program.  Between two operations the program may be cut off for good.

A `Discipline` says what such a program relies on and what it owes.  Others change the
state by `rely` only, and keep the invariant; the program performs an operation only
where it is `allowed`.

`Safe` says this of a program in a state, with what holds of the state when the program
returns or raises.  Because others may move at any point, what is asserted in between is
`Stable`.  The rules of this module follow the constructs of a program.
-/

namespace TrackAnywhere.Verified.Programs

/-- A program: it ends with a result or an error, or performs an operation and goes on
with its answer or its error. -/
inductive Prog (Op : Type) (Answer : Op → Type) (ε α : Type) : Type
  | done (result : Except ε α)
  | perform (op : Op) (next : Except ε (Answer op) → Prog Op Answer ε α)

namespace Prog

variable {Op : Type} {Answer : Op → Type} {ε α β : Type}

def bind : Prog Op Answer ε α → (α → Prog Op Answer ε β) → Prog Op Answer ε β
  | done (.ok a), f => f a
  | done (.error e), _ => done (.error e)
  | perform op next, f => perform op fun result => (next result).bind f

/-- The program, with its error as a value. -/
def attempt : Prog Op Answer ε α → Prog Op Answer ε (Except ε α)
  | done result => done (.ok result)
  | perform op next => perform op fun result => (next result).attempt

/-- The program, and after an error the handler. -/
def handle : Prog Op Answer ε α → (ε → Prog Op Answer ε α) → Prog Op Answer ε α
  | done (.ok a), _ => done (.ok a)
  | done (.error e), handler => handler e
  | perform op next, handler => perform op fun result => (next result).handle handler

instance : Monad (Prog Op Answer ε) where
  pure a := done (.ok a)
  bind := bind

instance : MonadExceptOf ε (Prog Op Answer ε) where
  throw e := done (.error e)
  tryCatch := handle

/-- One operation. -/
def op (o : Op) : Prog Op Answer ε (Answer o) := perform o done

def ofExcept (result : Except ε α) : Prog Op Answer ε α := done result

end Prog

/-- What a program relies on and what it owes. -/
structure Discipline (Op : Type) (Answer : Op → Type) (ε σ : Type) where
  inv : σ → Prop
  rely : σ → σ → Prop
  hRefl : ∀ s, rely s s
  hTrans : ∀ r s t, rely r s → rely s t → rely r t
  allowed : Op → σ → Prop
  effect : (op : Op) → σ → Except ε (Answer op) → σ → Prop

section Safe

variable {Op : Type} {Answer : Op → Type} {ε α β σ : Type}

/-- What holds at the end of a program: of a result and the state, or of an error. -/
def atEnd (ok : α → σ → Prop) (err : ε → σ → Prop) : Except ε α → σ → Prop
  | .ok a => ok a
  | .error e => err e

/-- The program keeps the discipline from this state, and ends in the conditions. -/
def Safe (d : Discipline Op Answer ε σ) :
    Prog Op Answer ε α → (α → σ → Prop) → (ε → σ → Prop) → σ → Prop
  | .done result, ok, err => fun s =>
      ∀ t, d.rely s t → d.inv t → atEnd ok err result t
  | .perform op next, ok, err => fun s => ∀ t, d.rely s t → d.inv t →
      d.allowed op t ∧ ∀ result t', d.effect op t result t' →
        Safe d (next result) ok err t'

variable {d : Discipline Op Answer ε σ} {P : σ → Prop} {s t : σ}
variable {ok ok' : α → σ → Prop} {err err' : ε → σ → Prop}

/-- What others do does not make a program unsafe. -/
theorem Safe.rely {p : Prog Op Answer ε α} (h : Safe d p ok err s) (hRely : d.rely s t) :
    Safe d p ok err t := by
  cases p with
  | done result => exact fun u hMore hInv => h u (d.hTrans _ _ _ hRely hMore) hInv
  | perform op next => exact fun u hMore hInv => h u (d.hTrans _ _ _ hRely hMore) hInv

/-- A program is safe where it is safe after any move of the others. -/
theorem Safe.of_rely {p : Prog Op Answer ε α}
    (h : ∀ t, d.rely s t → d.inv t → Safe d p ok err t) : Safe d p ok err s := by
  cases p with
  | done result => exact fun t hRely hInv => h t hRely hInv t (d.hRefl t) hInv
  | perform op next => exact fun t hRely hInv => h t hRely hInv t (d.hRefl t) hInv

theorem Safe.mono {p : Prog Op Answer ε α} (h : Safe d p ok err s)
    (hOk : ∀ a t, d.inv t → ok a t → ok' a t)
    (hErr : ∀ e t, d.inv t → err e t → err' e t) : Safe d p ok' err' s := by
  induction p generalizing s with
  | done result =>
      intro t hRely hInv
      have hEnd := h t hRely hInv
      cases result with
      | ok a => exact hOk a t hInv hEnd
      | error e => exact hErr e t hInv hEnd
  | perform op next ih =>
      intro t hRely hInv
      obtain ⟨hAllowed, hNext⟩ := h t hRely hInv
      exact ⟨hAllowed, fun result t' hEffect => ih result (hNext result t' hEffect)⟩

theorem Safe.bind {p : Prog Op Answer ε β} {f : β → Prog Op Answer ε α}
    {mid : β → σ → Prop} (h : Safe d p mid err' s)
    (hNext : ∀ b t, d.inv t → mid b t → Safe d (f b) ok err t)
    (hErr : ∀ e t, d.inv t → err' e t → err e t) : Safe d (p >>= f) ok err s := by
  induction p generalizing s with
  | done result =>
      cases result with
      | ok b => exact .of_rely fun t hRely hInv => hNext b t hInv (h t hRely hInv)
      | error e => exact fun t hRely hInv => hErr e t hInv (h t hRely hInv)
  | perform op next ih =>
      intro t hRely hInv
      obtain ⟨hAllowed, hEffect⟩ := h t hRely hInv
      exact ⟨hAllowed, fun result t' hDone => ih result (hEffect result t' hDone)⟩

theorem Safe.tryCatch {p : Prog Op Answer ε α} {handler : ε → Prog Op Answer ε α}
    (h : Safe d p ok' err' s) (hOk : ∀ a t, d.inv t → ok' a t → ok a t)
    (hHandler : ∀ e t, d.inv t → err' e t → Safe d (handler e) ok err t) :
    Safe d (tryCatch p handler) ok err s := by
  induction p generalizing s with
  | done result =>
      cases result with
      | ok a => exact fun t hRely hInv => hOk a t hInv (h t hRely hInv)
      | error e => exact .of_rely fun t hRely hInv => hHandler e t hInv (h t hRely hInv)
  | perform op next ih =>
      intro t hRely hInv
      obtain ⟨hAllowed, hEffect⟩ := h t hRely hInv
      exact ⟨hAllowed, fun result t' hDone => ih result (hEffect result t' hDone)⟩

/-- A program whose error is a value does not raise. -/
theorem Safe.attempt {p : Prog Op Answer ε α} (h : Safe d p ok err s) :
    Safe d p.attempt (fun result t => atEnd ok err result t) err' s := by
  induction p generalizing s with
  | done result => exact h
  | perform op next ih =>
      intro t hRely hInv
      obtain ⟨hAllowed, hEffect⟩ := h t hRely hInv
      exact ⟨hAllowed, fun result t' hDone => ih result (hEffect result t' hDone)⟩

end Safe

end TrackAnywhere.Verified.Programs
