import TrackAnywhere.Verified.Checked

/-!
# Programs inside a transaction

A program over a database session reads and writes the session's tables and
may fail after it has written: `Session ε σ α` keeps the tables it fails with.
`atomically` is the transaction around it, which commits what a program that
returns has written and rolls everything back when it fails.
-/

namespace TrackAnywhere.Verified.Transaction

open TrackAnywhere.Verified.Checked

variable {ε σ α β : Type}

/-- A program that runs in a session with tables `σ`. -/
abbrev Session (ε σ α : Type) := EStateM ε σ α

/-- A computation that only checks. -/
def check (x : Except ε α) : Session ε σ α := fun s =>
  match x with
  | .ok a => .ok a s
  | .error e => .error e s

/-- One checked statement on the tables. -/
def update (f : σ → Except ε σ) : Session ε σ Unit := fun s =>
  match f s with
  | .ok s' => .ok () s'
  | .error e => .error e s

/-- The transaction around a program: commit, or roll back. -/
def atomically (x : Session ε σ α) (s : σ) : Except ε α × σ :=
  match x s with
  | .ok a s' => (.ok a, s')
  | .error e _ => (.error e, s)

section Return

variable {s s' : σ} {a : α} {b : β}

theorem bind_ok_iff {x : Session ε σ α} {f : α → Session ε σ β} :
    (x >>= f) s = .ok b s' ↔ ∃ a s₁, x s = .ok a s₁ ∧ f a s₁ = .ok b s' := by
  show EStateM.bind x f s = _ ↔ _
  unfold EStateM.bind
  cases x s with
  | ok a₁ s₁ =>
      constructor
      · exact fun h => ⟨a₁, s₁, rfl, h⟩
      · rintro ⟨_, _, ⟨⟩, h⟩
        exact h
  | error e s₁ => simp

theorem get_ok_iff {t : σ} :
    (get : Session ε σ σ) s = .ok t s' ↔ t = s ∧ s' = s := by
  show EStateM.Result.ok s s = .ok t s' ↔ _
  rw [EStateM.Result.ok.injEq, eq_comm, @eq_comm _ s s']

theorem pure_ok_iff {a' : α} :
    (pure a : Session ε σ α) s = .ok a' s' ↔ a' = a ∧ s' = s := by
  show EStateM.Result.ok a s = .ok a' s' ↔ _
  rw [EStateM.Result.ok.injEq, eq_comm, @eq_comm _ s s']

theorem check_ok_iff {x : Except ε α} :
    (check x : Session ε σ α) s = .ok a s' ↔ x = .ok a ∧ s' = s := by
  unfold check
  cases x <;> simp [eq_comm]

theorem update_ok_iff {f : σ → Except ε σ} {u : Unit} :
    update f s = .ok u s' ↔ f s = .ok s' := by
  unfold update
  cases f s <;> simp

/-- A transaction that returns commits what its program wrote. -/
theorem atomically_ok {x : Session ε σ α} :
    atomically x s = (.ok a, s') ↔ x s = .ok a s' := by
  unfold atomically
  cases x s <;> simp

/-- A transaction that fails leaves the tables as they were. -/
theorem atomically_error {x : Session ε σ α} {e : ε}
    (h : (atomically x s).1 = .error e) : (atomically x s).2 = s := by
  unfold atomically at h ⊢
  cases hRun : x s with
  | ok a s' =>
      rw [hRun] at h
      exact nomatch h
  | error e s' => rfl

/-- The two outcomes of a transaction. -/
theorem atomically_cases (x : Session ε σ α) (s : σ) :
    (∃ a s', x s = .ok a s' ∧ atomically x s = (.ok a, s'))
      ∨ ∃ e, atomically x s = (.error e, s) := by
  unfold atomically
  cases x s with
  | ok a s' => exact .inl ⟨a, s', rfl, rfl⟩
  | error e s' => exact .inr ⟨e, rfl⟩

end Return

/-! ## Failing before any write -/

/-- With these errors the program fails before it has written. -/
def FailsClean (errors : ε → Prop) (x : Session ε σ α) : Prop :=
  ∀ s e s', x s = .error e s' → errors e → s' = s

/-- The program writes nothing. -/
def ReadOnly (x : Session ε σ α) : Prop :=
  ∀ s, match x s with
    | .ok _ s' => s' = s
    | .error _ s' => s' = s

theorem readOnly_get : ReadOnly (get : Session ε σ σ) := fun _ => rfl

theorem readOnly_check (x : Except ε α) :
    ReadOnly (check x : Session ε σ α) := by
  intro s
  unfold check
  cases x <;> rfl

/-- A program that reads first fails clean if the rest does. -/
theorem ReadOnly.bind {errors : ε → Prop} {x : Session ε σ α}
    {f : α → Session ε σ β} (h : ReadOnly x)
    (hRest : ∀ a, FailsClean errors (f a)) : FailsClean errors (x >>= f) := by
  intro s e s' hRun hError
  have hSame := h s
  change EStateM.bind x f s = _ at hRun
  unfold EStateM.bind at hRun
  cases hFirst : x s with
  | ok a s₁ =>
      rw [hFirst] at hRun hSame
      subst hSame
      exact hRest a _ e s' hRun hError
  | error e₁ s₁ =>
      rw [hFirst] at hRun hSame
      cases hRun
      exact hSame

/-- Every error of the program satisfies `p`. -/
def Raises (p : ε → Prop) (x : Session ε σ α) : Prop :=
  ∀ s e s', x s = .error e s' → p e

section Raises

variable {p errors : ε → Prop}

theorem raises_pure (a : α) : Raises p (pure a : Session ε σ α) :=
  fun _ _ _ h => nomatch h

theorem raises_update {f : σ → Except ε σ} (h : ∀ s, RaisesOnly p (f s)) :
    Raises p (update f) := by
  intro s e s' hRun
  unfold update at hRun
  cases hF : f s with
  | ok s₁ =>
      rw [hF] at hRun
      exact nomatch hRun
  | error e₁ =>
      rw [hF] at hRun
      cases hRun
      exact h s _ hF

theorem raises_bind {x : Session ε σ α} {f : α → Session ε σ β}
    (hFirst : Raises p x) (hRest : ∀ a, Raises p (f a)) :
    Raises p (x >>= f) := by
  intro s e s' hRun
  change EStateM.bind x f s = _ at hRun
  unfold EStateM.bind at hRun
  cases hX : x s with
  | ok a s₁ =>
      rw [hX] at hRun
      exact hRest a s₁ e s' hRun
  | error e₁ s₁ =>
      rw [hX] at hRun
      cases hRun
      exact hFirst s _ _ hX

/-- What cannot raise these errors fails clean with them. -/
theorem Raises.failsClean {x : Session ε σ α}
    (h : Raises (fun e => ¬errors e) x) : FailsClean errors x :=
  fun s e s' hRun hError => absurd hError (h s e s' hRun)

end Raises

end TrackAnywhere.Verified.Transaction
