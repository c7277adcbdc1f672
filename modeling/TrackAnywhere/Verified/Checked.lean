import Mathlib

/-!
# Checked computations

The programs ported in this package are sequences of guards followed by an
update: a guard raises, and nothing after it happens.  `Except` is the monad
of such a program.  `require` is one guard, `fetch` is a lookup that must
succeed, and the lemmas below turn "the whole program returned" into the
conjunction of everything its guards checked.
-/

namespace TrackAnywhere.Verified.Checked

variable {ε α β : Type}

/-- Raise `e` unless `p` holds. -/
def require (p : Prop) [Decidable p] (e : ε) : Except ε Unit :=
  if p then .ok () else .error e

/-- The value of a lookup, or the error of a failed one. -/
def fetch (o : Option α) (e : ε) : Except ε α :=
  match o with
  | some a => .ok a
  | none => .error e

/-- Run a guard on every item of a list, in order. -/
def forEach (items : List α) (check : α → Except ε Unit) : Except ε Unit :=
  match items with
  | [] => .ok ()
  | item :: rest => check item >>= fun _ => forEach rest check

@[simp] theorem bind_eq_ok {x : Except ε α} {f : α → Except ε β} {b : β} :
    (x >>= f) = .ok b ↔ ∃ a, x = .ok a ∧ f a = .ok b := by
  cases x <;> simp [bind, Except.bind]

@[simp] theorem require_eq_ok {p : Prop} [Decidable p] {e : ε} {u : Unit} :
    require p e = .ok u ↔ p := by
  unfold require
  split <;> simp_all

@[simp] theorem fetch_eq_ok {o : Option α} {e : ε} {a : α} :
    fetch o e = .ok a ↔ o = some a := by
  cases o <;> simp [fetch]

@[simp] theorem pure_eq_ok {a b : α} :
    (pure a : Except ε α) = .ok b ↔ a = b := by
  simp [pure, Except.pure]

@[simp] theorem mapError_eq_ok {ε' : Type} {x : Except ε α} {f : ε → ε'}
    {a : α} : x.mapError f = .ok a ↔ x = .ok a := by
  cases x <;> simp [Except.mapError]

@[simp] theorem forEach_eq_ok {items : List α} {check : α → Except ε Unit}
    {u : Unit} :
    forEach items check = .ok u ↔ ∀ item ∈ items, check item = .ok () := by
  induction items with
  | nil => simp [forEach]
  | cons item rest ih => simp [forEach, ih, Unique.exists_iff]

theorem mapM_eq_ok {items : List α} {f : α → Except ε β} {results : List β} :
    items.mapM f = .ok results ↔ List.Forall₂ (fun a b => f a = .ok b) items results := by
  induction items generalizing results with
  | nil => simp
  | cons item rest ih =>
      rw [List.mapM_cons, bind_eq_ok]
      constructor
      · rintro ⟨first, hFirst, hRest⟩
        obtain ⟨others, hOthers, hResults⟩ := bind_eq_ok.1 hRest
        rw [← pure_eq_ok.1 hResults]
        exact .cons hFirst (ih.1 hOthers)
      · rintro (_ | ⟨hFirst, hRest⟩)
        exact ⟨_, hFirst, bind_eq_ok.2 ⟨_, ih.2 hRest, rfl⟩⟩

/-- What is related item by item is related to something in the other list. -/
theorem exists_of_forall₂ {related : α → β → Prop} {as : List α} {bs : List β}
    (h : List.Forall₂ related as bs) : ∀ a ∈ as, ∃ b ∈ bs, related a b := by
  induction h with
  | nil => exact fun a hMem => absurd hMem List.not_mem_nil
  | @cons a b as bs hFirst _ ih =>
      intro other hOther
      obtain rfl | hRest := List.mem_cons.1 hOther
      · exact ⟨b, List.mem_cons_self, hFirst⟩
      · obtain ⟨found, hFound, hRelated⟩ := ih other hRest
        exact ⟨found, List.mem_cons_of_mem b hFound, hRelated⟩

theorem mapM_item_ok {items : List α} {f : α → Except ε β} {results : List β}
    (h : items.mapM f = .ok results) : ∀ item ∈ items, ∃ b, f item = .ok b := by
  intro item hItem
  obtain ⟨b, -, hOk⟩ := exists_of_forall₂ (mapM_eq_ok.1 h) item hItem
  exact ⟨b, hOk⟩

/-- What is computed of the items comes from one of them. -/
theorem mapM_result_ok {items : List α} {f : α → Except ε β} {results : List β}
    (h : items.mapM f = .ok results) : ∀ result ∈ results, ∃ item ∈ items, f item = .ok result :=
  exists_of_forall₂ (mapM_eq_ok.1 h).flip

/-- A loop whose steps all return returns. -/
theorem mapM_total {items : List α} {f : α → Except ε β}
    (h : ∀ item ∈ items, ∃ b, f item = .ok b) : ∃ results, items.mapM f = .ok results := by
  induction items with
  | nil => exact ⟨[], rfl⟩
  | cons item rest ih =>
      obtain ⟨b, hItem⟩ := h item List.mem_cons_self
      obtain ⟨results, hRest⟩ := ih fun other hMem => h other (List.mem_cons_of_mem _ hMem)
      exact ⟨_, mapM_eq_ok.2 (.cons hItem (mapM_eq_ok.1 hRest))⟩

/-! ## Tests of a value -/

/-- A computation whose value passes a test has a value. -/
theorem exists_ok_of_any {x : Except ε α} {f : α → Bool} (h : x.toOption.any f = true) :
    ∃ a, x = .ok a ∧ f a = true := by
  cases x with
  | error e => exact nomatch h
  | ok a => exact ⟨a, rfl, h⟩

/-- The value of a computation passes a test that its values pass. -/
theorem passes_of_all {x : Except ε α} {f : α → Bool} {a : α} (h : x.toOption.all f = true)
    (hOk : x = .ok a) : f a = true := by
  subst hOk
  exact h

/-! ## Errors -/

/-- Every error the computation raises satisfies `p`. -/
def RaisesOnly (p : ε → Prop) (x : Except ε α) : Prop :=
  ∀ e, x = .error e → p e

section Errors

variable {p : ε → Prop}

theorem raisesOnly_pure (a : α) : RaisesOnly p (pure a : Except ε α) :=
  fun _ h => nomatch h

theorem raisesOnly_require {q : Prop} [Decidable q] {e : ε} (h : p e) :
    RaisesOnly p (require q e) := by
  intro e' hError
  unfold require at hError
  split at hError
  · exact nomatch hError
  · cases hError
    exact h

theorem raisesOnly_fetch {o : Option α} {e : ε} (h : p e) : RaisesOnly p (fetch o e) := by
  intro e' hError
  cases o with
  | some a => exact nomatch hError
  | none =>
      cases hError
      exact h

/-- What follows runs only on the values that came first. -/
theorem raisesOnly_bind_ok {x : Except ε α} {f : α → Except ε β}
    (hFirst : RaisesOnly p x) (hRest : ∀ a, x = .ok a → RaisesOnly p (f a)) :
    RaisesOnly p (x >>= f) := by
  intro e hError
  cases x with
  | error e' =>
      cases hError
      exact hFirst e rfl
  | ok a => exact hRest a rfl e hError

theorem raisesOnly_bind {x : Except ε α} {f : α → Except ε β}
    (hFirst : RaisesOnly p x) (hRest : ∀ a, RaisesOnly p (f a)) :
    RaisesOnly p (x >>= f) :=
  raisesOnly_bind_ok hFirst fun a _ => hRest a

theorem raisesOnly_mapError {ε' : Type} {x : Except ε' α} {f : ε' → ε}
    (h : RaisesOnly (fun e => p (f e)) x) : RaisesOnly p (x.mapError f) := by
  intro e hError
  cases x with
  | error e' =>
      cases hError
      exact h e' rfl
  | ok a => exact nomatch hError

theorem raisesOnly_mapM {items : List α} {f : α → Except ε β}
    (h : ∀ item ∈ items, RaisesOnly p (f item)) : RaisesOnly p (items.mapM f) := by
  induction items with
  | nil =>
      rw [List.mapM_nil]
      exact raisesOnly_pure []
  | cons item rest ih =>
      rw [List.mapM_cons]
      exact raisesOnly_bind (h item List.mem_cons_self) fun _ =>
        raisesOnly_bind (ih fun other hOther => h other (List.mem_cons_of_mem _ hOther))
          fun _ => raisesOnly_pure _

theorem raisesOnly_forEach {items : List α} {check : α → Except ε Unit}
    (h : ∀ item ∈ items, RaisesOnly p (check item)) :
    RaisesOnly p (forEach items check) := by
  induction items with
  | nil => exact fun _ hError => nomatch hError
  | cons item rest ih =>
      exact raisesOnly_bind (h item List.mem_cons_self) fun _ =>
        ih fun other hOther => h other (List.mem_cons_of_mem _ hOther)

theorem raisesOnly_foldlM {items : List α} {f : β → α → Except ε β}
    (h : ∀ b a, RaisesOnly p (f b a)) (start : β) :
    RaisesOnly p (items.foldlM f start) := by
  induction items generalizing start with
  | nil => exact raisesOnly_pure start
  | cons item rest ih => exact raisesOnly_bind (h start item) fun b => ih b

end Errors

/-! ## Which errors are reached -/

/-- The computation raises an error that satisfies `p`. -/
def Raises (p : ε → Prop) (x : Except ε α) : Prop :=
  ∃ e, x = .error e ∧ p e

section Reached

variable {p : ε → Prop}

theorem raisesOnly_iff {x : Except ε α} :
    RaisesOnly p x ↔ ¬Raises (fun e => ¬p e) x := by
  constructor
  · rintro h ⟨e, hError, hNot⟩
    exact hNot (h e hError)
  · intro h e hError
    exact not_not.1 fun hNot => h ⟨e, hError, hNot⟩

theorem raises_ok {a : α} : ¬Raises p (.ok a : Except ε α) :=
  fun ⟨_, hError, _⟩ => nomatch hError

theorem raises_pure {a : α} : ¬Raises p (pure a : Except ε α) :=
  raises_ok

theorem raises_error {e : ε} : Raises p (.error e : Except ε α) ↔ p e := by
  constructor
  · rintro ⟨_, hError, h⟩
    cases hError
    exact h
  · exact fun h => ⟨e, rfl, h⟩

/-- What a sequence raises is raised first, or after the value that came first. -/
theorem raises_bind {x : Except ε α} {f : α → Except ε β} :
    Raises p (x >>= f) ↔ Raises p x ∨ ∃ a, x = .ok a ∧ Raises p (f a) := by
  cases x with
  | error e =>
      show Raises p (Except.error e) ↔ _
      simp [raises_error]
  | ok a =>
      show Raises p (f a) ↔ _
      simp [raises_ok]

theorem raises_require {q : Prop} [Decidable q] {e : ε} :
    Raises p (require q e) ↔ ¬q ∧ p e := by
  unfold require
  by_cases h : q
  · rw [if_pos h]
    simp [raises_ok, h]
  · rw [if_neg h]
    simp [raises_error, h]

theorem raises_fetch {o : Option α} {e : ε} : Raises p (fetch o e) ↔ o = none ∧ p e := by
  cases o with
  | none => simp [fetch, raises_error]
  | some a => simp [fetch, raises_ok]

theorem raises_mapError {ε' : Type} {x : Except ε' α} {f : ε' → ε} :
    Raises p (x.mapError f) ↔ Raises (fun e => p (f e)) x := by
  cases x with
  | error e =>
      show Raises p (Except.error (f e)) ↔ Raises (fun e => p (f e)) (Except.error e)
      rw [raises_error, raises_error]
  | ok a => exact iff_of_false raises_ok raises_ok

/-- A loop raises at the first item at which its step does. -/
theorem raises_mapM {items : List α} {f : α → Except ε β} :
    Raises p (items.mapM f) ↔ ∃ before item after, items = before ++ item :: after
      ∧ (∀ earlier ∈ before, ∃ b, f earlier = .ok b) ∧ Raises p (f item) := by
  induction items with
  | nil => simp [raises_pure]
  | cons first rest ih =>
      rw [List.mapM_cons, raises_bind]
      constructor
      · rintro (hFirst | ⟨b, hFirst, hRest⟩)
        · exact ⟨[], first, rest, rfl, by simp, hFirst⟩
        · rw [raises_bind] at hRest
          obtain hRest | ⟨_, -, hPure⟩ := hRest
          · obtain ⟨before, item, after, rfl, hBefore, hItem⟩ := ih.1 hRest
            refine ⟨first :: before, item, after, rfl, ?_, hItem⟩
            rintro earlier (_ | ⟨_, hMem⟩)
            · exact ⟨b, hFirst⟩
            · exact hBefore earlier hMem
          · exact absurd hPure raises_pure
      · rintro ⟨_ | ⟨_, before⟩, item, after, hItems, hBefore, hItem⟩
        · cases hItems
          exact .inl hItem
        · cases hItems
          obtain ⟨b, hFirst⟩ := hBefore first List.mem_cons_self
          exact .inr ⟨b, hFirst, raises_bind.2 (.inl (ih.2 ⟨before, item, after, rfl,
            fun earlier hMem => hBefore earlier (List.mem_cons_of_mem _ hMem), hItem⟩))⟩

/-- The same, where a step depends on a key of its item only. -/
theorem raises_mapM_keyed {κ : Type} {items : List α} {f : α → Except ε β} (key : α → κ)
    {good bad : κ → Prop} (hGood : ∀ a, (∃ b, f a = .ok b) ↔ good (key a))
    (hBad : ∀ a, Raises p (f a) ↔ bad (key a)) :
    Raises p (items.mapM f) ↔ ∃ before k after, items.map key = before ++ k :: after
      ∧ (∀ earlier ∈ before, good earlier) ∧ bad k := by
  rw [raises_mapM]
  constructor
  · rintro ⟨before, item, after, rfl, hBefore, hItem⟩
    refine ⟨before.map key, key item, after.map key, by simp, ?_, (hBad item).1 hItem⟩
    exact List.forall_mem_map.2 fun earlier hMem => (hGood earlier).1 (hBefore earlier hMem)
  · rintro ⟨before, k, after, hKeys, hBefore, hBad'⟩
    obtain ⟨first, rest, rfl, rfl, hRest⟩ := List.map_eq_append_iff.1 hKeys
    obtain ⟨item, others, rfl, rfl, -⟩ := List.map_eq_cons_iff.1 hRest
    exact ⟨first, item, others, rfl, fun earlier hMem =>
      (hGood earlier).2 (hBefore _ (List.mem_map_of_mem hMem)), (hBad item).2 hBad'⟩

end Reached

end TrackAnywhere.Verified.Checked
