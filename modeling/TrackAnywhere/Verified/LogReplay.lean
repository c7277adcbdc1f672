import TrackAnywhere.Verified.Checked

/-!
# Logs that are checked against their prefixes

A rule of an append-only log looks at an item and at the items before it.
`EachAfter rule log` says that every item meets the rule.  A log is replayed
by folding a step that may refuse an item; where an invariant ties the state
to the items taken so far, refusing an item is a matter of a rule as well.
-/

namespace TrackAnywhere.Verified

open TrackAnywhere.Verified.Checked

variable {α σ ε : Type}

/-- Every item meets the rule against the items before it. -/
def EachAfter (rule : List α → α → Prop) (log : List α) : Prop :=
  ∀ before item after, log = before ++ item :: after → rule before item

section Rules

variable {rule : List α → α → Prop} {log : List α} {item : α}

theorem eachAfter_snoc :
    EachAfter rule (log ++ [item]) ↔ EachAfter rule log ∧ rule log item := by
  constructor
  · intro h
    refine ⟨fun before current after hSplit => ?_, h log item [] rfl⟩
    exact h before current (after ++ [item]) (by rw [hSplit, List.append_assoc]; rfl)
  · rintro ⟨h, hItem⟩ before current after hSplit
    cases after using List.reverseRecOn with
    | nil =>
        obtain ⟨rfl, hLast⟩ := List.append_inj' hSplit rfl
        obtain rfl := List.head_eq_of_cons_eq hLast
        exact hItem
    | append_singleton after last _ =>
        rw [← List.cons_append, ← List.append_assoc] at hSplit
        exact h before current after (List.append_inj' hSplit rfl).1

theorem EachAfter.mono {rule' : List α → α → Prop} (h : EachAfter rule log)
    (hRule : ∀ before item, rule before item → rule' before item) : EachAfter rule' log :=
  fun before item after hSplit => hRule before item (h before item after hSplit)

/-- A rule between an item and those before it holds of every pair. -/
theorem EachAfter.pairwise {r : α → α → Prop}
    (h : EachAfter (fun before item => ∀ earlier ∈ before, r earlier item) log) :
    log.Pairwise r := by
  induction log using List.reverseRecOn with
  | nil => exact List.Pairwise.nil
  | append_singleton log item ih =>
      obtain ⟨hInit, hLast⟩ := eachAfter_snoc.1 h
      refine List.pairwise_append.2 ⟨ih hInit, List.pairwise_singleton r item, ?_⟩
      intro earlier hEarlier last hMem
      rw [List.mem_singleton.1 hMem]
      exact hLast earlier hEarlier

end Rules

/-! ## Replays -/

section Replay

variable {step : σ → α → Except ε σ} {rule : List α → α → Prop} {inv : List α → σ → Prop}
  {log before rest : List α} {s s' : σ}

end Replay

end TrackAnywhere.Verified
