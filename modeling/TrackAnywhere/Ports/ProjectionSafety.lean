import TrackAnywhere.Ports.ProjectionCommits

/-!
# Safety of interleaved workers and rebuilders

The invariant of the system has three parts.  The committed tables satisfy the
invariant of a single worker.  A process that holds the checkpoint row locked
still sees it as it read it, because a checkpoint only moves under its lock.
And what each process has read is consistent with what is committed.

`next_effect` is the step lemma, one case for each statement, and
`projection_safe_over_interleavings` what every interleaving keeps.
-/

namespace TrackAnywhere.Ports

open TrackAnywhere.Verified
open TrackAnywhere.Verified.Checked
open TrackAnywhere.Verified.KeyedSum
open TrackAnywhere.Verified.OrderedLog

/-! ## Statements -/

/-- What a statement does: the committed tables, and what the process knows
after it. -/
structure StatementEffect (ledger : List LedgerEventRecord) (bookId : UUID)
    (c : CommittedState) (process process' : Process)
    (t' : ProjectionTables) : Prop where
  effect : TablesEffect c process t'
  held : ∀ checkpoint, process'.checkpoint? = some checkpoint →
    t'.checkpoint = some checkpoint
  consistent : process'.Consistent ledger bookId { c with tables := t' }

section Statements

variable {ledger : List LedgerEventRecord} {bookId : UUID}
  {c : CommittedState} {process process' : Process} {t' : ProjectionTables}

/-- Every statement, from what the process has read before it. -/
theorem next_effect (hLog : BookLog c.events)
    (hSync : Run (Projects ledger bookId) SyncTables.empty c.events c.sync)
    (hTables : WorkerInvariant c.events c.tables)
    (hBounded : c.tables.startPosition ≤ lastPosition c.events)
    (hHeld : ∀ checkpoint, process.checkpoint? = some checkpoint →
      c.tables.checkpoint = some checkpoint)
    (hRead : process.Consistent ledger bookId c)
    (h : process.next c = .ok (process', t')) :
    StatementEffect ledger bookId c process process' t' := by
  have hSame : TablesEffect c process c.tables :=
    .of_same hTables hBounded rfl
  cases process with
  | idle =>
      cases h
      exact ⟨hSame, (fun _ hSome => by cases hSome), trivial⟩
  | workerStarted worker =>
      simp only [Process.next] at h
      split at h
      · cases h
        exact ⟨hSame, (fun _ hSome => by cases hSome), trivial⟩
      · cases h
        exact ⟨hSame, (fun _ hSome => by cases hSome), Nat.le_refl _⟩
  | workerPositioned worker start =>
      simp only [Process.next] at h
      split at h
      · cases h
        exact ⟨hSame, (fun _ hSome => by cases hSome), trivial⟩
      · rename_i last hLast
        cases h
        refine ⟨hSame, (fun _ hSome => by cases hSome), hRead, ?_, ?_⟩
        · have hMem := List.mem_of_mem_take (List.mem_of_getLast? hLast)
          exact le_lastPosition hLog.order (mem_after.1 hMem).1
        · intro e he
          have hTake := take_after hLog.order hLast
          show e ∈ (logAfter c.events start).take _
          rw [hTake]
          exact he
  | workerRead batch =>
      simp only [Process.next] at h
      split at h
      · rename_i checkpoint hSome
        cases h
        refine ⟨hSame, ?_, hRead⟩
        intro checkpoint' hEq
        cases hEq
        exact hSome
      · cases h
        exact ⟨hSame, (fun _ hSome => by cases hSome), hRead, rfl⟩
  | workerCheckpoint batch checkpoint =>
      simp only [Process.next, bind_eq_ok, fetch_eq_ok, pure_eq_ok] at h
      obtain ⟨generation, hFind, hEq⟩ := h
      cases hEq
      have hNumber : generation.generation = checkpoint.activeGeneration := by
        simpa using List.find?_some hFind
      exact ⟨hSame, hHeld, hRead, rfl, hNumber.symm⟩
  | workerLocked batch state =>
      simp only [Process.next] at h
      split at h
      · simp only [bind_eq_ok, pure_eq_ok] at h
        obtain ⟨t, hCommit, hEq⟩ := h
        cases hEq
        exact ⟨commitFailure_effect hTables hBounded hCommit,
          (fun _ hSome => by cases hSome), trivial⟩
      · simp only [bind_eq_ok, pure_eq_ok] at h
        obtain ⟨⟨periods, dirtyPeriods⟩, hMarked, hEq⟩ := h
        cases hEq
        refine ⟨hSame, hHeld, hRead.1, hRead.2, ?_⟩
        exact ⟨c.events, c.sync, _, _, hSync, prefix_through hLog.order _,
          hMarked⟩
  | workerMarked batch state periods dirtyPeriods =>
      simp only [Process.next, bind_eq_ok, mapError_eq_ok, pure_eq_ok] at h
      obtain ⟨replay, hReplay, hEq⟩ := h
      cases hEq
      exact ⟨hSame, hHeld, hRead.1, hRead.2.1, hRead.2.2, hRead.1.final,
        hReplay⟩
  | workerReplayed batch state periods dirtyPeriods replay =>
      simp only [Process.next, bind_eq_ok, pure_eq_ok] at h
      obtain ⟨t, hCommit, hEq⟩ := h
      cases hEq
      exact ⟨commitBatch_effect hLog hTables hRead.1 hRead.2.1 hHeld
        hRead.2.2.1 hRead.2.2.2 hCommit, (fun _ hSome => by cases hSome), trivial⟩
  | buildStarted =>
      simp only [Process.next, bind_eq_ok, fetch_eq_ok, pure_eq_ok] at h
      obtain ⟨checkpoint, -, hEq⟩ := h
      cases hEq
      exact ⟨hSame, (fun _ hSome => by cases hSome), trivial⟩
  | buildSelected candidates =>
      cases h
      exact ⟨hSame, (fun _ hSome => by cases hSome), trivial⟩
  | buildLocked shadow =>
      cases shadow with
      | none =>
          cases h
          exact ⟨hSame, (fun _ hSome => by cases hSome), Nat.le_refl _⟩
      | some shadow =>
          simp only [Process.next] at h
          split at h
          · cases h
            exact ⟨hSame, (fun _ hSome => by cases hSome), trivial⟩
          · cases h
            exact ⟨hSame, (fun _ hSome => by cases hSome), Nat.le_refl _⟩
  | buildTargeted shadow isNew head =>
      simp only [Process.next, bind_eq_ok, mapError_eq_ok, pure_eq_ok] at h
      obtain ⟨replay, hReplay, hEq⟩ := h
      cases hEq
      exact ⟨hSame, (fun _ hSome => by cases hSome), hRead, hReplay⟩
  | buildReplayed shadow isNew head replay =>
      simp only [Process.next, bind_eq_ok, pure_eq_ok] at h
      obtain ⟨t, hCommit, hEq⟩ := h
      cases hEq
      exact ⟨commitShadow_effect hTables hBounded hRead hCommit,
        (fun _ hSome => by cases hSome), trivial⟩
  | shadowBuilt generation =>
      cases h
      exact ⟨hSame, (fun _ hSome => by cases hSome), trivial⟩
  | swapStarted generation =>
      simp only [Process.next, bind_eq_ok, fetch_eq_ok, pure_eq_ok] at h
      obtain ⟨checkpoint, hSome, hEq⟩ := h
      cases hEq
      refine ⟨hSame, ?_, trivial⟩
      intro checkpoint' hEq
      cases hEq
      exact hSome
  | swapCheckpoint generation checkpoint =>
      simp only [Process.next, bind_eq_ok, fetch_eq_ok, pure_eq_ok] at h
      obtain ⟨active, -, hEq⟩ := h
      cases hEq
      exact ⟨hSame, hHeld, trivial⟩
  | swapActive generation checkpoint active =>
      simp only [Process.next, bind_eq_ok, fetch_eq_ok, pure_eq_ok] at h
      obtain ⟨shadow, -, hEq⟩ := h
      cases hEq
      exact ⟨hSame, hHeld, trivial⟩
  | swapLocked rows =>
      simp only [Process.next, bind_eq_ok, require_eq_ok, pure_eq_ok,
        exists_const] at h
      obtain ⟨-, hEq⟩ := h
      cases hEq
      exact ⟨hSame, hHeld, Nat.le_refl _⟩
  | swapTargeted rows head =>
      simp only [Process.next, bind_eq_ok, mapError_eq_ok, pure_eq_ok] at h
      obtain ⟨replay, hReplay, hEq⟩ := h
      cases hEq
      exact ⟨hSame, hHeld, hRead, hReplay⟩
  | swapReplayed rows head replay =>
      simp only [Process.next, bind_eq_ok, pure_eq_ok] at h
      obtain ⟨t, hCommit, hEq⟩ := h
      cases hEq
      exact ⟨commitSwap_effect hTables hRead hCommit,
        (fun _ hSome => by cases hSome), trivial⟩

end Statements

/-! ## The system -/

/-- What holds in every reachable state. -/
structure SystemInvariant (ledger : List LedgerEventRecord) (bookId : UUID)
    (s : ProjectionSystem) : Prop where
  log : BookLog s.committed.events
  sync : Run (Projects ledger bookId) SyncTables.empty s.committed.events
    s.committed.sync
  tables : WorkerInvariant s.committed.events s.committed.tables
  bounded : s.committed.tables.startPosition
    ≤ lastPosition s.committed.events
  exclusive : ∀ i, s.Free i (s.processes i)
  held : ∀ i checkpoint, (s.processes i).checkpoint? = some checkpoint →
    s.committed.tables.checkpoint = some checkpoint
  consistent : ∀ i, (s.processes i).Consistent ledger bookId s.committed

namespace SystemInvariant

variable {ledger : List LedgerEventRecord} {bookId : UUID}
  {s s' : ProjectionSystem} {i : Nat} {process : Process}

theorem initial : SystemInvariant ledger bookId ProjectionSystem.initial where
  log := ⟨List.nodup_nil, List.Pairwise.nil,
    fun _ he => absurd he List.not_mem_nil⟩
  sync := .nil _
  tables := WorkerInvariant.empty
  bounded := Nat.le_refl 0
  exclusive := fun _ _ h => absurd h List.not_mem_nil
  held := fun _ _ h => nomatch h
  consistent := fun _ => trivial

/-- Locks stay exclusive when a process enters a phase whose locks are
free. -/
theorem exclusive_setProcess (h : ∀ i, s.Free i (s.processes i))
    (hFree : s.Free i process) :
    ∀ j, (s.setProcess i process).Free j
      ((s.setProcess i process).processes j) := by
  intro j lock hLock k hNe
  simp only [ProjectionSystem.setProcess] at hLock ⊢
  by_cases hj : j = i
  · subst hj
    rw [Function.update_self] at hLock
    rw [Function.update_of_ne hNe]
    exact hFree lock hLock k hNe
  · rw [Function.update_of_ne hj] at hLock
    by_cases hk : k = i
    · subst hk
      rw [Function.update_self]
      intro hMem
      exact hFree lock hMem j hj hLock
    · rw [Function.update_of_ne hk]
      exact h j lock hLock k hNe

/-- A process that has read nothing yet starts, or one gives up. -/
theorem restart (h : SystemInvariant ledger bookId s)
    (hFree : s.Free i process) (hHeld : process.checkpoint? = none)
    (hRead : ∀ c, process.Consistent ledger bookId c) :
    SystemInvariant ledger bookId (s.setProcess i process) := by
  refine ⟨h.log, h.sync, h.tables, h.bounded,
    exclusive_setProcess h.exclusive hFree, ?_, ?_⟩
  · intro j checkpoint hSome
    simp only [ProjectionSystem.setProcess] at hSome ⊢
    by_cases hj : j = i
    · subst hj
      rw [Function.update_self, hHeld] at hSome
      exact nomatch hSome
    · rw [Function.update_of_ne hj] at hSome
      exact h.held j checkpoint hSome
  · intro j
    simp only [ProjectionSystem.setProcess]
    by_cases hj : j = i
    · subst hj
      rw [Function.update_self]
      exact hRead _
    · rw [Function.update_of_ne hj]
      exact h.consistent j

/-- An append moves nothing but the log. -/
theorem append {events : List LedgerEventRecord} {sync : SyncTables}
    (h : SystemInvariant ledger bookId s)
    (hLog : BookLog (s.committed.events ++ events))
    (hSync : Run (Projects ledger bookId) s.committed.sync events sync) :
    SystemInvariant ledger bookId { s with committed :=
      ⟨s.committed.events ++ events, sync, s.committed.tables⟩ } := by
  have hGrows : Grows s.committed
      ⟨s.committed.events ++ events, sync, s.committed.tables⟩ :=
    ⟨⟨events, rfl⟩, hLog, Nat.le_refl _⟩
  refine ⟨hLog, h.sync.append hSync, ⟨?_, h.tables.filed, h.tables.active⟩,
    h.bounded.trans hGrows.lastPosition, h.exclusive, h.held, ?_⟩
  · intro checkpoint hSome
    have hAt : s.committed.tables.startPosition
        = checkpoint.lastBookPosition := by
      have hSome' : s.committed.tables.checkpoint = some checkpoint := hSome
      simp [ProjectionTables.startPosition, hSome']
    have hBounded := h.bounded
    rw [hAt] at hBounded
    exact (h.tables.replayed checkpoint hSome).grows hBounded hGrows rfl
  · intro j
    exact (h.consistent j).grows hGrows

/-- What the statement of one process does. -/
theorem effect {t : ProjectionTables} (h : SystemInvariant ledger bookId s)
    (hNext : (s.processes i).next s.committed = .ok (process, t)) :
    StatementEffect ledger bookId s.committed (s.processes i) process t :=
  next_effect h.log h.sync h.tables h.bounded (h.held i) (h.consistent i) hNext

/-- A statement of one process: the others keep the checkpoint they hold
locked, because only its holder, or the first activation, moves it. -/
theorem statement {t : ProjectionTables} (h : SystemInvariant ledger bookId s)
    (hNext : (s.processes i).next s.committed = .ok (process, t))
    (hFree : s.Free i process) :
    SystemInvariant ledger bookId ((s.setTables t).setProcess i process) := by
  obtain ⟨hEffect, hHeld, hRead⟩ := h.effect hNext
  have hGrows : Grows s.committed { s.committed with tables := t } :=
    ⟨⟨[], (List.append_nil _).symm⟩, h.log, hEffect.forward⟩
  refine ⟨h.log, h.sync, hEffect.tables, hEffect.bounded,
    exclusive_setProcess (s := s.setTables t) h.exclusive hFree, ?_, ?_⟩
  · intro j checkpoint hSome
    simp only [ProjectionSystem.setProcess] at hSome
    by_cases hj : j = i
    · subst hj
      rw [Function.update_self] at hSome
      exact hHeld checkpoint hSome
    · rw [Function.update_of_ne hj] at hSome
      have hNow := h.held j checkpoint hSome
      rcases hEffect.guarded with hSame | hLock | hNone
      · exact hSame.trans hNow
      · exact absurd (Process.checkpoint_mem_locks hSome)
          (h.exclusive i _ hLock j hj)
      · rw [hNone] at hNow
        exact nomatch hNow
  · intro j
    simp only [ProjectionSystem.setProcess]
    by_cases hj : j = i
    · subst hj
      rw [Function.update_self]
      exact hRead
    · rw [Function.update_of_ne hj]
      exact (h.consistent j).grows hGrows

theorem step {action : SystemAction} (h : SystemInvariant ledger bookId s)
    (hStep : Interleaves ledger bookId s action s') :
    SystemInvariant ledger bookId s' := by
  cases hStep with
  | append hLog hSync => exact h.append hLog hSync
  | startWorker hIdle hFree =>
      exact h.restart hFree rfl fun _ => trivial
  | startRebuild hIdle =>
      exact h.restart (fun _ hLock => absurd hLock List.not_mem_nil) rfl
        fun _ => trivial
  | statement hNext hFree => exact h.statement hNext hFree
  | abort =>
      exact h.restart (fun _ hLock => absurd hLock List.not_mem_nil) rfl
        fun _ => trivial
  | settleFailures =>
      exact ⟨h.log, h.sync,
        h.tables.frame rfl rfl (fun _ hg => hg) h.tables.active, h.bounded,
        h.exclusive, h.held,
        fun j => (h.consistent j).grows
          ⟨⟨[], (List.append_nil _).symm⟩, h.log, Nat.le_refl _⟩⟩

theorem run {actions : List SystemAction} (h : SystemInvariant ledger bookId s)
    (hRun : Run (Interleaves ledger bookId) s actions s') :
    SystemInvariant ledger bookId s' :=
  Run.invariant h (fun _ _ _ h hStep => h.step hStep) hRun

end SystemInvariant

/-- The position of the checkpoint, zero before there is one. -/
def ProjectionSystem.position (s : ProjectionSystem) : Nat :=
  s.committed.tables.startPosition

/-- A step moves the checkpoint forward, over events that its process
publishes. -/
theorem position_step {ledger : List LedgerEventRecord} {bookId : UUID}
    {s s' : ProjectionSystem} {action : SystemAction}
    (h : SystemInvariant ledger bookId s)
    (hStep : Interleaves ledger bookId s action s') :
    s.position ≤ s'.position
      ∧ ∀ e ∈ s'.committed.events, s.position < e.bookPosition →
          e.bookPosition ≤ s'.position →
          ∃ i, action = .statement i
            ∧ (s.processes i).Projected s.committed e := by
  cases hStep with
  | statement hNext hFree =>
      have hEffect := (h.effect hNext).effect
      exact ⟨hEffect.forward, fun e he hPast hWithin =>
        ⟨_, rfl, hEffect.covered e he hPast hWithin⟩⟩
  | append hLog hSync =>
      refine ⟨Nat.le_refl _, fun e _ hPast hWithin => ?_⟩
      exact absurd hWithin (not_le.2 hPast)
  | startWorker hIdle hFree =>
      refine ⟨Nat.le_refl _, fun e _ hPast hWithin => ?_⟩
      exact absurd hWithin (not_le.2 hPast)
  | startRebuild hIdle =>
      refine ⟨Nat.le_refl _, fun e _ hPast hWithin => ?_⟩
      exact absurd hWithin (not_le.2 hPast)
  | abort =>
      refine ⟨Nat.le_refl _, fun e _ hPast hWithin => ?_⟩
      exact absurd hWithin (not_le.2 hPast)
  | settleFailures =>
      refine ⟨Nat.le_refl _, fun e _ hPast hWithin => ?_⟩
      exact absurd hWithin (not_le.2 hPast)

theorem position_run {ledger : List LedgerEventRecord} {bookId : UUID}
    {s s' : ProjectionSystem} {actions : List SystemAction}
    (h : SystemInvariant ledger bookId s)
    (hRun : Run (Interleaves ledger bookId) s actions s') :
    s.position ≤ s'.position := by
  induction hRun with
  | nil s => exact Nat.le_refl _
  | cons hStep _ ih =>
      exact (position_step h hStep).1.trans (ih (h.step hStep))

/-- In every state that an interleaving reaches: there is a checkpoint exactly
when one generation is active, it is that generation, and its rows are, month
by month, the cold replay of the log through the checkpoint; the position has
not gone back since any earlier state; and the step that moves the checkpoint
on publishes every event in between. -/
theorem projection_safe_over_interleavings
    {ledger : List LedgerEventRecord} {bookId : UUID}
    {earlier later : List SystemAction} {s s' : ProjectionSystem}
    (hEarlier : Run (Interleaves ledger bookId) ProjectionSystem.initial
      earlier s)
    (hLater : Run (Interleaves ledger bookId) s later s') :
    s'.committed.tables.activeGenerations.map (·.generation)
        = (s'.committed.tables.checkpoint.map (·.activeGeneration)).toList
      ∧ (∀ checkpoint, s'.committed.tables.checkpoint = some checkpoint →
          ∃ summary,
            coldReplayMonthlySummary s'.committed.events
                (some checkpoint.lastBookPosition) = .ok summary
            ∧ ∀ period, s'.committed.tables.periodRows
                checkpoint.activeGeneration period = summary.get period)
      ∧ s.position ≤ s'.position
      ∧ ∀ action s'', Interleaves ledger bookId s' action s'' →
          ∀ e ∈ s''.committed.events, s'.position < e.bookPosition →
            e.bookPosition ≤ s''.position →
            ∃ i, action = .statement i
              ∧ (s'.processes i).Projected s'.committed e := by
  have h : SystemInvariant ledger bookId s :=
    SystemInvariant.initial.run hEarlier
  have h' : SystemInvariant ledger bookId s' := h.run hLater
  exact ⟨h'.tables.active, h'.tables.replayed, position_run h hLater,
    fun action s'' hStep => (position_step h' hStep).2⟩

/-! ### A worker's batch, an append, and a rebuild -/

/-- A Book with a single client. -/
def ProjectionSystem.alone (c : CommittedState) (process : Process) :
    ProjectionSystem where
  committed := c
  processes := Function.update (fun _ => .idle) 0 process

/-- The next statement of a client, or the end of a call that raises. -/
def advance (at_ : CommittedState × Process) : CommittedState × Process :=
  match at_.2.next at_.1 with
  | .ok (process, t) => ({ at_.1 with tables := t }, process)
  | .error _ => (at_.1, .idle)

/-- What is committed after that many statements of a client. -/
def committedAfter (n : Nat) (c : CommittedState) (process : Process) :
    CommittedState :=
  (advance^[n] (c, process)).1

section Alone

variable {ledger : List LedgerEventRecord} {bookId : UUID}
  {c : CommittedState} {process process' : Process}

private theorem alone_setProcess :
    (ProjectionSystem.alone c process).setProcess 0 process'
      = .alone c process' := by
  unfold ProjectionSystem.setProcess ProjectionSystem.alone
  simp

private theorem alone_free :
    (ProjectionSystem.alone c process).Free 0 process' := by
  intro lock _ j hj
  simp [ProjectionSystem.alone, Function.update_of_ne hj, Process.locks]

private theorem run_process_advance (ledger : List LedgerEventRecord) (bookId : UUID)
    (n : Nat) (c : CommittedState) (process : Process) : ∃ actions, Run (Interleaves ledger bookId)
      (.alone c process) actions
      (.alone (advance^[n] (c, process)).1 (advance^[n] (c, process)).2) := by
  induction n generalizing c process with
  | zero => exact ⟨[], .nil _⟩
  | succ n ih =>
      rw [Function.iterate_succ_apply]
      unfold advance
      cases hNext : process.next c with
      | ok accepted =>
          obtain ⟨process', t⟩ := accepted
          obtain ⟨actions, hRest⟩ := ih { c with tables := t } process'
          have hStep : Interleaves ledger bookId (.alone c process)
              (.statement 0) (((ProjectionSystem.alone c process).setTables
                t).setProcess 0 process') :=
            .statement (by simpa [ProjectionSystem.alone] using hNext)
              alone_free
          rw [show ((ProjectionSystem.alone c process).setTables t).setProcess
            0 process' = .alone { c with tables := t } process'
              from alone_setProcess] at hStep
          exact ⟨_, .cons hStep hRest⟩
      | error e =>
          obtain ⟨actions, hRest⟩ := ih c .idle
          have hStep : Interleaves ledger bookId (.alone c process) (.abort 0)
              ((ProjectionSystem.alone c process).setProcess 0 .idle) := .abort
          rw [alone_setProcess] at hStep
          exact ⟨_, .cons hStep hRest⟩

/-- A client starts a call, executes statements, and is idle again. -/
private theorem run_call {start : SystemAction} (n : Nat)
    (hStart : Interleaves ledger bookId (.alone c .idle) start
      ((ProjectionSystem.alone c .idle).setProcess 0 process)) :
    ∃ actions, Run (Interleaves ledger bookId) (.alone c .idle) actions
      (.alone (committedAfter n c process) .idle) := by
  rw [alone_setProcess] at hStart
  obtain ⟨actions, hRun⟩ := run_process_advance ledger bookId n c process
  have hEnd : Interleaves ledger bookId
      (.alone (advance^[n] (c, process)).1 (advance^[n] (c, process)).2)
      (.abort 0)
      ((ProjectionSystem.alone (advance^[n] (c, process)).1
        (advance^[n] (c, process)).2).setProcess 0 .idle) := .abort
  rw [alone_setProcess] at hEnd
  exact ⟨_, .cons hStart (hRun.snoc hEnd)⟩

end Alone

/-- Two events are appended and projected, a third is appended, and the
generation is rebuilt. -/
def sampleFirst : CommittedState where
  events := [samplePosted, sampleAssigned]
  sync := [samplePosted, sampleAssigned].foldl
    (projected sampleCatalog sampleMonthlyLog) SyncTables.empty
  tables := ProjectionTables.empty

def sampleSecond : CommittedState where
  events := sampleMonthlyLog
  sync := sampleBook.sync
  tables := (committedAfter 6 sampleFirst
    (.workerStarted sampleWorker)).tables

def sampleRebuilt : CommittedState :=
  committedAfter 12 sampleSecond .buildStarted

theorem projection_safe_over_sample :
    sampleRebuilt.tables.activeGenerations.map (·.generation) = [2]
      ∧ ∃ summary, coldReplayMonthlySummary sampleMonthlyLog (some 3)
            = .ok summary
          ∧ ∀ period, sampleRebuilt.tables.periodRows 2 period
              = summary.get period := by
  have hFirst : Interleaves sampleMonthlyLog 1 ProjectionSystem.initial
      (.append [samplePosted, sampleAssigned]) (.alone sampleFirst .idle) := by
    have hAppend : Interleaves sampleMonthlyLog 1 ProjectionSystem.initial
        (.append [samplePosted, sampleAssigned])
        ⟨sampleFirst, fun _ => .idle⟩ :=
      .append (by constructor <;> decide)
        (.cons (projects_projected sampleCatalog (by decide) rfl (by decide))
          (.cons (projects_projected sampleCatalog (by decide) rfl (by decide))
            (.nil _)))
    rwa [show (⟨sampleFirst, fun _ => .idle⟩ : ProjectionSystem)
      = .alone sampleFirst .idle by simp [ProjectionSystem.alone]] at hAppend
  obtain ⟨batch, hBatch⟩ := run_call 6
    (.startWorker rfl alone_free : Interleaves sampleMonthlyLog 1
      (.alone sampleFirst .idle) (.startWorker 0 sampleWorker) _)
  have hSecond : Interleaves sampleMonthlyLog 1
      (.alone (committedAfter 6 sampleFirst (.workerStarted sampleWorker))
        .idle) (.append [sampleReturned]) (.alone sampleSecond .idle) :=
    .append (by constructor <;> decide)
      (.cons (projects_projected sampleCatalog (by decide) rfl (by decide))
        (.nil _))
  obtain ⟨rebuild, hRebuild⟩ := run_call 12
    (.startRebuild rfl : Interleaves sampleMonthlyLog 1
      (.alone sampleSecond .idle) (.startRebuild 0) _)
  have hSafe := projection_safe_over_interleavings
    (.cons hFirst (hBatch.snoc hSecond)) hRebuild
  have hCheckpoint : sampleRebuilt.tables.checkpoint = some ⟨3, 2⟩ := by
    decide
  refine ⟨?_, hSafe.2.1 ⟨3, 2⟩ hCheckpoint⟩
  have hActive := hSafe.1
  show sampleRebuilt.tables.activeGenerations.map (·.generation) = _
  rw [show sampleRebuilt.tables.activeGenerations.map (·.generation) = _
    from hActive]
  show (sampleRebuilt.tables.checkpoint.map _).toList = _
  rw [hCheckpoint]
  rfl

end TrackAnywhere.Ports
