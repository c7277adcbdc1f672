import TrackAnywhere.Ports.ProjectionWorker
import Mathlib

/-!
# Workers and rebuilders, interleaved

Any number of processes call `AsyncProjectionWorker.run_once` or
`ShadowProjectionRebuilder.rebuild_book` on one Book while events are appended.
`Process.next` is the statement a process executes next: each statement reads
what is committed at that moment, a process holds the locks of its phase, and
the rows a transaction writes are visible to the others once it commits.

The worker reads its start before it locks the checkpoint, and worker and
rebuilder take different advisory locks.  What the model shows is that the row
lock on the checkpoint and the triggers are enough:
`projection_safe_over_interleavings`.
-/

namespace TrackAnywhere.Ports

open TrackAnywhere.Verified
open TrackAnywhere.Verified.Checked
open TrackAnywhere.Verified.KeyedSum
open TrackAnywhere.Verified.OrderedLog

/-! ## Committed state -/

/-- What is committed of one Book and its projection. -/
structure CommittedState where
  events : List LedgerEventRecord
  sync : SyncTables
  tables : ProjectionTables

/-- `head.last_position`: every append moves the head to its last event. -/
def lastPosition (events : List LedgerEventRecord) : Nat :=
  match events.getLast? with
  | none => 0
  | some last => last.bookPosition

/-! ## Processes -/

/-- A batch the worker has read. -/
structure WorkerBatch where
  start : Nat
  events : List LedgerEventRecord
  finalPosition : Nat

/-- The rows a rebuilder has locked before it swaps. -/
structure LockedSwap where
  checkpoint : ProjectionCheckpointRecord
  active : ProjectionGenerationRecord
  shadow : ProjectionGenerationRecord

/-- Where a process stands, with its local variables. -/
inductive Process
  | idle
  | workerStarted (worker : AsyncProjectionWorker)
  | workerPositioned (worker : AsyncProjectionWorker) (start : Nat)
  | workerRead (batch : WorkerBatch)
  | workerCheckpoint (batch : WorkerBatch)
      (checkpoint : ProjectionCheckpointRecord)
  | workerLocked (batch : WorkerBatch) (state : LockedProjectionState)
  | workerMarked (batch : WorkerBatch) (state : LockedProjectionState)
      (periods : List Date)
      (dirtyPeriods : Dict DirtyPeriodKey DirtyPeriodSource)
  | workerReplayed (batch : WorkerBatch) (state : LockedProjectionState)
      (periods : List Date)
      (dirtyPeriods : Dict DirtyPeriodKey DirtyPeriodSource)
      (replay : MonthlySummary)
  | buildStarted
  | buildSelected (candidates : List Nat)
  | buildLocked (shadow : Option ProjectionGenerationRecord)
  | buildTargeted (shadow : ProjectionGenerationRecord) (isNew : Bool)
      (head : Nat)
  | buildReplayed (shadow : ProjectionGenerationRecord) (isNew : Bool)
      (head : Nat) (replay : MonthlySummary)
  | shadowBuilt (generation : Nat)
  | swapStarted (generation : Nat)
  | swapCheckpoint (generation : Nat)
      (checkpoint : ProjectionCheckpointRecord)
  | swapActive (generation : Nat) (checkpoint : ProjectionCheckpointRecord)
      (active : ProjectionGenerationRecord)
  | swapLocked (rows : LockedSwap)
  | swapTargeted (rows : LockedSwap) (head : Nat)
  | swapReplayed (rows : LockedSwap) (head : Nat) (replay : MonthlySummary)

/-- The locks processes wait for. -/
inductive Lock
  | workerAdvisory
  | rebuildAdvisory
  | checkpoint
  | generation (generation : Nat)
deriving DecidableEq

/-- The row locks of `lock_projection_state`; a generation that is only
inserted is visible to nobody yet. -/
def LockedProjectionState.locks (state : LockedProjectionState) : List Lock :=
  match state.checkpoint with
  | none => []
  | some _ => [.checkpoint, .generation state.generation.generation]

def LockedSwap.locks (rows : LockedSwap) : List Lock :=
  [.rebuildAdvisory, .checkpoint, .generation rows.active.generation,
    .generation rows.shadow.generation]

/-- The locks a process holds. -/
def Process.locks : Process → List Lock
  | idle => []
  | workerStarted _ => [.workerAdvisory]
  | workerPositioned _ _ => [.workerAdvisory]
  | workerRead _ => [.workerAdvisory]
  | workerCheckpoint _ _ => [.workerAdvisory, .checkpoint]
  | workerLocked _ state => .workerAdvisory :: state.locks
  | workerMarked _ state _ _ => .workerAdvisory :: state.locks
  | workerReplayed _ state _ _ _ => .workerAdvisory :: state.locks
  | buildStarted => []
  | buildSelected _ => []
  | buildLocked none => []
  | buildLocked (some shadow) => [.generation shadow.generation]
  | buildTargeted shadow isNew _ =>
      if isNew then [] else [.generation shadow.generation]
  | buildReplayed shadow isNew _ _ =>
      if isNew then [] else [.generation shadow.generation]
  | shadowBuilt _ => []
  | swapStarted _ => [.rebuildAdvisory]
  | swapCheckpoint _ _ => [.rebuildAdvisory, .checkpoint]
  | swapActive _ _ active =>
      [.rebuildAdvisory, .checkpoint, .generation active.generation]
  | swapLocked rows => rows.locks
  | swapTargeted rows _ => rows.locks
  | swapReplayed rows _ _ => rows.locks

/-- The checkpoint row a process holds locked, as it read it. -/
def Process.checkpoint? : Process → Option ProjectionCheckpointRecord
  | workerCheckpoint _ checkpoint => some checkpoint
  | workerLocked _ state => state.checkpoint
  | workerMarked _ state _ _ => state.checkpoint
  | workerReplayed _ state _ _ _ => state.checkpoint
  | swapCheckpoint _ checkpoint => some checkpoint
  | swapActive _ checkpoint _ => some checkpoint
  | swapLocked rows => some rows.checkpoint
  | swapTargeted rows _ => some rows.checkpoint
  | swapReplayed rows _ _ => some rows.checkpoint
  | _ => none

theorem Process.checkpoint_mem_locks {process : Process} {checkpoint}
    (h : process.checkpoint? = some checkpoint) :
    Lock.checkpoint ∈ process.locks := by
  cases process <;>
    simp_all [Process.checkpoint?, Process.locks, LockedProjectionState.locks,
      LockedSwap.locks]

/-! ## Statements -/

/-- A new generation becomes visible with the commit. -/
def insertPending (events : List LedgerEventRecord) (isNew : Bool)
    (generation : ProjectionGenerationRecord) (t : ProjectionTables) :
    Except ProjectionError ProjectionTables :=
  if isNew then insertGeneration events generation t else .ok t

/-- The worker pauses on an event without a contract, and commits. -/
def CommittedState.commitFailure (c : CommittedState)
    (state : LockedProjectionState) (invalidEvent : LedgerEventRecord) :
    Except ProjectionError ProjectionTables := do
  let t ← insertPending c.events state.isNew state.generation c.tables
  let t ← insertFailure state.generation.generation invalidEvent t
  validateActiveProjectionGeneration c.events t
  return t

/-- The worker writes the months it marked, moves the checkpoint, and
commits. -/
def CommittedState.commitBatch (c : CommittedState) (batch : WorkerBatch)
    (state : LockedProjectionState) (periods : List Date)
    (dirtyPeriods : Dict DirtyPeriodKey DirtyPeriodSource)
    (replay : MonthlySummary) : Except ProjectionError ProjectionTables := do
  let t ← insertPending c.events state.isNew state.generation c.tables
  let t ← activateOrAdvance c.events state batch.finalPosition
    ({ t with dirtyPeriods := dirtyPeriods }.writePeriods
      state.generation.generation periods batch.finalPosition replay)
  let t := clearDirtyPeriods state.generation.generation periods t
  validateActiveProjectionGeneration c.events t
  return t

/-- `_build_or_resume_shadow` writes the shadow generation, and commits. -/
def CommittedState.commitShadow (c : CommittedState)
    (shadow : ProjectionGenerationRecord) (isNew : Bool) (head : Nat)
    (replay : MonthlySummary) : Except ProjectionError ProjectionTables := do
  let t ← insertPending c.events isNew shadow c.tables
  let t ← updateGeneration c.events
    { shadow with
      targetBookPosition := head, lastBookPosition := head
      state := .catchingUp }
    (t.writeGeneration shadow.generation head replay)
  validateActiveProjectionGeneration c.events t
  return t

/-- `_catch_up_and_swap` writes the shadow generation again, retires the
active one, activates the shadow, moves the checkpoint, and commits. -/
def CommittedState.commitSwap (c : CommittedState) (rows : LockedSwap)
    (head : Nat) (replay : MonthlySummary) :
    Except ProjectionError ProjectionTables := do
  let shadow := { rows.shadow with
    targetBookPosition := head, lastBookPosition := head }
  let t ← updateGeneration c.events shadow
    (c.tables.writeGeneration shadow.generation head replay)
  let t ← updateGeneration c.events { rows.active with state := .retired } t
  let t ← updateGeneration c.events { shadow with state := .active } t
  let t ← updateCheckpoint
    { activeGeneration := shadow.generation, lastBookPosition := head } t
  validateActiveProjectionGeneration c.events t
  return t

/-- The generations a rebuild may resume. -/
def GenerationState.isShadow (state : GenerationState) : Bool :=
  state = .building || state = .catchingUp

/-- The numbers of the shadow generations, the newest first. -/
def ProjectionTables.shadowCandidates (t : ProjectionTables) : List Nat :=
  ((t.generations.filter (·.state.isShadow)).map
    (·.generation)).insertionSort (· ≥ ·)

/-- The next statement of a process, and the tables as committed after it. -/
def Process.next (c : CommittedState) :
    Process → Except ProjectionError (Process × ProjectionTables)
  | idle => .ok (idle, c.tables)
  -- `run_once`
  | workerStarted worker =>
      if c.tables.isPaused then .ok (idle, c.tables)
      else .ok (workerPositioned worker c.tables.startPosition, c.tables)
  | workerPositioned worker start =>
      let events := readAfter c.events start worker.batchSize
      match events.getLast? with
      | none => .ok (idle, c.tables)
      | some last =>
          .ok (workerRead ⟨start, events, last.bookPosition⟩, c.tables)
  | workerRead batch =>
      match c.tables.checkpoint with
      | some checkpoint => .ok (workerCheckpoint batch checkpoint, c.tables)
      | none =>
          let generation := newGeneration (c.tables.maxGeneration + 1)
            batch.finalPosition
          .ok (workerLocked batch ⟨none, generation, true⟩, c.tables)
  | workerCheckpoint batch checkpoint => do
      let generation ← fetch (c.tables.generation? checkpoint.activeGeneration)
        (.runtime "No row was found when one was required")
      return (workerLocked batch ⟨some checkpoint, generation, false⟩,
        c.tables)
  | workerLocked batch state =>
      match batch.events.find? fun event => ¬isRegisteredEvent event with
      | some invalidEvent => do
          let t ← c.commitFailure state invalidEvent
          return (idle, t)
      | none => do
          let (periods, dirtyPeriods) ← markDirtyPeriods c.sync
            state.generation.generation batch.events c.tables.dirtyPeriods
          return (workerMarked batch state periods dirtyPeriods, c.tables)
  | workerMarked batch state periods dirtyPeriods => do
      let replay ← (coldReplayMonthlySummary c.events
        (some batch.finalPosition)).mapError ProjectionError.replay
      return (workerReplayed batch state periods dirtyPeriods replay, c.tables)
  | workerReplayed batch state periods dirtyPeriods replay => do
      let t ← c.commitBatch batch state periods dirtyPeriods replay
      return (idle, t)
  -- `_build_or_resume_shadow`
  | buildStarted => do
      let _ ← fetch c.tables.checkpoint
        (.runtime "projection must be active before shadow rebuild")
      return (buildSelected c.tables.shadowCandidates, c.tables)
  | buildSelected candidates =>
      -- A row that changed before it was locked is checked again.
      .ok (buildLocked ((candidates.filterMap c.tables.generation?).find?
        (·.state.isShadow)), c.tables)
  | buildLocked (some shadow) =>
      if shadow.state = .catchingUp then
        .ok (shadowBuilt shadow.generation, c.tables)
      else .ok (buildTargeted shadow false (lastPosition c.events), c.tables)
  | buildLocked none =>
      let head := lastPosition c.events
      .ok (buildTargeted (newGeneration (c.tables.maxGeneration + 1) head) true
        head, c.tables)
  | buildTargeted shadow isNew head => do
      let replay ← (coldReplayMonthlySummary c.events (some head)).mapError
        ProjectionError.replay
      return (buildReplayed shadow isNew head replay, c.tables)
  | buildReplayed shadow isNew head replay => do
      let t ← c.commitShadow shadow isNew head replay
      return (shadowBuilt shadow.generation, t)
  -- `_catch_up_and_swap`
  | shadowBuilt generation => .ok (swapStarted generation, c.tables)
  | swapStarted generation => do
      let checkpoint ← fetch c.tables.checkpoint
        (.runtime "No row was found when one was required")
      return (swapCheckpoint generation checkpoint, c.tables)
  | swapCheckpoint generation checkpoint => do
      let active ← fetch (c.tables.generation? checkpoint.activeGeneration)
        (.runtime "No row was found when one was required")
      return (swapActive generation checkpoint active, c.tables)
  | swapActive generation checkpoint active => do
      let shadow ← fetch (c.tables.generation? generation)
        (.runtime "No row was found when one was required")
      return (swapLocked ⟨checkpoint, active, shadow⟩, c.tables)
  | swapLocked rows => do
      require (rows.shadow.state = .catchingUp)
        (.runtime "shadow generation is not resumable")
      return (swapTargeted rows (lastPosition c.events), c.tables)
  | swapTargeted rows head => do
      let replay ← (coldReplayMonthlySummary c.events (some head)).mapError
        ProjectionError.replay
      return (swapReplayed rows head replay, c.tables)
  | swapReplayed rows head replay => do
      let t ← c.commitSwap rows head replay
      return (idle, t)

/-! ## The interleaved system -/

structure ProjectionSystem where
  committed : CommittedState
  processes : Nat → Process

namespace ProjectionSystem

/-- A Book without events, and no call under way. -/
def initial : ProjectionSystem where
  committed := ⟨[], SyncTables.empty, ProjectionTables.empty⟩
  processes := fun _ => .idle

def setProcess (s : ProjectionSystem) (i : Nat) (process : Process) :
    ProjectionSystem :=
  { s with processes := Function.update s.processes i process }

def setTables (s : ProjectionSystem) (t : ProjectionTables) :
    ProjectionSystem :=
  { s with committed := { s.committed with tables := t } }

/-- No other process holds a lock of this one. -/
def Free (s : ProjectionSystem) (i : Nat) (process : Process) : Prop :=
  ∀ lock ∈ process.locks, ∀ j, j ≠ i → lock ∉ (s.processes j).locks

end ProjectionSystem

inductive SystemAction
  | append (events : List LedgerEventRecord)
  | startWorker (i : Nat) (worker : AsyncProjectionWorker)
  | startRebuild (i : Nat)
  | statement (i : Nat)
  | abort (i : Nat)
  | settleFailures (failures : List ProjectionFailureRecord)

/-- One step of the system.  A call may raise at any statement, in the code,
in a hook or in the database, and then its transaction is rolled back. -/
inductive Interleaves (ledger : List LedgerEventRecord) (bookId : UUID) :
    ProjectionSystem → SystemAction → ProjectionSystem → Prop
  | append {s : ProjectionSystem} {events : List LedgerEventRecord}
      {sync : SyncTables} (hLog : BookLog (s.committed.events ++ events))
      (hSync : Run (Projects ledger bookId) s.committed.sync events sync) :
      Interleaves ledger bookId s (.append events)
        { s with committed :=
            ⟨s.committed.events ++ events, sync, s.committed.tables⟩ }
  | startWorker {s : ProjectionSystem} {i : Nat}
      {worker : AsyncProjectionWorker} (hIdle : s.processes i = .idle)
      (hFree : s.Free i (.workerStarted worker)) :
      Interleaves ledger bookId s (.startWorker i worker)
        (s.setProcess i (.workerStarted worker))
  | startRebuild {s : ProjectionSystem} {i : Nat}
      (hIdle : s.processes i = .idle) :
      Interleaves ledger bookId s (.startRebuild i)
        (s.setProcess i .buildStarted)
  | statement {s : ProjectionSystem} {i : Nat} {process : Process}
      {t : ProjectionTables}
      (hNext : (s.processes i).next s.committed = .ok (process, t))
      (hFree : s.Free i process) :
      Interleaves ledger bookId s (.statement i)
        ((s.setTables t).setProcess i process)
  | abort {s : ProjectionSystem} {i : Nat} :
      Interleaves ledger bookId s (.abort i) (s.setProcess i .idle)
  | settleFailures {s : ProjectionSystem}
      {failures : List ProjectionFailureRecord} :
      Interleaves ledger bookId s (.settleFailures failures)
        (s.setTables { s.committed.tables with failures := failures })

end TrackAnywhere.Ports
