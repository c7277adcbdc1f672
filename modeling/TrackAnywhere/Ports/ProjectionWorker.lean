import TrackAnywhere.Ports.ReplayedRows

/-!
# The asynchronous projection worker

`AsyncProjectionWorker.runOnce` is one database transaction: it reads the
checkpoint, the events past it up to the batch size, locks or creates the
generation, marks the months the events touch, rewrites these months from a
cold replay through the last event, and moves the checkpoint there.

`monthlyRows_replayed_over_run` is the claim the design rests on: however the
log is cut into batches, at every checkpoint reached the rows of the active
generation are the cold replay of the log through the checkpoint.
-/

namespace TrackAnywhere.Ports

open TrackAnywhere.Verified
open TrackAnywhere.Verified.Checked
open TrackAnywhere.Verified.OrderedLog

/-! ## One call -/

/-- A worker, with a batch size its constructor accepts. -/
structure AsyncProjectionWorker where
  batchSize : Nat
  positive : 1 ≤ batchSize
  bounded : batchSize ≤ 10000

structure ProjectionRunResult where
  processedEvents : Nat
  lastBookPosition : Nat
  paused : Bool
deriving DecidableEq

/-- `PerBookEventReader.read_after`. -/
def readAfter (events : List LedgerEventRecord) (afterBookPosition : Nat)
    (limit : Nat) : List LedgerEventRecord :=
  (logAfter events afterBookPosition).take limit

/-- `_is_registered_event`. -/
def isRegisteredEvent (event : LedgerEventRecord) : Bool :=
  event.contract?.isSome

namespace ProjectionTables

/-- A paused failure is recorded. -/
def isPaused (t : ProjectionTables) : Bool :=
  t.failures.any fun f => f.retryState = .paused

/-- The position a call starts from. -/
def startPosition (t : ProjectionTables) : Nat :=
  match t.checkpoint with
  | none => 0
  | some checkpoint => checkpoint.lastBookPosition

end ProjectionTables

/-- The failure row of an event without a registered contract. -/
def insertFailure (generation : Nat) (invalidEvent : LedgerEventRecord)
    (t : ProjectionTables) : Except ProjectionError ProjectionTables := do
  require (∀ f ∈ t.failures, ¬(f.generation = generation
      ∧ f.sourceEventId = invalidEvent.eventId))
    (.integrity "uq_projection_failures_source")
  return { t with failures := t.failures ++
    [{ generation := generation
       sourceEventId := invalidEvent.eventId
       sourceBookPosition := invalidEvent.bookPosition
       eventType := invalidEvent.eventType
       eventSchemaVersion := invalidEvent.eventSchemaVersion
       retryState := .paused }] }

/-- The part of `run_once` for a batch of events that ends at
`finalPosition`. -/
def runBatch (book : BookSnapshot) (start : Nat)
    (events : List LedgerEventRecord) (finalPosition : Nat)
    (t : ProjectionTables) :
    Except ProjectionError (ProjectionRunResult × ProjectionTables) := do
  let (state, t) ← lockProjectionState book.events finalPosition t
  let generation := state.generation.generation
  match events.find? fun event => ¬isRegisteredEvent event with
  | some invalidEvent => do
      let t ← insertFailure generation invalidEvent t
      return (⟨0, start, true⟩, t)
  | none => do
      let (periods, dirtyPeriods) ←
        markDirtyPeriods book.sync generation events t.dirtyPeriods
      let t ← replacePeriods book.events generation periods finalPosition
        { t with dirtyPeriods := dirtyPeriods }
      let t ← activateOrAdvance book.events state finalPosition t
      return (⟨events.length, finalPosition, false⟩,
        clearDirtyPeriods generation periods t)

/-- `run_once`, its commit included. -/
def AsyncProjectionWorker.runOnce (worker : AsyncProjectionWorker)
    (book : BookSnapshot) (t : ProjectionTables) :
    Except ProjectionError (ProjectionRunResult × ProjectionTables) := do
  let start := t.startPosition
  let _ ← fetch book.head (.lookup "Book event head not found")
  if t.isPaused then
    return (⟨0, start, true⟩, t)
  else
    let events := readAfter book.events start worker.batchSize
    match events.getLast? with
    | none => return (⟨0, start, false⟩, t)
    | some last => do
        let (result, t) ← runBatch book start events last.bookPosition t
        validateActiveProjectionGeneration book.events t
        return (result, t)

/-! ## What a call does -/

section Call

variable {book : BookSnapshot} {t t' : ProjectionTables} {start q : Nat}
  {events : List LedgerEventRecord} {result : ProjectionRunResult}

/-- A batch is either refused for an event without a contract, and then only a
failure and perhaps a generation are new, or it is projected. -/
theorem runBatch_ok (h : runBatch book start events q t = .ok (result, t')) :
    ∃ state t₁, lockProjectionState book.events q t = .ok (state, t₁) ∧
      ((t'.checkpoint = t₁.checkpoint ∧ t'.monthlyRows = t₁.monthlyRows
          ∧ t'.generations = t₁.generations)
        ∨ ∃ periods dirtyPeriods replay t₂,
          markDirtyPeriods book.sync state.generation.generation events
              t₁.dirtyPeriods = .ok (periods, dirtyPeriods)
          ∧ coldReplayMonthlySummary book.events (some q) = .ok replay
          ∧ activateOrAdvance book.events state q
              ({ t₁ with dirtyPeriods := dirtyPeriods }.writePeriods
                state.generation.generation periods q replay) = .ok t₂
          ∧ t' = clearDirtyPeriods state.generation.generation periods t₂) := by
  simp only [runBatch, bind_eq_ok] at h
  obtain ⟨⟨state, t₁⟩, hLock, h⟩ := h
  refine ⟨state, t₁, hLock, ?_⟩
  split at h
  · simp only [insertFailure, bind_eq_ok, require_eq_ok, pure_eq_ok,
      Prod.mk.injEq, exists_const] at h
    obtain ⟨_, ⟨-, rfl⟩, -, rfl⟩ := h
    exact .inl ⟨rfl, rfl, rfl⟩
  · simp only [replacePeriods, bind_eq_ok, mapError_eq_ok, pure_eq_ok,
      Prod.mk.injEq] at h
    obtain ⟨⟨periods, dirtyPeriods⟩, hMarked, _, ⟨replay, hReplay, rfl⟩, t₂,
      hActivate, -, rfl⟩ := h
    exact .inr ⟨periods, dirtyPeriods, replay, t₂, hMarked, hReplay, hActivate,
      rfl⟩

/-- A call changes nothing, or it commits a batch that starts at the
checkpoint. -/
theorem runOnce_ok {worker : AsyncProjectionWorker}
    (h : worker.runOnce book t = .ok (result, t')) :
    t' = t ∨ ∃ last,
      (readAfter book.events t.startPosition worker.batchSize).getLast?
          = some last
      ∧ runBatch book t.startPosition
          (readAfter book.events t.startPosition worker.batchSize)
          last.bookPosition t = .ok (result, t')
      ∧ validateActiveProjectionGeneration book.events t' = .ok () := by
  simp only [AsyncProjectionWorker.runOnce, bind_eq_ok] at h
  obtain ⟨-, -, h⟩ := h
  split at h
  · rw [pure_eq_ok] at h
    exact .inl (Prod.mk.inj h).2.symm
  · split at h
    · rw [pure_eq_ok] at h
      exact .inl (Prod.mk.inj h).2.symm
    · rename_i last hLast
      simp only [bind_eq_ok, pure_eq_ok] at h
      obtain ⟨⟨result', t₁⟩, hBatch, _, hCommit, hEq⟩ := h
      cases hEq
      exact .inr ⟨last, hLast, hBatch, hCommit⟩

/-- The checkpoint names the only active generation. -/
def ActiveMatches (t : ProjectionTables) : Prop :=
  t.activeGenerations.map (·.generation)
    = (t.checkpoint.map (·.activeGeneration)).toList

theorem activeMatches_of_validate
    (h : validateActiveProjectionGeneration events t = .ok ()) :
    ActiveMatches t := by
  unfold ActiveMatches
  unfold validateActiveProjectionGeneration at h
  cases hCheckpoint : t.checkpoint with
  | none =>
      simp only [hCheckpoint, require_eq_ok] at h
      rw [h]
      rfl
  | some checkpoint =>
      simp only [hCheckpoint] at h
      split at h
      · rename_i active hActive
        simp only [bind_eq_ok, require_eq_ok, exists_const] at h
        rw [hActive]
        simp [h.1.1]
      · cases h

/-- The generation a checkpoint names is there. -/
theorem ActiveMatches.mem_numbers (h : ActiveMatches t)
    {checkpoint : ProjectionCheckpointRecord}
    (hSome : t.checkpoint = some checkpoint) :
    checkpoint.activeGeneration ∈ t.generations.map (·.generation) := by
  have hMem : checkpoint.activeGeneration
      ∈ t.activeGenerations.map (·.generation) := by
    rw [h, hSome]
    exact List.mem_singleton.2 rfl
  exact (List.filter_sublist.map _).subset hMem

end Call

/-! ## The invariant of the tables -/

/-- Every month row belongs to a generation. -/
def RowsFiled (t : ProjectionTables) : Prop :=
  ∀ r ∈ t.monthlyRows, r.generation ∈ t.generations.map (·.generation)

/-- At the checkpoint, the rows of its generation are the cold replay. -/
def CheckpointReplayed (log : List LedgerEventRecord) (t : ProjectionTables) :
    Prop :=
  ∀ checkpoint, t.checkpoint = some checkpoint →
    RowsReplay log checkpoint.activeGeneration checkpoint.lastBookPosition t

/-- A batch past the start of a call takes the rows of its generation from
the start to its last event. -/
theorem rowsReplay_runBatch {ledger log synced batch : List LedgerEventRecord}
    {bookId : UUID} {book : BookSnapshot} {t u : ProjectionTables}
    {start limit : Nat} {last : LedgerEventRecord} {generation : Nat}
    {periods : List Date} {dirty dirty'} {replay : MonthlySummary}
    (hLog : BookLog log) (hEvents : book.events <+: log)
    (hSynced : synced <+: log)
    (hSync : Run (Projects ledger bookId) SyncTables.empty synced book.sync)
    (hBatch : readAfter book.events start limit = batch)
    (hLast : batch.getLast? = some last) (hReached : last ∈ synced)
    (hMarked : markDirtyPeriods book.sync generation batch dirty
      = .ok (periods, dirty'))
    (hReplay : coldReplayMonthlySummary book.events (some last.bookPosition)
      = .ok replay)
    (hRows : RowsReplay log generation start t)
    (hSame : u.monthlyRows = t.monthlyRows) :
    RowsReplay log generation last.bookPosition
      (u.writePeriods generation periods last.bookPosition replay) := by
  subst hBatch
  have hMem : last ∈ logAfter book.events start :=
    (List.take_sublist _ _).subset (List.mem_of_getLast? hLast)
  obtain ⟨hVisible, hLater⟩ := mem_after.1 hMem
  have hSeen : logThrough book.events last.bookPosition
      = logThrough log last.bookPosition :=
    through_of_prefix hLog.order hEvents hVisible
  have hKnown : logThrough synced last.bookPosition
      = logThrough log last.bookPosition :=
    through_of_prefix hLog.order hSynced hReached
  have hSyncedOrder := hLog.order.of_prefix hSynced
  refine rowsReplay_writePeriods hLog hSync ?_ hLater.le ?_ hMarked ?_ ?_
  · rw [← hKnown]
    exact prefix_through hSyncedOrder _
  · intro e he
    rw [← hSeen] at he
    have hTake := take_after (hLog.order.of_prefix hEvents) hLast
    show e ∈ (logAfter book.events start).take limit
    rw [hTake]
    exact he
  · rw [← coldReplay_congr hSeen]
    exact hReplay
  · apply hRows.congr
    intro period
    unfold ProjectionTables.periodRows
    rw [hSame]

/-- What holds of the tables between two calls. -/
structure WorkerInvariant (log : List LedgerEventRecord)
    (t : ProjectionTables) : Prop where
  replayed : CheckpointReplayed log t
  filed : RowsFiled t
  active : ActiveMatches t

namespace WorkerInvariant

variable {log : List LedgerEventRecord} {t t' : ProjectionTables}

theorem empty : WorkerInvariant log ProjectionTables.empty where
  replayed := fun _ h => nomatch h
  filed := fun _ h => absurd h List.not_mem_nil
  active := rfl

/-- Tables with the same checkpoint and rows, and no generation less. -/
theorem frame (h : WorkerInvariant log t)
    (hCheckpoint : t'.checkpoint = t.checkpoint)
    (hRows : t'.monthlyRows = t.monthlyRows)
    (hNumbers : ∀ g ∈ t.generations.map (·.generation),
      g ∈ t'.generations.map (·.generation))
    (hActive : ActiveMatches t') : WorkerInvariant log t' := by
  refine ⟨?_, ?_, hActive⟩
  · intro checkpoint hSome
    rw [hCheckpoint] at hSome
    apply (h.replayed checkpoint hSome).congr
    intro period
    unfold ProjectionTables.periodRows
    rw [hRows]
  · intro r hr
    rw [hRows] at hr
    exact hNumbers _ (h.filed r hr)

/-- The rows before a batch, in the generation it is projected into, are the
replay through the position the call starts from. -/
theorem locked {events : List LedgerEventRecord} {target : Nat}
    {state : LockedProjectionState} (h : WorkerInvariant log t)
    (hLog : BookLog log)
    (hLock : lockProjectionState events target t = .ok (state, t')) :
    RowsReplay log state.generation.generation t.startPosition t
      ∧ t'.checkpoint = t.checkpoint ∧ t'.monthlyRows = t.monthlyRows
      ∧ (∀ g ∈ t.generations.map (·.generation),
          g ∈ t'.generations.map (·.generation))
      ∧ ∀ checkpoint, state.checkpoint = some checkpoint →
          checkpoint.activeGeneration = state.generation.generation := by
  rcases lockProjectionState_ok hLock with
    ⟨checkpoint, generation, hSome, hMem, hNumber, rfl, rfl⟩
      | ⟨hNone, rfl, hFresh, rfl⟩
  · have hStart : t'.startPosition = checkpoint.lastBookPosition := by
      simp [ProjectionTables.startPosition, hSome]
    refine ⟨?_, rfl, rfl, fun g hg => hg, ?_⟩
    · rw [hStart, hNumber]
      exact h.replayed checkpoint hSome
    · intro checkpoint' hSome'
      obtain rfl : checkpoint = checkpoint' := by simpa using hSome'
      exact hNumber.symm
  · have hStart : t.startPosition = 0 := by
      simp [ProjectionTables.startPosition, hNone]
    refine ⟨?_, rfl, rfl, ?_, fun _ hSome => nomatch hSome⟩
    · rw [hStart]
      apply rowsReplay_zero hLog
      intro r hr hEq
      have hFiled := h.filed r hr
      rw [hEq] at hFiled
      exact hFresh hFiled
    · intro g hg
      rw [List.map_append]
      exact List.mem_append_left _ hg

/-- A published batch: the checkpoint is at its last event, in the generation
that was written. -/
theorem publish {events : List LedgerEventRecord}
    {state : LockedProjectionState} {q : Nat} {periods : List Date}
    {replay : MonthlySummary} {u t₂ : ProjectionTables}
    (h : WorkerInvariant log t) (hMonthly : u.monthlyRows = t.monthlyRows)
    (hNumbers : ∀ g ∈ t.generations.map (·.generation),
      g ∈ u.generations.map (·.generation))
    (hGeneration : ∀ checkpoint, state.checkpoint = some checkpoint →
      checkpoint.activeGeneration = state.generation.generation)
    (hActivate : activateOrAdvance events state q
      (u.writePeriods state.generation.generation periods q replay) = .ok t₂)
    (hRows : RowsReplay log state.generation.generation q
      (u.writePeriods state.generation.generation periods q replay))
    (hActive : ActiveMatches
      (clearDirtyPeriods state.generation.generation periods t₂)) :
    WorkerInvariant log
        (clearDirtyPeriods state.generation.generation periods t₂)
      ∧ t₂.checkpoint = some ⟨q, state.generation.generation⟩ := by
  obtain ⟨hWritten, hSame, hMoved⟩ := activateOrAdvance_ok hActivate
  have hAt : t₂.checkpoint = some ⟨q, state.generation.generation⟩ := by
    rcases hMoved with ⟨-, -, hNew⟩ | ⟨-, old, -, hOld, -, -, hNew⟩
    · exact hNew
    · rw [hNew, hGeneration old hOld]
  refine ⟨⟨?_, ?_, hActive⟩, hAt⟩
  · intro checkpoint hSome
    have hSome' : t₂.checkpoint = some checkpoint := hSome
    obtain rfl := Option.some.inj (hAt.symm.trans hSome')
    apply hRows.congr
    intro period
    unfold ProjectionTables.periodRows
    show (t₂.monthlyRows.filter _).map _ = _
    rw [hWritten]
  · intro r hr
    have hr' : r ∈ t₂.monthlyRows := hr
    rw [hWritten] at hr'
    rcases mem_writePeriods hr' with hOld | hNew
    · show r.generation ∈ t₂.generations.map (·.generation)
      rw [hSame]
      exact hNumbers _ (h.filed r (hMonthly ▸ hOld))
    · rw [hNew]
      exact hActive.mem_numbers hAt

/-- One batch, from the position the call starts from. -/
theorem runBatch {ledger synced : List LedgerEventRecord} {bookId : UUID}
    {book : BookSnapshot} {limit : Nat} {last : LedgerEventRecord}
    {result : ProjectionRunResult} (h : WorkerInvariant log t)
    (hLog : BookLog log) (hEvents : book.events <+: log)
    (hSynced : synced <+: log)
    (hSync : Run (Projects ledger bookId) SyncTables.empty synced book.sync)
    (hLast : (readAfter book.events t.startPosition limit).getLast?
      = some last)
    (hReached : last ∈ synced)
    (hBatch : Ports.runBatch book t.startPosition
      (readAfter book.events t.startPosition limit) last.bookPosition t
        = .ok (result, t'))
    (hCommit : validateActiveProjectionGeneration book.events t' = .ok ()) :
    WorkerInvariant log t' := by
  have hActive := activeMatches_of_validate hCommit
  obtain ⟨state, t₁, hLock, hCase⟩ := runBatch_ok hBatch
  obtain ⟨hRows, hCheckpoint, hMonthly, hNumbers, hGeneration⟩ :=
    h.locked hLog hLock
  rcases hCase with ⟨hCheckpoint', hMonthly', hNumbers'⟩
    | ⟨periods, dirtyPeriods, replay, t₂, hMarked, hReplay, hActivate, rfl⟩
  · refine h.frame (hCheckpoint'.trans hCheckpoint) (hMonthly'.trans hMonthly)
      ?_ hActive
    rw [hNumbers']
    exact hNumbers
  · have hAfter := rowsReplay_runBatch
      (u := { t₁ with dirtyPeriods := dirtyPeriods }) hLog hEvents hSynced
      hSync rfl hLast hReached hMarked hReplay hRows hMonthly
    exact (h.publish (u := { t₁ with dirtyPeriods := dirtyPeriods }) hMonthly
      hNumbers hGeneration hActivate hAfter hActive).1

end WorkerInvariant

/-! ## Calls over a log -/

/-- What a call sees of the log: the events committed by then, and synchronous
tables at least as far as its batch. -/
structure Observes (ledger : List LedgerEventRecord) (bookId : UUID)
    (log batch : List LedgerEventRecord) (book : BookSnapshot) : Prop where
  events : book.events <+: log
  sync : ∃ synced, synced <+: log ∧ (∀ e ∈ batch, e ∈ synced)
    ∧ Run (Projects ledger bookId) SyncTables.empty synced book.sync

inductive WorkerAction
  | runOnce (worker : AsyncProjectionWorker) (book : BookSnapshot)
  | settleFailures (failures : List ProjectionFailureRecord)

/-- A call that returns commits its tables, and one that raises leaves them as
they were; between two calls an operator may settle failures. -/
def WorkerStep (ledger : List LedgerEventRecord) (bookId : UUID)
    (log : List LedgerEventRecord) (t : ProjectionTables) :
    WorkerAction → ProjectionTables → Prop
  | .runOnce worker book, t' =>
      Observes ledger bookId log
          (readAfter book.events t.startPosition worker.batchSize) book
        ∧ ((∃ result, worker.runOnce book t = .ok (result, t')) ∨ t' = t)
  | .settleFailures failures, t' => t' = { t with failures := failures }

/-- Every step keeps the invariant. -/
theorem workerInvariant_step {ledger log : List LedgerEventRecord}
    {bookId : UUID} {t t' : ProjectionTables} {action : WorkerAction}
    (hLog : BookLog log) (h : WorkerInvariant log t)
    (hStep : WorkerStep ledger bookId log t action t') :
    WorkerInvariant log t' := by
  cases action with
  | runOnce worker book =>
      obtain ⟨⟨hEvents, synced, hSynced, hCovered, hSync⟩, hCall⟩ := hStep
      rcases hCall with ⟨result, hCall⟩ | rfl
      · rcases runOnce_ok hCall with rfl | ⟨last, hLast, hBatch, hCommit⟩
        · exact h
        · exact h.runBatch hLog hEvents hSynced hSync hLast
            (hCovered _ (List.mem_of_getLast? hLast)) hBatch hCommit
      · exact h
  | settleFailures failures =>
      subst hStep
      exact h.frame rfl rfl (fun _ hg => hg) h.active

/-- However the calls cut the log into batches: whenever there is a
checkpoint, the active generation is the one it names, and its rows are,
month by month, what the cold replay of the log through the checkpoint
gives. -/
theorem monthlyRows_replayed_over_run {ledger log : List LedgerEventRecord}
    {bookId : UUID} {actions : List WorkerAction} {t : ProjectionTables}
    (hLog : BookLog log)
    (hRun : Run (WorkerStep ledger bookId log) ProjectionTables.empty actions
      t) :
    ∀ checkpoint, t.checkpoint = some checkpoint →
      t.activeGenerations.map (·.generation) = [checkpoint.activeGeneration]
      ∧ ∃ summary,
        coldReplayMonthlySummary log (some checkpoint.lastBookPosition)
            = .ok summary
        ∧ ∀ period, t.periodRows checkpoint.activeGeneration period
            = summary.get period := by
  have hInvariant : WorkerInvariant log t :=
    Run.invariant WorkerInvariant.empty
      (fun _ _ _ h hStep => workerInvariant_step hLog h hStep) hRun
  intro checkpoint hSome
  refine ⟨?_, hInvariant.replayed checkpoint hSome⟩
  rw [hInvariant.active, hSome]
  rfl

/-! ### Three events in two batches -/

/-- The tables after a call, as they were when it raises. -/
def AsyncProjectionWorker.tablesAfter (worker : AsyncProjectionWorker)
    (book : BookSnapshot) (t : ProjectionTables) : ProjectionTables :=
  match worker.runOnce book t with
  | .ok (_, t') => t'
  | .error _ => t

theorem workerStep_tablesAfter {ledger log : List LedgerEventRecord}
    {bookId : UUID} {worker : AsyncProjectionWorker} {book : BookSnapshot}
    {t : ProjectionTables}
    (h : Observes ledger bookId log
      (readAfter book.events t.startPosition worker.batchSize) book) :
    WorkerStep ledger bookId log t (.runOnce worker book)
      (worker.tablesAfter book t) := by
  refine ⟨h, ?_⟩
  unfold AsyncProjectionWorker.tablesAfter
  cases hCall : worker.runOnce book t with
  | error e => exact .inr rfl
  | ok returned => exact .inl ⟨returned.1, rfl⟩

/-- 100 units of category 5, version 6. -/
def sampleAssigned : LedgerEventRecord :=
  sampleEvent 2 "reporting_lines" 10 ⟨sampleDate, 0⟩
    (.reportingLinesAssigned ⟨10, 1, Nat.one_pos,
      [⟨30, 31, 6, 0, sampleAsset, ⟨100, sample_hundred⟩, .expense, .category,
        some 5, none⟩]⟩)

/-- The first day of the month after the sample's. -/
def sampleNextMonth : Date := ⟨2026, 8, 1, sample_year, by decide, by decide⟩

def sampleReturned : LedgerEventRecord :=
  sampleEvent 3 "journal_transaction" 11 ⟨sampleNextMonth, 0⟩
    (.journalTransactionReversed
      ⟨11, 10, 1, 1, .duplicate, samplePostings 22 23 .credit, none⟩)

def sampleMonthlyLog : List LedgerEventRecord :=
  [samplePosted, sampleAssigned, sampleReturned]

/-- All three events are committed and synchronously projected. -/
def sampleBook : BookSnapshot where
  events := sampleMonthlyLog
  head := some 3
  sync := sampleMonthlyLog.foldl (projected sampleCatalog sampleMonthlyLog)
    SyncTables.empty

/-- A worker that takes two events at a time, and the tables it leaves. -/
def sampleWorker : AsyncProjectionWorker := ⟨2, by decide, by decide⟩

def sampleProjection : ProjectionTables :=
  sampleWorker.tablesAfter sampleBook
    (sampleWorker.tablesAfter sampleBook ProjectionTables.empty)

theorem monthlyRows_replayed_over_sample :
    sampleProjection.periodRows 1 sampleNextMonth
        = [⟨5, 6, sampleAsset, .expense, -100⟩]
      ∧ ∃ summary, coldReplayMonthlySummary sampleMonthlyLog (some 3)
            = .ok summary
          ∧ ∀ period, sampleProjection.periodRows 1 period
              = summary.get period := by
  have hSync : Run (Projects sampleMonthlyLog 1) SyncTables.empty
      sampleMonthlyLog sampleBook.sync :=
    .cons (projects_projected sampleCatalog (by decide) rfl (by decide))
      (.cons (projects_projected sampleCatalog (by decide) rfl (by decide))
        (.cons (projects_projected sampleCatalog (by decide) rfl (by decide))
          (.nil _)))
  have hSees : ∀ start, Observes sampleMonthlyLog 1 sampleMonthlyLog
      (readAfter sampleBook.events start sampleWorker.batchSize) sampleBook := by
    intro start
    refine ⟨List.prefix_rfl, sampleMonthlyLog, List.prefix_rfl, ?_, hSync⟩
    intro e he
    exact (mem_after.1 (List.mem_of_mem_take he)).1
  have hRun : Run (WorkerStep sampleMonthlyLog 1 sampleMonthlyLog)
      ProjectionTables.empty
      [.runOnce sampleWorker sampleBook, .runOnce sampleWorker sampleBook]
      sampleProjection :=
    .cons (workerStep_tablesAfter (hSees _))
      (.cons (workerStep_tablesAfter (hSees _)) (.nil _))
  have hReplayed := monthlyRows_replayed_over_run
    (by constructor <;> decide) hRun ⟨3, 1⟩ (by decide)
  exact ⟨by decide, hReplayed.2⟩

end TrackAnywhere.Ports
