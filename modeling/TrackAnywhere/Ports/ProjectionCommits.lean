import TrackAnywhere.Ports.ProjectionInterleaving

/-!
# Commits of workers and rebuilders

What a process has read stays good while the log grows and the checkpoint
moves forward: a batch from an old start still has every event from the
checkpoint to its last, and a replay through a position does not see later
events.  On that ground each of the four commits keeps the invariant of the
tables and moves the checkpoint, if at all, over events it publishes:
`commitBatch_effect`, `commitFailure_effect`, `commitShadow_effect` and
`commitSwap_effect`.
-/

namespace TrackAnywhere.Ports

open TrackAnywhere.Verified
open TrackAnywhere.Verified.Checked
open TrackAnywhere.Verified.KeyedSum
open TrackAnywhere.Verified.OrderedLog

/-! ## A log that grows -/

section Growth

variable {events more : List LedgerEventRecord} {q : Nat}

theorem le_lastPosition (h : Ordered (·.bookPosition) events)
    {e : LedgerEventRecord} (he : e ∈ events) :
    e.bookPosition ≤ lastPosition events := by
  unfold lastPosition
  cases hLast : events.getLast? with
  | none =>
      rw [List.getLast?_eq_none_iff.1 hLast] at he
      exact absurd he List.not_mem_nil
  | some last =>
      obtain ⟨init, rfl⟩ := List.getLast?_eq_some_iff.1 hLast
      rcases List.mem_append.1 he with he | he
      · have hLt := (List.pairwise_append.1 h).2.2 e he last
          (List.mem_singleton.2 rfl)
        exact hLt.le
      · rw [List.mem_singleton.1 he]

/-- Appended events are past the last position. -/
theorem lastPosition_lt (h : BookLog (events ++ more)) :
    ∀ e ∈ more, lastPosition events < e.bookPosition := by
  intro e he
  unfold lastPosition
  cases hLast : events.getLast? with
  | none => exact h.positive e (List.mem_append_right _ he)
  | some last =>
      exact (List.pairwise_append.1 h.order).2.2 last
        (List.mem_of_getLast? hLast) e he

/-- An append does not reach back before the last position. -/
theorem logThrough_append (h : BookLog (events ++ more))
    (hLast : q ≤ lastPosition events) :
    logThrough (events ++ more) q = logThrough events q := by
  apply through_append_of_lt
  intro e he
  have := lastPosition_lt h e he
  omega

theorem lastPosition_mono (h : BookLog (events ++ more)) :
    lastPosition events ≤ lastPosition (events ++ more) := by
  unfold lastPosition
  cases hLast : events.getLast? with
  | none => exact Nat.zero_le _
  | some last =>
      exact le_lastPosition h.order
        (List.mem_append_left _ (List.mem_of_getLast? hLast))

end Growth

/-! ## What a process has read -/

/-- A batch has every event from its start to its last. -/
structure BatchRead (c : CommittedState) (batch : WorkerBatch) : Prop where
  start : batch.start ≤ c.tables.startPosition
  final : batch.finalPosition ≤ lastPosition c.events
  covers : ∀ e ∈ logAfter (logThrough c.events batch.finalPosition)
    batch.start, e ∈ batch.events

/-- A locked state is that of its checkpoint, or new without one. -/
def StateRead (state : LockedProjectionState) : Prop :=
  match state.checkpoint with
  | none => state.isNew = true
  | some checkpoint => state.isNew = false
      ∧ checkpoint.activeGeneration = state.generation.generation

/-- The months were marked with synchronous tables that had reached the
batch. -/
def MonthsMarked (ledger : List LedgerEventRecord) (bookId : UUID)
    (c : CommittedState) (batch : WorkerBatch)
    (state : LockedProjectionState) (periods : List Date) : Prop :=
  ∃ synced sync dirty dirty',
    Run (Projects ledger bookId) SyncTables.empty synced sync
    ∧ logThrough c.events batch.finalPosition <+: synced
    ∧ markDirtyPeriods sync state.generation.generation batch.events dirty
        = .ok (periods, dirty')

/-- The replay through a position of the log. -/
def ReplayedThrough (c : CommittedState) (q : Nat) (replay : MonthlySummary) :
    Prop :=
  q ≤ lastPosition c.events
    ∧ coldReplayMonthlySummary c.events (some q) = .ok replay

/-- The local variables of a process against the committed state. -/
def Process.Consistent (ledger : List LedgerEventRecord) (bookId : UUID)
    (c : CommittedState) : Process → Prop
  | workerPositioned _ start => start ≤ c.tables.startPosition
  | workerRead batch => BatchRead c batch
  | workerCheckpoint batch _ => BatchRead c batch
  | workerLocked batch state => BatchRead c batch ∧ StateRead state
  | workerMarked batch state periods _ => BatchRead c batch ∧ StateRead state
      ∧ MonthsMarked ledger bookId c batch state periods
  | workerReplayed batch state periods _ replay => BatchRead c batch
      ∧ StateRead state ∧ MonthsMarked ledger bookId c batch state periods
      ∧ ReplayedThrough c batch.finalPosition replay
  | buildTargeted _ _ head => head ≤ lastPosition c.events
  | buildReplayed _ _ head replay => ReplayedThrough c head replay
  | swapTargeted _ head => head ≤ lastPosition c.events
  | swapReplayed _ head replay => ReplayedThrough c head replay
  | _ => True

/-- The log grows and the checkpoint moves forward. -/
structure Grows (c c' : CommittedState) : Prop where
  events : ∃ more, c'.events = c.events ++ more
  log : BookLog c'.events
  forward : c.tables.startPosition ≤ c'.tables.startPosition

section Grows

variable {ledger : List LedgerEventRecord} {bookId : UUID}
  {c c' : CommittedState} {batch : WorkerBatch}

theorem Grows.logThrough (h : Grows c c') {q : Nat}
    (hLast : q ≤ lastPosition c.events) :
    logThrough c'.events q = logThrough c.events q := by
  obtain ⟨more, hMore⟩ := h.events
  have hLog := h.log
  rw [hMore] at hLog ⊢
  exact logThrough_append hLog hLast

theorem Grows.lastPosition (h : Grows c c') :
    lastPosition c.events ≤ lastPosition c'.events := by
  obtain ⟨more, hMore⟩ := h.events
  have hLog := h.log
  rw [hMore] at hLog ⊢
  exact lastPosition_mono hLog

theorem BatchRead.grows (h : BatchRead c batch) (hGrows : Grows c c') :
    BatchRead c' batch where
  start := h.start.trans hGrows.forward
  final := h.final.trans hGrows.lastPosition
  covers := by
    rw [hGrows.logThrough h.final]
    exact h.covers

theorem MonthsMarked.grows {state : LockedProjectionState}
    {periods : List Date} (h : MonthsMarked ledger bookId c batch state periods)
    (hFinal : batch.finalPosition ≤ lastPosition c.events)
    (hGrows : Grows c c') :
    MonthsMarked ledger bookId c' batch state periods := by
  obtain ⟨synced, sync, dirty, dirty', hSync, hReached, hMarked⟩ := h
  refine ⟨synced, sync, dirty, dirty', hSync, ?_, hMarked⟩
  rw [hGrows.logThrough hFinal]
  exact hReached

theorem ReplayedThrough.grows {q : Nat} {replay : MonthlySummary}
    (h : ReplayedThrough c q replay) (hGrows : Grows c c') :
    ReplayedThrough c' q replay := by
  refine ⟨h.1.trans hGrows.lastPosition, ?_⟩
  rw [coldReplay_congr (hGrows.logThrough h.1)]
  exact h.2

/-- What a process has read stays good. -/
theorem Process.Consistent.grows {process : Process}
    (h : process.Consistent ledger bookId c) (hGrows : Grows c c') :
    process.Consistent ledger bookId c' := by
  cases process with
  | workerPositioned worker start => exact h.trans hGrows.forward
  | workerRead batch => exact BatchRead.grows h hGrows
  | workerCheckpoint batch checkpoint => exact BatchRead.grows h hGrows
  | workerLocked batch state => exact ⟨h.1.grows hGrows, h.2⟩
  | workerMarked batch state periods dirty =>
      exact ⟨h.1.grows hGrows, h.2.1, h.2.2.grows h.1.final hGrows⟩
  | workerReplayed batch state periods dirty replay =>
      exact ⟨h.1.grows hGrows, h.2.1, h.2.2.1.grows h.1.final hGrows,
        h.2.2.2.grows hGrows⟩
  | buildTargeted shadow isNew head =>
      exact Nat.le_trans h hGrows.lastPosition
  | buildReplayed shadow isNew head replay =>
      exact ReplayedThrough.grows h hGrows
  | swapTargeted rows head => exact Nat.le_trans h hGrows.lastPosition
  | swapReplayed rows head replay => exact ReplayedThrough.grows h hGrows
  | _ => trivial

theorem RowsReplay.grows {generation q : Nat}
    (h : RowsReplay c.events generation q c.tables)
    (hLast : q ≤ Ports.lastPosition c.events) (hGrows : Grows c c')
    (hTables : c'.tables = c.tables) :
    RowsReplay c'.events generation q c'.tables := by
  obtain ⟨summary, hReplay, hRows⟩ := h
  refine ⟨summary, ?_, ?_⟩
  · rw [coldReplay_congr (hGrows.logThrough hLast)]
    exact hReplay
  · rw [hTables]
    exact hRows

end Grows

/-! ## Commits -/

/-- The events whose effect a process publishes when it commits. -/
def Process.Projected (c : CommittedState) (e : LedgerEventRecord) :
    Process → Prop
  | workerReplayed batch _ _ _ _ => e ∈ batch.events
  | swapReplayed _ head _ => e ∈ logThrough c.events head
  | _ => False

/-- What a statement does to the committed tables. -/
structure TablesEffect (c : CommittedState) (process : Process)
    (t' : ProjectionTables) : Prop where
  tables : WorkerInvariant c.events t'
  bounded : t'.startPosition ≤ lastPosition c.events
  forward : c.tables.startPosition ≤ t'.startPosition
  guarded : t'.checkpoint = c.tables.checkpoint
    ∨ Lock.checkpoint ∈ process.locks ∨ c.tables.checkpoint = none
  covered : ∀ e ∈ c.events, c.tables.startPosition < e.bookPosition →
    e.bookPosition ≤ t'.startPosition → process.Projected c e

section Commits

variable {ledger : List LedgerEventRecord} {bookId : UUID}
  {c : CommittedState} {process : Process} {t t₁ t' : ProjectionTables}
  {events : List LedgerEventRecord}

theorem startPosition_congr (h : t'.checkpoint = t.checkpoint) :
    t'.startPosition = t.startPosition := by
  unfold ProjectionTables.startPosition
  rw [h]

/-- A commit that leaves the checkpoint alone. -/
theorem TablesEffect.of_same (hTables : WorkerInvariant c.events t')
    (hBounded : c.tables.startPosition ≤ lastPosition c.events)
    (hSame : t'.checkpoint = c.tables.checkpoint) :
    TablesEffect c process t' := by
  have hStart := startPosition_congr hSame
  refine ⟨hTables, by omega, by omega, .inl hSame, ?_⟩
  intro e _ hAfter hThrough
  omega

theorem insertPending_ok {isNew : Bool}
    {generation : ProjectionGenerationRecord}
    (h : insertPending events isNew generation t = .ok t₁) :
    t₁.checkpoint = t.checkpoint ∧ t₁.monthlyRows = t.monthlyRows
      ∧ (∀ g ∈ t.generations.map (·.generation),
          g ∈ t₁.generations.map (·.generation))
      ∧ (isNew = true → generation.generation
          ∉ t.generations.map (·.generation)) := by
  unfold insertPending at h
  split at h
  · obtain ⟨-, hFresh, rfl⟩ := insertGeneration_ok h
    refine ⟨rfl, rfl, ?_, fun _ => hFresh⟩
    intro g hg
    rw [List.map_append]
    exact List.mem_append_left _ hg
  · rename_i hOld
    cases h
    exact ⟨rfl, rfl, fun g hg => hg, fun hNew => absurd hNew hOld⟩

/-- The worker's pause changes nothing it answers for. -/
theorem commitFailure_effect {state : LockedProjectionState}
    {invalidEvent : LedgerEventRecord}
    (hTables : WorkerInvariant c.events c.tables)
    (hBounded : c.tables.startPosition ≤ lastPosition c.events)
    (h : c.commitFailure state invalidEvent = .ok t') :
    TablesEffect c process t' := by
  simp only [CommittedState.commitFailure, insertFailure, bind_eq_ok,
    require_eq_ok, pure_eq_ok, exists_const] at h
  obtain ⟨t₁, hInsert, _, ⟨-, rfl⟩, _, hCommit, rfl⟩ := h
  obtain ⟨hCheckpoint, hMonthly, hNumbers, -⟩ := insertPending_ok hInsert
  have hActive := activeMatches_of_validate hCommit
  exact .of_same (hTables.frame hCheckpoint hMonthly hNumbers hActive) hBounded
    hCheckpoint

/-- The worker's commit: the rows of its generation, which were the replay
through the checkpoint, are the replay through the end of the batch. -/
theorem commitBatch_effect {batch : WorkerBatch}
    {state : LockedProjectionState} {periods : List Date} {dirtyPeriods}
    {replay : MonthlySummary} (hLog : BookLog c.events)
    (hTables : WorkerInvariant c.events c.tables) (hRead : BatchRead c batch)
    (hState : StateRead state)
    (hHeld : ∀ checkpoint, state.checkpoint = some checkpoint →
      c.tables.checkpoint = some checkpoint)
    (hMarked : MonthsMarked ledger bookId c batch state periods)
    (hReplayed : ReplayedThrough c batch.finalPosition replay)
    (h : c.commitBatch batch state periods dirtyPeriods replay = .ok t') :
    TablesEffect c
      (.workerReplayed batch state periods dirtyPeriods replay) t' := by
  simp only [CommittedState.commitBatch, bind_eq_ok, pure_eq_ok] at h
  obtain ⟨t₁, hInsert, t₂, hActivate, _, hCommit, rfl⟩ := h
  obtain ⟨hCheckpoint, hMonthly, hNumbers, hFresh⟩ := insertPending_ok hInsert
  have hActive := activeMatches_of_validate hCommit
  have hGeneration : ∀ checkpoint, state.checkpoint = some checkpoint →
      checkpoint.activeGeneration = state.generation.generation := by
    intro checkpoint hSome
    unfold StateRead at hState
    rw [hSome] at hState
    exact hState.2
  -- The rows of the generation before, and that the checkpoint does not
  -- pass the batch, by the kind of the locked state.
  have hBefore : RowsReplay c.events state.generation.generation
        c.tables.startPosition c.tables
      ∧ c.tables.startPosition ≤ batch.finalPosition
      ∧ (Lock.checkpoint ∈ (Process.workerReplayed batch state periods
            dirtyPeriods replay).locks ∨ c.tables.checkpoint = none) := by
    rcases (activateOrAdvance_ok hActivate).2.2 with
      ⟨hNew, hNone, -⟩ | ⟨-, checkpoint, old, hSome, hOld, hLe, -⟩
    · have hNone' : c.tables.checkpoint = none := hCheckpoint.symm.trans hNone
      have hStart : c.tables.startPosition = 0 := by
        simp [ProjectionTables.startPosition, hNone']
      refine ⟨?_, by omega, .inr hNone'⟩
      rw [hStart]
      apply rowsReplay_zero hLog
      intro r hr hEq
      exact hFresh hNew (hEq ▸ hTables.filed r hr)
    · have hNow := hHeld checkpoint hSome
      have hOld' : t₁.checkpoint = some old := hOld
      have hEq : checkpoint = old :=
        Option.some.inj (hNow.symm.trans (hCheckpoint.symm.trans hOld'))
      subst hEq
      have hStart : c.tables.startPosition = checkpoint.lastBookPosition := by
        simp [ProjectionTables.startPosition, hNow]
      refine ⟨?_, by omega, .inl (Process.checkpoint_mem_locks hSome)⟩
      rw [hStart, ← hGeneration checkpoint hSome]
      exact hTables.replayed checkpoint hNow
  obtain ⟨hRows, hLe, hGuard⟩ := hBefore
  have hCovers : ∀ e ∈ logAfter (logThrough c.events batch.finalPosition)
      c.tables.startPosition, e ∈ batch.events := by
    intro e he
    obtain ⟨hThrough, hAfter⟩ := mem_after.1 he
    have hStart := hRead.start
    exact hRead.covers e (mem_after.2 ⟨hThrough, by omega⟩)
  have hRows₁ : RowsReplay c.events state.generation.generation
      c.tables.startPosition { t₁ with dirtyPeriods := dirtyPeriods } := by
    apply hRows.congr
    intro period
    unfold ProjectionTables.periodRows
    rw [hMonthly]
  obtain ⟨synced, sync, dirty, dirty', hSync, hReached, hMarks⟩ := hMarked
  have hAfter := rowsReplay_writePeriods hLog hSync hReached hLe hCovers hMarks
    hReplayed.2 hRows₁
  obtain ⟨hPublished, hAt⟩ := hTables.publish
    (u := { t₁ with dirtyPeriods := dirtyPeriods }) hMonthly hNumbers
    hGeneration hActivate hAfter hActive
  have hFinal : (clearDirtyPeriods state.generation.generation periods
      t₂).startPosition = batch.finalPosition := by
    have hAt' : (clearDirtyPeriods state.generation.generation periods
        t₂).checkpoint = some _ := hAt
    unfold ProjectionTables.startPosition
    rw [hAt']
  refine ⟨hPublished, by rw [hFinal]; exact hRead.final, by omega,
    .inr hGuard, ?_⟩
  intro e he hPast hWithin
  rw [hFinal] at hWithin
  exact hCovers e (mem_after.2 ⟨mem_through.2 ⟨he, hWithin⟩, hPast⟩)

/-- A generation that is written but not active is not the checkpoint's. -/
theorem activeGeneration_ne {new : ProjectionGenerationRecord}
    {checkpoint : ProjectionCheckpointRecord}
    (hActive : ActiveMatches (t.putGeneration new))
    (hState : new.state ≠ .active)
    (hSome : t.checkpoint = some checkpoint) :
    new.generation ≠ checkpoint.activeGeneration := by
  intro hEq
  have hMem : checkpoint.activeGeneration
      ∈ (t.putGeneration new).activeGenerations.map (·.generation) := by
    rw [hActive]
    show _ ∈ (t.checkpoint.map _).toList
    rw [hSome]
    exact List.mem_singleton.2 rfl
  obtain ⟨g, hg, hNumber⟩ := List.mem_map.1 hMem
  obtain ⟨hg, hIsActive⟩ := List.mem_filter.1 hg
  obtain ⟨old, -, rfl⟩ := List.mem_map.1 hg
  split_ifs at hNumber hIsActive with hCase
  · exact hState (by simpa using hIsActive)
  · exact hCase (hNumber.trans hEq.symm)

/-- Months come once in a replay. -/
theorem ReplayedThrough.months {q : Nat} {replay : MonthlySummary}
    (h : ReplayedThrough c q replay) : (replay.map (·.1)).Nodup := by
  obtain ⟨s, -, rfl⟩ := coldReplay_eq_ok.1 h.2
  exact summaryOf_months_nodup _

/-- The row of an updated generation is there. -/
theorem updateGeneration_mem {new : ProjectionGenerationRecord}
    (h : updateGeneration events new t = .ok t') :
    new.generation ∈ t.generations.map (·.generation) := by
  obtain ⟨⟨old, hOld, -⟩, -⟩ := updateGeneration_ok h
  refine List.mem_map.2 ⟨old, List.mem_of_find?_eq_some hOld, ?_⟩
  simpa using List.find?_some hOld

/-- The build of a shadow generation, which is not the active one. -/
theorem commitShadow_effect {shadow : ProjectionGenerationRecord}
    {isNew : Bool} {head : Nat} {replay : MonthlySummary}
    (hTables : WorkerInvariant c.events c.tables)
    (hBounded : c.tables.startPosition ≤ lastPosition c.events)
    (hReplayed : ReplayedThrough c head replay)
    (h : c.commitShadow shadow isNew head replay = .ok t') :
    TablesEffect c process t' := by
  simp only [CommittedState.commitShadow, bind_eq_ok, pure_eq_ok] at h
  obtain ⟨t₁, hInsert, t₂, hUpdate, _, hCommit, rfl⟩ := h
  obtain ⟨hCheckpoint, hMonthly, hNumbers, -⟩ := insertPending_ok hInsert
  have hOwn := updateGeneration_mem hUpdate
  obtain ⟨-, rfl⟩ := updateGeneration_ok hUpdate
  have hActive := activeMatches_of_validate hCommit
  refine .of_same ⟨?_, ?_, hActive⟩ hBounded hCheckpoint
  · intro checkpoint hSome
    have hSome' : c.tables.checkpoint = some checkpoint :=
      hCheckpoint.symm.trans hSome
    have hNe := activeGeneration_ne hActive (by simp) hSome
    apply (hTables.replayed checkpoint hSome').congr
    intro period
    show (t₁.writeGeneration _ _ _).periodRows _ _ = _
    rw [periodRows_writeGeneration t₁ hReplayed.months, if_neg hNe]
    unfold ProjectionTables.periodRows
    rw [hMonthly]
  · intro r hr
    show r.generation
      ∈ (ProjectionTables.putGeneration _ _).generations.map (·.generation)
    rw [putGeneration_numbers]
    rcases mem_writeGeneration hr with hOld | hNew
    · exact hNumbers _ (hTables.filed r (hMonthly ▸ hOld))
    · rw [hNew]
      exact hOwn

/-- The swap: the shadow generation is the replay through the head, and the
checkpoint moves there. -/
theorem commitSwap_effect {rows : LockedSwap} {head : Nat}
    {replay : MonthlySummary} (hTables : WorkerInvariant c.events c.tables)
    (hReplayed : ReplayedThrough c head replay)
    (h : c.commitSwap rows head replay = .ok t') :
    TablesEffect c (.swapReplayed rows head replay) t' := by
  simp only [CommittedState.commitSwap, bind_eq_ok, pure_eq_ok] at h
  obtain ⟨t₁, hShadow, t₂, hRetire, t₃, hActivate, t₄, hMove, _, hCommit, rfl⟩
    := h
  have hOwn := updateGeneration_mem hShadow
  obtain ⟨-, rfl⟩ := updateGeneration_ok hShadow
  obtain ⟨-, rfl⟩ := updateGeneration_ok hRetire
  obtain ⟨-, rfl⟩ := updateGeneration_ok hActivate
  obtain ⟨⟨old, hOld, hLe⟩, rfl⟩ := updateCheckpoint_ok hMove
  have hActive := activeMatches_of_validate hCommit
  have hStart : c.tables.startPosition = old.lastBookPosition := by
    have hOld' : c.tables.checkpoint = some old := hOld
    simp [ProjectionTables.startPosition, hOld']
  refine ⟨⟨?_, ?_, hActive⟩, hReplayed.1, ?_, ?_, ?_⟩
  · intro checkpoint hSome
    obtain rfl := Option.some.inj hSome
    refine ⟨replay, hReplayed.2, fun period => ?_⟩
    show (c.tables.writeGeneration _ _ _).periodRows _ _ = _
    rw [periodRows_writeGeneration c.tables hReplayed.months, if_pos rfl]
  · intro r hr
    show r.generation
      ∈ (ProjectionTables.putGeneration _ _).generations.map (·.generation)
    rw [putGeneration_numbers, putGeneration_numbers, putGeneration_numbers]
    rcases mem_writeGeneration hr with hKept | hNew
    · exact hTables.filed r hKept
    · rw [hNew]
      exact hOwn
  · rw [hStart]
    exact hLe
  · right
    left
    simp [Process.locks, LockedSwap.locks]
  · intro e he _ hWithin
    exact mem_through.2 ⟨he, hWithin⟩

end Commits

end TrackAnywhere.Ports
