import TrackAnywhere.Ports.DirtyPeriods

/-!
# The tables of the monthly projection

Checkpoint, generations, monthly rows, dirty periods and failures of one Book,
for `monthly_category_summary` version 1, with the constraints and triggers
that stand on them: a generation moves only forward through its states and
positions, the checkpoint never moves backward, and a committed transaction
leaves exactly one active generation at the checkpoint's position, or neither.

Every statement of the projection code that writes these tables is an operation
here that raises where the database would.
-/

namespace TrackAnywhere.Ports

open TrackAnywhere.Verified.Checked
open TrackAnywhere.Verified.KeyedSum

/-! ## Rows -/

inductive GenerationState
  | building
  | catchingUp
  | active
  | retired
  | failed
deriving DecidableEq

/-- `projection_generations`. -/
structure ProjectionGenerationRecord where
  generation : Nat
  state : GenerationState
  rebuildFromPosition : Nat
  lastBookPosition : Nat
  targetBookPosition : Nat
deriving DecidableEq

/-- `projection_checkpoints`; no code takes a lease. -/
structure ProjectionCheckpointRecord where
  lastBookPosition : Nat
  activeGeneration : Nat
deriving DecidableEq

/-- `monthly_category_summaries`. -/
structure MonthlyCategorySummaryRecord where
  generation : Nat
  periodStart : Date
  value : MonthlySummaryValue
  asOfBookPosition : Nat
deriving DecidableEq

inductive RetryState
  | paused
  | ready
  | retrying
  | resolved
  | dead
deriving DecidableEq

/-- `projection_failures`. -/
structure ProjectionFailureRecord where
  generation : Nat
  sourceEventId : UUID
  sourceBookPosition : Nat
  eventType : String
  eventSchemaVersion : Nat
  retryState : RetryState
deriving DecidableEq

structure ProjectionTables where
  checkpoint : Option ProjectionCheckpointRecord
  generations : List ProjectionGenerationRecord
  monthlyRows : List MonthlyCategorySummaryRecord
  dirtyPeriods : Dict DirtyPeriodKey DirtyPeriodSource
  failures : List ProjectionFailureRecord

/-- What a projection transaction reads of the Book: its committed events by
position, the head row, and the synchronous tables. -/
structure BookSnapshot where
  events : List LedgerEventRecord
  head : Option Nat
  sync : SyncTables

namespace ProjectionTables

/-- Nothing projected yet. -/
def empty : ProjectionTables where
  checkpoint := none
  generations := []
  monthlyRows := []
  dirtyPeriods := ∅
  failures := []

def generation? (t : ProjectionTables) (generation : Nat) :
    Option ProjectionGenerationRecord :=
  t.generations.find? fun g => g.generation = generation

/-- The active generations. -/
def activeGenerations (t : ProjectionTables) :
    List ProjectionGenerationRecord :=
  t.generations.filter fun g => g.state = .active

/-- `max(generation)`, zero without generations. -/
def maxGeneration (t : ProjectionTables) : Nat :=
  (t.generations.map (·.generation)).foldr max 0

/-- The rows of one generation and month. -/
def periodRows (t : ProjectionTables) (generation : Nat) (period : Date) :
    List MonthlySummaryValue :=
  (t.monthlyRows.filter fun r =>
    r.generation = generation ∧ r.periodStart = period).map (·.value)

end ProjectionTables

/-- An event of the Book stands at this position. -/
def positionExists (events : List LedgerEventRecord) (position : Nat) : Prop :=
  ∃ e ∈ events, e.bookPosition = position

instance (events : List LedgerEventRecord) (position : Nat) :
    Decidable (positionExists events position) :=
  inferInstanceAs (Decidable (∃ e ∈ events, e.bookPosition = position))

/-! ## Triggers -/

/-- The state changes `v2_validate_projection_generation_update` admits. -/
def GenerationState.admits : GenerationState → GenerationState → Bool
  | building, new => new = building || new = catchingUp || new = failed
  | catchingUp, new => new = catchingUp || new = active || new = failed
  | active, new => new = active || new = retired
  | retired, _ => false
  | failed, _ => false

/-- The cursors of a generation row name events of the Book. -/
def validateGenerationCursors (events : List LedgerEventRecord)
    (new : ProjectionGenerationRecord) : Except ProjectionError Unit := do
  require (0 < new.lastBookPosition →
      positionExists events new.lastBookPosition)
    (.integrity
      "projection generation cursor must reference an existing Book event")
  require (0 < new.targetBookPosition →
      positionExists events new.targetBookPosition)
    (.integrity
      "projection generation target must reference an existing Book event")
  require (new.lastBookPosition ≤ new.targetBookPosition)
    (.integrity "ck_projection_generations_progress_within_target")

/-- `INSERT INTO projection_generations`. -/
def insertGeneration (events : List LedgerEventRecord)
    (new : ProjectionGenerationRecord) (t : ProjectionTables) :
    Except ProjectionError ProjectionTables := do
  require (new.state = .building)
    (.integrity "projection generation must start in building state")
  validateGenerationCursors events new
  require (new.generation ∉ t.generations.map (·.generation))
    (.integrity "pk_projection_generations")
  return { t with generations := t.generations ++ [new] }

/-- `UPDATE projection_generations`. -/
def updateGeneration (events : List LedgerEventRecord)
    (new : ProjectionGenerationRecord) (t : ProjectionTables) :
    Except ProjectionError ProjectionTables := do
  let old ← fetch (t.generation? new.generation)
    (.runtime "UPDATE expected to update 1 row(s); 0 were matched")
  require (old.lastBookPosition ≤ new.lastBookPosition)
    (.integrity "projection generation progress cannot move backward")
  require (old.targetBookPosition ≤ new.targetBookPosition)
    (.integrity "projection generation target cannot move backward")
  require (old.state ≠ .retired ∧ old.state ≠ .failed)
    (.integrity "terminal projection generation cannot change")
  require (old.state.admits new.state)
    (.integrity "invalid projection generation state transition")
  require (old.state = .catchingUp → new.state = .active →
      new.lastBookPosition = new.targetBookPosition)
    (.integrity "active projection generation must reach its target")
  validateGenerationCursors events new
  let t' := { t with
    generations := t.generations.map fun g =>
      if g.generation = new.generation then new else g }
  require (t'.activeGenerations.length ≤ 1)
    (.integrity "ux_projection_generations_one_active")
  return t'

/-- `UPDATE projection_checkpoints`. -/
def updateCheckpoint (new : ProjectionCheckpointRecord)
    (t : ProjectionTables) : Except ProjectionError ProjectionTables := do
  let old ← fetch t.checkpoint
    (.runtime "UPDATE expected to update 1 row(s); 0 were matched")
  require (old.lastBookPosition ≤ new.lastBookPosition)
    (.integrity "projection checkpoint cannot move backward")
  return { t with checkpoint := some new }

/-- `v2_validate_active_projection_generation`, deferred to the commit of a
transaction that wrote a checkpoint or a generation. -/
def validateActiveProjectionGeneration (events : List LedgerEventRecord)
    (t : ProjectionTables) : Except ProjectionError Unit :=
  match t.checkpoint with
  | none =>
      require (t.activeGenerations = [])
        (.integrity "active generation requires a checkpoint")
  | some checkpoint =>
      match t.activeGenerations with
      | [active] => do
          require (checkpoint.activeGeneration = active.generation
              ∧ checkpoint.lastBookPosition = active.lastBookPosition)
            (.integrity "checkpoint cursor must match the active generation")
          require (0 < checkpoint.lastBookPosition →
              positionExists events checkpoint.lastBookPosition)
            (.integrity
              "checkpoint cursor must reference an existing Book event")
      | _ => .error
          (.integrity "checkpoint requires exactly one active generation")

/-! ## Checkpoints -/

structure LockedProjectionState where
  checkpoint : Option ProjectionCheckpointRecord
  generation : ProjectionGenerationRecord
  isNew : Bool
deriving DecidableEq

/-- A generation that starts building. -/
def newGeneration (generation targetBookPosition : Nat) :
    ProjectionGenerationRecord where
  generation := generation
  state := .building
  rebuildFromPosition := 1
  lastBookPosition := 0
  targetBookPosition := targetBookPosition

/-- `lock_projection_state`: the locked checkpoint and its active generation,
or a new generation when there is no checkpoint. -/
def lockProjectionState (events : List LedgerEventRecord)
    (targetBookPosition : Nat) (t : ProjectionTables) :
    Except ProjectionError (LockedProjectionState × ProjectionTables) :=
  match t.checkpoint with
  | some checkpoint => do
      let generation ← fetch (t.generation? checkpoint.activeGeneration)
        (.runtime "No row was found when one was required")
      return ({ checkpoint := some checkpoint, generation := generation
                isNew := false }, t)
  | none => do
      let generation := newGeneration (t.maxGeneration + 1) targetBookPosition
      let t ← insertGeneration events generation t
      return ({ checkpoint := none, generation := generation, isNew := true },
        t)

/-- `activate_or_advance`. -/
def activateOrAdvance (events : List LedgerEventRecord)
    (state : LockedProjectionState) (lastBookPosition : Nat)
    (t : ProjectionTables) : Except ProjectionError ProjectionTables := do
  let old := state.generation
  let advanced := { old with
    targetBookPosition := max old.targetBookPosition lastBookPosition
    lastBookPosition := lastBookPosition }
  if state.isNew then do
    let catchingUp := { advanced with state := .catchingUp }
    let t ← updateGeneration events catchingUp t
    let t ← updateGeneration events { catchingUp with state := .active } t
    require (t.checkpoint = none)
      (.integrity "pk_projection_checkpoints")
    return { t with
      checkpoint := some
        { lastBookPosition := lastBookPosition
          activeGeneration := old.generation } }
  else do
    let checkpoint ← fetch state.checkpoint
      (.runtime "existing projection state lost its checkpoint")
    let t ← updateGeneration events advanced t
    updateCheckpoint
      { checkpoint with lastBookPosition := lastBookPosition } t

/-! ## Monthly rows -/

/-- The rows one month's values become. -/
def summaryRows (generation through : Nat) (period : Date)
    (values : List MonthlySummaryValue) : List MonthlyCategorySummaryRecord :=
  values.map fun value =>
    { generation := generation, periodStart := period, value := value
      asOfBookPosition := through }

/-- One iteration of the loop of `replace_periods`. -/
def replacePeriod (generation through : Nat) (replay : MonthlySummary)
    (rows : List MonthlyCategorySummaryRecord) (period : Date) :
    List MonthlyCategorySummaryRecord :=
  (rows.filter fun r =>
      ¬(r.generation = generation ∧ r.periodStart = period))
    ++ summaryRows generation through period (replay.get period)

namespace ProjectionTables

/-- The writes of `replace_periods`. -/
def writePeriods (t : ProjectionTables) (generation : Nat)
    (periods : List Date) (through : Nat) (replay : MonthlySummary) :
    ProjectionTables :=
  { t with
    monthlyRows := periods.foldl (replacePeriod generation through replay)
      t.monthlyRows }

/-- The writes of `replace_generation`. -/
def writeGeneration (t : ProjectionTables) (generation through : Nat)
    (replay : MonthlySummary) : ProjectionTables :=
  { t with
    monthlyRows := (t.monthlyRows.filter fun r => r.generation ≠ generation)
      ++ replay.flatMap fun e => summaryRows generation through e.1 e.2 }

end ProjectionTables

/-- `replace_periods`. -/
def replacePeriods (events : List LedgerEventRecord) (generation : Nat)
    (periods : List Date) (through : Nat) (t : ProjectionTables) :
    Except ProjectionError ProjectionTables := do
  let replay ← (coldReplayMonthlySummary events (some through)).mapError
    ProjectionError.replay
  return t.writePeriods generation periods through replay

/-- `replace_generation`. -/
def replaceGeneration (events : List LedgerEventRecord)
    (generation through : Nat) (t : ProjectionTables) :
    Except ProjectionError ProjectionTables := do
  let replay ← (coldReplayMonthlySummary events (some through)).mapError
    ProjectionError.replay
  return t.writeGeneration generation through replay

/-- `clear_dirty_periods`. -/
def clearDirtyPeriods (generation : Nat) (periods : List Date)
    (t : ProjectionTables) : ProjectionTables :=
  { t with
    dirtyPeriods := periods.foldl (fun rows period =>
      rows.entries.foldl (fun rows e =>
        if e.1.generation = generation ∧ e.1.periodStart = period then
          rows.erase e.1 else rows) rows) t.dirtyPeriods }

/-! ## What the statements do -/

section Statements

variable {events : List LedgerEventRecord} {t t' : ProjectionTables}
  {new : ProjectionGenerationRecord}

theorem insertGeneration_ok (h : insertGeneration events new t = .ok t') :
    new.state = .building ∧ new.generation ∉ t.generations.map (·.generation)
      ∧ t' = { t with generations := t.generations ++ [new] } := by
  simp only [insertGeneration, bind_eq_ok, require_eq_ok, pure_eq_ok,
    exists_const] at h
  obtain ⟨hState, -, -, hFresh, rfl⟩ := h
  exact ⟨hState, hFresh, rfl⟩

/-- The generations with one row replaced. -/
def ProjectionTables.putGeneration (t : ProjectionTables)
    (new : ProjectionGenerationRecord) : ProjectionTables :=
  { t with
    generations := t.generations.map fun g =>
      if g.generation = new.generation then new else g }

/-- The numbers of the generations stay. -/
@[simp] theorem putGeneration_numbers :
    (t.putGeneration new).generations.map (·.generation)
      = t.generations.map (·.generation) := by
  unfold ProjectionTables.putGeneration
  rw [List.map_map]
  refine List.map_congr_left fun g _ => ?_
  simp only [Function.comp_apply]
  split_ifs with h
  · exact h.symm
  · rfl

theorem updateGeneration_ok (h : updateGeneration events new t = .ok t') :
    (∃ old, t.generation? new.generation = some old
        ∧ old.lastBookPosition ≤ new.lastBookPosition
        ∧ old.state.admits new.state = true)
      ∧ t' = t.putGeneration new := by
  simp only [updateGeneration, bind_eq_ok, require_eq_ok, fetch_eq_ok,
    pure_eq_ok, exists_const] at h
  obtain ⟨old, hOld, hForward, -, -, hAdmits, -, _, -, -, rfl⟩ := h
  exact ⟨⟨old, hOld, hForward, hAdmits⟩, rfl⟩

theorem updateCheckpoint_ok {new : ProjectionCheckpointRecord}
    (h : updateCheckpoint new t = .ok t') :
    (∃ old, t.checkpoint = some old
        ∧ old.lastBookPosition ≤ new.lastBookPosition)
      ∧ t' = { t with checkpoint := some new } := by
  simp only [updateCheckpoint, bind_eq_ok, require_eq_ok, fetch_eq_ok,
    pure_eq_ok, exists_const] at h
  obtain ⟨old, hOld, hForward, rfl⟩ := h
  exact ⟨⟨old, hOld, hForward⟩, rfl⟩

/-- The locked state: the checkpoint with its generation, or a new generation
that no row had. -/
theorem lockProjectionState_ok {target : Nat} {state : LockedProjectionState}
    (h : lockProjectionState events target t = .ok (state, t')) :
    (∃ checkpoint generation, t.checkpoint = some checkpoint
        ∧ generation ∈ t.generations
        ∧ generation.generation = checkpoint.activeGeneration
        ∧ state = ⟨some checkpoint, generation, false⟩ ∧ t' = t)
      ∨ (t.checkpoint = none
        ∧ state = ⟨none, newGeneration (t.maxGeneration + 1) target, true⟩
        ∧ t.maxGeneration + 1 ∉ t.generations.map (·.generation)
        ∧ t' = { t with generations := t.generations ++
            [newGeneration (t.maxGeneration + 1) target] }) := by
  unfold lockProjectionState at h
  cases hCheckpoint : t.checkpoint with
  | some checkpoint =>
      simp only [hCheckpoint, bind_eq_ok, fetch_eq_ok, pure_eq_ok,
        Prod.mk.injEq] at h
      obtain ⟨generation, hFind, rfl, rfl⟩ := h
      refine .inl ⟨checkpoint, generation, rfl, List.mem_of_find?_eq_some hFind,
        ?_, rfl, rfl⟩
      simpa using List.find?_some hFind
  | none =>
      simp only [hCheckpoint, bind_eq_ok, pure_eq_ok, Prod.mk.injEq] at h
      obtain ⟨t₁, hInsert, rfl, rfl⟩ := h
      obtain ⟨-, hFresh, rfl⟩ := insertGeneration_ok hInsert
      rw [← hCheckpoint]
      exact .inr ⟨rfl, rfl, hFresh, rfl⟩

/-- The checkpoint after an activation or an advance, and what else stays. -/
theorem activateOrAdvance_ok {state : LockedProjectionState} {through : Nat}
    (h : activateOrAdvance events state through t = .ok t') :
    t'.monthlyRows = t.monthlyRows
      ∧ t'.generations.map (·.generation) = t.generations.map (·.generation)
      ∧ ((state.isNew = true ∧ t.checkpoint = none
            ∧ t'.checkpoint = some ⟨through, state.generation.generation⟩)
        ∨ (state.isNew = false ∧ ∃ checkpoint old,
            state.checkpoint = some checkpoint
            ∧ t.checkpoint = some old ∧ old.lastBookPosition ≤ through
            ∧ t'.checkpoint = some
                ⟨through, checkpoint.activeGeneration⟩)) := by
  unfold activateOrAdvance at h
  split at h
  · rename_i hNew
    simp only [bind_eq_ok, require_eq_ok, pure_eq_ok, exists_const] at h
    obtain ⟨t₁, hFirst, t₂, hSecond, hNone, rfl⟩ := h
    obtain ⟨-, rfl⟩ := updateGeneration_ok hFirst
    obtain ⟨-, rfl⟩ := updateGeneration_ok hSecond
    refine ⟨rfl, ?_, .inl ⟨hNew, hNone, rfl⟩⟩
    show List.map _ (ProjectionTables.putGeneration _ _).generations = _
    rw [putGeneration_numbers, putGeneration_numbers]
  · rename_i hOld
    simp only [bind_eq_ok, fetch_eq_ok] at h
    obtain ⟨checkpoint, hCheckpoint, t₁, hUpdate, hMove⟩ := h
    obtain ⟨-, rfl⟩ := updateGeneration_ok hUpdate
    obtain ⟨⟨old, hSome, hLe⟩, rfl⟩ := updateCheckpoint_ok hMove
    refine ⟨rfl, putGeneration_numbers, .inr ⟨by simpa using hOld,
      checkpoint, old, hCheckpoint, hSome, hLe, rfl⟩⟩

end Statements

/-! ## The rows of a month -/

section PeriodRows

variable {generation generation' through : Nat} {period period' : Date}

private theorem summaryRows_filter (values : List MonthlySummaryValue) :
    ((summaryRows generation through period values).filter fun r =>
        r.generation = generation' ∧ r.periodStart = period').map (·.value)
      = if generation = generation' ∧ period = period' then values else [] := by
  unfold summaryRows
  rw [List.filter_map, List.map_map]
  split_ifs with h
  · rw [List.filter_eq_self.2 (by simpa using fun _ _ => h)]
    exact List.map_id' values
  · rw [List.filter_eq_nil_iff.2 (by simpa using fun _ _ => h)]
    rfl

/-- One replaced month reads the replay, the others read as before. -/
private theorem replacePeriod_filter (replay : MonthlySummary)
    (rows : List MonthlyCategorySummaryRecord) :
    ((replacePeriod generation through replay rows period).filter fun r =>
        r.generation = generation' ∧ r.periodStart = period').map (·.value)
      = if generation = generation' ∧ period = period' then replay.get period
        else (rows.filter fun r =>
          r.generation = generation' ∧ r.periodStart = period').map
            (·.value) := by
  unfold replacePeriod
  rw [List.filter_append, List.map_append, summaryRows_filter,
    List.filter_filter]
  split_ifs with h
  · obtain ⟨rfl, rfl⟩ := h
    rw [List.filter_eq_nil_iff.2]
    · rfl
    · intro r _ hr
      simp only [Bool.and_eq_true, decide_eq_true_eq] at hr
      exact hr.2 hr.1
  · rw [List.append_nil]
    congr 1
    refine List.filter_congr fun r _ => ?_
    rw [Bool.eq_iff_iff]
    simp only [Bool.and_eq_true, decide_eq_true_eq]
    constructor
    · exact And.left
    · rintro ⟨rfl, rfl⟩
      refine ⟨⟨rfl, rfl⟩, fun hEq => h ⟨hEq.1.symm, hEq.2.symm⟩⟩

/-- Replaced months of a generation read the replay, every other month reads
as before. -/
theorem periodRows_writePeriods (t : ProjectionTables) (periods : List Date)
    (replay : MonthlySummary) :
    (t.writePeriods generation periods through replay).periodRows generation'
        period'
      = if generation = generation' ∧ period' ∈ periods then
          replay.get period'
        else t.periodRows generation' period' := by
  show ((periods.foldl _ t.monthlyRows).filter _).map _
    = if _ then _ else (t.monthlyRows.filter _).map _
  induction periods generalizing t with
  | nil => simp
  | cons period periods ih =>
      have hNext := ih (t := { t with
        monthlyRows := replacePeriod generation through replay t.monthlyRows
          period })
      rw [List.foldl_cons, hNext, replacePeriod_filter]
      by_cases hGeneration : generation = generation'
      · by_cases hPeriod : period = period'
        · subst hPeriod
          simp [hGeneration]
        · simp [hGeneration, hPeriod, Ne.symm hPeriod]
      · simp [hGeneration]

/-- A row is an old one, or one of the generation that was written. -/
theorem mem_writePeriods {t : ProjectionTables} {periods : List Date}
    {replay : MonthlySummary} {r : MonthlyCategorySummaryRecord}
    (h : r ∈ (t.writePeriods generation periods through replay).monthlyRows) :
    r ∈ t.monthlyRows ∨ r.generation = generation := by
  unfold ProjectionTables.writePeriods at h
  induction periods generalizing t with
  | nil => exact .inl h
  | cons period periods ih =>
      rw [List.foldl_cons] at h
      rcases ih (t := { t with
        monthlyRows := replacePeriod generation through replay t.monthlyRows
          period }) h with hOld | hNew
      · rcases List.mem_append.1 hOld with hKept | hWritten
        · exact .inl (List.mem_filter.1 hKept).1
        · obtain ⟨value, -, rfl⟩ := List.mem_map.1 hWritten
          exact .inr rfl
      · exact .inr hNew

private theorem flatMap_summaryRows (replay : MonthlySummary)
    (hMonths : (replay.map (·.1)).Nodup) :
    ((replay.flatMap fun e => summaryRows generation through e.1 e.2).filter
        fun r => r.generation = generation ∧ r.periodStart = period).map
          (·.value)
      = replay.get period := by
  unfold MonthlySummary.get
  induction replay with
  | nil => rfl
  | cons e replay ih =>
      obtain ⟨hFirst, hRest⟩ := List.nodup_cons.1 hMonths
      rw [List.flatMap_cons, List.filter_append, List.map_append,
        summaryRows_filter, ih hRest]
      by_cases hPeriod : e.1 = period
      · have hNone : replay.find? (fun e => e.1 = period) = none := by
          rw [List.find?_eq_none]
          intro e' he' hSame
          apply hFirst
          show e.1 ∈ _
          rw [hPeriod]
          exact List.mem_map.2 ⟨e', he', by simpa using hSame⟩
        simp [hPeriod, hNone]
      · simp [hPeriod]

/-- A written generation reads the replay, every other one as before. -/
theorem periodRows_writeGeneration (t : ProjectionTables)
    {replay : MonthlySummary} (hMonths : (replay.map (·.1)).Nodup) :
    (t.writeGeneration generation through replay).periodRows generation' period
      = if generation = generation' then replay.get period
        else t.periodRows generation' period := by
  unfold ProjectionTables.periodRows ProjectionTables.writeGeneration
  rw [List.filter_append, List.map_append, List.filter_filter]
  split_ifs with h
  · subst h
    rw [flatMap_summaryRows replay hMonths, List.filter_eq_nil_iff.2]
    · rfl
    · intro r _ hr
      simp only [Bool.and_eq_true, decide_eq_true_eq] at hr
      exact hr.2 hr.1.1
  · have hOther : (replay.flatMap fun e =>
        summaryRows generation through e.1 e.2).filter (fun r =>
          r.generation = generation' ∧ r.periodStart = period) = [] := by
      rw [List.filter_eq_nil_iff]
      intro r hr hSame
      obtain ⟨e, -, hr⟩ := List.mem_flatMap.1 hr
      obtain ⟨value, -, rfl⟩ := List.mem_map.1 hr
      exact h (of_decide_eq_true hSame).1
    rw [hOther, List.map_nil, List.append_nil]
    congr 1
    refine List.filter_congr fun r _ => ?_
    rw [Bool.eq_iff_iff]
    simp only [Bool.and_eq_true, decide_eq_true_eq]
    constructor
    · exact And.left
    · rintro ⟨rfl, rfl⟩
      exact ⟨⟨rfl, rfl⟩, fun hEq => h hEq.symm⟩

theorem mem_writeGeneration {t : ProjectionTables} {replay : MonthlySummary}
    {r : MonthlyCategorySummaryRecord}
    (h : r ∈ (t.writeGeneration generation through replay).monthlyRows) :
    r ∈ t.monthlyRows ∨ r.generation = generation := by
  rcases List.mem_append.1 h with hKept | hWritten
  · exact .inl (List.mem_filter.1 hKept).1
  · obtain ⟨e, -, hWritten⟩ := List.mem_flatMap.1 hWritten
    obtain ⟨value, -, rfl⟩ := List.mem_map.1 hWritten
    exact .inr rfl

end PeriodRows

end TrackAnywhere.Ports
