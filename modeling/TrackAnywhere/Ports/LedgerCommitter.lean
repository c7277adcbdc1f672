import TrackAnywhere.Ports.CommandReceipts
import TrackAnywhere.Ports.SyncEffects

/-!
# The ledger committer

A financial command writes through one plan: `execute_under_book_lock` locks the
Book head, the handler makes a plan, and `append_and_project` appends its events
and projects them.  What is kept of one Book, its part of the event store and
its projections, is a `BookLedger`; the row lock on the Book head makes one
transaction at a time the only writer of it.

The token of a locked head says that it is used in the transaction that locked
it.  A process that holds a head in this model holds it in its transaction.
-/

namespace TrackAnywhere.Ports

open TrackAnywhere.Verified
open TrackAnywhere.Verified.Checked
open TrackAnywhere.Verified.KeyedSum
open TrackAnywhere.Verified.Transaction

/-! ## Plans -/

/-- `LockedBookHead`. -/
structure LockedBookHead where
  bookId : UUID
  lastPosition : Nat
  lastHash : EventHash
deriving DecidableEq

/-- `LedgerWritePlan`, with the checks of its constructor; the finalizer is
called by the process that runs the plan. -/
structure LedgerWritePlan where
  expectedStreamVersions : Dict StreamKey Int
  events : List PendingEvent
  responseSchemaVersion : Nat
  statusCode : Nat
  body : JSONValue
  hEvents : events ≠ []
  hResult : CommandResult.postInit
    ⟨responseSchemaVersion, statusCode, body, none, none⟩ = .ok ()

/-- `to_result`. -/
def LedgerWritePlan.toResult (self : LedgerWritePlan)
    (appended : AppendBatchResult) : Except CommandError CommandResult := do
  let result : CommandResult :=
    { responseSchemaVersion := self.responseSchemaVersion
      statusCode := self.statusCode
      body := self.body
      firstBookPosition := some appended.firstPosition
      lastBookPosition := some (appended.stopPosition - 1) }
  result.postInit
  return result

theorem postInit_of_toResult {plan : LedgerWritePlan}
    {appended : AppendBatchResult} {result : CommandResult}
    (h : plan.toResult appended = .ok result) : result.postInit = .ok () := by
  unfold LedgerWritePlan.toResult at h
  obtain ⟨_, hValid, hResult⟩ := bind_eq_ok.1 h
  rw [← pure_eq_ok.1 hResult]
  exact hValid

/-! ## Under the Book lock -/

/-- The rows of one Book in the event store and in the projections. -/
structure BookLedger where
  store : EventStoreTables
  sync : SyncTables

inductive BookWriteState
  | active
  | pausedIntegrity
deriving DecidableEq

/-- `execute_under_book_lock`: the head. -/
def lockBookHead (ledger : BookLedger) (bookId : UUID) :
    Except CommandError LockedBookHead := do
  let head ← fetch (ledger.store.bookHead? bookId)
    (.bookEventHeadNotFound "book event head not found")
  return ⟨head.bookId, head.lastPosition, head.lastHash⟩

/-- `execute_under_book_lock`: the write state. -/
def requireActiveBook (writeState : Option BookWriteState) :
    Except CommandError Unit := do
  let writeState ← fetch writeState (.bookEventHeadNotFound "book not found")
  require (writeState = .active)
    (.bookWritePaused "Book financial writes are paused")

/-- The events of the batch, read back in the order of their positions. -/
def reloadBatch (store : EventStoreTables) (bookId : UUID)
    (eventIds : List UUID) : List LedgerEventRecord :=
  (store.events.filter fun e => e.bookId = bookId ∧ e.eventId ∈ eventIds
    ).insertionSort fun a b => a.bookPosition ≤ b.bookPosition

/-- `append_and_project`, up to the projection: the batch, the store with it,
and the events to project. -/
def appendLocked (sha256 : ByteArray → EventHash) (lockedHead : LockedBookHead)
    (plan : LedgerWritePlan) (generated : UUID → Nat × Instant)
    (ledger : BookLedger) : Except CommandError
      (AppendBatchResult × EventStoreTables × List LedgerEventRecord) := do
  let currentHead ← fetch (ledger.store.bookHead? lockedHead.bookId)
    (.ledgerWriteBoundary "locked Book head changed before append")
  require ((currentHead.lastPosition, currentHead.lastHash)
      = (lockedHead.lastPosition, lockedHead.lastHash))
    (.ledgerWriteBoundary "locked Book head changed before append")
  let outcome := atomically (appendBatch sha256 lockedHead.bookId
    plan.expectedStreamVersions plan.events generated) ledger.store
  let appended ← outcome.1.mapError CommandError.append
  let storedEvents := reloadBatch outcome.2 lockedHead.bookId appended.eventIds
  require (storedEvents.map (·.eventId) = appended.eventIds)
    (.ledgerWriteBoundary "appended event batch could not be reloaded")
  return (appended, outcome.2, storedEvents)

/-- `append_and_project`: the projection of one event of the batch. -/
def projectLocked (catalog : Catalog) (ledger : BookLedger)
    (stored : LedgerEventRecord) : Except CommandError BookLedger := do
  let (_, sync) ← (applyStored catalog ledger.store.events stored
    ledger.sync).mapError CommandError.projection
  return { ledger with sync := sync }

/-! ## What a plan does to a Book -/

/-- The plan is applied to the Book: its batch is appended to the store, the
events of the batch are projected in order, each against the catalog of its
moment, and the result tells the positions. -/
def PlanApplies (sha256 : ByteArray → EventHash) (bookId : UUID)
    (plan : LedgerWritePlan) (ledger : BookLedger) (result : CommandResult)
    (ledger' : BookLedger) : Prop :=
  ∃ generated appended,
    atomically (appendBatch sha256 bookId plan.expectedStreamVersions plan.events
        generated) ledger.store = (.ok appended, ledger'.store)
    ∧ Run (Projects ledger'.store.events bookId) ledger.sync
        (reloadBatch ledger'.store bookId appended.eventIds) ledger'.sync
    ∧ plan.toResult appended = .ok result

theorem appendLocked_ok {sha256 : ByteArray → EventHash}
    {lockedHead : LockedBookHead} {plan : LedgerWritePlan}
    {generated : UUID → Nat × Instant} {ledger : BookLedger}
    {appended : AppendBatchResult} {store : EventStoreTables}
    {storedEvents : List LedgerEventRecord}
    (h : appendLocked sha256 lockedHead plan generated ledger
      = .ok (appended, store, storedEvents)) :
    atomically (appendBatch sha256 lockedHead.bookId plan.expectedStreamVersions
        plan.events generated) ledger.store = (.ok appended, store)
      ∧ storedEvents = reloadBatch store lockedHead.bookId appended.eventIds := by
  unfold appendLocked at h
  simp only [bind_eq_ok, mapError_eq_ok, pure_eq_ok, Prod.mk.injEq] at h
  obtain ⟨_, -, _, -, _, hResult, _, -, rfl, rfl, rfl⟩ := h
  exact ⟨Prod.ext hResult rfl, rfl⟩

theorem projectLocked_ok {catalog : Catalog} {ledger ledger' : BookLedger}
    {stored : LedgerEventRecord} {bookId : UUID}
    (hMem : stored ∈ ledger.store.events) (hBook : stored.bookId = bookId)
    (h : projectLocked catalog ledger stored = .ok ledger') :
    ledger'.store = ledger.store
      ∧ Projects ledger.store.events bookId ledger.sync stored ledger'.sync := by
  unfold projectLocked at h
  simp only [bind_eq_ok, mapError_eq_ok, pure_eq_ok] at h
  obtain ⟨⟨result, sync⟩, hApply, rfl⟩ := h
  exact ⟨rfl, hMem, hBook, catalog, result, hApply⟩

theorem mem_reloadBatch {store : EventStoreTables} {bookId : UUID}
    {eventIds : List UUID} {e : LedgerEventRecord}
    (h : e ∈ reloadBatch store bookId eventIds) :
    e ∈ store.events ∧ e.bookId = bookId := by
  have hMem := (List.mem_insertionSort _).1 h
  have hFilter := List.mem_filter.1 hMem
  simp only [decide_eq_true_eq] at hFilter
  exact ⟨hFilter.1, hFilter.2.1⟩

end TrackAnywhere.Ports
