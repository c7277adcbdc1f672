import TrackAnywhere.Ports.EntryIntents
import Mathlib

/-!
# The transactional outbox

A delivery worker claims a message in one transaction, publishes it outside any,
and acknowledges it in another.  Each worker reads a clock of its own; the
trigger on `outbox_messages` judges every update by the clock of the database.

A step of the system is one transaction, one answer of the publisher, or a
crash.  Rows that another transaction holds are skipped by a claim, so each
claim is given the rows it finds locked.
-/

namespace TrackAnywhere.Ports

open TrackAnywhere.Verified
open TrackAnywhere.Verified.Checked

/-! ## Rows -/

/-- The columns that a producer writes. -/
structure OutboxContent where
  bookId : UUID
  sourceEventId : UUID
  topic : String
  messageType : String
  dedupeKey : String
  payload : JSONValue

/-- `outbox_messages`. -/
structure OutboxMessageRecord where
  messageId : UUID
  content : OutboxContent
  availableAt : Moment
  lockedBy : Option String
  lockedUntil : Option Moment
  attemptCount : Nat
  deliveredAt : Option Moment
  lastErrorCode : Option String

/-- What a worker publishes. -/
structure OutboxMessage where
  messageId : UUID
  content : OutboxContent
  attemptCount : Nat

def OutboxMessageRecord.message (record : OutboxMessageRecord) : OutboxMessage :=
  ⟨record.messageId, record.content, record.attemptCount⟩

/-- The table's checks on the columns that an update may change. -/
def OutboxMessageRecord.checked (record : OutboxMessageRecord) : Except String Unit := do
  require ((record.lockedBy = none ∧ record.lockedUntil = none)
    ∨ (record.lockedBy.isSome ∧ (∀ owner ∈ record.lockedBy, nonblank owner)
      ∧ record.lockedUntil.isSome)) "lock_complete"
  require (record.lockedBy = none ∨ 0 < record.attemptCount) "lock_requires_attempt"
  require (record.deliveredAt = none ∨ (record.lockedBy = none ∧ record.lockedUntil = none))
    "delivered_has_no_lock"
  require (∀ code ∈ record.lastErrorCode, nonblank code) "error_code_nonblank"

/-- `locked_until > clock_timestamp()` -/
def OutboxMessageRecord.unexpired (record : OutboxMessageRecord) (clock : Moment) : Prop :=
  ∃ stop ∈ record.lockedUntil, clock < stop

instance (record : OutboxMessageRecord) (clock : Moment) :
    Decidable (record.unexpired clock) :=
  inferInstanceAs (Decidable (∃ stop ∈ record.lockedUntil, clock < stop))

/-- `v2_validate_outbox_update` -/
def validateOutboxUpdate (clock : Moment) (old new : OutboxMessageRecord) :
    Except String Unit := do
  require (old.attemptCount ≤ new.attemptCount) "outbox attempts cannot move backward"
  if old.deliveredAt ≠ none then
    require (new.deliveredAt = old.deliveredAt ∧ new.attemptCount = old.attemptCount
        ∧ new.availableAt = old.availableAt ∧ new.lockedBy = old.lockedBy
        ∧ new.lockedUntil = old.lockedUntil ∧ new.lastErrorCode = old.lastErrorCode)
      "delivered outbox message is terminal"
  else do
    require (old.lockedBy ≠ new.lockedBy ∧ new.lockedBy ≠ none →
        old.attemptCount < new.attemptCount)
      "outbox claim owner change must increment attempts"
    require (old.lockedBy ≠ new.lockedBy ∧ new.lockedBy ≠ none →
        ¬(old.lockedBy ≠ none ∧ old.unexpired clock))
      "unexpired outbox claim cannot be stolen"
    require (¬(new.deliveredAt = none ∧ old.lockedBy ≠ none ∧ old.unexpired clock
        ∧ (new.lockedBy = none ∨ new.lockedUntil = none
          ∨ ∃ stop ∈ new.lockedUntil, ∃ before ∈ old.lockedUntil, stop < before)))
      "unexpired outbox claim cannot be shortened or released"
    require (new.deliveredAt ≠ none → old.lockedBy ≠ none ∧ old.lockedUntil ≠ none)
      "outbox delivery requires an active claim"
    require (new.deliveredAt ≠ none → old.unexpired clock)
      "outbox delivery requires an unexpired claim"
    require (new.deliveredAt ≠ none → 0 < old.attemptCount)
      "outbox delivery requires a positive attempt count"
    require (new.deliveredAt ≠ none → new.lockedBy = none ∧ new.lockedUntil = none)
      "outbox delivery must clear its claim"
    require (new.deliveredAt ≠ none → new.lastErrorCode = none)
      "outbox delivery must clear last error"

/-- `UPDATE outbox_messages` of one row, with its trigger and its checks. -/
def updateOutboxRow (clock : Moment) (old new : OutboxMessageRecord)
    (rows : List OutboxMessageRecord) : Except String (List OutboxMessageRecord) := do
  validateOutboxUpdate clock old new
  new.checked
  pure (rows.map fun row => if row.messageId = old.messageId then new else row)

/-! ## The worker -/

/-- `OutboxDeliveryWorker`, without its clock and its publisher. -/
structure OutboxDeliveryWorker where
  workerId : String
  leaseSeconds : Nat
  workerIdBound : workerId ≠ "" ∧ workerId.length ≤ 128
  leaseBound : leaseSeconds ≤ 3600

/-- The rows that a worker may claim, in the order of the query. -/
def claimable (claimedAt : Moment) (skipped : List UUID) (rows : List OutboxMessageRecord) :
    List OutboxMessageRecord :=
  (rows.filter fun row => row.messageId ∉ skipped ∧ row.deliveredAt = none
    ∧ row.availableAt ≤ claimedAt ∧ ∀ stop ∈ row.lockedUntil, stop ≤ claimedAt).insertionSort
      fun a b => (toLex (a.availableAt, a.messageId) : Moment ×ₗ UUID)
        ≤ toLex (b.availableAt, b.messageId)

/-- The row as a claim writes it. -/
def OutboxMessageRecord.claimedBy (record : OutboxMessageRecord)
    (worker : OutboxDeliveryWorker) (claimedAt : Moment) : OutboxMessageRecord :=
  { record with
    attemptCount := record.attemptCount + 1
    lockedBy := some worker.workerId
    lockedUntil := some (claimedAt + worker.leaseSeconds * 1000000)
    lastErrorCode := none }

@[simp] theorem OutboxMessageRecord.messageId_claimedBy (record : OutboxMessageRecord)
    (worker : OutboxDeliveryWorker) (claimedAt : Moment) :
    (record.claimedBy worker claimedAt).messageId = record.messageId := rfl

/-- `_claim` -/
def claimOutbox (worker : OutboxDeliveryWorker) (claimedAt clock : Moment)
    (skipped : List UUID) (rows : List OutboxMessageRecord) :
    Except String (Option OutboxMessage × List OutboxMessageRecord) :=
  match (claimable claimedAt skipped rows).head? with
  | none => .ok (none, rows)
  | some record => do
      let claimed := record.claimedBy worker claimedAt
      let rows' ← updateOutboxRow clock record claimed rows
      pure (some claimed.message, rows')

/-- The row as an acknowledgement writes it. -/
def OutboxMessageRecord.delivered (record : OutboxMessageRecord) (deliveredAt : Moment) :
    OutboxMessageRecord :=
  { record with
    deliveredAt := some deliveredAt
    lockedBy := none
    lockedUntil := none
    lastErrorCode := none }

@[simp] theorem OutboxMessageRecord.messageId_delivered (record : OutboxMessageRecord)
    (deliveredAt : Moment) : (record.delivered deliveredAt).messageId = record.messageId :=
  rfl

/-- `_ack` -/
def ackOutbox (worker : OutboxDeliveryWorker) (messageId : UUID)
    (deliveredAt clock : Moment) (rows : List OutboxMessageRecord) :
    Except String (List OutboxMessageRecord) :=
  match rows.find? fun row => row.messageId = messageId ∧ row.deliveredAt = none
      ∧ row.lockedBy = some worker.workerId with
  | none => .error "outbox claim was lost before acknowledgement"
  | some record => updateOutboxRow clock record (record.delivered deliveredAt) rows

/-! ## The system -/

/-- Where a worker stands in `run_once`. -/
inductive WorkerPhase
  | idle
  | publishing (message : OutboxMessage)
  | published (message : OutboxMessage)

structure OutboxSystem where
  rows : List OutboxMessageRecord
  phase : String → WorkerPhase

def OutboxSystem.empty : OutboxSystem := ⟨[], fun _ => .idle⟩

/-- A transaction, an answer of the publisher, or a crash; `clock` is what the
database clock reads in the transaction. -/
inductive OutboxAction
  | enqueue (messageId : UUID) (content : OutboxContent) (availableAt : Moment)
  | claim (worker : OutboxDeliveryWorker) (claimedAt clock : Moment) (skipped : List UUID)
  | publishReturned (workerId : String)
  | publishRaised (workerId : String)
  | acknowledge (worker : OutboxDeliveryWorker) (deliveredAt clock : Moment)
  | crash (workerId : String)

/-- What a step leaves on record. -/
inductive OutboxEvent
  | claimed (workerId : String) (messageId : UUID)
  | published (workerId : String) (messageId : UUID)
  | delivered (workerId : String) (messageId : UUID)
deriving DecidableEq

/-- A worker moves on. -/
def OutboxSystem.moved (s : OutboxSystem) (workerId : String) (phase : WorkerPhase)
    (rows : List OutboxMessageRecord) : OutboxSystem :=
  ⟨rows, fun other => if other = workerId then phase else s.phase other⟩

/-- One step of `run_once` of a worker, or of its surroundings.  An error ends
the run of the worker, and its transaction is rolled back. -/
def OutboxSystem.step (s : OutboxSystem) : OutboxAction →
    Option (OutboxSystem × Option OutboxEvent)
  | .enqueue messageId content availableAt =>
      if messageId ∈ s.rows.map (·.messageId) then none
      else some ({ s with
        rows := s.rows ++ [⟨messageId, content, availableAt, none, none, 0, none, none⟩] }, none)
  | .claim worker claimedAt clock skipped =>
      match s.phase worker.workerId with
      | .idle =>
          match claimOutbox worker claimedAt clock skipped s.rows with
          | .ok (some message, rows) =>
              some (s.moved worker.workerId (.publishing message) rows,
                some (.claimed worker.workerId message.messageId))
          | .ok (none, _) => some (s, none)
          | .error _ => some (s, none)
      | _ => none
  | .publishReturned workerId =>
      match s.phase workerId with
      | .publishing message =>
          some (s.moved workerId (.published message) s.rows,
            some (.published workerId message.messageId))
      | _ => none
  | .publishRaised workerId =>
      match s.phase workerId with
      | .publishing _ => some (s.moved workerId .idle s.rows, none)
      | _ => none
  | .acknowledge worker deliveredAt clock =>
      match s.phase worker.workerId with
      | .published message =>
          match ackOutbox worker message.messageId deliveredAt clock s.rows with
          | .ok rows =>
              some (s.moved worker.workerId .idle rows,
                some (.delivered worker.workerId message.messageId))
          | .error _ => some (s.moved worker.workerId .idle s.rows, none)
      | _ => none
  | .crash workerId => some (s.moved workerId .idle s.rows, none)

/-- A step, with what it leaves on record. -/
def OutboxSteps (s : OutboxSystem) (label : OutboxAction × Option OutboxEvent)
    (s' : OutboxSystem) : Prop :=
  s.step label.1 = some (s', label.2)

end TrackAnywhere.Ports
