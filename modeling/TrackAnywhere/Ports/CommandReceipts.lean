import TrackAnywhere.Ports.EventStore
import TrackAnywhere.Ports.JournalAppliers

/-!
# Idempotent commands and their receipts

A command is identified by its receipt scope: actor, Book, operation and the
hash of the idempotency key.  The first command of a scope inserts a receipt in
status `processing` and completes it in the same transaction; a later one finds
the completed receipt and is answered from it, if its request hash is the same.

The statements on `command_receipts` carry the constraints and triggers of the
table.  Timestamps are left out.
-/

namespace TrackAnywhere.Ports

open TrackAnywhere.Verified.Checked

/-! ## Errors -/

/-- What a command may raise.  An `integrity` error comes from a constraint or
a trigger, a `database` error is any other `DBAPIError`; `other` is what an
authorizer, a handler or a finalizer raises. -/
inductive CommandError
  | idempotencyValidation (message : String)
  | idempotencyConflict
  | canonicalJson (message : String)
  | receiptState (message : String)
  | bookEventHeadNotFound (message : String)
  | bookWritePaused (message : String)
  | ledgerWriteBoundary (message : String)
  | append (error : AppendError)
  | projection (error : SyncError)
  | integrity (rule : String)
  | database (connectionInvalidated : Bool) (sqlstate : Option String)
  | other (message : String)
deriving DecidableEq

/-- `_is_retryable`, of the errors that are `DBAPIError`s. -/
def CommandError.isRetryable : CommandError → Bool
  | database connectionInvalidated sqlstate =>
      connectionInvalidated || sqlstate = some "40001"
        || sqlstate = some "40P01"
  | _ => false

/-! ## Commands -/

/-- `CommandActor`, with the check of its constructor. -/
structure CommandActor where
  subjectId : String
  hBound : subjectId ≠ "" ∧ subjectId.length ≤ 128
deriving DecidableEq

/-- `AuthorizationScope`, with the checks of its constructor. -/
structure AuthorizationScope where
  bookId : UUID
  actorSubjectId : String
  role : String
  scopes : List String
  hActor : actorSubjectId ≠ "" ∧ actorSubjectId.length ≤ 128
  hRole : role ≠ ""
  hScopes : ∀ scope ∈ scopes, scope ≠ ""
deriving DecidableEq

def AuthorizationScope.canonicalValue (self : AuthorizationScope) : JSONValue :=
  .dict [("actor_subject_id", .str self.actorSubjectId),
    ("book_id", .uuid self.bookId), ("role", .str self.role),
    ("scopes", .list ((self.scopes.dedup.insertionSort (· ≤ ·)).map .str))]

/-- The attributes of an `IdempotencyCommand`, and its payload. -/
structure IdempotencyCommand where
  bookId : UUID
  commandId : UUID
  operation : String
  idempotencyPayload : List (String × JSONValue)

/-- `CommandResult`. -/
structure CommandResult where
  responseSchemaVersion : Nat
  statusCode : Nat
  body : JSONValue
  firstBookPosition : Option Nat
  lastBookPosition : Option Nat

/-- `type(body) in {dict, list}`. -/
def JSONValue.isContainer : JSONValue → Bool
  | .list _ => true
  | .dict _ => true
  | _ => false

/-- `__post_init__`. -/
def CommandResult.postInit (self : CommandResult) : Except CommandError Unit := do
  require (1 ≤ self.responseSchemaVersion ∧ self.responseSchemaVersion ≤ 32767)
    (.idempotencyValidation "response schema version is invalid")
  require (100 ≤ self.statusCode ∧ self.statusCode ≤ 599)
    (.idempotencyValidation "response status is invalid")
  require self.body.isContainer
    (.idempotencyValidation "response body must be an object or array")
  let _ ← (canonicalJsonBytes self.body).mapError CommandError.canonicalJson
  require (self.firstBookPosition.isNone = self.lastBookPosition.isNone)
    (.idempotencyValidation "result position range is incomplete")
  match self.firstBookPosition, self.lastBookPosition with
  | some first, some last =>
      require (1 ≤ first ∧ first ≤ last)
        (.idempotencyValidation "result position range is invalid")
  | _, _ => return ()

/-- `CommandOutcome`. -/
structure CommandOutcome where
  result : CommandResult
  replayed : Bool

section Hashes

variable (sha256 : ByteArray → EventHash)

/-- `_REQUEST_HASH_DOMAIN`. -/
def requestHashDomain : ByteArray :=
  "track-anywhere:v2:command-request:sha256:v1".toUTF8 ++ ⟨#[0]⟩

/-- `hash_idempotency_key`. -/
def hashIdempotencyKey (rawKey : String) : Except CommandError EventHash := do
  require (rawKey ≠ "")
    (.idempotencyValidation "idempotency key must be a nonempty string")
  return sha256 rawKey.toUTF8

/-- `hash_command_request`. -/
def hashCommandRequest (command : IdempotencyCommand)
    (authorizationScope : AuthorizationScope) :
    Except CommandError EventHash := do
  require (command.bookId = authorizationScope.bookId)
    (.idempotencyValidation "command Book does not match authorization")
  require (command.operation ≠ "" ∧ command.operation.length ≤ 96)
    (.idempotencyValidation "command operation is outside its bound")
  let frozenRequest ← (canonicalJsonBytes (.dict
    [("authorization", authorizationScope.canonicalValue),
      ("book_id", .uuid command.bookId), ("operation", .str command.operation),
      ("payload", .dict command.idempotencyPayload)])).mapError
        CommandError.canonicalJson
  return sha256 (requestHashDomain ++ frozenRequest)

end Hashes

/-! ## Receipts -/

/-- `ReceiptScope`: the primary key of `command_receipts`. -/
structure ReceiptScope where
  actorSubjectId : String
  bookId : UUID
  operation : String
  idempotencyKeyHash : EventHash
deriving DecidableEq

inductive ReceiptStatus
  | processing
  | completed
deriving DecidableEq

/-- `command_receipts`. -/
structure CommandReceiptRecord where
  scope : ReceiptScope
  requestHash : EventHash
  commandId : UUID
  status : ReceiptStatus
  responseSchemaVersion : Option Nat
  resultStatus : Option Nat
  resultBody : Option JSONValue
  firstBookPosition : Option Nat
  lastBookPosition : Option Nat

/-- The row that `reserve_or_lock` inserts. -/
def processingReceipt (scope : ReceiptScope) (requestHash : EventHash)
    (commandId : UUID) : CommandReceiptRecord where
  scope := scope
  requestHash := requestHash
  commandId := commandId
  status := .processing
  responseSchemaVersion := none
  resultStatus := none
  resultBody := none
  firstBookPosition := none
  lastBookPosition := none

/-- Two rows collide in the primary key or in `uq_command_receipts_command_id`. -/
def CommandReceiptRecord.Collides (a b : CommandReceiptRecord) : Prop :=
  a.scope = b.scope ∨ a.commandId = b.commandId

instance (a b : CommandReceiptRecord) : Decidable (a.Collides b) :=
  inferInstanceAs (Decidable (_ ∨ _))

/-- `INSERT … ON CONFLICT DO NOTHING RETURNING command_id`: the row that was
inserted, if it was. -/
def insertReceipt (receipts : List CommandReceiptRecord)
    (row : CommandReceiptRecord) :
    Except CommandError (Option CommandReceiptRecord) := do
  require (nonblank row.scope.actorSubjectId)
    (.integrity "ck_command_receipts_actor_subject_id_nonblank")
  require (nonblank row.scope.operation)
    (.integrity "ck_command_receipts_operation_nonblank")
  return if receipts.any fun other => row.Collides other then none
    else some row

/-- `_lock`: the visible row of the scope. -/
def lockReceipt (receipts : List CommandReceiptRecord)
    (inserted : Option CommandReceiptRecord) (scope : ReceiptScope) :
    Option CommandReceiptRecord :=
  (receipts ++ inserted.toList).find? fun row => row.scope = scope

/-- `ReceiptReservation`. -/
structure ReceiptReservation where
  created : Bool
  receipt : CommandReceiptRecord

/-- `reserve_or_lock`, after its two statements. -/
def reserve (inserted record : Option CommandReceiptRecord) :
    Except CommandError ReceiptReservation := do
  let record ← fetch record
    (.receiptState "command receipt conflict has no matching scope")
  let created := inserted.isSome
  require (created = true → record.status = .processing)
    (.receiptState "new command receipt has an invalid state")
  require (created = false → record.status = .completed)
    (.receiptState "existing command receipt is not completed")
  return { created := created, receipt := record }

/-- `replay_result`. -/
def CommandReceiptRecord.replayResult (self : CommandReceiptRecord) :
    Except CommandError CommandResult :=
  match self.status, self.responseSchemaVersion, self.resultStatus,
    self.resultBody with
  | .completed, some responseSchemaVersion, some resultStatus,
    some resultBody => do
      let result : CommandResult :=
        { responseSchemaVersion := responseSchemaVersion
          statusCode := resultStatus
          body := resultBody
          firstBookPosition := self.firstBookPosition
          lastBookPosition := self.lastBookPosition }
      result.postInit
      return result
  | _, _, _, _ =>
      throw (.receiptState "command receipt is not replayable")

/-- `replay_or_conflict`. -/
def ReceiptReservation.replayOrConflict (self : ReceiptReservation)
    (requestHash : EventHash) : Except CommandError CommandResult := do
  require (self.created = false)
    (.receiptState "new command receipt cannot be replayed")
  require (self.receipt.requestHash = requestHash) .idempotencyConflict
  self.receipt.replayResult

/-- The row after `complete`. -/
def CommandReceiptRecord.completed (self : CommandReceiptRecord)
    (result : CommandResult) : CommandReceiptRecord :=
  { self with
    status := .completed
    responseSchemaVersion := some result.responseSchemaVersion
    resultStatus := some result.statusCode
    resultBody := some result.body
    firstBookPosition := result.firstBookPosition
    lastBookPosition := result.lastBookPosition }

/-- `complete`, on the row of the scope: the update, and the foreign keys to the
events of the Book. -/
def completeReceipt (events : List LedgerEventRecord)
    (record : CommandReceiptRecord) (result : CommandResult) :
    Except CommandError CommandReceiptRecord := do
  require (record.status = .processing)
    (.receiptState "command receipt cannot be completed")
  require (result.firstBookPosition.all fun position =>
      (record.scope.bookId, position) ∈ events.map fun e =>
        (e.bookId, e.bookPosition))
    (.integrity "fk_command_receipts_first_event")
  require (result.lastBookPosition.all fun position =>
      (record.scope.bookId, position) ∈ events.map fun e =>
        (e.bookId, e.bookPosition))
    (.integrity "fk_command_receipts_last_event")
  return record.completed result

/-- `v2_reject_processing_receipt`, deferred to the commit. -/
def rejectProcessingReceipt (events : List LedgerEventRecord)
    (receipt : CommandReceiptRecord) : Except CommandError Unit := do
  require (receipt.status = .completed)
    (.integrity "processing command receipt cannot commit")
  match receipt.firstBookPosition, receipt.lastBookPosition with
  | some first, some last =>
      require ((((events.filter fun e =>
            e.bookId = receipt.scope.bookId ∧ first ≤ e.bookPosition
              ∧ e.bookPosition ≤ last
              ∧ e.commandId = receipt.commandId).length : Nat) : Int)
          = last - first + 1)
        (.integrity ("command receipt range must be contiguous and owned by "
          ++ "its command"))
  | _, _ => return ()

/-! ## Replaying -/

/-- A completed receipt replays the result it was completed with. -/
theorem replayResult_completed {record : CommandReceiptRecord}
    {result : CommandResult} (hResult : result.postInit = .ok ()) :
    (record.completed result).replayResult = .ok result := by
  unfold CommandReceiptRecord.replayResult CommandReceiptRecord.completed
  simp only [bind_eq_ok, pure_eq_ok]
  exact ⟨(), hResult, trivial⟩

/-- A receipt that is found is replayed to the same request only. -/
theorem replayOrConflict_completed {record : CommandReceiptRecord}
    {result : CommandResult} (hResult : result.postInit = .ok ())
    (requestHash : EventHash) :
    ReceiptReservation.replayOrConflict ⟨false, record.completed result⟩
        requestHash
      = if requestHash = record.requestHash then .ok result
        else .error .idempotencyConflict := by
  have hReplay := @replayResult_completed record result hResult
  unfold ReceiptReservation.replayOrConflict
  split_ifs with hSame
  · simp only [bind_eq_ok, require_eq_ok]
    exact ⟨(), trivial, (), hSame.symm, hReplay⟩
  · have hNot : ¬(record.completed result).requestHash = requestHash :=
      fun hEq => hSame hEq.symm
    simp [require, hNot]
    rfl

end TrackAnywhere.Ports
