import TrackAnywhere.Ports.LedgerCommitter
import TrackAnywhere.Verified.ExactlyOnce

/-!
# Financial commands, interleaved

Any number of processes call `execute_financial`.  `CommandProcess.next` is the
statement a process executes next in its transaction: it reads what is
committed at that moment and what the process itself has written, a process
holds the row locks of its phase, and what it has written is visible to the
others once it commits.  Any statement may fail, and so may the commit; a
failed attempt is rolled back and retried if the error allows it.  A commit may
also go through and its response get lost.

What the code asks of its parameters, the authorizer, the handler, the
finalizer and the columns the database generates, is answered anew at each
statement, by whatever `Answers` the step brings along.
-/

namespace TrackAnywhere.Ports

open TrackAnywhere.Verified
open TrackAnywhere.Verified.Checked
open TrackAnywhere.Verified.ExactlyOnce

/-! ## Calls -/

/-- The arguments of `execute_financial`. -/
structure FinancialCall where
  command : IdempotencyCommand
  rawKey : String
  actor : CommandActor
  maxAttempts : Nat

/-- What the callbacks and the database answer when a statement asks them. -/
structure Answers where
  authorization : Except CommandError AuthorizationScope
  plan : Except CommandError LedgerWritePlan
  generated : UUID → Nat × Instant
  finalizer : Except CommandError Unit

/-- `execute_financial`, up to the first attempt: the hash of the key. -/
def startFinancial (sha256 : ByteArray → EventHash) (call : FinancialCall) :
    Except CommandError EventHash := do
  require (1 ≤ call.maxAttempts ∧ call.maxAttempts ≤ 10)
    (.idempotencyValidation "max_attempts is outside its bound")
  hashIdempotencyKey sha256 call.rawKey

/-! ## Processes -/

/-- What a process commits besides its outcome. -/
structure PendingWrites where
  receipt : CommandReceiptRecord
  plan : LedgerWritePlan
  result : CommandResult
  ledger : BookLedger

/-- Where a process stands, with its local variables; `receipt` is the row it
has inserted, and `ledger` its Book as its own transaction sees it. -/
inductive Phase
  | begun
  | authorized (requestHash : EventHash)
  | inserted (requestHash : EventHash) (row : Option CommandReceiptRecord)
  | reserved (requestHash : EventHash) (reservation : ReceiptReservation)
  | headLocked (receipt : CommandReceiptRecord) (head : LockedBookHead)
  | bookLocked (receipt : CommandReceiptRecord) (head : LockedBookHead)
  | planned (receipt : CommandReceiptRecord) (head : LockedBookHead)
      (plan : LedgerWritePlan)
  | appended (receipt : CommandReceiptRecord) (plan : LedgerWritePlan)
      (batch : AppendBatchResult) (ledger : BookLedger)
      (unprojected : List LedgerEventRecord)
  | finalized (receipt : CommandReceiptRecord) (plan : LedgerWritePlan)
      (batch : AppendBatchResult) (ledger : BookLedger)
  | completed (writes : PendingWrites)
  | committing (requestHash : EventHash) (result : CommandResult)
      (writes : Option PendingWrites)
  | returned (requestHash : EventHash) (outcome : CommandOutcome)
  | raised (error : CommandError)

/-- A call under way, in its attempt `attempt`. -/
structure CommandProcess where
  call : FinancialCall
  keyHash : EventHash
  attempt : Nat
  phase : Phase

namespace CommandProcess

/-- `receipt_scope`. -/
def scope (p : CommandProcess) : ReceiptScope where
  actorSubjectId := p.call.actor.subjectId
  bookId := p.call.command.bookId
  operation := p.call.command.operation
  idempotencyKeyHash := p.keyHash

/-- The row of the first command of the scope. -/
def newReceipt (p : CommandProcess) (requestHash : EventHash) :
    CommandReceiptRecord :=
  processingReceipt p.scope requestHash p.call.command.commandId

/-- The call has neither returned nor raised. -/
def isRunning (p : CommandProcess) : Bool :=
  match p.phase with
  | .returned _ _ => false
  | .raised _ => false
  | _ => true

/-- An attempt that raises: another attempt, or the end of the call. -/
def fail (p : CommandProcess) (error : CommandError) : CommandProcess :=
  if p.call.maxAttempts ≤ p.attempt + 1 ∨ error.isRetryable = false then
    { p with phase := .raised error }
  else { p with attempt := p.attempt + 1, phase := .begun }

end CommandProcess

/-- The locks processes wait for. -/
inductive CommandLock
  | receipt (scope : ReceiptScope)
  | commandId (commandId : UUID)
  | bookHead (bookId : UUID)
deriving DecidableEq

namespace CommandProcess

/-- An inserted row is locked under its scope and its command id, a found one
under its scope. -/
def locks (p : CommandProcess) : List CommandLock :=
  let receipt := CommandLock.receipt p.scope
  let inserted := [receipt, .commandId p.call.command.commandId]
  let all := .bookHead p.call.command.bookId :: inserted
  match p.phase with
  | .begun => []
  | .authorized _ => []
  | .inserted _ none => []
  | .inserted _ (some _) => inserted
  | .reserved _ reservation => if reservation.created then inserted else [receipt]
  | .headLocked _ _ => all
  | .bookLocked _ _ => all
  | .planned _ _ _ => all
  | .appended _ _ _ _ _ => all
  | .finalized _ _ _ _ => all
  | .completed _ => all
  | .committing _ _ none => [receipt]
  | .committing _ _ (some _) => all
  | .returned _ _ => []
  | .raised _ => []

end CommandProcess

/-! ## Statements -/

/-- What a statement reads. -/
structure CommandTables where
  writeState : UUID → Option BookWriteState
  catalog : UUID → Catalog
  ledgers : UUID → BookLedger
  receipts : List CommandReceiptRecord

/-- The next statement of a process, in `_execute_financial_once`. -/
def CommandProcess.next (sha256 : ByteArray → EventHash) (t : CommandTables)
    (answers : Answers) (p : CommandProcess) : Except CommandError Phase :=
  let command := p.call.command
  match p.phase with
  | .begun => do
      require (command.operation ≠ "" ∧ command.operation.length ≤ 96)
        (.idempotencyValidation "command operation is outside its bound")
      let authorizationScope ← answers.authorization
      require (authorizationScope.actorSubjectId = p.call.actor.subjectId)
        (.idempotencyValidation "authorization actor does not match")
      let requestHash ← hashCommandRequest sha256 command authorizationScope
      return .authorized requestHash
  | .authorized requestHash => do
      let row ← insertReceipt t.receipts (p.newReceipt requestHash)
      return .inserted requestHash row
  | .inserted requestHash row => do
      let reservation ← reserve row (lockReceipt t.receipts row p.scope)
      return .reserved requestHash reservation
  | .reserved requestHash reservation =>
      if reservation.created = false then do
        let result ← reservation.replayOrConflict requestHash
        return .committing requestHash result none
      else do
        let head ← lockBookHead (t.ledgers command.bookId) command.bookId
        return .headLocked reservation.receipt head
  | .headLocked receipt head => do
      requireActiveBook (t.writeState command.bookId)
      return .bookLocked receipt head
  | .bookLocked receipt head => do
      let plan ← answers.plan
      require (∀ event ∈ plan.events, event.commandId = command.commandId
          ∧ event.actorSubjectId = p.call.actor.subjectId)
        (.idempotencyValidation
          "financial event identity does not match the command")
      return .planned receipt head plan
  | .planned receipt head plan => do
      let (batch, store, storedEvents) ← appendLocked sha256 head plan
        answers.generated (t.ledgers command.bookId)
      return .appended receipt plan batch
        { t.ledgers command.bookId with store := store } storedEvents
  | .appended receipt plan batch ledger (stored :: unprojected) => do
      let ledger ← projectLocked (t.catalog command.bookId) ledger stored
      return .appended receipt plan batch ledger unprojected
  | .appended receipt plan batch ledger [] => do
      answers.finalizer
      return .finalized receipt plan batch ledger
  | .finalized receipt plan batch ledger => do
      let result ← plan.toResult batch
      let completed ← completeReceipt ledger.store.events receipt result
      return .completed ⟨completed, plan, result, ledger⟩
  | .completed writes => do
      rejectProcessingReceipt writes.ledger.store.events writes.receipt
      return .committing writes.receipt.requestHash writes.result (some writes)
  | phase => return phase

/-! ## The interleaved system -/

/-- A plan, under the id of the command it was made for. -/
structure CommandPlan where
  commandId : UUID
  plan : LedgerWritePlan

/-- A plan that was applied, in the scope of its receipt. -/
abbrev CommandApplication :=
  Application ReceiptScope EventHash CommandPlan CommandResult

/-- The committed tables and the calls under way.  `applied` records, for the
statements about runs, the plans that have been committed. -/
structure CommandSystem where
  tables : CommandTables
  applied : List CommandApplication
  processes : Nat → Option CommandProcess

namespace CommandSystem

/-- No receipt yet, and no call. -/
def initial (writeState : UUID → Option BookWriteState)
    (catalog : UUID → Catalog) (ledgers : UUID → BookLedger) :
    CommandSystem where
  tables := ⟨writeState, catalog, ledgers, []⟩
  applied := []
  processes := fun _ => none

def setProcess (s : CommandSystem) (i : Nat) (p : CommandProcess) :
    CommandSystem :=
  { s with processes := Function.update s.processes i (some p) }

theorem setProcess_self (s : CommandSystem) (i : Nat) (p : CommandProcess) :
    (s.setProcess i p).processes i = some p := by
  simp [setProcess]

theorem setProcess_ne (s : CommandSystem) {i j : Nat} (p : CommandProcess)
    (hNe : j ≠ i) : (s.setProcess i p).processes j = s.processes j := by
  simp [setProcess, hNe]

/-- No other process holds a lock of this one. -/
def Free (s : CommandSystem) (i : Nat) (p : CommandProcess) : Prop :=
  ∀ j q, j ≠ i → s.processes j = some q → ∀ lock ∈ p.locks, lock ∉ q.locks

end CommandSystem

/-- The application a process commits. -/
def PendingWrites.application (writes : PendingWrites) : CommandApplication where
  key := writes.receipt.scope
  request := writes.receipt.requestHash
  plan := ⟨writes.receipt.commandId, writes.plan⟩
  result := writes.result

/-- What becomes visible with a commit. -/
def CommandSystem.commit (s : CommandSystem) (writes : Option PendingWrites) :
    CommandSystem :=
  match writes with
  | none => s
  | some writes => { s with
      tables := { s.tables with
        ledgers := Function.update s.tables.ledgers writes.receipt.scope.bookId
          writes.ledger
        receipts := s.tables.receipts ++ [writes.receipt] }
      applied := s.applied ++ [writes.application] }

inductive CommandAction
  | call (i : Nat) (call : FinancialCall)
  | statement (i : Nat)
  | fault (i : Nat)
  | commit (i : Nat)
  | commitLost (i : Nat)
  | catalog

/-- One step of the system. -/
inductive Executes (sha256 : ByteArray → EventHash) :
    CommandSystem → CommandAction → CommandSystem → Prop
  | call {s : CommandSystem} {i : Nat} {call : FinancialCall}
      {keyHash : EventHash} (hIdle : s.processes i = none)
      (hStart : startFinancial sha256 call = .ok keyHash) :
      Executes sha256 s (.call i call)
        (s.setProcess i ⟨call, keyHash, 0, .begun⟩)
  | statement {s : CommandSystem} {i : Nat} {p : CommandProcess}
      {answers : Answers} {phase : Phase} (hProcess : s.processes i = some p)
      (hNext : p.next sha256 s.tables answers = .ok phase)
      (hFree : s.Free i { p with phase := phase }) :
      Executes sha256 s (.statement i)
        (s.setProcess i { p with phase := phase })
  | raise {s : CommandSystem} {i : Nat} {p : CommandProcess}
      {answers : Answers} {error : CommandError}
      (hProcess : s.processes i = some p)
      (hNext : p.next sha256 s.tables answers = .error error) :
      Executes sha256 s (.statement i) (s.setProcess i (p.fail error))
  -- the database, the connection or the process itself fails
  | fault {s : CommandSystem} {i : Nat} {p : CommandProcess}
      {error : CommandError} (hProcess : s.processes i = some p)
      (hRunning : p.isRunning = true) :
      Executes sha256 s (.fault i) (s.setProcess i (p.fail error))
  | commit {s : CommandSystem} {i : Nat} {p : CommandProcess}
      {requestHash : EventHash} {result : CommandResult}
      {writes : Option PendingWrites} (hProcess : s.processes i = some p)
      (hPhase : p.phase = .committing requestHash result writes) :
      Executes sha256 s (.commit i) ((s.commit writes).setProcess i
        { p with phase := .returned requestHash ⟨result, writes.isNone⟩ })
  -- the commit goes through and the connection is lost before the response
  | commitLost {s : CommandSystem} {i : Nat} {p : CommandProcess}
      {requestHash : EventHash} {result : CommandResult}
      {writes : Option PendingWrites} (hProcess : s.processes i = some p)
      (hPhase : p.phase = .committing requestHash result writes) :
      Executes sha256 s (.commitLost i) ((s.commit writes).setProcess i
        (p.fail (.database true none)))
  -- catalog commands change what is outside of the ledger
  | catalog {s : CommandSystem} {writeState : UUID → Option BookWriteState}
      {catalog : UUID → Catalog} :
      Executes sha256 s .catalog { s with
        tables := { s.tables with writeState := writeState, catalog := catalog } }

end TrackAnywhere.Ports
