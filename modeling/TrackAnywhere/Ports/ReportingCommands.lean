import TrackAnywhere.Ports.AppendedRows
import TrackAnywhere.Ports.EntryCompiler
import TrackAnywhere.Ports.ReverseTransaction

/-!
# Reporting commands and their projection

`buildAssignPlan` and `buildClearPlan` make the event that replaces or removes
the reporting lines of a transaction, and the projector checks that event again
with rules of its own.  The two sides read the same rows and state the same
rules: the handler in terms of the command and of total amounts, the projector
in terms of the event and of two dictionaries of units.

The rule that a reversal keeps the lines of its original stands in
`buildAssignPlan` and in the projector, and not in `buildClearPlan`.
-/

namespace TrackAnywhere.Ports

open TrackAnywhere.Verified
open TrackAnywhere.Verified.Checked
open TrackAnywhere.Verified.KeyedSum

/-! ## Commands -/

inductive ReportingError
  | transactionNotFound (message : String)
  | unsupportedReportingTarget (message : String)
  | unsupportedCreditCardReporting (message : String)
  | unsupportedReportingDimension (message : String)
  | catalogNotFound (message : String)
  | idempotencyValidation (message : String)
  /-- What the shared validator of allocations and the contracts raise. -/
  | validation (error : EntryError)

structure AssignReportingLinesCommand where
  commandId : UUID
  transactionId : UUID
  expectedRevision : Nat
  lines : List ReportingLineInput
  effectiveAt : Instant

structure ClearReportingLinesCommand where
  commandId : UUID
  transactionId : UUID
  expectedRevision : Nat
  effectiveAt : Instant

/-- The events of a reporting plan and the numbers of its body. -/
structure ReportingPlan where
  expectedStreamVersions : Dict StreamKey Int
  events : List PendingEvent
  transactionId : UUID
  classificationRevision : Nat
  asOfBookPosition : Nat

/-- What the handlers and the projector read of one Book under its lock, with
what the constraints of the tables and of the lock say about it. -/
structure ReportingReads where
  db : BookReads
  lockedHead : LockedBookHead
  /-- The Book of the command is the one that is locked. -/
  hBook : lockedHead.bookId = db.bookId
  /-- `pk_ledger_events` -/
  hEvents : (db.ledger.map (·.eventId)).Nodup
  /-- `fk_journal_transactions_source_event` -/
  hSources : ∀ row ∈ db.tables.journalTransactions,
    ∃ event ∈ db.ledger, event.bookId = db.bookId ∧ event.eventId = row.sourceEventId
  /-- `fk_journal_transactions_source_position`: the head is at the last event. -/
  hPositions : ∀ row ∈ db.tables.journalTransactions,
    row.sourcePosition ≤ lockedHead.lastPosition
  /-- `units` is positive and `NUMERIC(38, 0)`. -/
  hUnits : ∀ row ∈ db.tables.journalPostings, 0 < row.units ∧ row.units < 10 ^ 38
  /-- `fk_transaction_reversals_reversal_source` -/
  hReversals : ∀ row ∈ db.tables.transactionReversals,
    row.reversalTransactionId ∈ db.tables.journalTransactions.map (·.transactionId)

/-! ## The handlers -/

/-- `_load_reporting_target` -/
def BookReads.loadReportingTarget (db : BookReads) (transactionId : UUID) :
    Except ReportingError JournalTransactionRecord :=
  fetch (db.tables.transaction? transactionId)
    (.transactionNotFound "journal transaction not found in requested Book")

/-- The contract that a posting row is read into. -/
def JournalPostingRecord.fact (row : JournalPostingRecord) :
    Except ReportingError JournalPostingFact :=
  if h : 0 < row.units ∧ row.units < 10 ^ 38 then
    .ok ⟨row.postingId, row.postingPosition, row.accountId, row.assetCode, row.side,
      row.units, h⟩
  else .error (.validation (.contract "String should match pattern '^[1-9][0-9]{0,37}$'"))

/-- `_validate_lines` -/
def BookReads.validateLines (db : BookReads) (command : AssignReportingLinesCommand)
    (transaction : JournalTransactionRecord) : Except ReportingError Unit := do
  require (transaction.transactionKind = .creditCard .payment →
      (db.event? transaction.sourceEventId).map (·.eventType)
        = some "JournalTransactionPosted")
    (.unsupportedCreditCardReporting
      "credit-card payments are balance-sheet transfers and cannot be categorized")
  forEach command.lines fun line => do
    require (line.dimension = .category ∧ line.dimensionId ≠ none)
      (.unsupportedReportingDimension
        "reporting dimension has no immutable V2 catalog contract")
    -- `get_category_version`
    require (line.dimensionId.any fun categoryId =>
        (categoryId, line.catalogId) ∈ db.catalog.categoryVersions)
      (.catalogNotFound "category version not found in requested scope")
  let postings ← (db.tables.postingsOf command.transactionId).mapM (·.fact)
  (validateReportingAllocations command.lines postings
    transaction.transactionKind).mapError .validation

/-- What `build_reporting_lines_assigned` makes of the lines. -/
def reportingLinesAssigned (transactionId : UUID) (expectedRevision : Nat)
    (lines : List ReportingLineInput) : ReportingLinesAssigned where
  transactionId := transactionId
  classificationRevision := expectedRevision + 1
  hRevision := expectedRevision.succ_pos
  lines := lines.zipIdx.map fun (line, position) => line.line position

/-- The event of a reporting plan. -/
def reportingEvent (eventId commandId transactionId : UUID) (effectiveAt : Instant)
    (actorSubjectId : String) (transaction : JournalTransactionRecord)
    (payload : EventContract) : PendingEvent where
  eventId := eventId
  streamType := "reporting_lines"
  streamId := transactionId
  payload := payload
  commandId := commandId
  actorSubjectId := actorSubjectId
  correlationId := commandId
  causationEventId := some transaction.sourceEventId
  effectiveAt := effectiveAt

/-- The plan of one reporting event. -/
def ReportingPlan.single (reads : ReportingReads) (transactionId : UUID)
    (expectedRevision : Nat) (pending : PendingEvent) : ReportingPlan where
  expectedStreamVersions := AList.singleton ("reporting_lines", transactionId)
    (expectedRevision : Int)
  events := [pending]
  transactionId := transactionId
  classificationRevision := expectedRevision + 1
  asOfBookPosition := reads.lockedHead.lastPosition + 1

section Handlers

variable (uuid5 : UUID → String → UUID) (reads : ReportingReads)

/-- `_build_assign_plan` -/
def buildAssignPlan (command : AssignReportingLinesCommand) (actorSubjectId : String) :
    Except ReportingError ReportingPlan := do
  require (reads.lockedHead.bookId = reads.db.bookId)
    (.idempotencyValidation "locked Book does not match command")
  let transaction ← reads.db.loadReportingTarget command.transactionId
  require (reads.db.tables.reversal? command.transactionId = none)
    (.unsupportedReportingTarget
      "reversal transactions inherit the original reporting lines")
  reads.db.validateLines command transaction
  let payload ← (contractOf (.reportingLinesAssigned
    (reportingLinesAssigned command.transactionId command.expectedRevision
      command.lines))).mapError .validation
  return .single reads command.transactionId command.expectedRevision
    (reportingEvent (uuid5 (uuid5 namespaceUrl
        "https://track-anywhere.dev/v2/events/reporting.assign") command.commandId.text)
      command.commandId command.transactionId command.effectiveAt actorSubjectId
      transaction payload)

/-- The payload of a clearing. -/
def reportingLinesCleared (transactionId : UUID) (expectedRevision : Nat) :
    ReportingLinesCleared where
  transactionId := transactionId
  classificationRevision := expectedRevision + 1
  hRevision := expectedRevision.succ_pos

/-- The handler of `execute_clear_reporting_lines`. -/
def buildClearPlan (command : ClearReportingLinesCommand) (actorSubjectId : String) :
    Except ReportingError ReportingPlan := do
  require (reads.lockedHead.bookId = reads.db.bookId)
    (.idempotencyValidation "locked Book does not match command")
  let transaction ← reads.db.loadReportingTarget command.transactionId
  return .single reads command.transactionId command.expectedRevision
    (reportingEvent (uuid5 (uuid5 namespaceUrl
        "https://track-anywhere.dev/v2/events/reporting.clear") command.commandId.text)
      command.commandId command.transactionId command.effectiveAt actorSubjectId
      transaction ⟨.reportingLinesCleared (reportingLinesCleared command.transactionId
        command.expectedRevision), rfl⟩)

/-- A request of either kind. -/
inductive ReportingRequest
  | assign (command : AssignReportingLinesCommand)
  | clear (command : ClearReportingLinesCommand)

namespace ReportingRequest

/-- The handler of the request. -/
def plan (actorSubjectId : String) :
    ReportingRequest → Except ReportingError ReportingPlan
  | assign command => buildAssignPlan uuid5 reads command actorSubjectId
  | clear command => buildClearPlan uuid5 reads command actorSubjectId

/-- The transaction whose lines the request is about. -/
def transactionId : ReportingRequest → UUID
  | assign command => command.transactionId
  | clear command => command.transactionId

def expectedRevision : ReportingRequest → Nat
  | assign command => command.expectedRevision
  | clear command => command.expectedRevision

/-- What the event of the request says. -/
def payload : ReportingRequest → EventPayload
  | assign command => .reportingLinesAssigned
      (reportingLinesAssigned command.transactionId command.expectedRevision command.lines)
  | clear command => .reportingLinesCleared
      (reportingLinesCleared command.transactionId command.expectedRevision)

end ReportingRequest

end Handlers

/-! ## Units of the rows -/

section Units

variable {rows : List JournalPostingRecord} {facts : List JournalPostingFact}
  {side : PostingSide} {assetCode : AssetCode}

end Units

/-! ## The rules of an assignment -/

/-- The line without its position. -/
def ReportingLine.input (line : ReportingLine) : ReportingLineInput where
  lineId := line.lineId
  lineVersionId := line.lineVersionId
  catalogId := line.catalogId
  assetCode := line.assetCode
  units := line.units
  lineKind := line.lineKind
  dimension := line.dimension
  dimensionId := line.dimensionId
  descriptionRef := line.descriptionRef

section Rules

variable {reads : ReportingReads} {row : JournalTransactionRecord}
  {transactionId : UUID} {lines : List ReportingLineInput}

end Rules

/-! ## The event that is projected -/

section Emitted

variable {sha256 : ByteArray → EventHash} {uuid5 : UUID → String → UUID}
  {reads : ReportingReads} {plan : ReportingPlan} {actorSubjectId : String}

end Emitted

/-! ## The two sides agree -/

section Agree

variable (uuid5 : UUID → String → UUID) (reads : ReportingReads) (actorSubjectId : String)

variable {uuid5 reads actorSubjectId} {request : ReportingRequest}

/-- A row for the event of a plan. -/
def PendingEvent.emitted (lockedHead : LockedBookHead) (revision : Nat)
    (pending : PendingEvent) : LedgerEventRecord where
  eventId := pending.eventId
  globalSequence := 1
  bookId := lockedHead.bookId
  bookPosition := lockedHead.lastPosition + 1
  streamType := pending.streamType
  streamId := pending.streamId
  streamVersion := revision
  eventType := pending.payload.1.eventType
  eventSchemaVersion := 1
  commandId := pending.commandId
  actorSubjectId := pending.actorSubjectId
  correlationId := pending.correlationId
  causationEventId := pending.causationEventId
  effectiveAt := pending.effectiveAt
  recordedAt := pending.effectiveAt
  payload := .registered pending.payload.1
  previousHash := lockedHead.lastHash
  eventHash := 0

end Agree

/-! ### A transaction and its reversal -/

end TrackAnywhere.Ports
