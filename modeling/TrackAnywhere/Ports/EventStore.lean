import TrackAnywhere.Ports.EventHash
import TrackAnywhere.Ports.SyncTables
import TrackAnywhere.Verified.Transaction

/-!
# The event store

`_append_batch` gives a batch of events its Book positions, stream versions and
chained hashes.  It reads the Book head and the heads of the touched streams
under row locks, builds every row in one loop, inserts the rows, and only then
advances the heads.

The constraints and triggers on the three tables are guards of the statement
that writes the row; the columns the database fills in are given with the
batch, by event id.
-/

namespace TrackAnywhere.Ports

open TrackAnywhere.Verified.Checked
open TrackAnywhere.Verified.KeyedSum
open TrackAnywhere.Verified.Transaction

/-! ## Tables -/

/-- `book_event_heads`. -/
structure BookEventHeadRecord where
  bookId : UUID
  lastPosition : Nat
  lastHash : EventHash
deriving DecidableEq

abbrev StreamKey := String × UUID

/-- `event_stream_heads`. -/
structure EventStreamHeadRecord where
  bookId : UUID
  streamType : String
  streamId : UUID
  lastVersion : Nat
  lastBookPosition : Nat
  lastEventId : UUID
deriving DecidableEq

def EventStreamHeadRecord.streamKey (head : EventStreamHeadRecord) :
    StreamKey :=
  (head.streamType, head.streamId)

def LedgerEventRecord.streamKey (stored : LedgerEventRecord) : StreamKey :=
  (stored.streamType, stored.streamId)

/-- The tables of the event store, for all Books. -/
structure EventStoreTables where
  bookHeads : List BookEventHeadRecord
  streamHeads : List EventStreamHeadRecord
  events : List LedgerEventRecord
deriving DecidableEq

namespace EventStoreTables

def bookHead? (t : EventStoreTables) (bookId : UUID) :
    Option BookEventHeadRecord :=
  t.bookHeads.find? fun h => h.bookId = bookId

def streamHead? (t : EventStoreTables) (bookId : UUID) (key : StreamKey) :
    Option EventStreamHeadRecord :=
  t.streamHeads.find? fun h => h.bookId = bookId ∧ h.streamKey = key

/-- The events of a Book, in the order they were inserted. -/
def bookEvents (t : EventStoreTables) (bookId : UUID) :
    List LedgerEventRecord :=
  t.events.filter fun e => e.bookId = bookId

/-- The events of a stream of a Book. -/
def streamEvents (t : EventStoreTables) (bookId : UUID) (key : StreamKey) :
    List LedgerEventRecord :=
  t.events.filter fun e => e.bookId = bookId ∧ e.streamKey = key

/-- New Books: heads at position zero with the zero hash, and no events. -/
def opened (bookIds : List UUID) : EventStoreTables where
  bookHeads := bookIds.map fun bookId => ⟨bookId, 0, 0⟩
  streamHeads := []
  events := []

end EventStoreTables

/-! ## Batches -/

/-- An event that waits for a Book position. -/
structure PendingEvent where
  eventId : UUID
  streamType : String
  streamId : UUID
  payload : EventContract
  commandId : UUID
  actorSubjectId : String
  correlationId : UUID
  causationEventId : Option UUID
  effectiveAt : Instant
deriving DecidableEq

def PendingEvent.streamKey (pending : PendingEvent) : StreamKey :=
  (pending.streamType, pending.streamId)

structure AppendBatchResult where
  firstPosition : Nat
  stopPosition : Nat
  terminalHash : EventHash
  eventIds : List UUID
deriving DecidableEq

inductive AppendError
  | batchValidation (message : String)
  | bookEventHeadNotFound (message : String)
  | streamVersionConflict (key : StreamKey) (expectedVersion : Int)
      (actualVersion : Nat)
  | value (message : String)
  | integrity (rule : String)
deriving DecidableEq

/-- `dict.fromkeys(keys)`: each key once, where it first occurs. -/
def dictFromkeys (keys : List StreamKey) : List StreamKey :=
  keys.reverse.dedup.reverse

/-- `_validate_batch`.  The checks of the exact Python types have no
counterpart: a field has its type. -/
def validateBatch (expectedStreamVersions : Dict StreamKey Int)
    (events : List PendingEvent) : Except AppendError Unit := do
  require (events ≠ []) (.batchValidation "event batch must not be empty")
  require (∀ e ∈ expectedStreamVersions.entries, 0 ≤ e.2)
    (.batchValidation "invalid expected stream version")
  let touched := events.map PendingEvent.streamKey
  require ((∀ key ∈ expectedStreamVersions.keys, key ∈ touched)
      ∧ ∀ key ∈ touched, key ∈ expectedStreamVersions.keys)
    (.batchValidation
      "expected stream versions must exactly cover touched streams")

/-- The accumulators of the loop. -/
structure BatchState where
  nextPosition : Nat
  previousHash : EventHash
  nextVersions : StreamKey → Nat
  storedEvents : List LedgerEventRecord
  terminalByStream : Dict StreamKey LedgerEventRecord

/-- The accumulators after a row has been built. -/
def BatchState.push (state : BatchState) (stored : LedgerEventRecord) :
    BatchState where
  nextPosition := stored.bookPosition
  previousHash := stored.eventHash
  nextVersions :=
    Function.update state.nextVersions stored.streamKey stored.streamVersion
  storedEvents := state.storedEvents ++ [stored]
  terminalByStream := state.terminalByStream.insert stored.streamKey stored

section Append

variable (sha256 : ByteArray → EventHash)

/-- `_HASH_PLACEHOLDER_RECORDED_AT`: the first second of 1970. -/
def hashPlaceholderRecordedAt : Instant :=
  ⟨⟨1970, 1, 1, by decide, by decide, by decide⟩, 0⟩

/-- The body of the loop. -/
def appendPending (bookId : UUID) (generated : UUID → Nat × Instant)
    (state : BatchState) (pending : PendingEvent) :
    Except AppendError BatchState := do
  let nextPosition := state.nextPosition + 1
  let streamVersion := state.nextVersions pending.streamKey + 1
  let storedPayload ← (dumpRegistered pending.payload).mapError AppendError.value
  let eventType := pending.payload.1.eventType
  let schemaVersion := pending.payload.1.schemaVersion
  let hashed ← (eventHash sha256
    { eventId := pending.eventId
      bookId := bookId
      bookPosition := nextPosition
      globalSequence := 1
      streamType := pending.streamType
      streamId := pending.streamId
      streamVersion := streamVersion
      eventType := eventType
      eventSchemaVersion := schemaVersion
      commandId := pending.commandId
      actorSubjectId := pending.actorSubjectId
      correlationId := pending.correlationId
      causationEventId := pending.causationEventId
      effectiveAt := pending.effectiveAt
      recordedAt := hashPlaceholderRecordedAt
      previousHash := state.previousHash } storedPayload).mapError
        AppendError.value
  let stored : LedgerEventRecord :=
    { eventId := pending.eventId
      globalSequence := (generated pending.eventId).1
      bookId := bookId
      bookPosition := nextPosition
      streamType := pending.streamType
      streamId := pending.streamId
      streamVersion := streamVersion
      eventType := eventType
      eventSchemaVersion := schemaVersion
      commandId := pending.commandId
      actorSubjectId := pending.actorSubjectId
      correlationId := pending.correlationId
      causationEventId := pending.causationEventId
      effectiveAt := pending.effectiveAt
      recordedAt := (generated pending.eventId).2
      payload := storedPayload
      previousHash := state.previousHash
      eventHash := hashed }
  return state.push stored

/-- The checks and the loop, up to the first write. -/
def prepareBatch (t : EventStoreTables) (bookId : UUID)
    (expectedStreamVersions : Dict StreamKey Int) (events : List PendingEvent)
    (generated : UUID → Nat × Instant) :
    Except AppendError (BookEventHeadRecord × BatchState) := do
  validateBatch expectedStreamVersions events
  let head ← fetch (t.bookHead? bookId)
    (.bookEventHeadNotFound "book event head not found")
  let streamKeys := dictFromkeys (events.map (·.streamKey))
  let currentVersions : StreamKey → Nat := fun key =>
    ((t.streamHead? bookId key).map (·.lastVersion)).getD 0
  forEach streamKeys fun key => do
    -- the validation has made sure that the key is there
    let expectedVersion ← fetch (expectedStreamVersions.lookup key)
      (.batchValidation
        "expected stream versions must exactly cover touched streams")
    require (expectedVersion = currentVersions key)
      (.streamVersionConflict key expectedVersion (currentVersions key))
  let state ← events.foldlM (appendPending sha256 bookId generated)
    { nextPosition := head.lastPosition
      previousHash := head.lastHash
      nextVersions := currentVersions
      storedEvents := []
      terminalByStream := ∅ }
  return (head, state)

end Append

/-! ## Writing -/

/-- `btrim(value) <> ''`. -/
def nonblank (value : String) : Bool := value.toList.any fun c => c ≠ ' '

/-- `session.flush(stored_events)`. -/
def insertEvents (rows : List LedgerEventRecord) (t : EventStoreTables) :
    Except AppendError EventStoreTables := do
  let events := t.events ++ rows
  require ((events.map (·.eventId)).Nodup) (.integrity "pk_ledger_events")
  require ((events.map fun e => (e.bookId, e.bookPosition)).Nodup)
    (.integrity "uq_ledger_events_book_position")
  require ((events.map fun e =>
      (e.bookId, e.streamType, e.streamId, e.streamVersion)).Nodup)
    (.integrity "uq_ledger_events_book_stream_version")
  require ((events.map fun e => (e.bookId, e.eventHash)).Nodup)
    (.integrity "uq_ledger_events_book_hash")
  require ((events.map (·.globalSequence)).Nodup)
    (.integrity "uq_ledger_events_global_sequence")
  forEach rows fun row => do
    require (0 < row.globalSequence ∧ row.globalSequence ≤ bigintMax)
      (.integrity "ck_ledger_events_global_sequence_positive")
    require (nonblank row.streamType)
      (.integrity "ck_ledger_events_stream_type_nonblank")
    require (nonblank row.eventType)
      (.integrity "ck_ledger_events_event_type_nonblank")
    require (nonblank row.actorSubjectId)
      (.integrity "ck_ledger_events_actor_subject_id_nonblank")
    require (row.causationEventId ≠ some row.eventId)
      (.integrity "ck_ledger_events_causation_not_self")
    require (row.causationEventId.all fun cause =>
        (row.bookId, cause) ∈ events.map fun e => (e.bookId, e.eventId))
      (.integrity "fk_ledger_events_book_causation_event")
  return { t with events := events }

/-- The head of a stream at its last event. -/
def EventStreamHeadRecord.ofTerminal (terminal : LedgerEventRecord) :
    EventStreamHeadRecord where
  bookId := terminal.bookId
  streamType := terminal.streamType
  streamId := terminal.streamId
  lastVersion := terminal.streamVersion
  lastBookPosition := terminal.bookPosition
  lastEventId := terminal.eventId

/-- `terminal_by_stream.items()`: a stream keeps the place where it was first
inserted. -/
def BatchState.terminals (state : BatchState) (streamKeys : List StreamKey) :
    List (StreamKey × LedgerEventRecord) :=
  streamKeys.filterMap fun key =>
    (state.terminalByStream.lookup key).map fun terminal => (key, terminal)

/-- One iteration of the loop over the terminal events: a new stream head, or
an update that `v2_guard_event_stream_head` lets through.  The row binds an
event of the stream. -/
def advanceStreamHead (bookId : UUID) (t : EventStoreTables)
    (item : StreamKey × LedgerEventRecord) :
    Except AppendError EventStoreTables := do
  let streamKey := item.1
  let terminal := item.2
  require (EventStreamHeadRecord.ofTerminal terminal
      ∈ t.events.map EventStreamHeadRecord.ofTerminal)
    (.integrity "fk_event_stream_heads_terminal_event")
  match t.streamHead? bookId streamKey with
  | none => return { t with
      streamHeads := t.streamHeads ++
        [{ bookId := bookId
           streamType := streamKey.1
           streamId := streamKey.2
           lastVersion := terminal.streamVersion
           lastBookPosition := terminal.bookPosition
           lastEventId := terminal.eventId }] }
  | some old => do
      require (old.lastVersion < terminal.streamVersion
          ∧ old.lastBookPosition < terminal.bookPosition)
        (.integrity "event stream head must advance")
      return { t with
        streamHeads := t.streamHeads.map fun h =>
          if h.bookId = bookId ∧ h.streamKey = streamKey then
            { h with
              lastVersion := terminal.streamVersion
              lastBookPosition := terminal.bookPosition
              lastEventId := terminal.eventId }
          else h }

/-- The update of the Book head, under `v2_guard_book_event_head`. -/
def advanceBookHead (head : BookEventHeadRecord) (lastPosition : Nat)
    (lastHash : EventHash) (t : EventStoreTables) :
    Except AppendError EventStoreTables := do
  require (head.lastPosition < lastPosition)
    (.integrity "book event head position must advance")
  require ((head.bookId, lastPosition, lastHash)
      ∈ t.events.map fun e => (e.bookId, e.bookPosition, e.eventHash))
    (.integrity "book event head must bind its terminal event")
  return { t with
    bookHeads := t.bookHeads.map fun h =>
      if h.bookId = head.bookId then
        { h with lastPosition := lastPosition, lastHash := lastHash }
      else h }

/-- The second `session.flush()`. -/
def advanceHeads (head : BookEventHeadRecord) (streamKeys : List StreamKey)
    (state : BatchState) (t : EventStoreTables) :
    Except AppendError EventStoreTables := do
  let t ← (state.terminals streamKeys).foldlM
    (advanceStreamHead head.bookId) t
  advanceBookHead head state.nextPosition state.previousHash t

/-- `PostgresEventStore._append_batch`. -/
def appendBatch (sha256 : ByteArray → EventHash) (bookId : UUID)
    (expectedStreamVersions : Dict StreamKey Int) (events : List PendingEvent)
    (generated : UUID → Nat × Instant) :
    Session AppendError EventStoreTables AppendBatchResult := do
  let t ← get
  let prepared ← check (prepareBatch sha256 t bookId expectedStreamVersions
    events generated)
  update (insertEvents prepared.2.storedEvents)
  update (advanceHeads prepared.1 (dictFromkeys (events.map (·.streamKey)))
    prepared.2)
  return {
    firstPosition := prepared.1.lastPosition + 1
    stopPosition := prepared.2.nextPosition + 1
    terminalHash := prepared.2.previousHash
    eventIds := events.map (·.eventId) }

end TrackAnywhere.Ports
