import TrackAnywhere.Ports.EventStore

/-!
# Verification of the event store

`_verify_events` reads all events in the order of Book and position, checks the
numbering, the hash chain and the hash of every event as it goes, and compares
what it has counted with the Book head whenever a Book ends.
`_verify_stream_heads` compares each stream head with the last event of its
stream.  Both report issues and change nothing.
-/

namespace TrackAnywhere.Ports

open TrackAnywhere.Verified.Checked

/-- `_ZERO_HASH`. -/
def zeroHash : EventHash := 0

/-- `_event_envelope`. -/
def eventEnvelope (stored : LedgerEventRecord) : EventHashEnvelope where
  eventId := stored.eventId
  bookId := stored.bookId
  bookPosition := stored.bookPosition
  globalSequence := stored.globalSequence
  streamType := stored.streamType
  streamId := stored.streamId
  streamVersion := stored.streamVersion
  eventType := stored.eventType
  eventSchemaVersion := stored.eventSchemaVersion
  commandId := stored.commandId
  actorSubjectId := stored.actorSubjectId
  correlationId := stored.correlationId
  causationEventId := stored.causationEventId
  effectiveAt := stored.effectiveAt
  recordedAt := stored.recordedAt
  previousHash := stored.previousHash

section Events

variable (sha256 : ByteArray → EventHash)

/-- The hash of a stored event, recomputed from its row once its payload has
been validated. -/
def computedHash (stored : LedgerEventRecord) : Except String EventHash := do
  let _ ← (validateStored stored.eventType stored.eventSchemaVersion
    stored.payload).mapError fun _ => "stored event failed validation"
  eventHash sha256 (eventEnvelope stored) stored.payload

/-- `_verify_stored_event`: the issues it appends. -/
def verifyStoredEvent (stored : LedgerEventRecord) : List String :=
  match computedHash sha256 stored with
  | .error _ => ["invalid_event_contract:" ++ stored.eventId.text]
  | .ok hash =>
      if hash ≠ stored.eventHash then
        ["event_hash_mismatch:" ++ stored.eventId.text]
      else []

/-- `_finish_book_event_state`: the issues it appends. -/
def finishBookEventState (bookId : UUID) (eventCount : Nat)
    (previousHash : EventHash) (head : Option BookEventHeadRecord) :
    List String :=
  match head with
  | none =>
      if eventCount ≠ 0 then ["events_without_book_head:" ++ bookId.text]
      else []
  | some head =>
      (if head.lastPosition ≠ eventCount then
        ["book_head_position_mismatch:" ++ bookId.text] else [])
      ++ (if head.lastHash ≠ previousHash then
        ["book_head_hash_mismatch:" ++ bookId.text] else [])

/-- The variables of the loop of `_verify_events`. -/
structure VerifyState where
  totalCount : Nat
  currentBookId : Option UUID
  currentHead : Option BookEventHeadRecord
  currentCount : Nat
  previousHash : EventHash
  expectedPosition : Nat
  headsWithoutEvents : List UUID
  issues : List String
deriving DecidableEq

/-- The Book that was being read is finished. -/
def VerifyState.finish (s : VerifyState) : List String :=
  match s.currentBookId with
  | none => []
  | some bookId =>
      finishBookEventState bookId s.currentCount s.previousHash s.currentHead

/-- The first event of another Book finishes the one before it. -/
def enterBook (heads : List BookEventHeadRecord) (s : VerifyState)
    (stored : LedgerEventRecord) : VerifyState :=
  if some stored.bookId = s.currentBookId then s
  else { s with
    currentBookId := some stored.bookId
    currentHead := heads.find? fun h => h.bookId = stored.bookId
    currentCount := 0
    previousHash := zeroHash
    expectedPosition := 1
    headsWithoutEvents :=
      s.headsWithoutEvents.filter fun bookId => bookId ≠ stored.bookId
    issues := s.issues ++ s.finish }

/-- The body of the loop after the change of Book. -/
def verifyEvent (s : VerifyState) (stored : LedgerEventRecord) : VerifyState :=
  let s := { s with
    totalCount := s.totalCount + 1
    currentCount := s.currentCount + 1 }
  match s.currentHead with
  | none => s
  | some _ => { s with
      issues := s.issues
        ++ (if stored.bookPosition ≠ s.expectedPosition then
          ["book_position_gap:" ++ stored.bookId.text] else [])
        ++ (if stored.previousHash ≠ s.previousHash then
          ["previous_hash_mismatch:" ++ stored.eventId.text] else [])
        ++ verifyStoredEvent sha256 stored
      previousHash := stored.eventHash
      expectedPosition := s.expectedPosition + 1 }

/-- One iteration of the loop. -/
def verifyStep (heads : List BookEventHeadRecord) (s : VerifyState)
    (stored : LedgerEventRecord) : VerifyState :=
  verifyEvent sha256 (enterBook heads s stored) stored

/-- `order_by(book_id, book_position)`. -/
def bookOrder (a b : LedgerEventRecord) : Prop :=
  a.bookId < b.bookId ∨ a.bookId = b.bookId ∧ a.bookPosition ≤ b.bookPosition

instance : DecidableRel bookOrder := fun a b =>
  inferInstanceAs (Decidable (_ ∨ _))

/-- `_verify_events`: how many events there are, and the issues. -/
def verifyEvents (t : EventStoreTables) : Nat × List String :=
  let s := (t.events.insertionSort bookOrder).foldl
    (verifyStep sha256 t.bookHeads)
    { totalCount := 0
      currentBookId := none
      currentHead := none
      currentCount := 0
      previousHash := zeroHash
      expectedPosition := 1
      headsWithoutEvents := t.bookHeads.map (·.bookId)
      issues := [] }
  (s.totalCount, s.issues ++ s.finish
    ++ s.headsWithoutEvents.flatMap fun bookId =>
      finishBookEventState bookId 0 zeroHash
        (t.bookHeads.find? fun h => h.bookId = bookId))

end Events

/-! ## Stream heads -/

/-- The event with the higher Book position. -/
def laterEvent (last : Option LedgerEventRecord) (stored : LedgerEventRecord) :
    Option LedgerEventRecord :=
  match last with
  | none => some stored
  | some previous =>
      if previous.bookPosition < stored.bookPosition then some stored else last

/-- The event of a stream with the highest Book position, `terminal_rank = 1`. -/
def terminalEvent (t : EventStoreTables) (bookId : UUID) (key : StreamKey) :
    Option LedgerEventRecord :=
  (t.streamEvents bookId key).foldl laterEvent none

/-- `_verify_stream_heads`: how many heads there are, and the issues. -/
def verifyStreamHeads (t : EventStoreTables) : Nat × List String :=
  (t.streamHeads.length, t.streamHeads.flatMap fun head =>
    if (terminalEvent t head.bookId head.streamKey).map (fun e =>
        (e.eventId, e.streamVersion, e.bookPosition))
      = some (head.lastEventId, head.lastVersion, head.lastBookPosition) then []
    else ["stream_head_mismatch:" ++ head.bookId.text ++ ":" ++ head.streamType
      ++ ":" ++ head.streamId.text])

end TrackAnywhere.Ports
