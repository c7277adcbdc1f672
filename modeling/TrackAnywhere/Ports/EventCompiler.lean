import TrackAnywhere.Ports.PlannedStreams

/-!
# The compiler of a frozen history

`compile_current_v2_events` turns the events of an offline import into the rows of an empty
Book: positions from one, the first version of a new stream for each event, and the chained
hashes.  It refuses events that are not of one command, events of other contracts, streams
that occur twice, and reversals that do not invert an event of the canonical prefix.

The rows are written later by the importer, so nothing but this module's loop ties them to
what `_append_batch` would have stored.
-/

namespace TrackAnywhere.Ports

open TrackAnywhere.Verified.Checked
open TrackAnywhere.Verified.KeyedSum
open TrackAnywhere.Verified.Transaction
open TrackAnywhere.Verified.ChainedLog

/-- `FROZEN_IMPORT_ACTOR_SUBJECT_ID` -/
def frozenImportActorSubjectId : String := "offline:frozen-v1-history"

/-! ## Planned events -/

/-- An event with its place in the Book; its stream is new. -/
structure PlannedLedgerEvent where
  eventId : UUID
  bookPosition : Nat
  streamType : String
  streamId : UUID
  expectedStreamVersion : Nat
  streamVersion : Nat
  eventType : String
  eventSchemaVersion : Nat
  payload : EventContract
  commandId : UUID
  actorSubjectId : String
  correlationId : UUID
  causationEventId : Option UUID
  effectiveAt : Instant
  previousHash : EventHash
  eventHash : EventHash
  hExpectedStreamVersion : expectedStreamVersion = 0
  hStreamVersion : streamVersion = 1
  hEventType : eventType = payload.1.eventType
  hSchemaVersion : eventSchemaVersion = payload.1.schemaVersion
deriving DecidableEq

def PlannedLedgerEvent.streamKey (planned : PlannedLedgerEvent) : StreamKey :=
  (planned.streamType, planned.streamId)

/-- The row of `ledger_events` that the planned event is, with the columns that the database
fills in. -/
def PlannedLedgerEvent.row (bookId : UUID) (generated : UUID → Nat × Instant)
    (planned : PlannedLedgerEvent) : LedgerEventRecord where
  eventId := planned.eventId
  globalSequence := (generated planned.eventId).1
  bookId := bookId
  bookPosition := planned.bookPosition
  streamType := planned.streamType
  streamId := planned.streamId
  streamVersion := planned.streamVersion
  eventType := planned.eventType
  eventSchemaVersion := planned.eventSchemaVersion
  commandId := planned.commandId
  actorSubjectId := planned.actorSubjectId
  correlationId := planned.correlationId
  causationEventId := planned.causationEventId
  effectiveAt := planned.effectiveAt
  recordedAt := (generated planned.eventId).2
  payload := .registered planned.payload.1
  previousHash := planned.previousHash
  eventHash := planned.eventHash

/-- `_ALLOWED_PAYLOAD_TYPES` -/
def EventPayload.importable : EventPayload → Bool
  | journalTransactionPosted _ | journalTransactionReversed _ | reportingLinesAssigned _ => true
  | _ => false

/-- `_transaction_id_and_postings`; nothing for a payload of another type. -/
def EventPayload.transactionIdAndPostings :
    EventPayload → Option (UUID × List JournalPostingFact)
  | journalTransactionPosted p => some (p.transactionId, p.postings)
  | journalTransactionReversed p => some (p.reversalTransactionId, p.inversePostings)
  | _ => none

/-! ## The checks -/

/-- What the loop over both lists of postings compares. -/
def JournalPostingFact.Inverts (inverse source : JournalPostingFact) : Prop :=
  inverse.position = source.position ∧ inverse.accountId = source.accountId
    ∧ inverse.assetCode = source.assetCode ∧ inverse.units = source.units
    ∧ inverse.side = source.side.opposite

instance (inverse source : JournalPostingFact) : Decidable (inverse.Inverts source) :=
  inferInstanceAs (Decidable (_ ∧ _))

/-- `_validate_reversal` -/
def validateReversal (pending : PendingEvent) (payload : JournalTransactionReversed)
    (plannedById : Dict UUID PlannedLedgerEvent) : Except String Unit := do
  let source ← fetch (plannedById.lookup payload.originalEventId) provenance
  let transaction ← fetch source.payload.1.transactionIdAndPostings provenance
  require (source.eventHash = payload.originalEventHash
      ∧ pending.causationEventId = some source.eventId) provenance
  require (transaction.1 = payload.reversesTransactionId)
    "reversal provenance transaction identity mismatch"
  require (transaction.2.length = payload.inversePostings.length) notInverse
  require (∀ posting ∈ transaction.2,
    posting.postingId ∉ payload.inversePostings.map (·.postingId)) notInverse
  forEach (transaction.2.zip payload.inversePostings) fun pair =>
    require (pair.2.Inverts pair.1) notInverse
where
  provenance : String := "reversal provenance does not match the canonical prefix"
  notInverse : String := "reversal postings are not an exact inverse"

/-- The accumulators of the loop. -/
structure CompilerState where
  previousHash : EventHash
  planned : List PlannedLedgerEvent
  plannedById : Dict UUID PlannedLedgerEvent
  journalByTransaction : Dict UUID PlannedLedgerEvent
  reportingStarted : Bool

/-- The condition of `_validate_stream_identity`. -/
def CompilerState.ValidStream (state : CompilerState) (pending : PendingEvent) : Prop :=
  match pending.payload.1 with
  | .journalTransactionPosted p =>
      state.reportingStarted = false ∧ pending.streamType = "journal_transaction"
        ∧ pending.streamId = p.transactionId ∧ pending.causationEventId = none
        ∧ p.transactionId ∉ state.journalByTransaction
  | .journalTransactionReversed p =>
      state.reportingStarted = false ∧ pending.streamType = "journal_transaction"
        ∧ pending.streamId = p.reversalTransactionId
        ∧ p.reversalTransactionId ∉ state.journalByTransaction
  | .reportingLinesAssigned p =>
      pending.streamType = "reporting_lines" ∧ pending.streamId = p.transactionId
        ∧ p.classificationRevision = 1
        ∧ ∃ source ∈ state.journalByTransaction.lookup p.transactionId,
          source.payload.1.eventType = "JournalTransactionPosted"
            ∧ pending.causationEventId = some source.eventId
  | _ => False

instance (state : CompilerState) (pending : PendingEvent) :
    Decidable (state.ValidStream pending) := by
  unfold CompilerState.ValidStream
  split <;> infer_instance

/-- A reversal is checked against the events before it. -/
def CompilerState.checkReversal (state : CompilerState) (pending : PendingEvent) :
    Except String Unit :=
  match pending.payload.1 with
  | .journalTransactionReversed payload => validateReversal pending payload state.plannedById
  | _ => .ok ()

/-- The event at its place. -/
def PendingEvent.planned (pending : PendingEvent) (bookPosition : Nat)
    (previousHash eventHash : EventHash) : PlannedLedgerEvent where
  eventId := pending.eventId
  bookPosition := bookPosition
  streamType := pending.streamType
  streamId := pending.streamId
  expectedStreamVersion := 0
  streamVersion := 1
  eventType := pending.payload.1.eventType
  eventSchemaVersion := pending.payload.1.schemaVersion
  payload := pending.payload
  commandId := pending.commandId
  actorSubjectId := pending.actorSubjectId
  correlationId := pending.correlationId
  causationEventId := pending.causationEventId
  effectiveAt := pending.effectiveAt
  previousHash := previousHash
  eventHash := eventHash
  hExpectedStreamVersion := rfl
  hStreamVersion := rfl
  hEventType := rfl
  hSchemaVersion := rfl

/-- The accumulators after an event has been planned. -/
def CompilerState.push (state : CompilerState) (planned : PlannedLedgerEvent) :
    CompilerState where
  previousHash := planned.eventHash
  planned := state.planned ++ [planned]
  plannedById := state.plannedById.insert planned.eventId planned
  journalByTransaction :=
    match planned.payload.1.transactionIdAndPostings with
    | some transaction => state.journalByTransaction.insert transaction.1 planned
    | none => state.journalByTransaction
  reportingStarted :=
    state.reportingStarted || planned.payload.1.transactionIdAndPostings.isNone

def CompilerState.start : CompilerState where
  previousHash := 0
  planned := []
  plannedById := ∅
  journalByTransaction := ∅
  reportingStarted := false

/-! ## The loop -/

section Compile

variable (sha256 : ByteArray → EventHash)

/-- One round of the loop; the position is one more than the number of planned events. -/
def compileEvent (targetBookId : UUID) (state : CompilerState) (pending : PendingEvent) :
    Except String CompilerState := do
  let bookPosition := state.planned.length + 1
  require (pending.eventId ∉ state.plannedById) "planned event identity is duplicated"
  require (state.ValidStream pending) "planned event stream identity is invalid"
  state.checkReversal pending
  let storedPayload ← dumpRegistered pending.payload
  let hashed ← eventHash sha256
    { eventId := pending.eventId
      bookId := targetBookId
      bookPosition := bookPosition
      globalSequence := 1
      recordedAt := hashPlaceholderRecordedAt
      streamType := pending.streamType
      streamId := pending.streamId
      streamVersion := 1
      eventType := pending.payload.1.eventType
      eventSchemaVersion := pending.payload.1.schemaVersion
      commandId := pending.commandId
      actorSubjectId := pending.actorSubjectId
      correlationId := pending.correlationId
      causationEventId := pending.causationEventId
      effectiveAt := pending.effectiveAt
      previousHash := state.previousHash } storedPayload
  return state.push (pending.planned bookPosition state.previousHash hashed)

/-- `compile_current_v2_events` -/
def compileCurrentV2Events (targetBookId : UUID) (events : List PendingEvent) :
    Except String (List PlannedLedgerEvent) := do
  require (events ≠ []) "planned event sequence is invalid"
  require (events.map (·.streamKey)).Nodup "frozen import requires one event per new stream"
  require ((events.map (·.commandId)).dedup.length = 1)
    "frozen import events must share one command"
  require (∀ item ∈ events, item.actorSubjectId = frozenImportActorSubjectId
      ∧ item.correlationId = item.commandId ∧ item.payload.1.importable = true)
    "frozen import event envelope is invalid"
  let state ← events.foldlM (compileEvent sha256 targetBookId) CompilerState.start
  return state.planned

end Compile

section Rounds

variable {sha256 : ByteArray → EventHash} {bookId : UUID} {state state' : CompilerState}
  {pending : PendingEvent} {events : List PendingEvent} {generated : UUID → Nat × Instant}

/-- What one round has checked, and the event that it has planned. -/
structure EventCompiled (sha256 : ByteArray → EventHash) (bookId : UUID)
    (state : CompilerState) (pending : PendingEvent) (planned : PlannedLedgerEvent) : Prop where
  fresh : pending.eventId ∉ state.plannedById
  stream : state.ValidStream pending
  reversal : state.checkReversal pending = .ok ()
  placed : planned
    = pending.planned (state.planned.length + 1) state.previousHash planned.eventHash
  stores : ∀ batch : BatchState, batch.nextPosition = state.planned.length →
    batch.previousHash = state.previousHash → batch.nextVersions pending.streamKey = 0 →
    ∀ generated, appendPending sha256 bookId generated batch pending
      = .ok (batch.push (planned.row bookId generated))

theorem compileEvent_ok (h : compileEvent sha256 bookId state pending = .ok state') :
    ∃ planned, EventCompiled sha256 bookId state pending planned
      ∧ state' = state.push planned := by
  simp only [compileEvent, bind_eq_ok, require_eq_ok, pure_eq_ok, exists_const] at h
  obtain ⟨hFresh, hStream, _, hReversal, storedPayload, hDump, hashed, hHash, rfl⟩ := h
  refine ⟨_, ⟨hFresh, hStream, hReversal, rfl, ?_⟩, rfl⟩
  intro batch hPosition hPrevious hVersion generated
  have hStored := hDump
  simp only [dumpRegistered, bind_eq_ok, pure_eq_ok] at hStored
  obtain ⟨_, -, rfl⟩ := hStored
  simp only [appendPending, hPosition, hPrevious, hVersion, bind_eq_ok, mapError_eq_ok,
    pure_eq_ok]
  exact ⟨_, hDump, hashed, hHash, rfl⟩

/-- The append loop stores the rows that the compiler plans, by induction on the events: both
accumulate the same position and hash, and no stream of the rest has a version yet. -/
theorem appendPending_of_compileEvent
    (h : events.foldlM (compileEvent sha256 bookId) state = .ok state')
    (hStreams : (events.map (·.streamKey)).Nodup) (generated : UUID → Nat × Instant)
    (batch : BatchState) (hPosition : batch.nextPosition = state.planned.length)
    (hPrevious : batch.previousHash = state.previousHash)
    (hVersions : ∀ pending ∈ events, batch.nextVersions pending.streamKey = 0) :
    ∃ added batch', state'.planned = state.planned ++ added
      ∧ events.foldlM (appendPending sha256 bookId generated) batch = .ok batch'
      ∧ batch'.storedEvents = batch.storedEvents ++ added.map (·.row bookId generated)
      ∧ batch'.nextPosition = state'.planned.length
      ∧ batch'.previousHash = state'.previousHash := by
  induction events generalizing state batch with
  | nil =>
      rw [List.foldlM_nil, pure_eq_ok] at h
      subst h
      exact ⟨[], batch, (List.append_nil _).symm, rfl, (List.append_nil _).symm, hPosition,
        hPrevious⟩
  | cons pending events ih =>
      rw [List.foldlM_cons, bind_eq_ok] at h
      obtain ⟨next, hFirst, hRest⟩ := h
      obtain ⟨planned, hCompiled, rfl⟩ := compileEvent_ok hFirst
      rw [List.map_cons, List.nodup_cons] at hStreams
      have hStored := hCompiled.stores batch hPosition hPrevious
        (hVersions pending List.mem_cons_self) generated
      have hKey : (planned.row bookId generated).streamKey = pending.streamKey := by
        rw [hCompiled.placed]
        rfl
      have hLater : ∀ later ∈ events,
          (batch.push (planned.row bookId generated)).nextVersions later.streamKey = 0 := by
        intro later hLater
        have hOther : later.streamKey ≠ (planned.row bookId generated).streamKey := by
          intro hSame
          exact hStreams.1 (hKey ▸ hSame ▸ List.mem_map_of_mem hLater)
        show Function.update _ _ _ _ = 0
        rw [Function.update_of_ne hOther]
        exact hVersions later (List.mem_cons_of_mem _ hLater)
      have hNext : (batch.push (planned.row bookId generated)).nextPosition
          = (state.push planned).planned.length := by
        show planned.bookPosition = (state.planned ++ [planned]).length
        rw [hCompiled.placed, List.length_append]
        rfl
      obtain ⟨added, batch', hPlanned, hLoop, hRows, hEnd⟩ := ih hRest hStreams.2 _ hNext rfl hLater
      refine ⟨planned :: added, batch', ?_, ?_, ?_, hEnd⟩
      · rw [hPlanned]
        exact List.append_assoc state.planned [planned] added
      · rw [List.foldlM_cons, hStored]
        exact hLoop
      · rw [hRows]
        exact List.append_assoc batch.storedEvents [_] _

/-! ## An empty Book -/

/-- Every stream is expected to be new. -/
def newStreamVersions (events : List PendingEvent) : Dict StreamKey Int :=
  events.foldr (fun pending versions => versions.insert pending.streamKey 0) ∅

theorem newStreamVersions_lookup {key : StreamKey} (hKey : key ∈ events.map (·.streamKey)) :
    (newStreamVersions events).lookup key = some 0 := by
  induction events with
  | nil => cases hKey
  | cons pending events ih =>
      show ((newStreamVersions events).insert pending.streamKey 0).lookup key = some 0
      by_cases hSame : key = pending.streamKey
      · rw [hSame, AList.lookup_insert]
      · rw [AList.lookup_insert_ne hSame]
        exact ih ((List.mem_cons.1 hKey).resolve_left hSame)

theorem newStreamVersions_mem {key : StreamKey} :
    key ∈ (newStreamVersions events).keys ↔ key ∈ events.map (·.streamKey) := by
  induction events with
  | nil => exact Iff.rfl
  | cons pending events ih =>
      show key ∈ (newStreamVersions events).insert pending.streamKey 0 ↔ _
      rw [AList.mem_insert, List.map_cons, List.mem_cons]
      exact or_congr_right ih

theorem newStreamVersions_valid (hEvents : events ≠ []) :
    validateBatch (newStreamVersions events) events = .ok () := by
  simp only [validateBatch, bind_eq_ok, require_eq_ok, exists_const]
  refine ⟨hEvents, fun entry hEntry => ?_, fun key => newStreamVersions_mem.1,
    fun key => newStreamVersions_mem.2⟩
  have hLookup := AList.mem_lookup_iff.2 hEntry
  rw [newStreamVersions_lookup (newStreamVersions_mem.1
    (AList.mem_keys.1 (AList.lookup_isSome.1 (hLookup ▸ rfl))))] at hLookup
  exact (Option.some.inj hLookup).le

/-- The Book has its first head and no stream. -/
structure EmptyBook (t : EventStoreTables) (bookId : UUID) : Prop where
  head : t.bookHead? bookId = some ⟨bookId, 0, 0⟩
  streams : ∀ key, t.streamHead? bookId key = none

/-- The compiler's last hash is that of its last event. -/
theorem compileEvent_previousHash
    (h : events.foldlM (compileEvent sha256 bookId) state = .ok state')
    (hStart : state.previousHash = lastLink (·.eventHash) zeroHash state.planned) :
    state'.previousHash = lastLink (·.eventHash) zeroHash state'.planned := by
  induction events generalizing state with
  | nil =>
      rw [List.foldlM_nil, pure_eq_ok] at h
      subst h
      exact hStart
  | cons pending events ih =>
      rw [List.foldlM_cons, bind_eq_ok] at h
      obtain ⟨next, hFirst, hRest⟩ := h
      obtain ⟨planned, -, rfl⟩ := compileEvent_ok hFirst
      refine ih hRest ?_
      show planned.eventHash = lastLink (·.eventHash) zeroHash (state.planned ++ [planned])
      rw [lastLink_append]
      rfl

variable {planned : List PlannedLedgerEvent} {t t' : EventStoreTables}
  {expectedStreamVersions : Dict StreamKey Int} {result : AppendBatchResult}

/-- The loop over the rows of a compiled history, in an empty Book. -/
theorem appendLoop_of_compiled (h : compileCurrentV2Events sha256 bookId events = .ok planned)
    (hEmpty : EmptyBook t bookId) (generated : UUID → Nat × Instant) : ∃ batch : BatchState,
      events.foldlM (appendPending sha256 bookId generated)
        { nextPosition := 0
          previousHash := 0
          nextVersions := fun key =>
            ((t.streamHead? bookId key).map (·.lastVersion)).getD 0
          storedEvents := []
          terminalByStream := ∅ } = .ok batch
      ∧ batch.storedEvents = planned.map (·.row bookId generated)
      ∧ batch.nextPosition = planned.length
      ∧ batch.previousHash = lastLink (·.eventHash) zeroHash planned := by
  simp only [compileCurrentV2Events, bind_eq_ok, require_eq_ok, pure_eq_ok,
    exists_const] at h
  obtain ⟨-, hStreams, -, -, state, hLoop, rfl⟩ := h
  have hNew (key : StreamKey) :
      ((t.streamHead? bookId key).map (·.lastVersion)).getD 0 = 0 := by
    rw [hEmpty.streams]
    rfl
  obtain ⟨added, batch, hPlanned, hAppend, hRows, hPosition, hHash⟩ :=
    appendPending_of_compileEvent hLoop hStreams generated
      ⟨0, 0, fun key => ((t.streamHead? bookId key).map (·.lastVersion)).getD 0, [], ∅⟩
      rfl rfl fun pending _ => hNew pending.streamKey
  have hAll : state.planned = added := hPlanned
  refine ⟨batch, hAppend, hAll ▸ hRows, hPosition, hHash.trans ?_⟩
  exact compileEvent_previousHash hLoop rfl

theorem appendBatch_prepared (h : appendBatch sha256 bookId expectedStreamVersions events
      generated t = .ok result t') : ∃ head batch,
    prepareBatch sha256 t bookId expectedStreamVersions events generated = .ok (head, batch)
      ∧ t'.events = t.events ++ batch.storedEvents := by
  simp only [appendBatch, bind_ok_iff, get_ok_iff, check_ok_iff, update_ok_iff,
    pure_ok_iff] at h
  obtain ⟨_, _, ⟨rfl, rfl⟩, ⟨head, batch⟩, _, ⟨hPrepare, rfl⟩, _, t₁, hInsert,
    _, t₂, hHeads, -, rfl⟩ := h
  obtain ⟨rfl, -, -⟩ := insertEvents_ok hInsert
  exact ⟨head, batch, hPrepare, advanceHeads_events hHeads⟩

/-- What the compiler plans for an empty Book is what `_append_batch` builds there: the rows,
the terminal position and hash; and every append that is committed has stored these rows and
set the heads to their ends. -/
theorem compiledRows_appended (h : compileCurrentV2Events sha256 bookId events = .ok planned)
    (hEmpty : EmptyBook t bookId) (generated : UUID → Nat × Instant) :
    (∃ batch, prepareBatch sha256 t bookId (newStreamVersions events) events generated
        = .ok (⟨bookId, 0, 0⟩, batch)
      ∧ batch.storedEvents = planned.map (·.row bookId generated)
      ∧ batch.nextPosition = planned.length
      ∧ batch.previousHash = lastLink (·.eventHash) zeroHash planned)
    ∧ ∀ expectedStreamVersions result t',
      appendBatch sha256 bookId expectedStreamVersions events generated t = .ok result t' →
        BatchAppended sha256 bookId ⟨bookId, 0, 0⟩ (planned.map (·.row bookId generated))
          t t' := by
  obtain ⟨batch, hLoop, hRows, hPosition, hHash⟩ :=
    appendLoop_of_compiled h hEmpty generated
  constructor
  · refine ⟨batch, ?_, hRows, hPosition, hHash⟩
    simp only [compileCurrentV2Events, bind_eq_ok, require_eq_ok, exists_const] at h
    simp only [prepareBatch, hEmpty.head, hEmpty.streams, bind_eq_ok, fetch_eq_ok,
      forEach_eq_ok, require_eq_ok, pure_eq_ok, exists_const]
    refine ⟨(), newStreamVersions_valid h.1, _, rfl, fun key hKey => ⟨0, ?_, rfl⟩, batch, ?_,
      rfl⟩
    · exact newStreamVersions_lookup (mem_dictFromkeys.1 hKey)
    · simpa only [hEmpty.streams] using hLoop
  · intro expectedStreamVersions result t' hAppend
    obtain ⟨head, rows, hAppended⟩ := appendBatch_ok hAppend
    obtain ⟨head', batch', hPrepare, hEvents⟩ := appendBatch_prepared hAppend
    simp only [prepareBatch, hEmpty.head, bind_eq_ok, fetch_eq_ok, pure_eq_ok,
      Option.some.injEq, exists_eq_left', Prod.mk.injEq] at hPrepare
    obtain ⟨_, -, _, -, state, hSame, rfl, rfl⟩ := hPrepare
    rw [hLoop, Except.ok.injEq] at hSame
    subst hSame
    have hHead : head = ⟨bookId, 0, 0⟩ :=
      Option.some.inj (hAppended.locked.symm.trans hEmpty.head)
    rw [hAppended.events, hRows] at hEvents
    obtain rfl := List.append_cancel_left hEvents
    exact hHead ▸ hAppended

end Rounds

/-! ### A transaction and its reversal -/

/-- An event of an import. -/
def sampleImported (eventId streamId : UUID) (causationEventId : Option UUID)
    (payload : EventContract) : PendingEvent where
  eventId := eventId
  streamType := "journal_transaction"
  streamId := streamId
  payload := payload
  commandId := 40
  actorSubjectId := frozenImportActorSubjectId
  correlationId := 40
  causationEventId := causationEventId
  effectiveAt := ⟨sampleDate, 0⟩

/-- Transaction 10, and transaction 11, which reverses it. -/
def sampleImport : List PendingEvent :=
  [sampleImported 1 10 none ⟨.journalTransactionPosted ⟨10, .standard, none,
      samplePostings 20 21 .debit, none, []⟩, rfl⟩,
    sampleImported 2 11 (some 1) ⟨.journalTransactionReversed ⟨11, 10, 1, 7, .duplicate,
      samplePostings 22 23 .credit, none⟩, rfl⟩]

theorem compiledRows_appended_sample : ∃ planned,
    compileCurrentV2Events sampleDigest 1 sampleImport = .ok planned ∧ planned.length = 2
      ∧ ∃ batch, prepareBatch sampleDigest (.opened [1]) 1 (newStreamVersions sampleImport)
          sampleImport (fun id => (id.val, ⟨sampleDate, 0⟩)) = .ok (⟨1, 0, 0⟩, batch)
        ∧ batch.nextPosition = 2 := by
  obtain ⟨planned, hPlanned, hLength⟩ : ∃ planned,
      compileCurrentV2Events sampleDigest 1 sampleImport = .ok planned ∧ planned.length = 2 :=
    ⟨_, rfl, rfl⟩
  have hEmpty : EmptyBook (.opened [1]) 1 := ⟨rfl, fun _ => rfl⟩
  obtain ⟨⟨batch, hPrepared, -, hPosition, -⟩, -⟩ :=
    compiledRows_appended hPlanned hEmpty fun id => (id.val, ⟨sampleDate, 0⟩)
  exact ⟨planned, hPlanned, hLength, batch, hPrepared, hPosition.trans hLength⟩

end TrackAnywhere.Ports
