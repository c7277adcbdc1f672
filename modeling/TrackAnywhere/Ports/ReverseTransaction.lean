import TrackAnywhere.Ports.EventStore
import TrackAnywhere.Ports.ReversalChains

/-!
# Reversing and correcting transactions

A reversal is built from the event of its original: `loadReversalSource` finds
it and refuses what may not be reversed, and `buildReversalPending` mirrors its
postings.  A correction is a reversal and a new transaction in one plan.  The
projector checks the mirror image again, posting by posting.

`uuid5` derives the ids of the mirrored postings; that they do not collide is
`DerivedApart`.
-/

namespace TrackAnywhere.Ports

open TrackAnywhere.Verified
open TrackAnywhere.Verified.Checked
open TrackAnywhere.Verified.KeyedSum

inductive ReverseError
  | transactionIdAlreadyExists (message : String)
  | transactionAlreadyReversed (message : String)
  | transactionNotFound (message : String)
  | invalidTransactionSource (message : String)
  | creditCardChargeHasActiveRefunds (message : String)
  | creditCardReversalChainForbidden (message : String)
  | creditCardReversalRequiresActiveAccount (message : String)
  | creditCardReversalPrecedesOriginal (message : String)
  | creditCardGeneralCorrectionForbidden (message : String)
  | idempotencyValidation (message : String)
  | registry (error : RegistryError)
  /-- A contract refuses its fields. -/
  | contract (message : String)
  /-- What the building of a posted payload raises. -/
  | posting (message : String)
deriving DecidableEq

/-! ## The source of a reversal -/

/-- What a unit of work reads of one Book; `closed` holds of the accounts with
status `closed`. -/
structure BookReads where
  bookId : UUID
  catalog : Catalog
  closed : UUID → Bool
  ledger : List LedgerEventRecord
  tables : SyncTables
  streamHeads : List EventStreamHeadRecord

/-- `_ReversalSource`. -/
structure ReversalSource where
  transaction : JournalTransactionRecord
  event : LedgerEventRecord
  postings : List JournalPostingFact

namespace BookReads

variable (db : BookReads)

/-- The event of the Book with this id. -/
def event? (eventId : UUID) : Option LedgerEventRecord :=
  db.ledger.find? fun e => e.bookId = db.bookId ∧ e.eventId = eventId

/-- `_ensure_transaction_id_available`. -/
def ensureTransactionIdAvailable (transactionId : UUID) :
    Except ReverseError Unit :=
  require (db.tables.transaction? transactionId = none
      ∧ ∀ head ∈ db.streamHeads, ¬(head.bookId = db.bookId
        ∧ head.streamKey = ("journal_transaction", transactionId)))
    (.transactionIdAlreadyExists "journal transaction id already exists")

/-- `_source_touches_credit_card_account`. -/
def sourceTouchesCreditCardAccount (postings : List JournalPostingFact) : Bool :=
  db.catalog.accounts.any fun a =>
    a.accountId ∈ postings.map (·.accountId) ∧ a.accountSubtype = some "credit_card"

/-- `_closed_credit_card_account_id` finds an account. -/
def touchesClosedCreditCard (postings : List JournalPostingFact) : Bool :=
  db.catalog.accounts.any fun a =>
    a.accountId ∈ postings.map (·.accountId) ∧ a.accountSubtype = some "credit_card"
      ∧ db.closed a.accountId

/-- The postings that a reversal of the event mirrors. -/
def reversiblePostings (reversesTransactionId : UUID) :
    EventPayload → Except ReverseError (List JournalPostingFact)
  | .creditCardTransactionRecorded p => do
      require (p.transactionId = reversesTransactionId)
        (.invalidTransactionSource "credit-card event transaction identity mismatch")
      require (p.intent = .charge →
          db.tables.activeRefunds reversesTransactionId = [])
        (.creditCardChargeHasActiveRefunds
          "credit-card charge refunds must be reversed first")
      return p.postings
  | .journalTransactionPosted p => do
      require (p.transactionId = reversesTransactionId)
        (.invalidTransactionSource "posted event transaction identity mismatch")
      return p.postings
  | .journalTransactionReversed p => do
      require (p.reversalTransactionId = reversesTransactionId)
        (.invalidTransactionSource "reversal event transaction identity mismatch")
      require (db.sourceTouchesCreditCardAccount p.inversePostings = false)
        (.creditCardReversalChainForbidden
          "a credit-card reversal cannot itself be reversed")
      return p.inversePostings
  | _ => .error (.invalidTransactionSource
      "journal transaction source event cannot be reversed")

/-- `_load_reversal_source`. -/
def loadReversalSource (reversesTransactionId reversalTransactionId : UUID) :
    Except ReverseError ReversalSource := do
  require (reversalTransactionId ≠ reversesTransactionId)
    (.transactionIdAlreadyExists "a reversal requires a new transaction id")
  db.ensureTransactionIdAvailable reversalTransactionId
  require (db.tables.reversalOf? reversesTransactionId = none)
    (.transactionAlreadyReversed "journal transaction is already reversed")
  let transaction ← fetch (db.tables.transaction? reversesTransactionId)
    (.transactionNotFound "journal transaction not found in requested Book")
  let event ← fetch (db.event? transaction.sourceEventId)
    (.invalidTransactionSource "journal transaction source event is missing")
  let payload ← (validateStored event.eventType event.eventSchemaVersion
    event.payload).mapError ReverseError.registry
  let postings ← db.reversiblePostings reversesTransactionId payload.1
  return ⟨transaction, event, postings⟩

end BookReads

/-! ## The mirror image -/

/-- `uuid.NAMESPACE_URL`. -/
def namespaceUrl : UUID := 0x6ba7b8119dad11d180b400c04fd430c8

/-- `ReverseTransactionCommand`; the stream of a reversal starts at version
zero. -/
structure ReverseTransactionCommand where
  commandId : UUID
  reversalTransactionId : UUID
  reversesTransactionId : UUID
  reasonCode : ReversalReasonCode
  effectiveAt : Instant
  descriptionRef : Option UUID

section Mirror

variable (uuid5 : UUID → String → UUID)

/-- `_REVERSE_EVENT_NAMESPACE`. -/
def reverseEventNamespace : UUID :=
  uuid5 namespaceUrl "https://track-anywhere.dev/v2/events/journal.reverse"

/-- The id of a mirrored posting. -/
def derivedPostingId (reversalTransactionId postingId : UUID) : UUID :=
  uuid5 (reverseEventNamespace uuid5)
    (reversalTransactionId.text ++ ":posting:" ++ postingId.text)

/-- One posting, on the other side. -/
def mirrored (reversalTransactionId : UUID) (posting : JournalPostingFact) :
    JournalPostingFact where
  postingId := derivedPostingId uuid5 reversalTransactionId posting.postingId
  position := posting.position
  accountId := posting.accountId
  assetCode := posting.assetCode
  side := posting.side.opposite
  units := posting.units

/-- The payload of the reversal of a source. -/
def ReversalSource.payload (source : ReversalSource)
    (command : ReverseTransactionCommand) : JournalTransactionReversed where
  reversalTransactionId := command.reversalTransactionId
  reversesTransactionId := source.transaction.transactionId
  originalEventId := source.event.eventId
  originalEventHash := source.event.eventHash
  reasonCode := command.reasonCode
  inversePostings := source.postings.map (mirrored uuid5 command.reversalTransactionId)
  descriptionRef := command.descriptionRef

/-- `_build_reversal_pending`. -/
def buildReversalPending (command : ReverseTransactionCommand)
    (source : ReversalSource) (actorSubjectId : String) (eventId : Option UUID) :
    Except ReverseError PendingEvent :=
  let payload := source.payload uuid5 command
  match h : payload.validateCompleteInversePostings with
  | .error message => .error (.contract message)
  | .ok () => .ok {
      eventId := eventId.getD
        (uuid5 (reverseEventNamespace uuid5) command.commandId.text)
      streamType := "journal_transaction"
      streamId := command.reversalTransactionId
      payload := ⟨.journalTransactionReversed payload, h⟩
      commandId := command.commandId
      actorSubjectId := actorSubjectId
      correlationId := command.commandId
      causationEventId := some source.event.eventId
      effectiveAt := command.effectiveAt }

/-- The events of a plan, with the stream versions it expects. -/
structure JournalPlan where
  expectedStreamVersions : List (StreamKey × Int)
  events : List PendingEvent

/-- `_build_reverse_plan`. -/
def buildReversePlan (db : BookReads) (command : ReverseTransactionCommand)
    (actorSubjectId : String) : Except ReverseError JournalPlan := do
  let source ← db.loadReversalSource command.reversesTransactionId
    command.reversalTransactionId
  let touchesCreditCard := db.sourceTouchesCreditCardAccount source.postings
  require (¬(touchesCreditCard ∧ db.touchesClosedCreditCard source.postings))
    (.creditCardReversalRequiresActiveAccount
      "reopen the credit-card account before reversing its transaction")
  require (¬(touchesCreditCard ∧ command.effectiveAt < source.event.effectiveAt))
    (.creditCardReversalPrecedesOriginal
      "credit-card reversal cannot precede its source transaction")
  let pending ← buildReversalPending uuid5 command source actorSubjectId none
  return ⟨[(("journal_transaction", command.reversalTransactionId), 0)], [pending]⟩

/-! ## Corrections -/

/-- What `_build_posted_payload` returns for a transaction id. -/
structure PostedPayload (transactionId : UUID) where
  payload : JournalTransactionPosted
  hTransaction : payload.transactionId = transactionId
  hValid : payload.validateCompletePostings = .ok ()

/-- `CorrectTransactionCommand`: a reversal, and the transaction that replaces
the original. -/
structure CorrectTransactionCommand where
  reversal : ReverseTransactionCommand
  replacementTransactionId : UUID
  replacementEffectiveAt : Instant

/-- `_CORRECTION_EVENT_NAMESPACE`. -/
def correctionEventNamespace : UUID :=
  uuid5 namespaceUrl "https://track-anywhere.dev/v2/events/journal.correct"

/-- `_build_correction_plan`; `posted` answers for `_build_posted_payload`. -/
def buildCorrectionPlan (db : BookReads) (command : CorrectTransactionCommand)
    (posted : Except ReverseError (PostedPayload command.replacementTransactionId))
    (actorSubjectId : String) : Except ReverseError JournalPlan := do
  let reversal := command.reversal
  require (command.replacementTransactionId ≠ reversal.reversesTransactionId
      ∧ command.replacementTransactionId ≠ reversal.reversalTransactionId)
    (.transactionIdAlreadyExists "correction transaction ids must all be distinct")
  require (touchesCreditCard db.catalog db.tables reversal.reversesTransactionId = false)
    (.creditCardGeneralCorrectionForbidden
      ("typed credit-card transactions cannot use general correction; "
        ++ "historical credit-card transactions require exact reversal"))
  let source ← db.loadReversalSource reversal.reversesTransactionId
    reversal.reversalTransactionId
  require (db.sourceTouchesCreditCardAccount source.postings = false)
    (.creditCardGeneralCorrectionForbidden
      ("typed credit-card transactions cannot use general correction; "
        ++ "historical credit-card transactions require exact reversal"))
  db.ensureTransactionIdAvailable command.replacementTransactionId
  let replacement ← posted
  let reversalEventId := uuid5 (correctionEventNamespace uuid5)
    (reversal.commandId.text ++ ":reversal")
  let pending ← buildReversalPending uuid5 reversal source actorSubjectId
    (some reversalEventId)
  require (∀ p ∈ (source.payload uuid5 reversal).inversePostings,
      p.postingId ∉ replacement.payload.postings.map (·.postingId))
    (.idempotencyValidation
      "correction replacement posting identities must be distinct")
  return ⟨[(("journal_transaction", reversal.reversalTransactionId), 0),
      (("journal_transaction", command.replacementTransactionId), 0)],
    [pending, {
      eventId := uuid5 (correctionEventNamespace uuid5)
        (reversal.commandId.text ++ ":replacement")
      streamType := "journal_transaction"
      streamId := command.replacementTransactionId
      payload := ⟨.journalTransactionPosted replacement.payload, replacement.hValid⟩
      commandId := reversal.commandId
      actorSubjectId := actorSubjectId
      correlationId := reversal.commandId
      causationEventId := some reversalEventId
      effectiveAt := command.replacementEffectiveAt }]⟩

end Mirror

/-! ## What is built passes -/

/-- The derived posting ids are new and do not collide. -/
structure DerivedApart (uuid5 : UUID → String → UUID) (reversalTransactionId : UUID)
    (postings : List JournalPostingFact) : Prop where
  new : ∀ p ∈ postings, ∀ q ∈ postings,
    p.postingId ≠ derivedPostingId uuid5 reversalTransactionId q.postingId
  distinct : ∀ p ∈ postings, ∀ q ∈ postings,
    derivedPostingId uuid5 reversalTransactionId p.postingId
      = derivedPostingId uuid5 reversalTransactionId q.postingId →
    p.postingId = q.postingId

section Exact

variable {uuid5 : UUID → String → UUID} {reversalTransactionId : UUID}
  {postings : List JournalPostingFact}

theorem inverts_mirrored (posting : JournalPostingFact) :
    inverts posting (mirrored uuid5 reversalTransactionId posting) :=
  ⟨rfl, rfl, rfl, rfl, rfl⟩

/-- The mirror image passes the check of the projector. -/
theorem validateExactInverse_mirrored
    (h : DerivedApart uuid5 reversalTransactionId postings) :
    validateExactInverse postings
      (postings.map (mirrored uuid5 reversalTransactionId)) = .ok () := by
  simp only [validateExactInverse, bind_eq_ok, require_eq_ok, forEach_eq_ok,
    exists_const]
  refine ⟨(List.length_map _).symm, ?_, ?_⟩
  · intro p hp hMem
    rw [List.map_map] at hMem
    obtain ⟨q, hq, hSame⟩ := List.mem_map.1 hMem
    exact h.new p hp q hq hSame.symm
  · intro pair hPair
    rw [List.zip_map_right, List.mem_map] at hPair
    obtain ⟨⟨p, q⟩, hZip, rfl⟩ := hPair
    have hSame : p = q := by
      obtain ⟨i, hi, hAt⟩ := List.getElem_of_mem hZip
      rw [List.getElem_zip] at hAt
      exact (congrArg Prod.fst hAt).symm.trans (congrArg Prod.snd hAt)
    subst hSame
    exact inverts_mirrored p

/-- The postings of a transaction that was stored are in order. -/
theorem ordered_of_financialFact {payload : EventPayload} {transactionId : UUID}
    (hValid : payload.validate = .ok ())
    (hFact : payload.financialFact = some (transactionId, postings)) :
    validateOrderedPostings postings = .ok () := by
  cases payload with
  | creditCardTransactionRecorded p =>
      cases hFact
      simp only [EventPayload.validate,
        CreditCardTransactionRecorded.validateSemanticPostings, bind_eq_ok] at hValid
      obtain ⟨_, hOrdered, -⟩ := hValid
      exact hOrdered
  | journalTransactionPosted p =>
      cases hFact
      simp only [EventPayload.validate, JournalTransactionPosted.validateCompletePostings,
        bind_eq_ok] at hValid
      obtain ⟨_, hOrdered, -⟩ := hValid
      exact hOrdered
  | journalTransactionReversed p =>
      cases hFact
      simp only [EventPayload.validate,
        JournalTransactionReversed.validateCompleteInversePostings, bind_eq_ok] at hValid
      obtain ⟨_, hOrdered, -⟩ := hValid
      exact hOrdered
  | _ => cases hFact

theorem ordered_mirrored (h : DerivedApart uuid5 reversalTransactionId postings)
    (hOrdered : validateOrderedPostings postings = .ok ()) :
    validateOrderedPostings (postings.map (mirrored uuid5 reversalTransactionId))
      = .ok () := by
  simp only [validateOrderedPostings, validateOrderedRecords, bind_eq_ok, require_eq_ok,
    forEach_eq_ok, exists_const, List.length_map, List.map_map, List.mem_singleton,
    forall_eq] at hOrdered ⊢
  obtain ⟨hMany, hPositions, hIds⟩ := hOrdered
  refine ⟨hMany, hPositions, ?_⟩
  rw [List.Nodup, List.pairwise_map] at hIds ⊢
  exact hIds.imp_of_mem fun hp hq hNe hSame => hNe (h.distinct _ hp _ hq hSame)

end Exact

section Source

variable {db : BookReads} {reverses reversal : UUID} {source : ReversalSource}

/-- What a source that was found is. -/
theorem loadReversalSource_ok
    (h : db.loadReversalSource reverses reversal = .ok source) :
    reversal ≠ reverses ∧ db.tables.transaction? reverses = some source.transaction
      ∧ db.event? source.transaction.sourceEventId = some source.event
      ∧ source.event.financialFact? = some (reverses, source.postings)
      ∧ validateOrderedPostings source.postings = .ok () := by
  simp only [BookReads.loadReversalSource, bind_eq_ok, require_eq_ok, fetch_eq_ok,
    mapError_eq_ok, pure_eq_ok, exists_const] at h
  obtain ⟨hNe, -, -, -, transaction, hTransaction, event, hEvent, contract, hContract,
    postings, hPostings, rfl⟩ := h
  have hFact : contract.1.financialFact = some (reverses, postings) := by
    obtain ⟨payload, hValid⟩ := contract
    cases payload with
    | creditCardTransactionRecorded p =>
        simp only [BookReads.reversiblePostings, bind_eq_ok, require_eq_ok, pure_eq_ok,
          exists_const] at hPostings
        obtain ⟨rfl, -, rfl⟩ := hPostings
        rfl
    | journalTransactionPosted p =>
        simp only [BookReads.reversiblePostings, bind_eq_ok, require_eq_ok, pure_eq_ok,
          exists_const] at hPostings
        obtain ⟨rfl, rfl⟩ := hPostings
        rfl
    | journalTransactionReversed p =>
        simp only [BookReads.reversiblePostings, bind_eq_ok, require_eq_ok, pure_eq_ok,
          exists_const] at hPostings
        obtain ⟨rfl, -, rfl⟩ := hPostings
        rfl
    | _ => cases hPostings
  refine ⟨hNe, hTransaction, hEvent, ?_, ordered_of_financialFact contract.2 hFact⟩
  exact Option.bind_eq_some_iff.2
    ⟨contract, LedgerEventRecord.contract?_eq_some.2 hContract, hFact⟩

/-- What is built of a source passes its contract, and the check of the
projector. -/
theorem buildReversalPending_exact {uuid5 : UUID → String → UUID}
    {command : ReverseTransactionCommand}
    (h : db.loadReversalSource command.reversesTransactionId
      command.reversalTransactionId = .ok source)
    (hApart : DerivedApart uuid5 command.reversalTransactionId source.postings) :
    (∀ actorSubjectId eventId, ∃ pending,
        buildReversalPending uuid5 command source actorSubjectId eventId = .ok pending
          ∧ pending.payload.1 = .journalTransactionReversed
            (source.payload uuid5 command))
      ∧ validateExactInverse source.postings
        (source.payload uuid5 command).inversePostings = .ok () := by
  obtain ⟨hNe, hTransaction, -, -, hOrdered⟩ := loadReversalSource_ok h
  have hId : source.transaction.transactionId = command.reversesTransactionId := by
    simpa using List.find?_some hTransaction
  have hValid : (source.payload uuid5 command).validateCompleteInversePostings
      = .ok () := by
    simp only [JournalTransactionReversed.validateCompleteInversePostings, bind_eq_ok,
      require_eq_ok]
    refine ⟨(), ordered_mirrored hApart hOrdered, ?_⟩
    show command.reversalTransactionId ≠ source.transaction.transactionId
    rw [hId]
    exact hNe
  refine ⟨fun actorSubjectId eventId => ?_, validateExactInverse_mirrored hApart⟩
  unfold buildReversalPending
  simp only
  split
  · next hError =>
      rw [hValid] at hError
      cases hError
  · exact ⟨_, rfl, rfl⟩

end Source

/-! ## Balances over whole runs -/

/-- The balance of a key, zero where no row is. -/
def SyncTables.balanceAt (t : SyncTables) (key : BalanceKey) : Int :=
  valueAt (·.balanceUnits) t.accountBalances key

/-- The stored event carries the payload of the pending one. -/
def LedgerEventRecord.Stores (stored : LedgerEventRecord) (pending : PendingEvent) : Prop :=
  stored.contract? = some pending.payload

section Runs

variable {ledger events : List LedgerEventRecord} {bookId : UUID} {t t' : SyncTables}
  {stored : LedgerEventRecord} {key : BalanceKey}

/-- What a financial event adds to a balance. -/
theorem sumAt_signedPostings {transactionId : UUID} {postings : List JournalPostingFact}
    (h : stored.financialFact? = some (transactionId, postings)) :
    sumAt stored.signedPostings key = postingUnits postings key := by
  unfold LedgerEventRecord.signedPostings postingUnits
  rw [h]

/-- One event moves a balance by its own postings. -/
theorem balanceAt_step (hDistinct : ((events ++ [stored]).map (·.eventId)).Nodup)
    (hRun : Run (Projects ledger bookId) SyncTables.empty events t)
    (hStep : Projects ledger bookId t stored t') :
    t'.balanceAt key = t.balanceAt key + sumAt stored.signedPostings key := by
  have hBefore : (events.map (·.eventId)).Nodup := by
    rw [List.map_append, List.nodup_append] at hDistinct
    exact hDistinct.1
  unfold SyncTables.balanceAt
  rw [valueAt_accountBalances (journalHistory_run hDistinct (hRun.snoc hStep)),
    valueAt_accountBalances (journalHistory_run hBefore hRun), signedPostings_append,
    sumAt_append]
  congr 1
  simp [signedPostings]

/-- A source that was found is an event of the history, and the one the
projector finds under its id. -/
theorem source_of_run (hKeys : LedgerKeys ledger)
    (hDistinct : (events.map (·.eventId)).Nodup)
    (hRun : Run (Projects ledger bookId) SyncTables.empty events t)
    {db : BookReads} (hTables : db.tables = t) (hLedger : ∀ e ∈ db.ledger, e ∈ ledger)
    {reverses reversal : UUID} {source : ReversalSource}
    (h : db.loadReversalSource reverses reversal = .ok source) :
    source.event ∈ events
      ∧ ledgerEvent? ledger source.event.eventId = some source.event := by
  obtain ⟨-, hTransaction, hEvent, -, -⟩ := loadReversalSource_ok h
  rw [hTables] at hTransaction
  have hOwn : source.event ∈ ledger := hLedger _ (List.mem_of_find?_eq_some hEvent)
  have hId : source.event.eventId = source.transaction.sourceEventId := by
    have hFound := List.find?_some hEvent
    simp only [decide_eq_true_eq] at hFound
    exact hFound.2
  refine ⟨source_mem_of_run hKeys hRun (journalHistory_run hDistinct hRun)
    (List.mem_of_find?_eq_some hTransaction) hOwn hId, ?_⟩
  unfold ledgerEvent?
  obtain ⟨found, hFound⟩ : ∃ found, ledger.find?
      (fun e => e.eventId = source.event.eventId) = some found := by
    rw [← Option.isSome_iff_exists, List.find?_isSome]
    exact ⟨source.event, hOwn, by simp⟩
  rw [hFound]
  have hFoundId := List.find?_some hFound
  rw [decide_eq_true_eq] at hFoundId
  rw [List.inj_on_of_nodup_map hKeys.eventId (List.mem_of_find?_eq_some hFound) hOwn
    hFoundId]

/-- A correction appends the mirror image of its source, then the replacement. -/
theorem buildCorrectionPlan_ok {uuid5 : UUID → String → UUID} {db : BookReads}
    {command : CorrectTransactionCommand}
    {posted : Except ReverseError (PostedPayload command.replacementTransactionId)}
    {actorSubjectId : String} {plan : JournalPlan} {source : ReversalSource}
    (hSource : db.loadReversalSource command.reversal.reversesTransactionId
      command.reversal.reversalTransactionId = .ok source)
    (h : buildCorrectionPlan uuid5 db command posted actorSubjectId = .ok plan) :
    ∃ replacement pending posting, posted = .ok replacement
      ∧ plan.events = [pending, posting]
      ∧ pending.payload.1
          = .journalTransactionReversed (source.payload uuid5 command.reversal)
      ∧ posting.payload.1 = .journalTransactionPosted replacement.payload := by
  simp only [buildCorrectionPlan, bind_eq_ok, require_eq_ok, pure_eq_ok,
    exists_const] at h
  obtain ⟨-, -, source', hSource', -, _, -, replacement, hPosted, pending, hPending, -,
    rfl⟩ := h
  obtain rfl : source = source' := Except.ok.inj (hSource.symm.trans hSource')
  refine ⟨replacement, pending, _, hPosted, rfl, ?_, rfl⟩
  unfold buildReversalPending at hPending
  simp only at hPending
  split at hPending
  · cases hPending
  · cases hPending
    rfl

/-- A stored event creates the transaction of the payload it carries. -/
theorem financialFact?_of_stores {pending : PendingEvent} {payload : EventPayload}
    (hStored : stored.Stores pending) (hPayload : pending.payload.1 = payload) :
    stored.financialFact? = payload.financialFact := by
  unfold LedgerEventRecord.financialFact?
  rw [hStored, ← hPayload]
  rfl

/-- In every history each transaction is reversed at most once.  The event of a
source that may be reversed is in the history, and it is the one the projector
finds.  What is built of it passes the check of the projector, and projecting
that takes back what the event added: with nothing in between, every balance is
what it was before the event.  A correction adds its replacement to this. -/
theorem reversals_exact_over_run (uuid5 : UUID → String → UUID)
    (hKeys : LedgerKeys ledger) (hDistinct : (events.map (·.eventId)).Nodup)
    (hRun : Run (Projects ledger bookId) SyncTables.empty events t) :
    (t.transactionReversals.map (·.originalTransactionId)).Nodup
    ∧ ∀ (db : BookReads) (command : ReverseTransactionCommand) (source : ReversalSource),
      db.tables = t → (∀ e ∈ db.ledger, e ∈ ledger) →
      db.loadReversalSource command.reversesTransactionId
        command.reversalTransactionId = .ok source →
      DerivedApart uuid5 command.reversalTransactionId source.postings →
      source.event ∈ events
      ∧ ledgerEvent? ledger (source.payload uuid5 command).originalEventId
          = some source.event
      ∧ source.event.financialFact?
          = some (command.reversesTransactionId, source.postings)
      ∧ validateExactInverse source.postings
          (source.payload uuid5 command).inversePostings = .ok ()
      ∧ (∀ actorSubjectId eventId, ∃ pending,
          buildReversalPending uuid5 command source actorSubjectId eventId = .ok pending
          ∧ pending.payload.1 = .journalTransactionReversed (source.payload uuid5 command))
      ∧ ∀ before between t₀ t₁, events = before ++ source.event :: between →
          Run (Projects ledger bookId) SyncTables.empty before t₀ →
          Projects ledger bookId t₀ source.event t₁ →
          Run (Projects ledger bookId) t₁ between t →
          (∀ actorSubjectId eventId pending reversed t₂,
            buildReversalPending uuid5 command source actorSubjectId eventId
              = .ok pending →
            reversed.Stores pending →
            ((events ++ [reversed]).map (·.eventId)).Nodup →
            Projects ledger bookId t reversed t₂ →
            ∀ key, t₂.balanceAt key
              = t.balanceAt key - (t₁.balanceAt key - t₀.balanceAt key))
          ∧ (∀ replacementTransactionId replacementEffectiveAt posted replacement
              actorSubjectId plan reversed replaced t₃,
            buildCorrectionPlan uuid5 db
                ⟨command, replacementTransactionId, replacementEffectiveAt⟩ posted
                actorSubjectId = .ok plan →
            posted = .ok replacement →
            List.Forall₂ LedgerEventRecord.Stores [reversed, replaced] plan.events →
            ((events ++ [reversed, replaced]).map (·.eventId)).Nodup →
            Run (Projects ledger bookId) t [reversed, replaced] t₃ →
            ∀ key, t₃.balanceAt key
              = t.balanceAt key + (postingUnits replacement.payload.postings key
                - (t₁.balanceAt key - t₀.balanceAt key))) := by
  refine ⟨reversedOnce_run hRun, ?_⟩
  intro db command source hTables hLedger hSource hApart
  obtain ⟨hMem, hFound⟩ := source_of_run hKeys hDistinct hRun hTables hLedger hSource
  obtain ⟨-, -, -, hFact, -⟩ := loadReversalSource_ok hSource
  obtain ⟨hBuilds, hInverse⟩ := buildReversalPending_exact hSource hApart
  refine ⟨hMem, hFound, hFact, hInverse, hBuilds, ?_⟩
  intro before between t₀ t₁ hSplit hBefore hOriginal hBetween
  have hAdded : ∀ key, t₁.balanceAt key
      = t₀.balanceAt key + postingUnits source.postings key := by
    intro key
    rw [balanceAt_step ?_ hBefore hOriginal, sumAt_signedPostings hFact]
    refine hDistinct.sublist (List.Sublist.map _ ?_)
    rw [hSplit]
    exact (List.Sublist.refl before).append (List.singleton_sublist.2 List.mem_cons_self)
  have hTaken : ∀ reversed t₂,
      reversed.financialFact? = some (command.reversalTransactionId,
        (source.payload uuid5 command).inversePostings) →
      ((events ++ [reversed]).map (·.eventId)).Nodup →
      Projects ledger bookId t reversed t₂ →
      ∀ key, t₂.balanceAt key
        = t.balanceAt key - (t₁.balanceAt key - t₀.balanceAt key) := by
    intro reversed t₂ hReversed hFresh hStep key
    rw [balanceAt_step hFresh hRun hStep, sumAt_signedPostings hReversed,
      postingUnits_of_validateExactInverse hInverse, hAdded]
    omega
  constructor
  · intro actorSubjectId eventId pending reversed t₂ hPending hStored hFresh hStep
    obtain ⟨pending', hPending', hPayload⟩ := hBuilds actorSubjectId eventId
    obtain rfl : pending = pending' := Except.ok.inj (hPending.symm.trans hPending')
    exact hTaken reversed t₂ (financialFact?_of_stores hStored hPayload) hFresh hStep
  · intro replacementTransactionId replacementEffectiveAt posted replacement
      actorSubjectId plan reversed replaced t₃ hPlan hPosted hStored hFresh hSteps key
    obtain ⟨replacement', pending, posting, hPosted', hEvents, hReversal, hPosting⟩ :=
      buildCorrectionPlan_ok hSource hPlan
    obtain rfl : replacement = replacement' :=
      Except.ok.inj (hPosted.symm.trans hPosted')
    rw [hEvents] at hStored
    obtain ⟨hReversed, hReplaced, -⟩ :
        reversed.Stores pending ∧ replaced.Stores posting ∧ True := by
      simpa using hStored
    obtain ⟨t₂, hFirst, hSecond⟩ := Run.cons_iff.1 hSteps
    obtain ⟨t₃', hLast, hNil⟩ := Run.cons_iff.1 hSecond
    rw [Run.nil_iff.1 hNil]
    have hBoth : (((events ++ [reversed]) ++ [replaced]).map (·.eventId)).Nodup := by
      rwa [List.append_assoc]
    have hOne : ((events ++ [reversed]).map (·.eventId)).Nodup := by
      rw [List.map_append, List.nodup_append] at hBoth
      exact hBoth.1
    rw [balanceAt_step hBoth (hRun.snoc hFirst) hLast,
      hTaken reversed t₂ (financialFact?_of_stores hReversed hReversal) hOne hFirst,
      sumAt_signedPostings (financialFact?_of_stores hReplaced hPosting)]
    omega

end Runs

/-! ### The reversal of one transaction -/

/-- `uuid5`, on the names of the sample. -/
def sampleReversalUuid5 (_ : UUID) (name : String) : UUID :=
  if name = "00000000-0000-0000-0000-00000000000b:posting:00000000-0000-0000-0000-000000000014"
  then 335829411354495591041796036561155749168
  else if name = "00000000-0000-0000-0000-00000000000b:posting:00000000-0000-0000-0000-000000000015"
  then 206143649403169500220209253481141216258
  else 78767113168316065646856361156890924143

def sampleReverseCommand : ReverseTransactionCommand where
  commandId := 2
  reversalTransactionId := 11
  reversesTransactionId := 10
  reasonCode := .duplicate
  effectiveAt := ⟨sampleDate, 0⟩
  descriptionRef := none

def sampleSource : ReversalSource where
  transaction :=
    { transactionId := 10
      sourceEventId := 1
      sourcePosition := 1
      effectiveAt := ⟨sampleDate, 0⟩
      transactionKind := .standard
      descriptionRef := none }
  event := samplePosted
  postings := samplePostings 20 21 .debit

/-- The reversal of the sample, stored. -/
def sampleMirrored : LedgerEventRecord :=
  sampleEvent 2 "journal_transaction" 11 ⟨sampleDate, 0⟩
    (.journalTransactionReversed
      (sampleSource.payload sampleReversalUuid5 sampleReverseCommand))

def sampleReverseLedger : List LedgerEventRecord := [samplePosted, sampleMirrored]

def sampleReads : BookReads where
  bookId := 1
  catalog := sampleCatalog
  closed := fun _ => false
  ledger := [samplePosted]
  tables := projected sampleCatalog sampleReverseLedger SyncTables.empty samplePosted
  streamHeads := []

theorem sampleSource_loads : sampleReads.loadReversalSource 10 11 = .ok sampleSource := by
  rfl

theorem sampleMirrored_apart :
    DerivedApart sampleReversalUuid5 11 (samplePostings 20 21 .debit) := by
  constructor <;> decide

theorem sampleMirrored_accepted : (applyStored sampleCatalog sampleReverseLedger
    sampleMirrored sampleReads.tables).isOk = true := by
  decide

/-- The reversal of the only transaction of a Book leaves every balance at zero. -/
theorem reversals_exact_over_sample :
    validateExactInverse sampleSource.postings
        (sampleSource.payload sampleReversalUuid5 sampleReverseCommand).inversePostings
      = .ok ()
    ∧ ∀ key, (projected sampleCatalog sampleReverseLedger sampleReads.tables
        sampleMirrored).balanceAt key = 0 := by
  have hPosted : Projects sampleReverseLedger 1 SyncTables.empty samplePosted
      sampleReads.tables :=
    projects_projected sampleCatalog (by simp [sampleReverseLedger]) rfl (by decide)
  have hReversed : Projects sampleReverseLedger 1 sampleReads.tables sampleMirrored
      (projected sampleCatalog sampleReverseLedger sampleReads.tables sampleMirrored) :=
    projects_projected sampleCatalog (by simp [sampleReverseLedger]) rfl
      sampleMirrored_accepted
  have hRun : Run (Projects sampleReverseLedger 1) SyncTables.empty [samplePosted]
      sampleReads.tables := .cons hPosted (.nil _)
  have hKeys : LedgerKeys sampleReverseLedger := by constructor <;> decide
  obtain ⟨-, hExact⟩ := reversals_exact_over_run sampleReversalUuid5 hKeys (by decide) hRun
  obtain ⟨-, -, -, hInverse, hBuilds, hBalances⟩ := hExact sampleReads
    sampleReverseCommand sampleSource rfl (by simp [sampleReads, sampleReverseLedger])
    sampleSource_loads sampleMirrored_apart
  refine ⟨hInverse, fun key => ?_⟩
  obtain ⟨pending, hPending, hPayload⟩ := hBuilds "actor" none
  have hStored : sampleMirrored.Stores pending := by
    refine LedgerEventRecord.contract?_eq_some.2 (validateStored_eq_ok.2 ⟨?_, ?_, rfl⟩)
    · rw [hPayload]
      rfl
    · rw [hPayload]
      rfl
  rw [(hBalances [] [] SyncTables.empty sampleReads.tables rfl (.nil _) hPosted
    (.nil _)).1 "actor" none pending sampleMirrored _ hPending hStored (by decide)
    hReversed key]
  simp [SyncTables.balanceAt, SyncTables.empty]

end TrackAnywhere.Ports
