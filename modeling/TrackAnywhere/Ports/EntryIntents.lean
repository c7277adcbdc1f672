import TrackAnywhere.Ports.CommandBus

/-!
# Prepared entry intents

The tables of the everyday entry gateway and the statements that its commit
executes on them: an intent is read, checked and claimed, and duplicate
evidence is looked up before the claim and inserted after the projection.

What a commit reads besides these tables is answered by its parameters
(`EntryAnswers`): the clock of the application, and the plan that the compiler
makes of the restored entry in the context of that moment.
-/

namespace TrackAnywhere.Ports

open TrackAnywhere.Verified
open TrackAnywhere.Verified.Checked
open TrackAnywhere.Verified.KeyedSum

/-- An aware `datetime`, or a `timestamptz`, in microseconds. -/
abbrev Moment := Int

/-! ## Tables -/

inductive PreparedStatus
  | ready
  | needsClarification
  | duplicateSuspected
  | unsupported
deriving DecidableEq

/-- `lifecycle_status` with the columns that
`ck_prepared_entry_intents_lifecycle_shape` binds to it. -/
inductive Lifecycle
  | created
  | consumed (consumedAt : Moment) (committedRequestId : UUID)
      (committedTransactionId : UUID)
  | cancelled (cancelledAt : Moment)
deriving DecidableEq

inductive ReferenceKind
  | providerTransaction
  | providerOrder
  | importRecord
deriving DecidableEq

/-- `source_reference_digest`. -/
structure ExternalReferenceKey where
  providerCode : String
  referenceKind : ReferenceKind
  referenceHmac : EventHash
deriving DecidableEq

/-- What the commit reads of `canonical_payload`, besides the texts of entry,
preview and references.  An intent that is not ready has no entry and no
fingerprint. -/
structure EntryPayload where
  transactionId : UUID
  occurredAt : Option Moment
  fingerprintHmac : Option EventHash
  sourceReferenceDigest : Option ExternalReferenceKey
deriving DecidableEq

/-- The columns of an intent that never change. -/
structure IntentBindings where
  bookId : UUID
  intentId : UUID
  actorId : String
  preparedStatus : PreparedStatus
  commitTokenHash : Option EventHash
  canonicalPayload : EntryPayload
  expiresAt : Moment
  createdAt : Moment
deriving DecidableEq

/-- `prepared_entry_intents`. -/
structure PreparedEntryIntentRecord where
  bindings : IntentBindings
  lifecycleStatus : Lifecycle
deriving DecidableEq

/-- `pk_prepared_entry_intents`. -/
def PreparedEntryIntentRecord.key (record : PreparedEntryIntentRecord) :
    UUID × UUID :=
  (record.bindings.bookId, record.bindings.intentId)

/-- `everyday_entry_external_references`. -/
structure ExternalReferenceRecord where
  bookId : UUID
  reference : ExternalReferenceKey
  transactionId : UUID
  sourceIntentId : UUID
  createdAt : Moment
deriving DecidableEq

/-- `everyday_entry_source_fingerprints`. -/
structure SourceFingerprintRecord where
  bookId : UUID
  transactionId : UUID
  fingerprintHmac : EventHash
  sourceIntentId : UUID
  createdAt : Moment
deriving DecidableEq

structure EntryTables where
  intents : List PreparedEntryIntentRecord
  references : List ExternalReferenceRecord
  fingerprints : List SourceFingerprintRecord

/-! ## Errors -/

inductive EntryErrorCode
  | intentNotFound
  | intentExpired
  | intentNotReady
  | intentStale
  | duplicateSuspected
deriving DecidableEq

/-- `EntryErrorCode.value`. -/
def EntryErrorCode.value : EntryErrorCode → String
  | .intentNotFound => "entry_intent_not_found"
  | .intentExpired => "entry_intent_expired"
  | .intentNotReady => "entry_intent_not_ready"
  | .intentStale => "entry_intent_stale"
  | .duplicateSuspected => "entry_duplicate_suspected"

/-- `EntryGatewayError`, as a command raises it. -/
def entryGatewayError (code : EntryErrorCode) (message : String) : CommandError :=
  .other (code.value ++ ": " ++ message)

/-! ## Intents -/

/-- `v2_guard_prepared_entry_intent`, at the clock reading `now`. -/
def guardPreparedEntryIntent (old new : PreparedEntryIntentRecord)
    (now : Moment) : Except CommandError Unit := do
  require (old.lifecycleStatus = .created)
    (.integrity "terminal prepared entry intents are immutable")
  require (new.bindings = old.bindings)
    (.integrity "prepared entry intent bindings are immutable")
  match new.lifecycleStatus with
  | .consumed _ _ _ =>
      require (now < old.bindings.expiresAt)
        (.integrity "expired prepared entry intent cannot be consumed")
  | .cancelled _ => return ()
  | .created => .error (.integrity "invalid prepared entry intent transition")

namespace EntryTables

/-- `PreparedEntryIntentRepository.get`. -/
def getIntent (t : EntryTables) (bookId : UUID) (actorId : String)
    (intentId : UUID) : Option PreparedEntryIntentRecord :=
  t.intents.find? fun record => record.bindings.bookId = bookId
    ∧ record.bindings.actorId = actorId ∧ record.bindings.intentId = intentId

/-- The row of an intent, after an update of it. -/
def setIntent (t : EntryTables) (new : PreparedEntryIntentRecord) :
    EntryTables :=
  { t with intents := t.intents.map fun record =>
      if record.key = new.key then new else record }

/-- `insert_or_exact_get` of a proposed intent, under the checks of the table;
a row of the same key stays as it is. -/
def insertIntent (t : EntryTables) (proposed : IntentBindings) :
    Except CommandError EntryTables := do
  require (decide (proposed.preparedStatus = .ready)
      = proposed.commitTokenHash.isSome)
    (.integrity "ck_prepared_entry_intents_token_shape")
  require (proposed.createdAt < proposed.expiresAt)
    (.integrity "ck_prepared_entry_intents_expiry_after_creation")
  return if (proposed.bookId, proposed.intentId) ∈ t.intents.map (·.key) then t
    else { t with intents := t.intents ++ [⟨proposed, .created⟩] }

/-- The row that `claim_ready` updates at the clock reading `now`. -/
def readyIntent (t : EntryTables) (bookId : UUID) (actorId : String)
    (intentId : UUID) (commitTokenHash : EventHash) (now : Moment) :
    Option PreparedEntryIntentRecord :=
  t.intents.find? fun record => record.bindings.bookId = bookId
    ∧ record.bindings.actorId = actorId ∧ record.bindings.intentId = intentId
    ∧ record.bindings.preparedStatus = .ready
    ∧ record.lifecycleStatus = .created
    ∧ record.bindings.commitTokenHash = some commitTokenHash
    ∧ now < record.bindings.expiresAt

/-- The row that `cancel` updates. -/
def cancellableIntent (t : EntryTables) (bookId : UUID) (actorId : String)
    (intentId : UUID) : Option PreparedEntryIntentRecord :=
  t.intents.find? fun record => record.bindings.bookId = bookId
    ∧ record.bindings.actorId = actorId ∧ record.bindings.intentId = intentId
    ∧ record.lifecycleStatus = .created

end EntryTables

/-- The clock as one statement reads it: in its `where`, in its `set`, and in
the trigger. -/
structure ClockReadings where
  condition : Moment
  value : Moment
  trigger : Moment
  hOrder : condition ≤ value ∧ value ≤ trigger

/-! ## The commit -/

/-- `CommitPreparedEntryCommand`. -/
structure CommitPreparedEntryCommand where
  bookId : UUID
  commandId : UUID
  intentId : UUID
  commitTokenHash : EventHash
deriving DecidableEq

/-- `CommitPreparedEntryCommand.operation`. -/
def commitOperation : String := "everyday_entry.commit"

/-- The call of `commit_entry`. -/
def CommitPreparedEntryCommand.financialCall (self : CommitPreparedEntryCommand)
    (actor : CommandActor) (maxAttempts : Nat) : FinancialCall where
  command :=
    { bookId := self.bookId
      commandId := self.commandId
      operation := commitOperation
      idempotencyPayload :=
        [("intent_id", .str self.intentId.text),
          ("commit_token_hash", .str self.commitTokenHash.hex)] }
  rawKey := self.commandId.text
  actor := actor
  maxAttempts := maxAttempts

/-- A plan of the compiler: the financial event opens the stream of the
transaction, reporting lines may follow. -/
structure EntryPlan (transactionId : UUID) where
  plan : LedgerWritePlan
  financial : PendingEvent
  reporting : Option PendingEvent
  hEvents : plan.events = financial :: reporting.toList
  hFinancial : financial.streamKey = ("journal_transaction", transactionId)
  hReporting : ∀ event ∈ reporting,
    event.streamKey = ("reporting_lines", transactionId)
  hNew : plan.expectedStreamVersions.lookup ("journal_transaction", transactionId)
    = some 0

/-- What the callbacks and the database answer to a commit: the clock of the
application; the entry restored, recompiled and compared with the stored
preview and references; the readings of the database clock; and what remains of
the finalizer. -/
structure EntryAnswers where
  committedAt : Moment
  recompiled : (transactionId : UUID) → Except CommandError (EntryPlan transactionId)
  claimClock : ClockReadings
  evidenceAt : Moment
  finalizer : Except CommandError Unit

namespace CommitPreparedEntryCommand

/-- `_build_commit_plan`, up to the checks of the snapshot. -/
def loadIntent (self : CommitPreparedEntryCommand) (t : EntryTables)
    (actorId : String) (committedAt : Moment) :
    Except CommandError PreparedEntryIntentRecord := do
  let snapshot ← fetch (t.getIntent self.bookId actorId self.intentId)
    (entryGatewayError .intentNotFound "entry intent was not found")
  require (snapshot.bindings.commitTokenHash = some self.commitTokenHash)
    (entryGatewayError .intentNotFound "entry intent was not found")
  require (committedAt < snapshot.bindings.expiresAt)
    (entryGatewayError .intentExpired "entry intent has expired")
  require (snapshot.bindings.preparedStatus = .ready)
    (entryGatewayError .intentNotReady "entry intent is not ready to commit")
  require (snapshot.lifecycleStatus = .created)
    (entryGatewayError .intentStale "entry intent is no longer available")
  return snapshot

/-- `_recheck_duplicates`: the external reference. -/
def recheckReference (self : CommitPreparedEntryCommand) (t : EntryTables)
    (payload : EntryPayload) : Except CommandError Unit := do
  let evidence := payload.sourceReferenceDigest.bind fun external =>
    t.references.find? fun row => row.bookId = self.bookId
      ∧ row.reference = external
  require (evidence.all fun row => row.transactionId = payload.transactionId)
    (entryGatewayError .duplicateSuspected "entry source reference already exists")

/-- `timedelta(days=7)`. -/
def sevenDays : Moment := 7 * 86400000000

/-- `find_source_fingerprints`. -/
def findSourceFingerprints (t : EntryTables) (bookId : UUID)
    (fingerprintHmac : EventHash) (createdSince : Moment) :
    List SourceFingerprintRecord :=
  t.fingerprints.filter fun row => row.bookId = bookId
    ∧ row.fingerprintHmac = fingerprintHmac ∧ createdSince ≤ row.createdAt

/-- `_recheck_duplicates`: the source fingerprint. -/
def recheckFingerprint (self : CommitPreparedEntryCommand) (t : EntryTables)
    (payload : EntryPayload) : Except CommandError Unit := do
  let occurredAt ← fetch payload.occurredAt
    (entryGatewayError .intentStale "the prepared entry payload is invalid")
  let fingerprint ← fetch payload.fingerprintHmac
    (entryGatewayError .intentStale "prepared duplicate evidence is invalid")
  let recent := findSourceFingerprints t self.bookId fingerprint
    (occurredAt - sevenDays)
  require (∀ row ∈ recent, row.transactionId = payload.transactionId)
    (entryGatewayError .duplicateSuspected
      "a matching recent entry was committed after prepare")

/-- `claim_ready`: the row before and after the update. -/
def claimIntent (self : CommitPreparedEntryCommand) (t : EntryTables)
    (actorId : String) (transactionId : UUID) (clock : ClockReadings) :
    Except CommandError (PreparedEntryIntentRecord × PreparedEntryIntentRecord) := do
  let old ← fetch (t.readyIntent self.bookId actorId self.intentId
      self.commitTokenHash clock.condition)
    (entryGatewayError .intentStale "entry intent could not be claimed")
  let new := { old with
    lifecycleStatus := .consumed clock.value self.commandId transactionId }
  guardPreparedEntryIntent old new clock.trigger
  return (old, new)

end CommitPreparedEntryCommand

/-! ## Evidence -/

/-- What a commit has written to the tables of the gateway. -/
structure EntryWrites where
  claimed : PreparedEntryIntentRecord
  reference : Option ExternalReferenceRecord
  fingerprint : Option SourceFingerprintRecord

/-- `v2_validate_everyday_entry_evidence`, the source intent being the row that
the same transaction has claimed. -/
def validateEntryEvidence (claimed : PreparedEntryIntentRecord)
    (transactionId : UUID) : Except CommandError Unit :=
  match claimed.lifecycleStatus with
  | .consumed _ _ committedTransactionId =>
      require (committedTransactionId = transactionId)
        (.integrity "everyday entry duplicate evidence source is invalid")
  | _ => .error (.integrity "everyday entry duplicate evidence source is invalid")

namespace CommitPreparedEntryCommand

/-- `insert_external_reference_or_get`, and the check of its result. -/
def insertReference (self : CommitPreparedEntryCommand) (t : EntryTables)
    (payload : EntryPayload) (claimed : PreparedEntryIntentRecord)
    (createdAt : Moment) :
    Except CommandError (Option ExternalReferenceRecord) :=
  match payload.sourceReferenceDigest with
  | none => return none
  | some external => do
      validateEntryEvidence claimed payload.transactionId
      match t.references.find? fun row =>
          row.bookId = self.bookId ∧ row.reference = external with
      | some existing => do
          require (existing.transactionId = payload.transactionId)
            (entryGatewayError .duplicateSuspected
              "entry source reference already exists")
          return none
      | none => do
          require (∀ row ∈ t.references,
              ¬(row.bookId = self.bookId
                ∧ row.transactionId = payload.transactionId
                ∧ row.reference.providerCode = external.providerCode
                ∧ row.reference.referenceKind = external.referenceKind))
            (.integrity
              "uq_everyday_entry_external_references_transaction_kind")
          return some
            { bookId := self.bookId
              reference := external
              transactionId := payload.transactionId
              sourceIntentId := self.intentId
              createdAt := createdAt }

/-- `insert_source_fingerprint`; a row of the same key stays as it is. -/
def insertFingerprint (self : CommitPreparedEntryCommand) (t : EntryTables)
    (payload : EntryPayload) (claimed : PreparedEntryIntentRecord)
    (createdAt : Moment) :
    Except CommandError (Option SourceFingerprintRecord) := do
  let fingerprint ← fetch payload.fingerprintHmac
    (entryGatewayError .intentStale "prepared duplicate evidence is invalid")
  validateEntryEvidence claimed payload.transactionId
  return if t.fingerprints.any fun row =>
      row.bookId = self.bookId ∧ row.transactionId = payload.transactionId
        ∧ row.fingerprintHmac = fingerprint then none
    else some
      { bookId := self.bookId
        transactionId := payload.transactionId
        fingerprintHmac := fingerprint
        sourceIntentId := self.intentId
        createdAt := createdAt }

/-- `_entry_finalizer`. -/
def entryFinalizer (self : CommitPreparedEntryCommand) (t : EntryTables)
    (payload : EntryPayload) (claimed : PreparedEntryIntentRecord)
    (answers : EntryAnswers) : Except CommandError EntryWrites := do
  let reference ← self.insertReference t payload claimed answers.evidenceAt
  let fingerprint ← self.insertFingerprint t payload claimed answers.evidenceAt
  answers.finalizer
  return ⟨claimed, reference, fingerprint⟩

end CommitPreparedEntryCommand

/-- What becomes visible with the commit. -/
def EntryTables.publish (t : EntryTables) (writes : EntryWrites) : EntryTables where
  intents := (t.setIntent writes.claimed).intents
  references := t.references ++ writes.reference.toList
  fingerprints := t.fingerprints ++ writes.fingerprint.toList

/-! ## Statements of a commit -/

/-- How far a commit has come in its handler and its finalizer. -/
inductive EntryStage
  | started
  | loaded (snapshot : PreparedEntryIntentRecord)
  | compiled (snapshot : PreparedEntryIntentRecord)
      (plan : EntryPlan snapshot.bindings.canonicalPayload.transactionId)
  | referenceChecked (snapshot : PreparedEntryIntentRecord)
      (plan : EntryPlan snapshot.bindings.canonicalPayload.transactionId)
  | fingerprintChecked (snapshot : PreparedEntryIntentRecord)
      (plan : EntryPlan snapshot.bindings.canonicalPayload.transactionId)
  | claimed (snapshot : PreparedEntryIntentRecord)
      (plan : EntryPlan snapshot.bindings.canonicalPayload.transactionId)
      (claimed : PreparedEntryIntentRecord)
  | finalized (snapshot : PreparedEntryIntentRecord)
      (plan : EntryPlan snapshot.bindings.canonicalPayload.transactionId)
      (writes : EntryWrites)

namespace EntryStage

/-- The row lock on the intent, from the claim on. -/
def lock : EntryStage → Option (UUID × UUID)
  | .claimed _ _ row => some row.key
  | .finalized _ _ writes => some writes.claimed.key
  | _ => none

/-- The handler has made its plan. -/
def isPlanned : EntryStage → Bool
  | .claimed _ _ _ => true
  | .finalized _ _ _ => true
  | _ => false

end EntryStage

/-- The next statement of the handler, or of the finalizer. -/
def CommitPreparedEntryCommand.next (self : CommitPreparedEntryCommand)
    (t : EntryTables) (actorId : String) (answers : EntryAnswers)
    (stage : EntryStage) : Except CommandError EntryStage :=
  match stage with
  | .started => do
      let snapshot ← self.loadIntent t actorId answers.committedAt
      return .loaded snapshot
  | .loaded snapshot => do
      let plan ← answers.recompiled _
      return .compiled snapshot plan
  | .compiled snapshot plan => do
      self.recheckReference t snapshot.bindings.canonicalPayload
      return .referenceChecked snapshot plan
  | .referenceChecked snapshot plan => do
      self.recheckFingerprint t snapshot.bindings.canonicalPayload
      return .fingerprintChecked snapshot plan
  | .fingerprintChecked snapshot plan => do
      let rows ← self.claimIntent t actorId
        snapshot.bindings.canonicalPayload.transactionId answers.claimClock
      return .claimed snapshot plan rows.2
  | .claimed snapshot plan claimed => do
      let writes ← self.entryFinalizer t snapshot.bindings.canonicalPayload
        claimed answers
      return .finalized snapshot plan writes
  | .finalized snapshot plan writes => return .finalized snapshot plan writes

end TrackAnywhere.Ports
