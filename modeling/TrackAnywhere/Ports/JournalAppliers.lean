import TrackAnywhere.Ports.SyncTables
import TrackAnywhere.Verified.Checked

/-!
# The journal appliers

What a financial event does to the synchronous tables.  An applier either
raises or returns the new tables; the database constraints and triggers on the
tables it writes are guards of the applier, in the place where the row is
flushed.
-/

namespace TrackAnywhere.Ports

open TrackAnywhere.Verified.Checked
open TrackAnywhere.Verified.KeyedSum

/-- Why an event was not projected: the registry refused its payload, an
applier raised, or the database refused a row. -/
inductive SyncError
  | registry (error : RegistryError)
  | synchronousProjection (message : String)
  | integrity (rule : String)
deriving DecidableEq

/-! ## Transactions, postings and balances -/

/-- Debits count positive, credits negative. -/
def signedUnits (side : PostingSide) (units : Nat) : Int :=
  match side with
  | .debit => units
  | .credit => -units

/-- The row of one posting fact. -/
def JournalPostingFact.record (transactionId : UUID)
    (posting : JournalPostingFact) : JournalPostingRecord where
  transactionId := transactionId
  postingId := posting.postingId
  postingPosition := posting.position
  accountId := posting.accountId
  assetCode := posting.assetCode
  side := posting.side
  units := posting.units.1

/-- The row that `INSERT INTO account_balances` would create for a posting. -/
def JournalPostingFact.balanceInsert (bookPosition : Nat)
    (posting : JournalPostingFact) : BalanceKey × AccountBalanceRecord :=
  ((posting.accountId, posting.assetCode),
    { balanceUnits := signedUnits posting.side posting.units.1
      asOfPosition := bookPosition })

/-- `ON CONFLICT DO UPDATE`: add the units, take the new position. -/
def mergeBalance (current excluded : AccountBalanceRecord) :
    AccountBalanceRecord where
  balanceUnits := current.balanceUnits + excluded.balanceUnits
  asOfPosition := excluded.asOfPosition

/-- `apply_financial_transaction`: the transaction row, its posting rows, and
one balance upsert per posting. -/
def applyFinancialTransaction (catalog : Catalog) (stored : LedgerEventRecord)
    (transactionId : UUID) (transactionKind : RecordedKind)
    (descriptionRef : Option UUID) (postings : List JournalPostingFact)
    (t : SyncTables) : Except SyncError SyncTables := do
  require (stored.streamId = transactionId)
    (.integrity "journal transaction must bind its exact source event")
  require (transactionId ∉ t.journalTransactions.map (·.transactionId))
    (.integrity "pk_journal_transactions")
  require (stored.eventId ∉ t.journalTransactions.map (·.sourceEventId))
    (.integrity "uq_journal_transactions_book_source_event")
  require ((postings.map (·.postingId)).Nodup ∧
      ∀ p ∈ postings, p.postingId ∉ t.journalPostings.map (·.postingId))
    (.integrity "pk_journal_postings")
  require ((postings.map (·.position)).Nodup)
    (.integrity "uq_journal_postings_transaction_position")
  require (∀ p ∈ postings, (catalog.account? p.accountId p.assetCode).isSome)
    (.integrity "fk_journal_postings_account_asset")
  return { t with
    journalTransactions := t.journalTransactions ++
      [{ transactionId := transactionId
         sourceEventId := stored.eventId
         sourcePosition := stored.bookPosition
         effectiveAt := stored.effectiveAt
         transactionKind := transactionKind
         descriptionRef := descriptionRef }]
    journalPostings := t.journalPostings ++
      postings.map (·.record transactionId)
    accountBalances := accumulate mergeBalance t.accountBalances
      (postings.map (·.balanceInsert stored.bookPosition)) }

/-- `add_external_references`. -/
def addExternalReferences (stored : LedgerEventRecord) (transactionId : UUID)
    (references : List FinancialExternalReference) (t : SyncTables) :
    Except SyncError SyncTables := do
  let rows := references.map fun reference =>
    ({ transactionId := transactionId
       providerCode := reference.providerCode
       referenceKind := reference.kind
       referenceValue := reference.reference
       sourceEventId := stored.eventId } : TransactionExternalReferenceRecord)
  require (((t.externalReferences ++ rows).map
      (fun r => (r.transactionId, r.providerCode, r.referenceKind))).Nodup)
    (.integrity "pk_transaction_external_references")
  return { t with externalReferences := t.externalReferences ++ rows }

/-- `apply_journal_posted`. -/
def applyJournalPosted (catalog : Catalog) (stored : LedgerEventRecord)
    (payload : JournalTransactionPosted) (t : SyncTables) :
    Except SyncError SyncTables := do
  let t ← applyFinancialTransaction catalog stored payload.transactionId
    payload.kind.recorded payload.descriptionRef payload.postings t
  addExternalReferences stored payload.transactionId
    payload.externalReferences t

/-! ## Reversals -/

/-- One posting of a reversal against the posting it inverts. -/
def inverts (original inverse : JournalPostingFact) : Prop :=
  inverse.position = original.position
    ∧ inverse.accountId = original.accountId
    ∧ inverse.assetCode = original.assetCode
    ∧ inverse.units = original.units
    ∧ inverse.side = original.side.opposite

instance (original inverse : JournalPostingFact) :
    Decidable (inverts original inverse) :=
  inferInstanceAs (Decidable (_ ∧ _))

/-- `_validate_exact_inverse`. -/
def validateExactInverse
    (originalPostings inversePostings : List JournalPostingFact) :
    Except SyncError Unit := do
  require (originalPostings.length = inversePostings.length)
    (.synchronousProjection "reversal posting count does not match")
  require (∀ p ∈ originalPostings,
      p.postingId ∉ inversePostings.map (·.postingId))
    (.synchronousProjection "reversal posting identities must be new")
  forEach (originalPostings.zip inversePostings) fun pair =>
    require (inverts pair.1 pair.2)
      (.synchronousProjection
        "reversal postings are not the exact source inverse")

/-- The transaction a financial event creates, with its postings. -/
def EventPayload.financialFact :
    EventPayload → Option (UUID × List JournalPostingFact)
  | .creditCardTransactionRecorded p => some (p.transactionId, p.postings)
  | .journalTransactionPosted p => some (p.transactionId, p.postings)
  | .journalTransactionReversed p =>
      some (p.reversalTransactionId, p.inversePostings)
  | _ => none

/-- `session.get(LedgerEventRecord, event_id)`. -/
def ledgerEvent? (ledger : List LedgerEventRecord) (eventId : UUID) :
    Option LedgerEventRecord :=
  ledger.find? fun e => e.eventId = eventId

/-- The refund rows of a charge that no reversal row names. -/
def SyncTables.activeRefunds (t : SyncTables) (chargeId : UUID) :
    List CreditCardTransactionRecord :=
  t.creditCardTransactions.filter fun r =>
    r.intent = .refund ∧ r.originalTransactionId = some chargeId
      ∧ t.reversalOf? r.transactionId = none

/-- Whether a posting of the transaction is on a credit-card account. -/
def touchesCreditCard (catalog : Catalog) (t : SyncTables)
    (transactionId : UUID) : Bool :=
  (t.postingsOf transactionId).any fun p =>
    ((catalog.account? p.accountId p.assetCode).bind (·.accountSubtype))
      = some "credit_card"

/-- `v2_validate_credit_card_reversal`, the trigger before a reversal row is
inserted. -/
def validateCreditCardReversal (catalog : Catalog)
    (stored : LedgerEventRecord) (originalTransaction : JournalTransactionRecord)
    (originalPayload : EventPayload) (t : SyncTables) :
    Except SyncError Unit :=
  let isCard := match originalTransaction.transactionKind with
    | .creditCard _ => true
    | _ => touchesCreditCard catalog t originalTransaction.transactionId
  if isCard then do
    require (originalPayload.eventType ≠ "JournalTransactionReversed")
      (.integrity "credit-card reversals cannot be reversed")
    require (originalTransaction.effectiveAt ≤ stored.effectiveAt)
      (.integrity "credit-card reversal precedes its source")
    match originalPayload with
    | .creditCardTransactionRecorded original =>
        require (original.intent = .charge →
            t.activeRefunds originalTransaction.transactionId = [])
          (.integrity "credit-card charge has active refunds")
    | _ => return
  else return

/-- `apply_journal_reversed`. -/
def applyJournalReversed (catalog : Catalog) (ledger : List LedgerEventRecord)
    (stored : LedgerEventRecord) (payload : JournalTransactionReversed)
    (t : SyncTables) : Except SyncError SyncTables := do
  let originalTransaction ← fetch
    (t.transaction? payload.reversesTransactionId)
    (.synchronousProjection "reversal target is not projected in the same Book")
  require (originalTransaction.sourceEventId = payload.originalEventId
      ∧ originalTransaction.sourcePosition < stored.bookPosition)
    (.synchronousProjection
      "reversal target does not precede its compensation event")
  let originalEvent ← fetch (ledgerEvent? ledger payload.originalEventId)
    (.synchronousProjection
      "reversal provenance does not match the immutable source event")
  require (originalEvent.bookId = stored.bookId
      ∧ originalEvent.eventHash = payload.originalEventHash)
    (.synchronousProjection
      "reversal provenance does not match the immutable source event")
  let originalPayload ← (validateStored originalEvent.eventType
    originalEvent.eventSchemaVersion originalEvent.payload).mapError
      SyncError.registry
  let original ← fetch originalPayload.1.financialFact
    (.synchronousProjection
      "reversal source is not a financial transaction event")
  require (original.1 = payload.reversesTransactionId)
    (.synchronousProjection
      "reversal source transaction identity does not match")
  validateExactInverse original.2 payload.inversePostings
  let t ← applyFinancialTransaction catalog stored
    payload.reversalTransactionId originalTransaction.transactionKind
    payload.descriptionRef payload.inversePostings t
  validateCreditCardReversal catalog stored originalTransaction
    originalPayload.1 t
  require (payload.reversesTransactionId
      ∉ t.transactionReversals.map (·.originalTransactionId))
    (.integrity "uq_transaction_reversals_original_target")
  return { t with
    transactionReversals := t.transactionReversals ++
      [{ reversalTransactionId := payload.reversalTransactionId
         originalTransactionId := payload.reversesTransactionId
         sourceEventId := stored.eventId
         originalEventId := payload.originalEventId
         originalEventHash := payload.originalEventHash
         reasonCode := payload.reasonCode }] }

/-- `apply_external_reference_corrected`. -/
def applyExternalReferenceCorrected (stored : LedgerEventRecord)
    (payload : FinancialExternalReferenceCorrected) (t : SyncTables) :
    Except SyncError SyncTables := do
  require (stored.streamType = "external_reference"
      ∧ stored.streamId = payload.transactionId)
    (.synchronousProjection
      "external-reference event identity does not match its transaction")
  let transaction ← fetch (t.transaction? payload.transactionId)
    (.synchronousProjection
      "external-reference target is not projected in the same Book")
  require (transaction.sourcePosition < stored.bookPosition)
    (.synchronousProjection
      "external-reference target does not precede its correction")
  let isCurrent := fun (r : TransactionExternalReferenceRecord) =>
    r.transactionId = payload.transactionId
      ∧ r.providerCode = payload.providerCode
      ∧ r.referenceKind = payload.referenceKind
  require ((t.externalReferences.find? isCurrent).map (·.referenceValue)
      = payload.previousReference)
    (.synchronousProjection
      "external-reference correction previous value is stale")
  match t.externalReferences.find? isCurrent with
  | none => return { t with
      externalReferences := t.externalReferences ++
        [{ transactionId := payload.transactionId
           providerCode := payload.providerCode
           referenceKind := payload.referenceKind
           referenceValue := payload.correctedReference
           sourceEventId := stored.eventId }] }
  | some _ => return { t with
      externalReferences := t.externalReferences.map fun r =>
        if isCurrent r then
          { r with
            referenceValue := payload.correctedReference
            sourceEventId := stored.eventId }
        else r }

end TrackAnywhere.Ports
