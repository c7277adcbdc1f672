import TrackAnywhere.Ports.Events
import TrackAnywhere.Ports.CanonicalJson

/-!
# The hash of an event

What is hashed is the frozen envelope and the stored payload, each in canonical
JSON, after a domain separator.  Two envelope fields that the database
generates are checked and not hashed.

The digest function is a parameter: nothing here depends on what SHA-256
computes.
-/

namespace TrackAnywhere.Ports

open TrackAnywhere.Verified.Checked

/-! ## Payloads as JSON -/

def PostingSide.value : PostingSide → String
  | debit => "debit"
  | credit => "credit"

def ExternalReferenceKind.value : ExternalReferenceKind → String
  | providerTransaction => "provider_transaction"
  | bankTransaction => "bank_transaction"
  | cardTransaction => "card_transaction"
  | brokerTrade => "broker_trade"

def ReversalReasonCode.value : ReversalReasonCode → String
  | userCorrection => "user_correction"
  | duplicate => "duplicate"
  | importCorrection => "import_correction"
  | providerReversal => "provider_reversal"

def ReportingDimension.value : ReportingDimension → String
  | category => "category"
  | project => "project"
  | counterparty => "counterparty"
  | tax => "tax"

namespace JSONValue

def uuid (id : UUID) : JSONValue := .str id.text

def nat (n : Nat) : JSONValue := .int n

def amount (n : CanonicalUnits) : JSONValue := .str (toString n.1)

/-- `None` is dumped as `null`. -/
def optional {α : Type} (dump : α → JSONValue) : Option α → JSONValue
  | none => .null
  | some a => dump a

end JSONValue

open JSONValue

def JournalPostingFact.dump (self : JournalPostingFact) : JSONValue :=
  .dict [("posting_id", uuid self.postingId), ("position", nat self.position),
    ("account_id", uuid self.accountId), ("asset_code", .str self.assetCode.1),
    ("side", .str self.side.value), ("units", amount self.units)]

def FinancialExternalReference.dump (self : FinancialExternalReference) :
    JSONValue :=
  .dict [("provider_code", .str self.providerCode.1),
    ("kind", .str self.kind.value), ("reference", .str self.reference.1)]

def JournalTransactionPosted.dump (self : JournalTransactionPosted) :
    JSONValue :=
  .dict [("transaction_id", uuid self.transactionId),
    ("kind", .str self.kind.value),
    ("original_transaction_id", optional uuid self.originalTransactionId),
    ("postings", .list (self.postings.map (·.dump))),
    ("description_ref", optional uuid self.descriptionRef),
    ("external_references", .list (self.externalReferences.map (·.dump)))]

def JournalTransactionReversed.dump (self : JournalTransactionReversed) :
    JSONValue :=
  .dict [("reversal_transaction_id", uuid self.reversalTransactionId),
    ("reverses_transaction_id", uuid self.reversesTransactionId),
    ("original_event_id", uuid self.originalEventId),
    ("original_event_hash", .str self.originalEventHash.hex),
    ("reason_code", .str self.reasonCode.value),
    ("inverse_postings", .list (self.inversePostings.map (·.dump))),
    ("description_ref", optional uuid self.descriptionRef)]

def FinancialExternalReferenceCorrected.dump
    (self : FinancialExternalReferenceCorrected) : JSONValue :=
  .dict [("transaction_id", uuid self.transactionId),
    ("provider_code", .str self.providerCode.1),
    ("reference_kind", .str self.referenceKind.value),
    ("previous_reference", optional (fun r => .str r.1) self.previousReference),
    ("corrected_reference", .str self.correctedReference.1)]

def CreditCardTransactionRecorded.dump (self : CreditCardTransactionRecorded) :
    JSONValue :=
  .dict [("intent", .str self.intent.value),
    ("transaction_id", uuid self.transactionId),
    ("card_account_id", uuid self.cardAccountId),
    ("counter_account_id", uuid self.counterAccountId),
    ("original_transaction_id", optional uuid self.originalTransactionId),
    ("postings", .list (self.postings.map (·.dump))),
    ("description_ref", optional uuid self.descriptionRef),
    ("external_references", .list (self.externalReferences.map (·.dump)))]

def ReportingLine.dump (self : ReportingLine) : JSONValue :=
  .dict [("line_id", uuid self.lineId),
    ("line_version_id", uuid self.lineVersionId),
    ("catalog_id", uuid self.catalogId), ("position", nat self.position),
    ("asset_code", .str self.assetCode.1), ("units", amount self.units),
    ("line_kind", .str self.lineKind.value),
    ("dimension", .str self.dimension.value),
    ("dimension_id", optional uuid self.dimensionId),
    ("description_ref", optional uuid self.descriptionRef)]

def ReportingLinesAssigned.dump (self : ReportingLinesAssigned) : JSONValue :=
  .dict [("transaction_id", uuid self.transactionId),
    ("classification_revision", nat self.classificationRevision),
    ("lines", .list (self.lines.map (·.dump)))]

def ReportingLinesCleared.dump (self : ReportingLinesCleared) : JSONValue :=
  .dict [("transaction_id", uuid self.transactionId),
    ("classification_revision", nat self.classificationRevision)]

def LotDisposalAllocation.dump (self : LotDisposalAllocation) : JSONValue :=
  .dict [("allocation_id", uuid self.allocationId), ("lot_id", uuid self.lotId),
    ("position", nat self.position), ("quantity_units", amount self.quantityUnits),
    ("cost_units", amount self.costUnits)]

def InvestmentLotAcquired.dump (self : InvestmentLotAcquired) : JSONValue :=
  .dict [("transaction_id", uuid self.transactionId),
    ("lot_id", uuid self.lotId),
    ("instrument_asset_code", .str self.instrumentAssetCode.1),
    ("settlement_asset_code", .str self.settlementAssetCode.1),
    ("quantity_units", amount self.quantityUnits),
    ("cost_units", amount self.costUnits),
    ("fee_units", optional amount self.feeUnits)]

def InvestmentLotDisposed.dump (self : InvestmentLotDisposed) : JSONValue :=
  .dict [("transaction_id", uuid self.transactionId),
    ("instrument_asset_code", .str self.instrumentAssetCode.1),
    ("settlement_asset_code", .str self.settlementAssetCode.1),
    ("quantity_units", amount self.quantityUnits),
    ("proceeds_units", amount self.proceedsUnits),
    ("cost_basis_units", amount self.costBasisUnits),
    ("fee_units", optional amount self.feeUnits),
    ("allocations", .list (self.allocations.map (·.dump)))]

/-- `payload.model_dump(mode="json")`. -/
def EventPayload.dump : EventPayload → JSONValue
  | .creditCardTransactionRecorded p => p.dump
  | .journalTransactionPosted p => p.dump
  | .journalTransactionReversed p => p.dump
  | .financialExternalReferenceCorrected p => p.dump
  | .reportingLinesAssigned p => p.dump
  | .reportingLinesCleared p => p.dump
  | .investmentLotAcquired p => p.dump
  | .investmentLotDisposed p => p.dump

/-- The canonical bytes of a stored payload. -/
def StoredPayload.canonicalBytes : StoredPayload → Except String ByteArray
  | .registered payload => canonicalJsonBytes payload.dump
  | .other canonicalJson => .ok canonicalJson.toUTF8

/-- `EventRegistry.dump_registered`: a payload that canonical JSON cannot
render is refused. -/
def dumpRegistered (payload : EventContract) : Except String StoredPayload := do
  let _ ← canonicalJsonBytes payload.1.dump
  return .registered payload.1

/-! ## The envelope -/

structure EventHashEnvelope where
  eventId : UUID
  bookId : UUID
  bookPosition : Nat
  globalSequence : Nat
  streamType : String
  streamId : UUID
  streamVersion : Nat
  eventType : String
  eventSchemaVersion : Nat
  commandId : UUID
  actorSubjectId : String
  correlationId : UUID
  causationEventId : Option UUID
  effectiveAt : Instant
  recordedAt : Instant
  previousHash : EventHash
deriving DecidableEq

/-- `_BIGINT_MAX`. -/
def bigintMax : Nat := 2 ^ 63 - 1

/-- `_INTEGER_MAX`. -/
def integerMax : Nat := 2 ^ 31 - 1

/-- `_SMALLINT_MAX`. -/
def smallintMax : Nat := 2 ^ 15 - 1

/-- `_require_bounded_string`. -/
def requireBoundedString (name value : String) (maximum : Nat) :
    Except String Unit :=
  require (value ≠ "" ∧ value.length ≤ maximum)
    (name ++ " is outside its length bound")

/-- `_require_positive_integer`. -/
def requirePositiveInteger (name : String) (value maximum : Nat) :
    Except String Unit :=
  require (1 ≤ value ∧ value ≤ maximum)
    (name ++ " is outside its positive integer bound")

/-- `__post_init__`. -/
def EventHashEnvelope.postInit (self : EventHashEnvelope) :
    Except String Unit := do
  requirePositiveInteger "book_position" self.bookPosition bigintMax
  requirePositiveInteger "global_sequence" self.globalSequence bigintMax
  requireBoundedString "stream_type" self.streamType 32
  requirePositiveInteger "stream_version" self.streamVersion integerMax
  requireBoundedString "event_type" self.eventType 64
  requirePositiveInteger "event_schema_version" self.eventSchemaVersion
    smallintMax
  requireBoundedString "actor_subject_id" self.actorSubjectId 128

/-- `_canonical_envelope_value`: the fields that are hashed. -/
def canonicalEnvelopeValue (envelope : EventHashEnvelope) : JSONValue :=
  .dict [("event_id", uuid envelope.eventId), ("book_id", uuid envelope.bookId),
    ("book_position", nat envelope.bookPosition),
    ("stream_type", .str envelope.streamType),
    ("stream_id", uuid envelope.streamId),
    ("stream_version", nat envelope.streamVersion),
    ("event_type", .str envelope.eventType),
    ("event_schema_version", nat envelope.eventSchemaVersion),
    ("command_id", uuid envelope.commandId),
    ("actor_subject_id", .str envelope.actorSubjectId),
    ("correlation_id", uuid envelope.correlationId),
    ("causation_event_id", optional uuid envelope.causationEventId),
    ("effective_at", .str (formatUtcMicroseconds envelope.effectiveAt)),
    ("previous_hash", .str envelope.previousHash.hex)]

/-- `HASH_DOMAIN_V1`. -/
def hashDomainV1 : String := "track-anywhere:v2:ledger-event-hash:sha256:v1"

/-- `canonical_hash_parts`. -/
def canonicalHashParts (envelope : EventHashEnvelope)
    (storedPayload : StoredPayload) :
    Except String (ByteArray × ByteArray) := do
  let envelopeBytes ← canonicalJsonBytes (canonicalEnvelopeValue envelope)
  let payloadBytes ← storedPayload.canonicalBytes
  return (envelopeBytes, payloadBytes)

/-- What the digest is taken of. -/
def hashPreimage (parts : ByteArray × ByteArray) : ByteArray :=
  hashDomainV1.toUTF8 ++ ⟨#[0]⟩ ++ parts.1 ++ ⟨#[0]⟩ ++ parts.2

variable (sha256 : ByteArray → EventHash)

/-- `event_hash`, after the constructor of the envelope. -/
def eventHash (envelope : EventHashEnvelope) (storedPayload : StoredPayload) :
    Except String EventHash := do
  envelope.postInit
  let parts ← canonicalHashParts envelope storedPayload
  return sha256 (hashPreimage parts)

/-- The generated fields do not enter the hash. -/
theorem eventHash_generated {envelope : EventHashEnvelope}
    {storedPayload : StoredPayload} {hash : EventHash} {globalSequence : Nat}
    (recordedAt : Instant)
    (h : eventHash sha256 envelope storedPayload = .ok hash)
    (hSequence : 1 ≤ globalSequence ∧ globalSequence ≤ bigintMax) :
    eventHash sha256 { envelope with
      globalSequence := globalSequence, recordedAt := recordedAt }
        storedPayload = .ok hash := by
  simp only [eventHash, EventHashEnvelope.postInit, requirePositiveInteger,
    requireBoundedString, bind_eq_ok, require_eq_ok, exists_const] at h ⊢
  obtain ⟨⟨hPosition, -, hRest⟩, hHash⟩ := h
  exact ⟨⟨hPosition, hSequence, hRest⟩, hHash⟩

end TrackAnywhere.Ports
