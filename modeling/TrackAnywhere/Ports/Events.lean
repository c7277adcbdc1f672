import TrackAnywhere.Ports.Primitives
import TrackAnywhere.Verified.Checked

/-!
# The registered ledger events

One structure per event contract, with the fields of the contract, and the
contract's model validator as a checked computation that raises the
validator's message.  `EventPayload` is the union of the eight registered
contracts, and an `EventContract` is a payload that passed its validator:
nothing downstream of the registry ever handles an invalid one.

`StoredPayload` is what the `payload` column of the event store may hold: the
dump of a registered contract, or some other JSON object.
-/

namespace TrackAnywhere.Ports

open TrackAnywhere.Verified.Checked

/-! ## Enumerations -/

inductive PostingSide
  | debit
  | credit
deriving DecidableEq

/-- The other side, which a reversal posts to. -/
def PostingSide.opposite : PostingSide → PostingSide
  | debit => credit
  | credit => debit

inductive TransactionKind
  | standard
  | opening
  | adjustment
  | transfer
  | refund
  | fx
  | creditCardPayment
  | investmentCash
deriving DecidableEq

def TransactionKind.value : TransactionKind → String
  | standard => "standard"
  | opening => "opening"
  | adjustment => "adjustment"
  | transfer => "transfer"
  | refund => "refund"
  | fx => "fx"
  | creditCardPayment => "credit_card_payment"
  | investmentCash => "investment_cash"

inductive CreditCardIntent
  | charge
  | payment
  | refund
  | fee
deriving DecidableEq

def CreditCardIntent.value : CreditCardIntent → String
  | charge => "charge"
  | payment => "payment"
  | refund => "refund"
  | fee => "fee"

/-- The values of the `transaction_kind` column.  A posted card payment and a
payment recorded by a card command share the value `credit_card_payment`. -/
inductive RecordedKind
  | standard
  | opening
  | adjustment
  | transfer
  | refund
  | fx
  | investmentCash
  | creditCard (intent : CreditCardIntent)
deriving DecidableEq

/-- The column value of a posted transaction's kind. -/
def TransactionKind.recorded : TransactionKind → RecordedKind
  | standard => .standard
  | opening => .opening
  | adjustment => .adjustment
  | transfer => .transfer
  | refund => .refund
  | fx => .fx
  | creditCardPayment => .creditCard .payment
  | investmentCash => .investmentCash

/-- `credit_card_` followed by the intent. -/
def CreditCardIntent.transactionKind (intent : CreditCardIntent) :
    RecordedKind :=
  .creditCard intent

inductive ExternalReferenceKind
  | providerTransaction
  | bankTransaction
  | cardTransaction
  | brokerTrade
deriving DecidableEq

inductive ReversalReasonCode
  | userCorrection
  | duplicate
  | importCorrection
  | providerReversal
deriving DecidableEq

inductive ReportingLineKind
  | expense
  | income
  | transfer
  | tax
  | investment
deriving DecidableEq

def ReportingLineKind.value : ReportingLineKind → String
  | expense => "expense"
  | income => "income"
  | transfer => "transfer"
  | tax => "tax"
  | investment => "investment"

inductive ReportingDimension
  | category
  | project
  | counterparty
  | tax
deriving DecidableEq

/-! ## Ordered records -/

/-- `validate_ordered_records`: enough records, positions `0, 1, 2, …`, and no
repeated value in any of the named columns. -/
def validateOrderedRecords (positions : List Nat) (minimum : Nat)
    (uniqueFields : List (String × List UUID)) : Except String Unit := do
  require (minimum ≤ positions.length)
    s!"ordered records require at least {minimum} item(s)"
  require (positions = List.range positions.length)
    "ordered record positions must be contiguous from zero"
  forEach uniqueFields fun field =>
    require field.2.Nodup
      ("ordered record " ++ field.1 ++ " values must be unique")

/-! ## Journal contracts -/

structure JournalPostingFact where
  postingId : UUID
  position : Nat
  accountId : UUID
  assetCode : AssetCode
  side : PostingSide
  units : CanonicalUnits
deriving DecidableEq

/-- `validate_ordered_records` on postings: at least two, with distinct
posting ids. -/
def validateOrderedPostings (postings : List JournalPostingFact) :
    Except String Unit :=
  validateOrderedRecords (postings.map (·.position)) 2
    [("posting_id", postings.map (·.postingId))]

structure FinancialExternalReference where
  providerCode : ProviderCode
  kind : ExternalReferenceKind
  reference : ExternalReferenceValue
deriving DecidableEq

/-- No two references share provider and kind. -/
def validateReferenceKeys (references : List FinancialExternalReference) :
    Except String Unit :=
  require (references.map (fun r => (r.providerCode, r.kind))).Nodup
    "external reference provider/kind pairs must be unique"

structure JournalTransactionPosted where
  transactionId : UUID
  kind : TransactionKind
  originalTransactionId : Option UUID
  postings : List JournalPostingFact
  descriptionRef : Option UUID
  externalReferences : List FinancialExternalReference
deriving DecidableEq

def JournalTransactionPosted.validateCompletePostings
    (self : JournalTransactionPosted) : Except String Unit := do
  validateOrderedPostings self.postings
  validateReferenceKeys self.externalReferences
  if self.kind = .refund then
    require (self.originalTransactionId ≠ none)
      "a refund requires its original transaction"
    require (self.originalTransactionId ≠ some self.transactionId)
      "a refund cannot reference itself"
  else
    require (self.originalTransactionId = none)
      "only a refund may reference an original transaction"

structure JournalTransactionReversed where
  reversalTransactionId : UUID
  reversesTransactionId : UUID
  originalEventId : UUID
  originalEventHash : EventHash
  reasonCode : ReversalReasonCode
  inversePostings : List JournalPostingFact
  descriptionRef : Option UUID
deriving DecidableEq

def JournalTransactionReversed.validateCompleteInversePostings
    (self : JournalTransactionReversed) : Except String Unit := do
  validateOrderedPostings self.inversePostings
  require (self.reversalTransactionId ≠ self.reversesTransactionId)
    "a reversal transaction must identify the original transaction"

structure FinancialExternalReferenceCorrected where
  transactionId : UUID
  providerCode : ProviderCode
  referenceKind : ExternalReferenceKind
  previousReference : Option ExternalReferenceValue
  correctedReference : ExternalReferenceValue
deriving DecidableEq

def FinancialExternalReferenceCorrected.validateActualCorrection
    (self : FinancialExternalReferenceCorrected) : Except String Unit :=
  require (self.previousReference ≠ some self.correctedReference)
    "corrected reference must differ from the previous value"

/-! ## Credit-card contract -/

structure CreditCardTransactionRecorded where
  intent : CreditCardIntent
  transactionId : UUID
  cardAccountId : UUID
  counterAccountId : UUID
  originalTransactionId : Option UUID
  postings : List JournalPostingFact
  descriptionRef : Option UUID
  externalReferences : List FinancialExternalReference
deriving DecidableEq

/-- The accounts and sides the two postings of an intent must have, in
order. -/
def CreditCardTransactionRecorded.expected
    (self : CreditCardTransactionRecorded) : List (UUID × PostingSide) :=
  if self.intent = .charge ∨ self.intent = .fee then
    [(self.counterAccountId, .debit), (self.cardAccountId, .credit)]
  else
    [(self.cardAccountId, .debit), (self.counterAccountId, .credit)]

def CreditCardTransactionRecorded.validateSemanticPostings
    (self : CreditCardTransactionRecorded) : Except String Unit := do
  validateOrderedPostings self.postings
  require (self.postings.length = 2)
    "credit-card events require exactly two postings"
  require (self.cardAccountId ≠ self.counterAccountId)
    "credit-card and counter accounts must differ"
  if self.intent = .refund then
    require (self.originalTransactionId ≠ none)
      "a refund requires its original charge transaction"
    require (self.originalTransactionId ≠ some self.transactionId)
      "a refund cannot reference itself"
  else
    require (self.originalTransactionId = none)
      "only a refund may reference an original transaction"
  forEach self.postings fun posting =>
    require (self.postings.head?.map (fun p => (p.assetCode, p.units))
        = some (posting.assetCode, posting.units))
      "credit-card postings must use one equal asset amount"
  require (self.postings.map (fun p => (p.accountId, p.side)) = self.expected)
    "credit-card postings do not match their semantic intent"
  validateReferenceKeys self.externalReferences

/-! ## Reporting contracts -/

structure ReportingLine where
  lineId : UUID
  lineVersionId : UUID
  catalogId : UUID
  position : Nat
  assetCode : AssetCode
  units : CanonicalUnits
  lineKind : ReportingLineKind
  dimension : ReportingDimension
  dimensionId : Option UUID
  descriptionRef : Option UUID
deriving DecidableEq

structure ReportingLinesAssigned where
  transactionId : UUID
  classificationRevision : Nat
  hRevision : 0 < classificationRevision
  lines : List ReportingLine
deriving DecidableEq

def ReportingLinesAssigned.validateReplaceAllSnapshot
    (self : ReportingLinesAssigned) : Except String Unit :=
  validateOrderedRecords (self.lines.map (·.position)) 1
    [("line_id", self.lines.map (·.lineId)),
      ("line_version_id", self.lines.map (·.lineVersionId))]

structure ReportingLinesCleared where
  transactionId : UUID
  classificationRevision : Nat
  hRevision : 0 < classificationRevision
deriving DecidableEq

/-! ## Investment contracts -/

structure LotDisposalAllocation where
  allocationId : UUID
  lotId : UUID
  position : Nat
  quantityUnits : CanonicalUnits
  costUnits : CanonicalUnits
deriving DecidableEq

structure InvestmentLotAcquired where
  transactionId : UUID
  lotId : UUID
  instrumentAssetCode : AssetCode
  settlementAssetCode : AssetCode
  quantityUnits : CanonicalUnits
  costUnits : CanonicalUnits
  feeUnits : Option CanonicalUnits
deriving DecidableEq

structure InvestmentLotDisposed where
  transactionId : UUID
  instrumentAssetCode : AssetCode
  settlementAssetCode : AssetCode
  quantityUnits : CanonicalUnits
  proceedsUnits : CanonicalUnits
  costBasisUnits : CanonicalUnits
  feeUnits : Option CanonicalUnits
  allocations : List LotDisposalAllocation
deriving DecidableEq

def InvestmentLotDisposed.validateFinalAllocations
    (self : InvestmentLotDisposed) : Except String Unit := do
  validateOrderedRecords (self.allocations.map (·.position)) 1
    [("allocation_id", self.allocations.map (·.allocationId)),
      ("lot_id", self.allocations.map (·.lotId))]
  require ((self.allocations.map (·.quantityUnits.1)).sum
      = self.quantityUnits.1)
    "lot allocation quantities must equal disposal quantity"
  require ((self.allocations.map (·.costUnits.1)).sum = self.costBasisUnits.1)
    "lot allocation costs must equal disposal cost basis"

/-! ## The registry -/

/-- A payload of one of the eight contracts of `PRODUCTION_EVENT_REGISTRY`,
its field constraints checked and its model validator not yet run. -/
inductive EventPayload
  | creditCardTransactionRecorded (payload : CreditCardTransactionRecorded)
  | journalTransactionPosted (payload : JournalTransactionPosted)
  | journalTransactionReversed (payload : JournalTransactionReversed)
  | financialExternalReferenceCorrected
      (payload : FinancialExternalReferenceCorrected)
  | reportingLinesAssigned (payload : ReportingLinesAssigned)
  | reportingLinesCleared (payload : ReportingLinesCleared)
  | investmentLotAcquired (payload : InvestmentLotAcquired)
  | investmentLotDisposed (payload : InvestmentLotDisposed)
deriving DecidableEq

namespace EventPayload

/-- The `event_type` of the contract. -/
def eventType : EventPayload → String
  | creditCardTransactionRecorded _ => "CreditCardTransactionRecorded"
  | journalTransactionPosted _ => "JournalTransactionPosted"
  | journalTransactionReversed _ => "JournalTransactionReversed"
  | financialExternalReferenceCorrected _ =>
      "FinancialExternalReferenceCorrected"
  | reportingLinesAssigned _ => "ReportingLinesAssigned"
  | reportingLinesCleared _ => "ReportingLinesCleared"
  | investmentLotAcquired _ => "InvestmentLotAcquired"
  | investmentLotDisposed _ => "InvestmentLotDisposed"

/-- The `schema_version` of every contract. -/
def schemaVersion (_ : EventPayload) : Nat := 1

/-- The model validator of the contract. -/
def validate : EventPayload → Except String Unit
  | creditCardTransactionRecorded p => p.validateSemanticPostings
  | journalTransactionPosted p => p.validateCompletePostings
  | journalTransactionReversed p => p.validateCompleteInversePostings
  | financialExternalReferenceCorrected p => p.validateActualCorrection
  | reportingLinesAssigned p => p.validateReplaceAllSnapshot
  | reportingLinesCleared _ => .ok ()
  | investmentLotAcquired _ => .ok ()
  | investmentLotDisposed p => p.validateFinalAllocations

end EventPayload

/-- A payload that passed its contract's validator. -/
abbrev EventContract := { p : EventPayload // p.validate = .ok () }

/-- The keys of `PRODUCTION_EVENT_REGISTRY`. -/
def registeredEventTypes : List String :=
  ["CreditCardTransactionRecorded", "JournalTransactionPosted",
    "JournalTransactionReversed", "FinancialExternalReferenceCorrected",
    "ReportingLinesAssigned", "ReportingLinesCleared",
    "InvestmentLotAcquired", "InvestmentLotDisposed"]

/-- The payload column of a stored event: the dump of a registered contract,
or any other JSON object, kept as its canonical text. -/
inductive StoredPayload
  | registered (payload : EventPayload)
  | other (canonicalJson : String)
deriving DecidableEq

/-- What `validate_stored` raises. -/
inductive RegistryError
  | unknownEventType
  | storedEventValidation (eventType : String) (schemaVersion : Nat)
deriving DecidableEq

/-- `EventRegistry.validate_stored`: look the type and version up, and
validate the payload against that contract and no other. -/
def validateStored (eventType : String) (schemaVersion : Nat)
    (storedPayload : StoredPayload) : Except RegistryError EventContract :=
  if eventType ∈ registeredEventTypes ∧ schemaVersion = 1 then
    match storedPayload with
    | .other _ => .error (.storedEventValidation eventType schemaVersion)
    | .registered payload =>
        if h : payload.eventType = eventType ∧ payload.validate = .ok () then
          .ok ⟨payload, h.2⟩
        else .error (.storedEventValidation eventType schemaVersion)
  else .error .unknownEventType

/-- What is read back is the payload that was stored, valid, under its own
type and version. -/
theorem validateStored_eq_ok {eventType : String} {schemaVersion : Nat}
    {storedPayload : StoredPayload} {contract : EventContract} :
    validateStored eventType schemaVersion storedPayload = .ok contract ↔
      storedPayload = .registered contract.1
        ∧ eventType = contract.1.eventType ∧ schemaVersion = 1 := by
  have hRegistered : ∀ p : EventPayload,
      p.eventType ∈ registeredEventTypes := by
    intro p
    cases p <;> simp [EventPayload.eventType, registeredEventTypes]
  obtain ⟨payload, hValid⟩ := contract
  unfold validateStored
  cases storedPayload with
  | other text => split <;> simp
  | registered stored =>
      by_cases hKey : eventType ∈ registeredEventTypes ∧ schemaVersion = 1
      · rw [if_pos hKey]
        by_cases hStored : stored.eventType = eventType
            ∧ stored.validate = .ok ()
        · simp only [dif_pos hStored, Except.ok.injEq, Subtype.mk.injEq,
            StoredPayload.registered.injEq]
          constructor
          · rintro rfl
            exact ⟨rfl, hStored.1.symm, hKey.2⟩
          · exact fun h => h.1
        · simp only [dif_neg hStored, reduceCtorEq, false_iff]
          rintro ⟨hEq, rfl, -⟩
          injection hEq with hEq
          subst hEq
          exact hStored ⟨rfl, hValid⟩
      · simp only [if_neg hKey, reduceCtorEq, false_iff]
        rintro ⟨-, rfl, rfl⟩
        exact hKey ⟨hRegistered _, rfl⟩

end TrackAnywhere.Ports
