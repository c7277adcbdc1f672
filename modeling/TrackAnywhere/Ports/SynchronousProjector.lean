import TrackAnywhere.Ports.JournalAppliers

/-!
# The synchronous projector

`SynchronousProjector.apply_stored` runs in the transaction that appended the
event.  It skips an event that no projection requires or that already has its
marker, and otherwise hands the validated payload to the applier of its type.

Every event type of the registry has an applier and is required, so only an
event of an unknown type is skipped for lack of a requirement.
-/

namespace TrackAnywhere.Ports

open TrackAnywhere.Verified.Checked
open TrackAnywhere.Verified.KeyedSum

/-! ## Card transactions -/

/-- The account types a card intent admits for its counter account. -/
def counterAccountType (intent : CreditCardIntent) : AccountType :=
  if intent = .payment then .asset else .expense

/-- `v2_validate_credit_card_projection`, the trigger before a card row is
inserted.  The tables already hold the event's transaction. -/
def validateCreditCardProjection (catalog : Catalog)
    (stored : LedgerEventRecord) (new : CreditCardTransactionRecord)
    (t : SyncTables) : Except SyncError Unit := do
  require (stored.streamType = "journal_transaction"
      ∧ ((catalog.account? new.cardAccountId new.assetCode).map
          fun a => (a.accountType, a.accountSubtype))
        = some (.liability, some "credit_card")
      ∧ (catalog.account? new.counterAccountId new.assetCode).map
          (·.accountType)
        = some (counterAccountType new.intent))
    (.integrity "credit-card projection must bind its exact typed event")
  if new.intent = .refund then
    let original ← fetch
      (t.creditCardTransactions.find? fun r =>
        some r.transactionId = new.originalTransactionId ∧ r.intent = .charge)
      (.integrity "credit-card refund source is invalid")
    require (original.cardAccountId = new.cardAccountId
        ∧ original.counterAccountId = new.counterAccountId
        ∧ original.assetCode = new.assetCode
        ∧ t.reversalOf? original.transactionId = none
        ∧ ∀ source ∈ t.transaction? original.transactionId,
            source.effectiveAt ≤ stored.effectiveAt)
      (.integrity "credit-card refund source is invalid")
    require (((t.activeRefunds original.transactionId).map (·.units)).sum
        + new.units ≤ original.units)
      (.integrity "credit-card refunds exceed the original charge")
  else return

/-- `apply_credit_card_recorded`. -/
def applyCreditCardRecorded (catalog : Catalog) (stored : LedgerEventRecord)
    (payload : CreditCardTransactionRecorded) (t : SyncTables) :
    Except SyncError SyncTables := do
  let t ← applyFinancialTransaction catalog stored payload.transactionId
    payload.intent.transactionKind payload.descriptionRef payload.postings t
  let t ← addExternalReferences stored payload.transactionId
    payload.externalReferences t
  let first ← fetch payload.postings.head?
    (.synchronousProjection "tuple index out of range")
  let new : CreditCardTransactionRecord :=
    { transactionId := payload.transactionId
      intent := payload.intent
      cardAccountId := payload.cardAccountId
      counterAccountId := payload.counterAccountId
      assetCode := first.assetCode
      units := first.units.1
      originalTransactionId := payload.originalTransactionId
      sourceEventId := stored.eventId
      sourcePosition := stored.bookPosition }
  validateCreditCardProjection catalog stored new t
  return { t with creditCardTransactions := t.creditCardTransactions ++ [new] }

/-! ## Reporting lines -/

/-- `_validate_reporting_source`. -/
def validateReportingSource (stored : LedgerEventRecord)
    (transactionId : UUID) (classificationRevision : Nat) (t : SyncTables) :
    Except SyncError JournalTransactionRecord := do
  require (stored.streamType = "reporting_lines"
      ∧ stored.streamId = transactionId
      ∧ stored.streamVersion = classificationRevision)
    (.synchronousProjection
      "reporting event identity does not match its classification revision")
  let transaction ← fetch (t.transaction? transactionId)
    (.synchronousProjection "reporting target is not projected in the same Book")
  require (transaction.sourcePosition < stored.bookPosition)
    (.synchronousProjection
      "reporting target does not precede its classification event")
  require (t.reversal? transactionId = none)
    (.synchronousProjection
      "reversal transactions inherit the original reporting lines")
  return transaction

/-- Units of one side of the postings, by asset. -/
def unitsByAsset (side : PostingSide) (postings : List JournalPostingRecord) :
    Dict AssetCode Nat :=
  accumulate (· + ·) ∅
    ((postings.filter fun p => p.side = side).map fun p =>
      (p.assetCode, p.units))

/-- `_validate_reporting_lines`. -/
def validateReportingLines (catalog : Catalog)
    (ledger : List LedgerEventRecord) (payload : ReportingLinesAssigned)
    (transaction : JournalTransactionRecord) (t : SyncTables) :
    Except SyncError Unit := do
  require (transaction.transactionKind = .creditCard .payment →
      (ledgerEvent? ledger transaction.sourceEventId).map (·.eventType)
        = some "JournalTransactionPosted")
    (.synchronousProjection "credit-card payments cannot have reporting lines")
  require ((transaction.transactionKind = .creditCard .charge
        ∨ transaction.transactionKind = .creditCard .fee
        ∨ transaction.transactionKind = .creditCard .refund) →
      ∀ line ∈ payload.lines, line.lineKind = .expense)
    (.synchronousProjection
      "credit-card reporting lines must use expense semantics")
  let postings := t.postingsOf payload.transactionId
  require (postings ≠ [])
    (.synchronousProjection "reporting target has no immutable journal postings")
  let debitByAsset := unitsByAsset .debit postings
  let creditByAsset := unitsByAsset .credit postings
  require (∀ p ∈ postings,
      debitByAsset.lookup p.assetCode = creditByAsset.lookup p.assetCode)
    (.synchronousProjection
      "reporting target postings are not balanced by asset")
  forEach payload.lines fun line => do
    require (line.dimension = .category ∧ line.dimensionId ≠ none)
      (.synchronousProjection
        "reporting dimension has no immutable V2 catalog contract")
    require (line.dimensionId.any fun categoryId =>
        (categoryId, line.catalogId) ∈ catalog.categoryVersions)
      (.synchronousProjection
        "reporting category/version pair does not exist in the Book")
  let allocatedByAsset : Dict AssetCode Nat := accumulate (· + ·) ∅
    (payload.lines.map fun line => (line.assetCode, line.units.1))
  require (∀ allocated ∈ allocatedByAsset.entries,
      allocated.2 ≤ (debitByAsset.lookup allocated.1).getD 0)
    (.synchronousProjection
      "reporting allocation exceeds the transaction amount")

/-- `_delete_current_reporting_lines`. -/
def deleteCurrentReportingLines (transactionId : UUID) (t : SyncTables) :
    SyncTables :=
  { t with
    reportingLines := t.reportingLines.filter fun r =>
      r.transactionId ≠ transactionId }

/-- `apply_reporting_lines_assigned`. -/
def applyReportingLinesAssigned (catalog : Catalog)
    (ledger : List LedgerEventRecord) (stored : LedgerEventRecord)
    (payload : ReportingLinesAssigned) (t : SyncTables) :
    Except SyncError SyncTables := do
  let transaction ← validateReportingSource stored payload.transactionId
    payload.classificationRevision t
  validateReportingLines catalog ledger payload transaction t
  let t := deleteCurrentReportingLines payload.transactionId t
  return { t with
    reportingLines := t.reportingLines ++
      payload.lines.map fun line =>
        { transactionId := payload.transactionId
          classificationRevision := payload.classificationRevision
          line := line
          sourceEventId := stored.eventId } }

/-- `apply_reporting_lines_cleared`. -/
def applyReportingLinesCleared (stored : LedgerEventRecord)
    (payload : ReportingLinesCleared) (t : SyncTables) :
    Except SyncError SyncTables := do
  let _ ← validateReportingSource stored payload.transactionId
    payload.classificationRevision t
  return deleteCurrentReportingLines payload.transactionId t

/-! ## Investment lots -/

/-- `_validate_linked_transaction`. -/
def validateLinkedTransaction (stored : LedgerEventRecord)
    (transactionId : UUID) (t : SyncTables) : Except SyncError Unit := do
  let transaction ← fetch (t.transaction? transactionId)
    (.synchronousProjection
      "investment event has no linked transaction in the same Book")
  require (transaction.sourcePosition < stored.bookPosition)
    (.synchronousProjection
      "linked investment transaction must precede its lot event")

/-- The lot row with this id. -/
def SyncTables.lot? (t : SyncTables) (lotId : UUID) :
    Option InvestmentLotRecord :=
  t.investmentLots.find? fun r => r.lotId = lotId

/-- `apply_investment_lot_acquired`. -/
def applyInvestmentLotAcquired (catalog : Catalog) (stored : LedgerEventRecord)
    (payload : InvestmentLotAcquired) (t : SyncTables) :
    Except SyncError SyncTables := do
  require (stored.streamType = "investment_lot"
      ∧ stored.streamId = payload.lotId ∧ stored.streamVersion = 1)
    (.synchronousProjection "investment acquisition event identity is invalid")
  validateLinkedTransaction stored payload.transactionId t
  require (t.lot? payload.lotId = none)
    (.synchronousProjection "investment lot already exists")
  require (payload.instrumentAssetCode ∈ catalog.assetCodes
      ∧ payload.settlementAssetCode ∈ catalog.assetCodes)
    (.integrity "fk_investment_lots_asset")
  return { t with
    investmentLots := t.investmentLots ++
      [{ lotId := payload.lotId
         acquisitionTransactionId := payload.transactionId
         instrumentAssetCode := payload.instrumentAssetCode
         settlementAssetCode := payload.settlementAssetCode
         acquiredQuantityUnits := payload.quantityUnits.1
         acquiredCostUnits := payload.costUnits.1
         feeUnits := payload.feeUnits.map (·.1)
         remainingQuantityUnits := payload.quantityUnits.1
         remainingCostUnits := payload.costUnits.1
         sourceEventId := stored.eventId
         sourcePosition := stored.bookPosition }] }

/-- The body of the allocation loop of `apply_investment_lot_disposed`. -/
def applyAllocation (stored : LedgerEventRecord)
    (payload : InvestmentLotDisposed) (t : SyncTables)
    (allocation : LotDisposalAllocation) : Except SyncError SyncTables := do
  let lot ← fetch (t.lot? allocation.lotId)
    (.synchronousProjection "investment disposal references an unknown lot")
  require (lot.instrumentAssetCode = payload.instrumentAssetCode
      ∧ lot.settlementAssetCode = payload.settlementAssetCode)
    (.synchronousProjection
      "investment disposal lot belongs to a different asset pool")
  require (allocation.quantityUnits.1 ≤ lot.remainingQuantityUnits)
    (.synchronousProjection
      "investment disposal exceeds remaining lot quantity")
  require (allocation.costUnits.1 ≤ lot.remainingCostUnits)
    (.synchronousProjection "investment disposal exceeds remaining lot cost")
  let nextQuantity := lot.remainingQuantityUnits - allocation.quantityUnits.1
  let nextCost := lot.remainingCostUnits - allocation.costUnits.1
  require (nextQuantity = 0 ↔ nextCost = 0)
    (.synchronousProjection
      "investment disposal must deplete quantity and cost together")
  require (lot.sourcePosition < stored.bookPosition)
    (.integrity "investment lot source position must advance")
  require (allocation.allocationId
      ∉ t.investmentLotAllocations.map (·.allocationId))
    (.integrity "pk_investment_lot_allocations")
  require (∀ r ∈ t.investmentLotAllocations,
      r.disposalTransactionId = payload.transactionId →
        r.allocationPosition ≠ allocation.position)
    (.integrity "uq_investment_lot_allocations_disposal_position")
  require (∀ r ∈ t.investmentLotAllocations,
      r.disposalTransactionId = payload.transactionId →
        r.lotId ≠ allocation.lotId)
    (.integrity "uq_investment_lot_allocations_disposal_lot")
  require (allocation.position ≤ 32767)
    (.integrity "smallint out of range")
  return { t with
    investmentLots := t.investmentLots.map fun r =>
      if r.lotId = allocation.lotId then
        { r with
          remainingQuantityUnits := nextQuantity
          remainingCostUnits := nextCost
          sourceEventId := stored.eventId
          sourcePosition := stored.bookPosition }
      else r
    investmentLotAllocations := t.investmentLotAllocations ++
      [{ allocationId := allocation.allocationId
         lotId := allocation.lotId
         disposalTransactionId := payload.transactionId
         allocationPosition := allocation.position
         quantityUnits := allocation.quantityUnits.1
         costUnits := allocation.costUnits.1
         sourceEventId := stored.eventId
         sourcePosition := stored.bookPosition }] }

/-- `apply_investment_lot_disposed`. -/
def applyInvestmentLotDisposed (stored : LedgerEventRecord)
    (payload : InvestmentLotDisposed) (t : SyncTables) :
    Except SyncError SyncTables := do
  require (stored.streamType = "investment_disposal"
      ∧ stored.streamId = payload.transactionId ∧ stored.streamVersion = 1)
    (.synchronousProjection "investment disposal event identity is invalid")
  validateLinkedTransaction stored payload.transactionId t
  payload.allocations.foldlM (applyAllocation stored payload) t

/-! ## The projector -/

/-- `SYNCHRONOUS_APPLIERS[type(payload)]`. -/
def applyPayload (catalog : Catalog) (ledger : List LedgerEventRecord)
    (stored : LedgerEventRecord) (payload : EventPayload) (t : SyncTables) :
    Except SyncError SyncTables :=
  match payload with
  | .creditCardTransactionRecorded p => applyCreditCardRecorded catalog stored p t
  | .journalTransactionPosted p => applyJournalPosted catalog stored p t
  | .journalTransactionReversed p =>
      applyJournalReversed catalog ledger stored p t
  | .financialExternalReferenceCorrected p =>
      applyExternalReferenceCorrected stored p t
  | .reportingLinesAssigned p =>
      applyReportingLinesAssigned catalog ledger stored p t
  | .reportingLinesCleared p => applyReportingLinesCleared stored p t
  | .investmentLotAcquired p => applyInvestmentLotAcquired catalog stored p t
  | .investmentLotDisposed p => applyInvestmentLotDisposed stored p t

/-- The rows of `synchronous_projection_event_types`: every registered type,
at schema version 1 and projection version 1. -/
def requiredProjectionVersion (eventType : String) (schemaVersion : Nat) :
    Option Nat :=
  if eventType ∈ registeredEventTypes ∧ schemaVersion = 1 then some 1 else none

structure ProjectionApplyResult where
  eventId : UUID
  required : Bool
  applied : Bool
  projectionVersion : Option Nat
deriving DecidableEq

/-- `SynchronousProjector.apply_stored`. -/
def applyStored (catalog : Catalog) (ledger : List LedgerEventRecord)
    (stored : LedgerEventRecord) (t : SyncTables) :
    Except SyncError (ProjectionApplyResult × SyncTables) :=
  match requiredProjectionVersion stored.eventType stored.eventSchemaVersion with
  | none =>
      return ({ eventId := stored.eventId, required := false, applied := false
                projectionVersion := none }, t)
  | some version => do
      let payload ← (validateStored stored.eventType stored.eventSchemaVersion
        stored.payload).mapError SyncError.registry
      if stored.eventId ∈ t.appliedEvents.map (·.eventId) then
        return ({ eventId := stored.eventId, required := true, applied := false
                  projectionVersion := some version }, t)
      else
        let marked := { t with
          appliedEvents := t.appliedEvents ++
            [{ eventId := stored.eventId, projectionVersion := version }] }
        let t ← applyPayload catalog ledger stored payload.1 marked
        return ({ eventId := stored.eventId, required := true, applied := true
                  projectionVersion := some version }, t)

end TrackAnywhere.Ports
