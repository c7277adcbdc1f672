import TrackAnywhere.Ports.Events
import TrackAnywhere.Verified.KeyedSum

/-!
# The tables of the synchronous projections

Rows of the event store and of the tables that `SynchronousProjector` keeps,
for one Book: every primary key, foreign key and query of these tables carries
`book_id`, so a Book's rows never meet another's.  Within the Book a table is
the list of its rows in insertion order; `account_balances`, which is only
ever upserted, is a finite map from its key.
-/

namespace TrackAnywhere.Ports

open TrackAnywhere.Verified.KeyedSum

/-! ## Event store and catalog rows -/

/-- `ledger_events`. -/
structure LedgerEventRecord where
  eventId : UUID
  globalSequence : Nat
  bookId : UUID
  bookPosition : Nat
  streamType : String
  streamId : UUID
  streamVersion : Nat
  eventType : String
  eventSchemaVersion : Nat
  commandId : UUID
  actorSubjectId : String
  correlationId : UUID
  causationEventId : Option UUID
  effectiveAt : Instant
  recordedAt : Instant
  payload : StoredPayload
  previousHash : EventHash
  eventHash : EventHash
deriving DecidableEq

inductive AccountType
  | asset
  | liability
  | equity
  | income
  | expense
  | fund
  | system
deriving DecidableEq

/-- The columns of `accounts` that the projection guards read. -/
structure AccountRecord where
  accountId : UUID
  assetCode : AssetCode
  accountType : AccountType
  accountSubtype : Option String
deriving DecidableEq

/-- The catalog rows the projections refer to: the accounts of the Book, its
category versions as `(category_id, category_version_id)`, and the assets. -/
structure Catalog where
  accounts : List AccountRecord
  categoryVersions : List (UUID × UUID)
  assetCodes : List AssetCode
deriving DecidableEq

/-- The account with this identity and asset. -/
def Catalog.account? (catalog : Catalog) (accountId : UUID)
    (assetCode : AssetCode) : Option AccountRecord :=
  catalog.accounts.find? fun a =>
    a.accountId = accountId ∧ a.assetCode = assetCode

/-! ## Projection rows -/

/-- `journal_transactions`. -/
structure JournalTransactionRecord where
  transactionId : UUID
  sourceEventId : UUID
  sourcePosition : Nat
  effectiveAt : Instant
  transactionKind : RecordedKind
  descriptionRef : Option UUID
deriving DecidableEq

/-- `journal_postings`. -/
structure JournalPostingRecord where
  transactionId : UUID
  postingId : UUID
  postingPosition : Nat
  accountId : UUID
  assetCode : AssetCode
  side : PostingSide
  units : Nat
deriving DecidableEq

/-- The key of `account_balances`. -/
abbrev BalanceKey := UUID × AssetCode

/-- The value columns of `account_balances`. -/
structure AccountBalanceRecord where
  balanceUnits : Int
  asOfPosition : Nat
deriving DecidableEq

/-- `transaction_reversals`. -/
structure TransactionReversalRecord where
  reversalTransactionId : UUID
  originalTransactionId : UUID
  sourceEventId : UUID
  originalEventId : UUID
  originalEventHash : EventHash
  reasonCode : ReversalReasonCode
deriving DecidableEq

/-- `transaction_external_references`. -/
structure TransactionExternalReferenceRecord where
  transactionId : UUID
  providerCode : ProviderCode
  referenceKind : ExternalReferenceKind
  referenceValue : ExternalReferenceValue
  sourceEventId : UUID
deriving DecidableEq

/-- `reporting_lines`. -/
structure ReportingLineRecord where
  transactionId : UUID
  classificationRevision : Nat
  line : ReportingLine
  sourceEventId : UUID
deriving DecidableEq

/-- `credit_card_transactions`. -/
structure CreditCardTransactionRecord where
  transactionId : UUID
  intent : CreditCardIntent
  cardAccountId : UUID
  counterAccountId : UUID
  assetCode : AssetCode
  units : Nat
  originalTransactionId : Option UUID
  sourceEventId : UUID
  sourcePosition : Nat
deriving DecidableEq

/-- `investment_lots`. -/
structure InvestmentLotRecord where
  lotId : UUID
  acquisitionTransactionId : UUID
  instrumentAssetCode : AssetCode
  settlementAssetCode : AssetCode
  acquiredQuantityUnits : Nat
  acquiredCostUnits : Nat
  feeUnits : Option Nat
  remainingQuantityUnits : Nat
  remainingCostUnits : Nat
  sourceEventId : UUID
  sourcePosition : Nat
deriving DecidableEq

/-- `investment_lot_allocations`. -/
structure InvestmentLotAllocationRecord where
  allocationId : UUID
  lotId : UUID
  disposalTransactionId : UUID
  allocationPosition : Nat
  quantityUnits : Nat
  costUnits : Nat
  sourceEventId : UUID
  sourcePosition : Nat
deriving DecidableEq

/-- `synchronous_projection_applied_events`. -/
structure AppliedEventRecord where
  eventId : UUID
  projectionVersion : Nat
deriving DecidableEq

/-- The synchronous projection tables of one Book. -/
structure SyncTables where
  appliedEvents : List AppliedEventRecord
  journalTransactions : List JournalTransactionRecord
  journalPostings : List JournalPostingRecord
  accountBalances : Dict BalanceKey AccountBalanceRecord
  transactionReversals : List TransactionReversalRecord
  externalReferences : List TransactionExternalReferenceRecord
  reportingLines : List ReportingLineRecord
  creditCardTransactions : List CreditCardTransactionRecord
  investmentLots : List InvestmentLotRecord
  investmentLotAllocations : List InvestmentLotAllocationRecord

namespace SyncTables

/-- An empty Book. -/
def empty : SyncTables where
  appliedEvents := []
  journalTransactions := []
  journalPostings := []
  accountBalances := ∅
  transactionReversals := []
  externalReferences := []
  reportingLines := []
  creditCardTransactions := []
  investmentLots := []
  investmentLotAllocations := []

/-- `session.get(JournalTransactionRecord, …)`. -/
def transaction? (t : SyncTables) (transactionId : UUID) :
    Option JournalTransactionRecord :=
  t.journalTransactions.find? fun r => r.transactionId = transactionId

/-- The reversal row whose original is the given transaction. -/
def reversalOf? (t : SyncTables) (transactionId : UUID) :
    Option TransactionReversalRecord :=
  t.transactionReversals.find? fun r =>
    r.originalTransactionId = transactionId

/-- The reversal row whose own transaction is the given one. -/
def reversal? (t : SyncTables) (transactionId : UUID) :
    Option TransactionReversalRecord :=
  t.transactionReversals.find? fun r =>
    r.reversalTransactionId = transactionId

/-- The postings of a transaction. -/
def postingsOf (t : SyncTables) (transactionId : UUID) :
    List JournalPostingRecord :=
  t.journalPostings.filter fun p => p.transactionId = transactionId

end SyncTables

end TrackAnywhere.Ports
