import TrackAnywhere.Ports.JournalQueries
import TrackAnywhere.Ports.ReportingQueries

/-!
# Everyday entries

The everyday view of a transaction is derived from the journal item, the
reporting lines as of the position, and the current catalog: its kind, amount,
accounts and category allocations are worked out from the postings and the
card relation, and are not stored.
-/

namespace TrackAnywhere.Ports

open TrackAnywhere.Verified
open TrackAnywhere.Verified.Checked

/-! ## Views -/

inductive EverydayEntryKind
  | expense
  | income
  | transfer
  | creditCardPayment
  | refund
  | reversal
  | adjustment
  | unavailable
deriving DecidableEq

inductive FieldAvailability
  | available
  | notApplicable
  | unavailable
deriving DecidableEq

structure AssetUnitAmount where
  value : String
  assetCode : AssetCode
  scale : Nat
deriving DecidableEq

structure AccountDisplay where
  accountId : UUID
  displayName : String
deriving DecidableEq

structure CategoryAllocationView where
  categoryId : UUID
  categoryVersionId : UUID
  path : List String
  amount : AssetUnitAmount
deriving DecidableEq

inductive NarrativeStatus
  | absent
  | redacted
  | available
  | unavailable
  | erased
deriving DecidableEq

structure NarrativeView where
  status : NarrativeStatus
  merchant : Option String
  channel : Option String
deriving DecidableEq

structure RawJournalReference where
  transactionId : UUID
  bookPosition : Nat
  transactionKind : RecordedKind
deriving DecidableEq

structure EverydayEntryView where
  entryId : UUID
  transactionId : UUID
  kind : EverydayEntryKind
  amount : Option AssetUnitAmount
  amountAvailability : FieldAvailability
  sourceAccount : Option AccountDisplay
  targetAccount : Option AccountDisplay
  paymentAccount : Option AccountDisplay
  accountDisplayAvailability : FieldAvailability
  categoryAllocations : List CategoryAllocationView
  categoryAvailability : FieldAvailability
  occurredAt : Instant
  originalTransactionId : Option UUID
  reversedByTransactionId : Option UUID
  reversesTransactionId : Option UUID
  relationshipAvailability : FieldAvailability
  narrative : NarrativeView
  rawJournal : RawJournalReference
deriving DecidableEq

structure EverydayEntryPage where
  items : List EverydayEntryView
  nextCursor : Option String
  asOfBookPosition : Nat
deriving DecidableEq

/-! ## Facts -/

structure AccountFact where
  accountId : UUID
  accountType : AccountType
  systemRole : Option String
  displayName : String
deriving DecidableEq

structure AssetFact where
  assetCode : AssetCode
  ledgerScale : Nat
deriving DecidableEq

structure CategoryRecord where
  categoryId : UUID
  currentName : String
  parentCategoryId : Option UUID
deriving DecidableEq

structure CategoryVersionRecord where
  categoryId : UUID
  categoryVersionId : UUID
  name : String
  parentCategoryId : Option UUID
deriving DecidableEq

/-- The catalog rows that the views are built with. -/
structure EntryCatalog where
  accounts : List AccountFact
  assets : List AssetFact
  categories : List CategoryRecord
  categoryVersions : List CategoryVersionRecord

structure ReportingFact where
  categoryId : UUID
  categoryVersionId : UUID
  path : Option (List String)
  assetCode : AssetCode
  units : Nat
  lineKind : ReportingLineKind
deriving DecidableEq

structure EntryFacts where
  journal : JournalItem
  accounts : List AccountFact
  assets : List AssetFact
  reporting : List ReportingFact
  inheritedReporting : List ReportingFact
  semanticOriginalTransactionId : Option UUID

def accountFact? (accounts : List AccountFact) (accountId : UUID) : Option AccountFact :=
  accounts.find? fun account => account.accountId = accountId

def assetFact? (assets : List AssetFact) (assetCode : AssetCode) : Option AssetFact :=
  assets.find? fun asset => asset.assetCode = assetCode

/-- The names from a category up to its root.  No category is visited twice, so
that one step for each category is enough. -/
def parentNames (categories : List CategoryRecord) :
    Nat → List UUID → Option UUID → Option (List String)
  | _, _, none => some []
  | 0, _, some _ => none
  | fuel + 1, seen, some parentId =>
      if parentId ∈ seen then none
      else
        match categories.find? fun c => c.categoryId = parentId with
        | none => none
        | some parent => (parentNames categories fuel (parentId :: seen)
            parent.parentCategoryId).map (parent.currentName :: ·)

/-- `_build_category_path` -/
def EntryCatalog.categoryPath (catalog : EntryCatalog) (identity : UUID × UUID) :
    Option (List String) :=
  match catalog.categoryVersions.find? fun v =>
      v.categoryId = identity.1 ∧ v.categoryVersionId = identity.2 with
  | none => none
  | some leaf => (parentNames catalog.categories (catalog.categories.length + 1)
      [leaf.categoryId] leaf.parentCategoryId).map fun names => (leaf.name :: names).reverse

/-! ## Loading -/

/-- `_semantic_original_transaction_ids`, for one item. -/
def semanticOriginalTransactionId (store : EventStoreTables) (t : SyncTables)
    (bookId : UUID) (item : JournalItem) : Except QueryError (Option UUID) :=
  if item.transactionKind = .refund ∧ item.creditCardRelation = none then
    match (t.transaction? item.transactionId).bind fun transaction =>
        (store.bookEvents bookId).find? fun e => e.eventId = transaction.sourceEventId with
    | none => .ok none
    | some stored =>
        match validateStored stored.eventType stored.eventSchemaVersion stored.payload with
        | .error error => .error (.registry error)
        | .ok payload =>
            match payload.1 with
            | .journalTransactionPosted p =>
                .ok (if p.transactionId = item.transactionId ∧ p.kind = .refund then
                  p.originalTransactionId else none)
            | _ => .ok none
  else .ok none

/-- `_inherited_reporting_transaction_id` -/
def inheritedReportingTransactionId (item : JournalItem)
    (semanticOriginal : Option UUID) : UUID :=
  match item.reversesTransactionId with
  | some original => original
  | none =>
      match item.creditCardRelation.bind fun relation =>
          if relation.intent = .refund then relation.originalTransactionId else none with
      | some original => original
      | none =>
          if item.transactionKind = .refund then semanticOriginal.getD item.transactionId
          else item.transactionId

/-- The category lines of a transaction, in order. -/
def reportingFacts (catalog : EntryCatalog) (lines : List ReportingLineView)
    (transactionId : UUID) : List ReportingFact :=
  ((lines.filter fun line => line.transactionId = transactionId).insertionSort
    (·.linePosition ≤ ·.linePosition)).filterMap fun line =>
      if line.dimension = .category then
        line.dimensionId.map fun categoryId =>
          { categoryId := categoryId
            categoryVersionId := line.catalogId
            path := catalog.categoryPath (categoryId, line.catalogId)
            assetCode := line.assetCode
            units := line.units
            lineKind := line.lineKind }
      else none

/-- The facts of an item among the items that were read with it. -/
def entryFacts (catalog : EntryCatalog) (items : List JournalItem)
    (lines : List ReportingLineView) (item : JournalItem) (semanticOriginal : Option UUID) :
    EntryFacts where
  journal := item
  accounts := catalog.accounts.filter fun account =>
    items.any fun other => other.postings.any fun p => p.accountId = account.accountId
  assets := catalog.assets.filter fun asset =>
    items.any fun other => other.postings.any fun p => p.assetCode = asset.assetCode
  reporting := reportingFacts catalog lines item.transactionId
  inheritedReporting := reportingFacts catalog lines
    (inheritedReportingTransactionId item semanticOriginal)
  semanticOriginalTransactionId := semanticOriginal

/-- `_load_facts` -/
def loadFacts (store : EventStoreTables) (t : SyncTables) (catalog : EntryCatalog)
    (bookId : UUID) (items : List JournalItem) (asOf : Nat) :
    Except QueryError (List EntryFacts) := do
  let lines ← listCurrentReportingLines store bookId asOf
  items.mapM fun item => do
    let semanticOriginal ← semanticOriginalTransactionId store t bookId item
    return entryFacts catalog items lines item semanticOriginal

/-! ## Building the view -/

/-- `_format_units` -/
def formatUnits (units scale : Nat) : Except QueryError String := do
  require (0 < units) (.value "units must be a positive integer")
  require (scale ≤ 30) (.value "scale must be between 0 and 30")
  let digits := (Nat.toDigits 10 units).leftpad (scale + 1) '0'
  return if scale = 0 then String.ofList (Nat.toDigits 10 units)
    else String.ofList (digits.take (digits.length - scale) ++ '.'
      :: digits.drop (digits.length - scale))

/-- `_entry_kind` -/
def entryKind (item : JournalItem) (reporting : List ReportingFact) : EverydayEntryKind :=
  if item.reversesTransactionId ≠ none then .reversal
  else
    match item.creditCardRelation, item.transactionKind with
    | some ⟨.charge, _, _, _⟩, _ => .expense
    | some ⟨.fee, _, _, _⟩, _ => .expense
    | some ⟨.payment, _, _, _⟩, _ => .creditCardPayment
    | some ⟨.refund, _, _, _⟩, _ => .refund
    | none, .transfer => .transfer
    | none, .adjustment => .adjustment
    | none, .refund => .refund
    | none, .creditCard .charge => .expense
    | none, .creditCard .fee => .expense
    | none, .creditCard .payment => .creditCardPayment
    | none, .creditCard .refund => .refund
    | none, _ =>
        if reporting ≠ [] ∧ ∀ line ∈ reporting, line.lineKind = .expense then .expense
        else if reporting ≠ [] ∧ ∀ line ∈ reporting, line.lineKind = .income then .income
        else .unavailable

/-- The units that postings put on one side of an asset. -/
def sideUnits (postings : List JournalPosting) (side : PostingSide) (assetCode : AssetCode) :
    Nat :=
  ((postings.filter fun p => p.side = side ∧ p.assetCode = assetCode).map (·.units)).sum

/-- The assets of one side, in the order of their postings. -/
def sideAssets (postings : List JournalPosting) (side : PostingSide) : List AssetCode :=
  ((postings.filter fun p => p.side = side).map (·.assetCode)).eraseDups

/-- `_transaction_amount` -/
def transactionAmount (postings : List JournalPosting) (assets : List AssetFact) :
    Except QueryError (Option AssetUnitAmount) :=
  match sideAssets postings .debit with
  | [assetCode] =>
      if sideAssets postings .credit = [assetCode]
          ∧ sideUnits postings .debit assetCode = sideUnits postings .credit assetCode then
        match assetFact? assets assetCode with
        | none => .ok none
        | some asset => do
            let value ← formatUnits (sideUnits postings .debit assetCode) asset.ledgerScale
            return some ⟨value, assetCode, asset.ledgerScale⟩
      else .ok none
  | _ => .ok none

def availability (available : Bool) : FieldAvailability :=
  if available then .available else .unavailable

/-- `_display` -/
def AccountFact.display (account : AccountFact) : AccountDisplay :=
  ⟨account.accountId, account.displayName⟩

/-- `_single_external_account` -/
def singleExternalAccount (postings : List JournalPosting) (accounts : List AccountFact)
    (side : PostingSide) : Option AccountDisplay :=
  match ((postings.filter fun p => p.side = side
      ∧ (accountFact? accounts p.accountId).any fun account =>
        account.systemRole = none
          ∧ (account.accountType = .asset ∨ account.accountType = .liability)).map
      (·.accountId)).eraseDups with
  | [accountId] => (accountFact? accounts accountId).map (·.display)
  | _ => none

structure AccountDisplays where
  source : Option AccountDisplay
  target : Option AccountDisplay
  payment : Option AccountDisplay
  available : Bool

/-- `_account_displays` -/
def accountDisplays (item : JournalItem) (kind : EverydayEntryKind)
    (accounts : List AccountFact) : AccountDisplays :=
  match item.creditCardRelation with
  | some relation =>
      let card := (accountFact? accounts relation.cardAccountId).map (·.display)
      let counter := (accountFact? accounts relation.counterAccountId).map (·.display)
      match relation.intent with
      | .charge => ⟨none, none, card, card.isSome⟩
      | .fee => ⟨none, none, card, card.isSome⟩
      | .payment => ⟨counter, card, none, counter.isSome && card.isSome⟩
      | .refund => ⟨none, card, none, card.isSome⟩
  | none =>
      let debit := singleExternalAccount item.postings accounts .debit
      let credit := singleExternalAccount item.postings accounts .credit
      match kind with
      | .expense => ⟨none, none, credit, credit.isSome⟩
      | .income => ⟨none, debit, none, debit.isSome⟩
      | .transfer => ⟨credit, debit, none, credit.isSome && debit.isSome⟩
      | .creditCardPayment => ⟨credit, debit, none, credit.isSome && debit.isSome⟩
      | .adjustment => ⟨credit, debit, none, credit.isSome || debit.isSome⟩
      | .reversal => ⟨credit, debit, none, credit.isSome || debit.isSome⟩
      | .refund => ⟨none, none, none, false⟩
      | .unavailable => ⟨none, none, none, false⟩

/-- `_safe_refund_allocations`.  The amount is parsed back from its text to the
units that it was formatted from. -/
def safeRefundAllocations (inherited : List ReportingFact)
    (amount : Option (AssetCode × Nat)) : List ReportingFact :=
  match amount, inherited with
  | none, _ => []
  | some _, [] => []
  | some (assetCode, units), inherited =>
      if inherited.any fun line => line.assetCode ≠ assetCode then []
      else
        match inherited with
        | [line] => [{ line with units := units }]
        | _ => if (inherited.map (·.units)).sum = units then inherited else []

/-- The amount of the transaction in units. -/
def transactionUnits? (postings : List JournalPosting) (assets : List AssetFact) :
    Option (AssetCode × Nat) :=
  match sideAssets postings .debit with
  | [assetCode] =>
      if sideAssets postings .credit = [assetCode]
          ∧ sideUnits postings .debit assetCode = sideUnits postings .credit assetCode then
        (assetFact? assets assetCode).map fun _ => (assetCode, sideUnits postings .debit assetCode)
      else none
  | _ => none

/-- The lines whose categories a view shows. -/
def allocationLines (facts : EntryFacts) (kind : EverydayEntryKind) : List ReportingFact :=
  if facts.reporting = [] ∧ (kind = .refund ∨ kind = .reversal) then
    if kind = .refund then
      safeRefundAllocations facts.inheritedReporting
        (transactionUnits? facts.journal.postings facts.assets)
    else facts.inheritedReporting
  else facts.reporting

def crossAsset (item : JournalItem) : Bool :=
  1 < ((item.postings.map (·.assetCode)).eraseDups).length

/-- The allocation of a line whose asset and path are known. -/
def ReportingFact.allocation (line : ReportingFact) (asset : AssetFact) (path : List String) :
    Except QueryError CategoryAllocationView := do
  let value ← formatUnits line.units asset.ledgerScale
  return ⟨line.categoryId, line.categoryVersionId, path,
    ⟨value, line.assetCode, asset.ledgerScale⟩⟩

/-- The loop over the lines: none when an asset or a path is missing. -/
def allocations (assets : List AssetFact) :
    List ReportingFact → Except QueryError (Option (List CategoryAllocationView))
  | [] => .ok (some [])
  | line :: rest =>
      match assetFact? assets line.assetCode, line.path with
      | some asset, some path => do
          let first ← line.allocation asset path
          let more ← allocations assets rest
          return more.map (first :: ·)
      | _, _ => .ok none

/-- `_category_allocations` -/
def categoryAllocations (facts : EntryFacts) (kind : EverydayEntryKind) :
    Except QueryError (List CategoryAllocationView × FieldAvailability) :=
  if kind = .transfer ∨ kind = .adjustment
      ∨ (kind = .creditCardPayment ∧ crossAsset facts.journal = false) then
    .ok ([], .notApplicable)
  else if allocationLines facts kind = []
      ∨ (allocationLines facts kind).any fun line => line.path.isNone then
    .ok ([], .unavailable)
  else do
    let shown ← allocations facts.assets (allocationLines facts kind)
    return match shown with
      | some views => (views, .available)
      | none => ([], .unavailable)

/-- `_narrative_view` -/
def narrativeView (narratives : UUID → Option NarrativeView) :
    Option UUID → NarrativeView
  | none => ⟨.absent, none, none⟩
  | some ref => (narratives ref).getD ⟨.redacted, none, none⟩

/-- `_relationship_availability` -/
def relationshipAvailability (kind : EverydayEntryKind)
    (original reversedBy reverses : Option UUID) : FieldAvailability :=
  match kind with
  | .refund => availability original.isSome
  | .reversal => availability reverses.isSome
  | _ => if reversedBy.isSome then .available else .notApplicable

/-- The transaction that an entry goes back to. -/
def originalTransactionId (facts : EntryFacts) : Option UUID :=
  match facts.journal.creditCardRelation with
  | some ⟨.refund, _, _, original⟩ => original
  | _ => facts.semanticOriginalTransactionId.or facts.journal.reversesTransactionId

/-- `_build_view` -/
def buildView (narratives : UUID → Option NarrativeView) (facts : EntryFacts) :
    Except QueryError EverydayEntryView := do
  let item := facts.journal
  let kind := entryKind item
    (if facts.reporting = [] then facts.inheritedReporting else facts.reporting)
  let amount ← transactionAmount item.postings facts.assets
  let displays := accountDisplays item kind facts.accounts
  let shown ← categoryAllocations facts kind
  return {
    entryId := item.transactionId
    transactionId := item.transactionId
    kind := kind
    amount := amount
    amountAvailability := availability amount.isSome
    sourceAccount := displays.source
    targetAccount := displays.target
    paymentAccount := displays.payment
    accountDisplayAvailability := availability displays.available
    categoryAllocations := shown.1
    categoryAvailability := shown.2
    occurredAt := item.effectiveAt
    originalTransactionId := originalTransactionId facts
    reversedByTransactionId := item.reversedByTransactionId
    reversesTransactionId := item.reversesTransactionId
    relationshipAvailability := relationshipAvailability kind
      (originalTransactionId facts) item.reversedByTransactionId item.reversesTransactionId
    narrative := narrativeView narratives item.descriptionRef
    rawJournal := ⟨item.transactionId, item.bookPosition, item.transactionKind⟩ }

/-! ## The queries -/

inductive EntryQueryError
  | journal (error : JournalQueryError)
  | query (error : QueryError)

/-- `get_everyday_entry` -/
def getEverydayEntry (store : EventStoreTables) (t : SyncTables) (catalog : EntryCatalog)
    (narratives : UUID → Option NarrativeView) (bookId transactionId : UUID)
    (asOfBookPosition : Option Nat) : Except EntryQueryError EverydayEntryView := do
  let item ← (getJournalTransaction store t bookId transactionId asOfBookPosition).mapError
    .journal
  let asOf ← fetch (asOfBookPosition.or ((store.bookHead? bookId).map (·.lastPosition)))
    (.query (.lookup "Book not found"))
  let facts ← (loadFacts store t catalog bookId [item] asOf).mapError .query
  let first ← fetch facts.head? (.query (.lookup "Transaction not found"))
  (buildView narratives first).mapError .query

/-- `list_everyday_entries` -/
def listEverydayEntries (store : EventStoreTables) (t : SyncTables) (catalog : EntryCatalog)
    (narratives : UUID → Option NarrativeView) (bookId : UUID) (limit : Nat)
    (cursor : Option String) (asOfBookPosition : Option Nat) :
    Except EntryQueryError EverydayEntryPage := do
  let shown ← (listJournal store t bookId limit cursor asOfBookPosition).mapError .journal
  let facts ← (loadFacts store t catalog bookId shown.items shown.asOfBookPosition).mapError
    .query
  let views ← (facts.mapM (buildView narratives)).mapError .query
  return ⟨views, shown.nextCursor, shown.asOfBookPosition⟩

end TrackAnywhere.Ports
