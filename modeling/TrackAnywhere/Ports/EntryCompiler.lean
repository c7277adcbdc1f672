import TrackAnywhere.Ports.AccountClosing
import TrackAnywhere.Ports.EntryResolution
import TrackAnywhere.Ports.EverydayEntries

/-!
# The entry compiler

`compileEntry` makes the events of a plan from an entry and from what was read of
the Book: the amount in ledger units, the accounts and categories that the
references resolve to, the postings of the kind, validated as every journal
command validates them, and the reporting lines of the categories.

The assertions of the source that follow from the validators of the contracts
are errors of `runtime` here.
-/

namespace TrackAnywhere.Ports

open TrackAnywhere.Verified
open TrackAnywhere.Verified.Checked

/-! ## What was read of the Book -/

structure OriginalCategoryAllocation where
  category : EntryCategory
  units : Nat
deriving DecidableEq

/-- The kind of an original: a recorded card charge, or the kind of its view. -/
inductive OriginalKind
  | creditCardCharge
  | everyday (kind : EverydayEntryKind)
deriving DecidableEq

structure OriginalEntry where
  transactionId : UUID
  kind : OriginalKind
  assetCode : AssetCode
  units : Nat
  sourceAccountId : Option UUID
  cardAccountId : Option UUID
  categoryAllocations : List OriginalCategoryAllocation
deriving DecidableEq

structure EntryCompilationContext where
  bookId : UUID
  commandId : UUID
  transactionId : UUID
  actorSubjectId : String
  lockedLastPosition : Nat
  assets : List EntryAsset
  accounts : List EntryAccount
  categories : List EntryCategory
  currentBalanceUnits : Option Int
  originalEntry : Option OriginalEntry

/-- `_ResolvedAllocation` -/
structure ResolvedAllocation where
  category : EntryCategory
  units : Nat
deriving DecidableEq

/-- The contracts of a clarification and of its choices. -/
def checkChoices (choices : List ClarificationChoice) : Except String Unit := do
  forEach choices fun choice => do
    require (1 ≤ choice.label.length) "String should have at least 1 character"
    require (choice.label.length ≤ 512) "String should have at most 512 characters"
  require (choices.length ≤ 64) "Tuple should have at most 64 items"

/-- `EntryClarificationRequired` of choices, where their contracts accept them. -/
def clarificationRequired (code : EntryGatewayCode) (message field prompt : String)
    (choices : List ClarificationChoice) : EntryError :=
  match checkChoices choices with
  | .ok () => .clarification code message field prompt choices
  | .error refusal => .contract refusal

section Lookups

variable (u : UnicodeTables) (context : EntryCompilationContext)

namespace EntryCompilationContext

/-- `_asset` -/
def asset (assetCode : AssetCode) : Except EntryError EntryAsset :=
  match context.assets.filter fun asset => asset.assetCode = assetCode with
  | [asset] => .ok asset
  | _ => .error (.gateway .denominationUnsupported "exactly one asset policy is required"
      (some "amount.asset_code"))

/-- `_account` -/
def account (reference : AccountRef) (assetCode : AssetCode) (use : AccountUse)
    (field : String) : Except EntryError EntryAccount := do
  let resolution ← resolveAccount u reference context.accounts context.bookId assetCode
    use (context.categories.map (·.categoryId))
  match resolution with
  | .resolved account => pure account
  | .choices choices => .error (clarificationRequired .accountAmbiguous
      "account selection requires clarification" field "Choose the intended account."
      choices)

/-- `_account_by_id` -/
def accountById (accountId : Option UUID) (assetCode : AssetCode) (use : AccountUse) :
    Except EntryError EntryAccount := do
  let accountId ← fetch accountId (.gateway .originalTransactionNotFound
    "original transaction account is unavailable" (some "original_transaction_id"))
  context.account u (.ofId accountId) assetCode use "original_transaction_id"

/-- `_category` -/
def category (reference : CategoryRef) (usageKind : CategoryUsageKind) (field : String) :
    Except EntryError EntryCategory := do
  let resolution ← resolveCategory u reference context.categories context.bookId usageKind
    (context.accounts.map (·.accountId))
  match resolution with
  | .resolved category => pure category
  | .choices choices => .error (clarificationRequired .categoryAmbiguous
      "category selection requires clarification" field "Choose the intended category."
      choices)

/-- The internal account of a role, for an asset. -/
def internal (assetCode : AssetCode) (role : AccountSystemRole) :
    Except EntryError EntryAccount :=
  resolveInternalAccount context.accounts context.bookId assetCode role

end EntryCompilationContext

/-- `require_distinct_accounts` -/
def requireDistinctAccounts (first second : UUID) : Except EntryError Unit :=
  require (first ≠ second)
    (.gateway .sameAccount "entry accounts must be distinct" (some "account"))

end Lookups

/-! ## Postings -/

/-- One leg of a posting: account, asset, side and units. -/
structure PostingLeg where
  account : EntryAccount
  assetCode : AssetCode
  side : PostingSide
  units : Nat

/-- What a posting says, apart from its id and position. -/
structure PostedUnits where
  accountId : UUID
  assetCode : AssetCode
  side : PostingSide
  units : Nat
deriving DecidableEq

def JournalPostingFact.posted (posting : JournalPostingFact) : PostedUnits :=
  ⟨posting.accountId, posting.assetCode, posting.side, posting.units.1⟩

def PostingLeg.posted (leg : PostingLeg) : PostedUnits :=
  ⟨leg.account.accountId, leg.assetCode, leg.side, leg.units⟩

/-- The text of a journal error.  Those of an unbalanced asset and of an exchange
go on with the assets. -/
def JournalError.message : JournalError → String
  | tooFewPostings => "a journal transaction requires at least two postings"
  | duplicatePostingId postingId => "duplicate posting id: " ++ postingId.text
  | duplicatePostingPosition position => s!"duplicate posting position: {position}"
  | unknownAccount accountId => "unknown account: " ++ accountId.text
  | accountClosed accountId => "account is closed: " ++ accountId.text
  | postingAssetMismatch accountId postingAsset accountAsset =>
      "posting asset " ++ postingAsset.1 ++ " does not match account " ++ accountId.text
        ++ " asset " ++ accountAsset.1
  | unbalancedAsset => "journal is unbalanced for assets"
  | invalidFxTransaction message => message

/-- The checks of `_index_by_identity` on one account. -/
def EntryAccount.snapshotShape (account : EntryAccount) : Bool :=
  account.accountSubtype.all (fun subtype => accountSubtypePattern subtype
      && decide (subtype.length ≤ 64))
    && decide (account.accountSubtype = some "credit_card" →
      account.accountType = .liability)
    && ["active", "closed"].contains account.status

/-- The accounts of the legs, as `AccountCatalogSnapshot` has them. -/
def legReads (bookId : UUID) (legs : List PostingLeg) : BookReads :=
  { BookReads.start bookId with
    catalog := ⟨legs.map fun leg => ⟨leg.account.accountId, leg.account.assetCode,
      leg.account.accountType, leg.account.accountSubtype⟩, [], []⟩
    closed := fun accountId => legs.any fun leg =>
      leg.account.accountId = accountId ∧ leg.account.status ≠ "active" }

section Postings

variable (uuid5 : UUID → String → UUID) (context : EntryCompilationContext)

/-- The namespace of one kind of derived ids. -/
def entryNamespace (name : String) : UUID :=
  uuid5 namespaceUrl ("https://track-anywhere.dev/v2/events/everyday-entry." ++ name)

/-- The posting of a leg. -/
def draftPosting (leg : PostingLeg) (position : Nat) :
    Except EntryError JournalPostingFact :=
  let postingId := uuid5 (entryNamespace uuid5 "posting")
    (context.transactionId.text ++ s!":{position}")
  if h : 0 < leg.units ∧ leg.units < 10 ^ 38 then
    .ok ⟨postingId, position, leg.account.accountId, leg.assetCode, leg.side, leg.units, h⟩
  else .error (.journal ("posting " ++ postingId.text ++ " units must be a positive integer "
    ++ "with at most 38 digits"))

/-- `_mixed_postings` -/
def mixedPostings (kind : TransactionKind) (legs : List PostingLeg) :
    Except EntryError (List JournalPostingFact) := do
  let postings ← legs.zipIdx.mapM fun (leg, position) =>
    draftPosting uuid5 context leg position
  require (∀ leg ∈ legs, leg.account.snapshotShape)
    (.journal "account snapshot has an invalid runtime shape")
  require (legs.map (·.account.accountId)).Nodup (.journal "duplicate account snapshot")
  (validateJournal (fun accountId => legs.any fun leg => leg.account.accountId = accountId
      ∧ leg.account.systemRole = .fxTrading) (legReads context.bookId legs) kind
    postings).mapError fun error => .journal error.message
  return postings

/-- `_postings`: one amount from the second account to the first. -/
def twoPostings (assetCode : AssetCode) (units : Nat) (debit credit : EntryAccount) :
    Except EntryError (List JournalPostingFact) :=
  mixedPostings uuid5 context .standard
    [⟨debit, assetCode, .debit, units⟩, ⟨credit, assetCode, .credit, units⟩]

variable {uuid5 context} {kind : TransactionKind} {legs : List PostingLeg}
  {postings : List JournalPostingFact}

theorem draftPosting_posted {leg : PostingLeg} {position : Nat}
    {posting : JournalPostingFact}
    (h : draftPosting uuid5 context leg position = .ok posting) :
    posting.posted = leg.posted := by
  unfold draftPosting at h
  split at h
  · cases h
    rfl
  · exact nomatch h

theorem draftPostings_posted {numbered : List (PostingLeg × Nat)}
    (h : List.Forall₂ (fun leg posting =>
      draftPosting uuid5 context leg.1 leg.2 = .ok posting) numbered postings) :
    postings.map (·.posted) = numbered.map (PostingLeg.posted ∘ Prod.fst) := by
  induction h with
  | nil => rfl
  | cons hFirst _ ih =>
      rw [List.map_cons, List.map_cons, ih, draftPosting_posted hFirst]
      rfl

/-- The postings say what the legs say, in their order. -/
theorem mixedPostings_facts
    (h : mixedPostings uuid5 context kind legs = .ok postings) :
    postings.map (·.posted) = legs.map (·.posted) := by
  unfold mixedPostings at h
  simp only [bind_eq_ok, pure_eq_ok] at h
  obtain ⟨drafts, hDrafts, _, -, _, -, _, -, rfl⟩ := h
  rw [draftPostings_posted (mapM_eq_ok.1 hDrafts), ← List.map_map,
    List.zipIdx_map_fst]

theorem twoPostings_facts {assetCode : AssetCode} {units : Nat}
    {debit credit : EntryAccount}
    (h : twoPostings uuid5 context assetCode units debit credit = .ok postings) :
    postings.map (·.posted) = [⟨debit.accountId, assetCode, .debit, units⟩,
      ⟨credit.accountId, assetCode, .credit, units⟩] :=
  mixedPostings_facts h

end Postings

/-! ## Allocations -/

section Allocations

variable (u : UnicodeTables) (context : EntryCompilationContext)

/-- `normalize_category_allocations` -/
def normalizeCategoryAllocations (amount : MoneyInput)
    (categoryAllocations : List CategoryAllocationInput) (asset : EntryAsset) :
    Except EntryError (List (CategoryAllocationInput × NormalizedAmount)) := do
  let total ← normalizeAmount u amount.1 asset false
  let normalized ← categoryAllocations.mapM fun allocation => do
    let amount ← normalizeAmount u allocation.amount.1 asset false
    return (allocation, amount)
  require (normalized = [] ∨ (normalized.map (·.2.units)).sum = total.units)
    (.gateway .categoryAllocationMismatch
      "category allocations must exactly equal the entry amount"
      (some "category_allocations"))
  return normalized

/-- The categories of allocations that the entry states one by one. -/
def resolveAllocations (usageKind : CategoryUsageKind)
    (normalized : List (CategoryAllocationInput × NormalizedAmount)) :
    Except EntryError (List ResolvedAllocation) :=
  normalized.zipIdx.mapM fun (item, position) => do
    let category ← context.category u item.1.category usageKind
      s!"category_allocations.{position}.category"
    return ⟨category, item.2.units⟩

/-- `_category_allocations` of the compiler -/
def entryAllocations (entry : CategorizedEntryInput) (asset : EntryAsset)
    (total : NormalizedAmount) (usageKind : CategoryUsageKind) :
    Except EntryError (List ResolvedAllocation) := do
  let normalized ← normalizeCategoryAllocations u entry.amount entry.categoryAllocations
    asset
  match entry.category with
  | some reference => do
      let category ← context.category u reference usageKind "category"
      return [⟨category, total.units⟩]
  | none => resolveAllocations u context usageKind normalized

/-- `_refund_allocations` -/
def refundAllocations (entry : RefundEntryInput) (original : OriginalEntry)
    (asset : EntryAsset) (amount : NormalizedAmount) :
    Except EntryError (List ResolvedAllocation) :=
  if entry.categoryAllocations ≠ [] then do
    let stated ← fetch entry.amount (.runtime "refund allocations without an amount")
    let normalized ← normalizeCategoryAllocations u stated entry.categoryAllocations asset
    resolveAllocations u context .expense normalized
  else
    match original.categoryAllocations with
    | [allocation] => .ok [⟨allocation.category, amount.units⟩]
    | allocations =>
        if amount.units = original.units ∧ allocations ≠ [] then
          .ok (allocations.map fun item => ⟨item.category, item.units⟩)
        else .error (.gateway .refundAllocationRequired
          "a partial refund of a split transaction requires explicit allocations"
          (some "category_allocations"))

end Allocations

/-! ## Reporting lines -/

structure ReportingLineInput where
  lineId : UUID
  lineVersionId : UUID
  catalogId : UUID
  assetCode : AssetCode
  units : CanonicalUnits
  lineKind : ReportingLineKind
  dimension : ReportingDimension
  dimensionId : Option UUID
  descriptionRef : Option UUID
deriving DecidableEq

/-- The units of one side of an asset. -/
def sideTotal (postings : List JournalPostingFact) (side : PostingSide)
    (assetCode : AssetCode) : Nat :=
  ((postings.filter fun p => p.side = side ∧ p.assetCode = assetCode).map
    (·.units.1)).sum

/-- The units that lines allocate of an asset. -/
def allocatedTotal (lines : List ReportingLineInput) (assetCode : AssetCode) : Nat :=
  ((lines.filter fun line => line.assetCode = assetCode).map (·.units.1)).sum

/-- `validate_reporting_allocations` -/
def validateReportingAllocations (lines : List ReportingLineInput)
    (postings : List JournalPostingFact) (transactionKind : RecordedKind) :
    Except EntryError Unit := do
  require (lines ≠ []) (.reporting "lines must be a non-empty immutable typed tuple")
  require (transactionKind ∈ [RecordedKind.creditCard .charge, .creditCard .fee,
      .creditCard .refund] → ∀ line ∈ lines, line.lineKind = .expense)
    (.reporting
      "credit-card charges, fees, and refunds require expense reporting lines")
  forEach lines fun line =>
    require (line.dimension = .category ∧ line.dimensionId ≠ none)
      (.reporting "reporting dimension has no immutable V2 catalog contract")
  require (postings ≠ [] ∧ ∀ p ∈ postings,
      sideTotal postings .debit p.assetCode = sideTotal postings .credit p.assetCode)
    (.reporting "reporting target postings are unavailable or unbalanced")
  require (∀ line ∈ lines,
      allocatedTotal lines line.assetCode ≤ sideTotal postings .debit line.assetCode)
    (.reporting "reporting allocation exceeds the transaction amount")

/-- The reporting line at a position of the event. -/
def ReportingLineInput.line (self : ReportingLineInput) (position : Nat) : ReportingLine where
  lineId := self.lineId
  lineVersionId := self.lineVersionId
  catalogId := self.catalogId
  position := position
  assetCode := self.assetCode
  units := self.units
  lineKind := self.lineKind
  dimension := self.dimension
  dimensionId := self.dimensionId
  descriptionRef := self.descriptionRef

/-- A payload that its contract accepts. -/
def contractOf (payload : EventPayload) : Except EntryError EventContract :=
  match h : payload.validate with
  | .ok () => .ok ⟨payload, h⟩
  | .error message => .error (.contract message)

theorem contractOf_eq_ok {payload : EventPayload} {contract : EventContract} :
    contractOf payload = .ok contract ↔ contract.1 = payload := by
  obtain ⟨payload', hValid⟩ := contract
  unfold contractOf
  split
  · rename_i h
    rw [Except.ok.injEq, Subtype.mk.injEq]
    exact eq_comm
  · rename_i message h
    constructor
    · exact fun hError => nomatch hError
    · rintro rfl
      exact absurd (hValid.symm.trans h) (by simp)

/-- `build_reporting_lines_assigned`, at the first revision. -/
def buildReportingLinesAssigned (transactionId : UUID) (lines : List ReportingLineInput) :
    Except EntryError EventContract :=
  contractOf (.reportingLinesAssigned
    { transactionId := transactionId
      classificationRevision := 1
      hRevision := Nat.one_pos
      lines := lines.zipIdx.map fun (line, position) => line.line position })

/-! ## Plans -/

/-- The plan of an entry; its body is the transaction, the kind and the position. -/
structure CompiledEntry where
  expectedStreamVersions : List (StreamKey × Int)
  events : List PendingEvent
  transactionId : UUID
  entryKind : EntryKind
  asOfBookPosition : Nat

/-- The financial event of an entry. -/
inductive EntryFinancial
  | posted (payload : JournalTransactionPosted)
  | recorded (payload : CreditCardTransactionRecorded)
deriving DecidableEq

namespace EntryFinancial

def payload : EntryFinancial → EventPayload
  | posted p => .journalTransactionPosted p
  | recorded p => .creditCardTransactionRecorded p

def postings : EntryFinancial → List JournalPostingFact
  | posted p => p.postings
  | recorded p => p.postings

/-- One amount of one asset, to the first account from the second. -/
def Moves (financial : EntryFinancial) (assetCode : AssetCode)
    (units : Nat) (debit credit : UUID) : Prop :=
  financial.postings.map (·.posted)
    = [⟨debit, assetCode, .debit, units⟩, ⟨credit, assetCode, .credit, units⟩]

end EntryFinancial

section Plans

variable (uuid5 : UUID → String → UUID) (context : EntryCompilationContext)

/-- The reporting line of the allocation at a position. -/
def reportingLineInput (assetCode : AssetCode) (lineKind : ReportingLineKind)
    (allocation : ResolvedAllocation) (position : Nat) :
    Except EntryError ReportingLineInput :=
  let derived := fun suffix => uuid5 (entryNamespace uuid5 "reporting-line")
    (context.commandId.text ++ s!":{position}:" ++ suffix)
  if h : 0 < allocation.units ∧ allocation.units < 10 ^ 38 then
    .ok { lineId := derived "line"
          lineVersionId := derived "version"
          catalogId := allocation.category.categoryVersionId
          assetCode := assetCode
          units := ⟨allocation.units, h⟩
          lineKind := lineKind
          dimension := .category
          dimensionId := some allocation.category.categoryId
          descriptionRef := none }
  else .error (.reporting "reporting units must be a canonical positive integer string")

/-- One event of the plan; the stream of each is new. -/
def entryPending (name streamType : String) (payload : EventContract)
    (causationEventId : Option UUID) (effectiveAt : Instant) : PendingEvent where
  eventId := uuid5 (entryNamespace uuid5 name) context.commandId.text
  streamType := streamType
  streamId := context.transactionId
  payload := payload
  commandId := context.commandId
  actorSubjectId := context.actorSubjectId
  correlationId := context.commandId
  causationEventId := causationEventId
  effectiveAt := effectiveAt

/-- The reporting event of a plan that allocates. -/
def reportingPending (financial : EntryFinancial) (financialEventId : UUID)
    (transactionKind : RecordedKind) (allocations : List ResolvedAllocation)
    (lineKind : ReportingLineKind) (reportingAssetCode : Option AssetCode)
    (effectiveAt : Instant) : Except EntryError PendingEvent := do
  let first ← fetch financial.postings.head? (.runtime "tuple index out of range")
  let lines ← allocations.zipIdx.mapM fun (allocation, position) =>
    reportingLineInput uuid5 context (reportingAssetCode.getD first.assetCode) lineKind
      allocation position
  validateReportingAllocations lines financial.postings transactionKind
  let reporting ← buildReportingLinesAssigned context.transactionId lines
  return entryPending uuid5 context "reporting" "reporting_lines" reporting
    (some financialEventId) effectiveAt

/-- `_plan`; the line kind is there where allocations are. -/
def entryPlan (entry : EverydayEntry) (financial : EntryFinancial)
    (transactionKind : RecordedKind) (allocations : List ResolvedAllocation)
    (lineKind : ReportingLineKind) (reportingAssetCode : Option AssetCode) :
    Except EntryError CompiledEntry := do
  let contract ← contractOf financial.payload
  let effectiveAt := entry.occurredAt.instant
  let pending := entryPending uuid5 context "financial" "journal_transaction" contract none
    effectiveAt
  if allocations = [] then
    return ⟨[(("journal_transaction", context.transactionId), 0)], [pending],
      context.transactionId, entry.kind, context.lockedLastPosition + 1⟩
  else
    let reporting ← reportingPending uuid5 context financial pending.eventId transactionKind
      allocations lineKind reportingAssetCode effectiveAt
    return ⟨[(("journal_transaction", context.transactionId), 0),
        (("reporting_lines", context.transactionId), 0)], [pending, reporting],
      context.transactionId, entry.kind, context.lockedLastPosition + 2⟩

end Plans

/-! ## The six kinds -/

section Kinds

variable (u : UnicodeTables) (uuid5 : UUID → String → UUID)
  (context : EntryCompilationContext)

/-- `_compile_expense` -/
def compileExpense (entry : ExpenseEntryInput) (asset : EntryAsset) :
    Except EntryError CompiledEntry := do
  let amount ← normalizeAmount u entry.amount.1 asset false
  let reference ← fetch entry.sourceAccount (.gateway .invalidInput
    "expense payment instrument was not resolved" (some "payment_instrument"))
  let source ← context.account u reference asset.assetCode .expenseSource "source_account"
  let clearing ← context.internal asset.assetCode .expenseClearing
  let allocations ← entryAllocations u context entry.toCategorizedEntryInput asset amount
    .expense
  let postings ← twoPostings uuid5 context asset.assetCode amount.units clearing source
  if source.accountSubtype = some "credit_card" then
    entryPlan uuid5 context (.expense entry)
      (.recorded
        { intent := .charge
          transactionId := context.transactionId
          cardAccountId := source.accountId
          counterAccountId := clearing.accountId
          originalTransactionId := none
          postings := postings
          descriptionRef := none
          externalReferences := [] })
      (.creditCard .charge) allocations .expense none
  else
    entryPlan uuid5 context (.expense entry)
      (.posted
        { transactionId := context.transactionId
          kind := .standard
          originalTransactionId := none
          postings := postings
          descriptionRef := none
          externalReferences := [] })
      .standard allocations .expense none

/-- `_compile_income` -/
def compileIncome (entry : IncomeEntryInput) (asset : EntryAsset) :
    Except EntryError CompiledEntry := do
  let amount ← normalizeAmount u entry.amount.1 asset false
  let destination ← context.account u entry.destinationAccount asset.assetCode
    .incomeDestination "destination_account"
  let clearing ← context.internal asset.assetCode .incomeClearing
  let allocations ← entryAllocations u context entry.toCategorizedEntryInput asset amount
    .income
  let postings ← twoPostings uuid5 context asset.assetCode amount.units destination clearing
  entryPlan uuid5 context (.income entry)
    (.posted
      { transactionId := context.transactionId
        kind := .standard
        originalTransactionId := none
        postings := postings
        descriptionRef := none
        externalReferences := [] })
    .standard allocations .income none

/-- `_compile_transfer` -/
def compileTransfer (entry : TransferEntryInput) (asset : EntryAsset) :
    Except EntryError CompiledEntry := do
  let amount ← normalizeAmount u entry.amount.1 asset false
  let source ← context.account u entry.sourceAccount asset.assetCode .transferSource
    "source_account"
  let destination ← context.account u entry.destinationAccount asset.assetCode
    .transferDestination "destination_account"
  requireDistinctAccounts source.accountId destination.accountId
  let postings ← twoPostings uuid5 context asset.assetCode amount.units destination source
  entryPlan uuid5 context (.transfer entry)
    (.posted
      { transactionId := context.transactionId
        kind := .transfer
        originalTransactionId := none
        postings := postings
        descriptionRef := none
        externalReferences := [] })
    .transfer [] .transfer none

/-- `_compile_fx_card_payment` -/
def compileFxCardPayment (entry : CreditCardPaymentEntryInput) (sourceAmount : MoneyInput)
    (targetAsset : EntryAsset) : Except EntryError CompiledEntry := do
  let feeAmount ← fetch entry.feeAmount (.runtime "assert entry.fee_amount is not None")
  let feeCategory ← fetch entry.feeCategory
    (.runtime "assert entry.fee_category is not None")
  let cardAccount ← fetch entry.cardAccount (.gateway .invalidInput
    "credit-card payment instrument was not resolved" (some "payment_instrument"))
  let sourceAsset ← context.asset sourceAmount.1.assetCode
  let target ← normalizeAmount u entry.amount.1 targetAsset false
  let source ← normalizeAmount u sourceAmount.1 sourceAsset false
  let fee ← normalizeAmount u feeAmount.1 sourceAsset false
  let funding ← context.account u entry.fundingAccount sourceAsset.assetCode
    .cardPaymentFunding "funding_account"
  let card ← context.account u cardAccount targetAsset.assetCode .cardPaymentCard
    "card_account"
  let sourceTrading ← context.internal sourceAsset.assetCode .fxTrading
  let targetTrading ← context.internal targetAsset.assetCode .fxTrading
  let feeClearing ← context.internal sourceAsset.assetCode .expenseClearing
  requireDistinctAccounts funding.accountId card.accountId
  let category ← context.category u feeCategory .expense "fee_category"
  let postings ← mixedPostings uuid5 context .creditCardPayment
    [⟨card, targetAsset.assetCode, .debit, target.units⟩,
      ⟨targetTrading, targetAsset.assetCode, .credit, target.units⟩,
      ⟨sourceTrading, sourceAsset.assetCode, .debit, source.units⟩,
      ⟨feeClearing, sourceAsset.assetCode, .debit, fee.units⟩,
      ⟨funding, sourceAsset.assetCode, .credit, source.units + fee.units⟩]
  entryPlan uuid5 context (.creditCardPayment entry)
    (.posted
      { transactionId := context.transactionId
        kind := .creditCardPayment
        originalTransactionId := none
        postings := postings
        descriptionRef := none
        externalReferences := [] })
    (.creditCard .payment) [⟨category, fee.units⟩] .expense (some sourceAsset.assetCode)

/-- `_compile_card_payment` -/
def compileCardPayment (entry : CreditCardPaymentEntryInput) (asset : EntryAsset) :
    Except EntryError CompiledEntry :=
  match entry.sourceAmount with
  | some sourceAmount => compileFxCardPayment u uuid5 context entry sourceAmount asset
  | none => do
      let amount ← normalizeAmount u entry.amount.1 asset false
      let cardAccount ← fetch entry.cardAccount (.gateway .invalidInput
        "credit-card payment instrument was not resolved" (some "payment_instrument"))
      let funding ← context.account u entry.fundingAccount asset.assetCode
        .cardPaymentFunding "funding_account"
      let card ← context.account u cardAccount asset.assetCode .cardPaymentCard
        "card_account"
      requireDistinctAccounts funding.accountId card.accountId
      let postings ← twoPostings uuid5 context asset.assetCode amount.units card funding
      entryPlan uuid5 context (.creditCardPayment entry)
        (.recorded
          { intent := .payment
            transactionId := context.transactionId
            cardAccountId := card.accountId
            counterAccountId := funding.accountId
            originalTransactionId := none
            postings := postings
            descriptionRef := none
            externalReferences := [] })
        (.creditCard .payment) [] .transfer none

/-- The financial event of a refund, and the kind of its transaction. -/
def refundFinancial (original : OriginalEntry) (clearing : EntryAccount)
    (assetCode : AssetCode) (units : Nat) :
    Except EntryError (EntryFinancial × RecordedKind) :=
  match original.kind with
  | .creditCardCharge => do
      let card ← context.accountById u original.cardAccountId assetCode .cardPaymentCard
      let postings ← twoPostings uuid5 context assetCode units card clearing
      return (.recorded
        { intent := .refund
          transactionId := context.transactionId
          cardAccountId := card.accountId
          counterAccountId := clearing.accountId
          originalTransactionId := some original.transactionId
          postings := postings
          descriptionRef := none
          externalReferences := [] }, .creditCard .refund)
  | .everyday .expense => do
      let source ← context.accountById u original.sourceAccountId assetCode .expenseSource
      let postings ← twoPostings uuid5 context assetCode units source clearing
      return (.posted
        { transactionId := context.transactionId
          kind := .refund
          originalTransactionId := some original.transactionId
          postings := postings
          descriptionRef := none
          externalReferences := [] }, .refund)
  | _ => .error (.gateway .unsupported
      "only expense and credit-card charge refunds are supported"
      (some "original_transaction_id"))

/-- The amount of a refund: the stated one, or the whole original. -/
def refundAmount (entry : RefundEntryInput) (original : OriginalEntry) (asset : EntryAsset) :
    Except EntryError NormalizedAmount :=
  match entry.amount with
  | none => .ok ⟨original.units, asset.ledgerScale, asset.assetCode⟩
  | some amount => normalizeAmount u amount.1 asset false

/-- `_compile_refund` -/
def compileRefund (entry : RefundEntryInput) (asset : EntryAsset) :
    Except EntryError CompiledEntry := do
  let original ← fetch
    (context.originalEntry.filter fun o => o.transactionId = entry.originalTransactionId)
    (.gateway .originalTransactionNotFound
      "original transaction is unavailable for refund compilation"
      (some "original_transaction_id"))
  require (original.assetCode = asset.assetCode)
    (.gateway .amountInvalid "refund asset must match the original transaction"
      (some "amount.asset_code"))
  let amount ← refundAmount u entry original asset
  require (amount.units ≤ original.units)
    (.gateway .amountInvalid "refund amount exceeds the original transaction amount"
      (some "amount.value"))
  let clearing ← context.internal asset.assetCode .expenseClearing
  let allocations ← refundAllocations u context entry original asset amount
  let financial ← refundFinancial u uuid5 context original clearing asset.assetCode
    amount.units
  entryPlan uuid5 context (.refund entry) financial.1 financial.2 allocations .expense none

/-- `_compile_adjustment` -/
def compileAdjustment (entry : AdjustmentEntryInput) (asset : EntryAsset) :
    Except EntryError CompiledEntry := do
  let actual ← normalizeAmount u entry.actualBalance.1 asset true
  let account ← context.account u entry.account asset.assetCode .adjusted "account"
  let current ← fetch context.currentBalanceUnits (.gateway .unsupported
    "current balance is required to compile an adjustment" (some "account"))
  let delta : Int := actual.units - current
  require (delta ≠ 0) (.gateway .invalidInput
    "actual balance already matches the ledger balance" (some "actual_balance"))
  let clearing ← context.internal asset.assetCode .balanceAdjustment
  let postings ←
    if 0 < delta then
      twoPostings uuid5 context asset.assetCode delta.natAbs account clearing
    else twoPostings uuid5 context asset.assetCode delta.natAbs clearing account
  entryPlan uuid5 context (.adjustment entry)
    (.posted
      { transactionId := context.transactionId
        kind := .adjustment
        originalTransactionId := none
        postings := postings
        descriptionRef := none
        externalReferences := [] })
    .adjustment [] .transfer none

/-- `_entry_asset_code` -/
def entryAssetCode : EverydayEntry → Except EntryError AssetCode
  | .expense entry => .ok entry.amount.1.assetCode
  | .income entry => .ok entry.amount.1.assetCode
  | .transfer entry => .ok entry.amount.1.assetCode
  | .creditCardPayment entry => .ok entry.amount.1.assetCode
  | .adjustment entry => .ok entry.actualBalance.1.assetCode
  | .refund entry =>
      match entry.amount with
      | some amount => .ok amount.1.assetCode
      | none => do
          let original ← fetch context.originalEntry (.gateway .originalTransactionNotFound
            "original transaction is unavailable for refund compilation"
            (some "original_transaction_id"))
          return original.assetCode

/-- `compile_entry` -/
def compileEntry (entry : EverydayEntry) : Except EntryError CompiledEntry := do
  let assetCode ← entryAssetCode context entry
  let asset ← context.asset assetCode
  match entry with
  | .expense entry => compileExpense u uuid5 context entry asset
  | .income entry => compileIncome u uuid5 context entry asset
  | .transfer entry => compileTransfer u uuid5 context entry asset
  | .creditCardPayment entry => compileCardPayment u uuid5 context entry asset
  | .refund entry => compileRefund u uuid5 context entry asset
  | .adjustment entry => compileAdjustment u uuid5 context entry asset

end Kinds

end TrackAnywhere.Ports
