import TrackAnywhere.Ports.BookCatalogs
import TrackAnywhere.Ports.EntryErrors

/-!
# The FX credit-card payment command

`buildFxCreditCardPaymentPlan` posts a card payment out of another asset from the
accounts and the version of the fee category that the command names.  It is
written apart from `compileFxCardPayment`: it reads the catalog by itself, finds
the fee account with a query, scales the amounts with `AssetPolicy`, and makes its
own postings and its own reporting line.
-/

namespace TrackAnywhere.Ports

open TrackAnywhere.Verified
open TrackAnywhere.Verified.Checked
open TrackAnywhere.Verified.FixedPoint

/-! ## The command -/

/-- The fields of `RecordFxCommand`; an asset code is checked by its type. -/
structure RecordFxCommand where
  bookId : UUID
  commandId : UUID
  transactionId : UUID
  expectedStreamVersion : Int
  sourceAccountId : UUID
  sourceTradingAccountId : UUID
  sourceAssetCode : AssetCode
  sourceAmount : String
  targetTradingAccountId : UUID
  targetAccountId : UUID
  targetAssetCode : AssetCode
  targetAmount : String
  effectiveAt : Instant
  descriptionRef : Option UUID
  externalReferences : List FinancialExternalReference

structure RecordFxCreditCardPaymentCommand extends RecordFxCommand where
  feeAmount : String
  feeCategoryId : UUID
  feeCategoryVersionId : UUID

def RecordFxCommand.postInit (self : RecordFxCommand) : Except String Unit := do
  require [self.sourceAccountId, self.sourceTradingAccountId, self.targetTradingAccountId,
      self.targetAccountId].Nodup
    "FX account identities must be distinct"
  require (0 ≤ self.expectedStreamVersion)
    "expected_stream_version must be a non-negative integer"
  require (self.sourceAssetCode ≠ self.targetAssetCode) "FX requires two different assets"
  require (plainDecimal self.sourceAmount)
    "source_amount must be an unsigned plain-decimal string"
  require (plainDecimal self.targetAmount)
    "target_amount must be an unsigned plain-decimal string"

def RecordFxCreditCardPaymentCommand.postInit (self : RecordFxCreditCardPaymentCommand) :
    Except String Unit := do
  self.toRecordFxCommand.postInit
  RecordFxCreditCardPaymentCommand.validateFeeAmount self.feeAmount

inductive RecordFxError
  /-- `IdempotencyValidationError` -/
  | validation (message : String)
  | assetUnavailable (message : String)
  | catalogNotFound (message : String)
  | money (error : MoneyError)
  /-- What the journal, the reporting checks and the contracts raise, as under an entry. -/
  | shared (error : EntryError)
deriving DecidableEq

/-! ## The accounts of a journal command -/

/-- `AccountSnapshot` of the journal domain, in one Book. -/
structure DomainAccount where
  accountId : UUID
  assetCode : AssetCode
  accountType : AccountType
  accountSubtype : Option String
  systemRole : AccountSystemRole
  status : String
deriving DecidableEq

def BookCatalogs.AccountRecord.domain (row : BookCatalogs.AccountRecord) :
    Except EntryError DomainAccount := do
  let systemRole ← accountSystemRole row.systemRole
  return ⟨row.accountId, row.assetCode, row.accountType, row.accountSubtype, systemRole,
    row.status⟩

def EntryAccount.domain (account : EntryAccount) : DomainAccount :=
  ⟨account.accountId, account.assetCode, account.accountType, account.accountSubtype,
    account.systemRole, account.status⟩

/-- The checks of `_index_by_identity` on one account. -/
def DomainAccount.shape (account : DomainAccount) : Bool :=
  account.accountSubtype.all (fun subtype => accountSubtypePattern subtype
      && decide (subtype.length ≤ 64))
    && decide (account.accountSubtype = some "credit_card" →
      account.accountType = .liability)
    && ["active", "closed"].contains account.status

/-- The accounts, as `AccountCatalogSnapshot` has them. -/
def domainReads (bookId : UUID) (accounts : List DomainAccount) : BookReads :=
  { BookReads.start bookId with
    catalog := ⟨accounts.map fun a => ⟨a.accountId, a.assetCode, a.accountType,
      a.accountSubtype⟩, [], []⟩
    closed := fun accountId => accounts.any fun a =>
      a.accountId = accountId ∧ a.status ≠ "active" }

/-- Whether an account trades for its Book. -/
def tradesIn (accounts : List DomainAccount) (accountId : UUID) : Bool :=
  accounts.any fun a => a.accountId = accountId ∧ a.systemRole = .fxTrading

/-- `JournalValidator.validate` with the catalog of a command. -/
def validateDomain (bookId : UUID) (accounts : List DomainAccount) (kind : TransactionKind)
    (postings : List JournalPostingFact) : Except EntryError Unit := do
  require (∀ account ∈ accounts, account.shape)
    (.journal "account snapshot has an invalid runtime shape")
  require (accounts.map (·.accountId)).Nodup (.journal "duplicate account snapshot")
  (validateJournal (tradesIn accounts) (domainReads bookId accounts) kind
    postings).mapError fun error => .journal error.message

/-! ## The plan -/

/-- A leg of the command, with the name that its posting id is derived from. -/
structure FxLeg where
  name : String
  accountId : UUID
  assetCode : AssetCode
  side : PostingSide
  units : Nat

def FxLeg.posted (leg : FxLeg) : PostedUnits :=
  ⟨leg.accountId, leg.assetCode, leg.side, leg.units⟩

structure FxPlan where
  expectedStreamVersions : List (StreamKey × Int)
  events : List PendingEvent
  transactionId : UUID
  asOfBookPosition : Nat

section Plan

variable (uuid5 : UUID → String → UUID) (tables : CatalogTables)
  (command : RecordFxCreditCardPaymentCommand)

/-- The ids that are derived from the command. -/
def derivedFx (commandId : UUID) (name : String) : UUID :=
  uuid5 (uuid5 namespaceUrl "https://track-anywhere.dev/v2/events/journal.record-fx")
    (commandId.text ++ ":" ++ name)

/-- The policy of an asset that is active. -/
def fxPolicy (assetCode : AssetCode) : Except RecordFxError AssetPolicy := do
  let asset ← fetch (tables.getAsset assetCode)
    (.assetUnavailable ("asset is unavailable: " ++ assetCode.1))
  require (asset.status = "active")
    (.assetUnavailable ("asset is unavailable: " ++ assetCode.1))
  return ⟨asset.inputScale, asset.ledgerScale, asset.hScale⟩

/-- The units of an amount. -/
def fxUnits (policy : AssetPolicy) (amount : String) : Except RecordFxError CanonicalUnits := do
  let parsed ← (policy.parseOnline amount).mapError .money
  return parsed.units

def standardRoles : List (Option String) := [none, some "standard"]

/-- The checks on the four accounts that the command names. -/
def requireFxAccounts (source sourceTrading targetTrading card : BookCatalogs.AccountRecord) :
    Except RecordFxError Unit := do
  require (source.status = "active" ∧ source.systemRole ∈ standardRoles
      ∧ source.accountType = .asset ∧ source.assetCode = command.sourceAssetCode)
    (.validation "source account must be an active standard asset account")
  require (card.status = "active" ∧ card.systemRole ∈ standardRoles
      ∧ card.accountType = .liability ∧ card.accountSubtype = some "credit_card"
      ∧ card.assetCode = command.targetAssetCode)
    (.validation "target account must be an active credit-card liability")
  forEach [(sourceTrading, command.sourceAssetCode), (targetTrading, command.targetAssetCode)]
    fun (account, assetCode) =>
      require (account.status = "active" ∧ account.systemRole = some "fx_trading"
          ∧ account.assetCode = assetCode)
        (.validation "each asset requires its active Book-owned FX trading account")

/-- The query of the clearing accounts that a fee may stand on. -/
def feeAccounts : List BookCatalogs.AccountRecord :=
  tables.accounts.filter fun a => a.bookId = command.bookId
    ∧ a.assetCode = command.sourceAssetCode ∧ a.accountType = .expense
    ∧ a.systemRole = some "expense_clearing" ∧ a.status = "active"

def feeAccount : Except RecordFxError BookCatalogs.AccountRecord :=
  match feeAccounts tables command with
  | [account] => .ok account
  | _ => .error (.validation
      "exactly one active source-asset expense clearing account is required")

/-- `leg_values` -/
def fxPaymentLegs (feeAccountId : UUID) (target source fee : Nat) : List FxLeg :=
  [⟨"target-card", command.targetAccountId, command.targetAssetCode, .debit, target⟩,
    ⟨"target-trading", command.targetTradingAccountId, command.targetAssetCode, .credit,
      target⟩,
    ⟨"source-trading", command.sourceTradingAccountId, command.sourceAssetCode, .debit,
      source⟩,
    ⟨"fee-expense", feeAccountId, command.sourceAssetCode, .debit, fee⟩,
    ⟨"source-user", command.sourceAccountId, command.sourceAssetCode, .credit, source + fee⟩]

/-- The posting of a leg. -/
def fxPosting (leg : FxLeg) (position : Nat) : Except RecordFxError JournalPostingFact :=
  let postingId := derivedFx uuid5 command.commandId leg.name
  if h : 0 < leg.units ∧ leg.units < 10 ^ 38 then
    .ok ⟨postingId, position, leg.accountId, leg.assetCode, leg.side, leg.units, h⟩
  else .error (.shared (.journal ("posting " ++ postingId.text
    ++ " units must be a positive integer with at most 38 digits")))

/-- `_build_fx_credit_card_payment_payload`; the contract of the event is checked by
its caller, before anything else is read. -/
def buildFxCreditCardPaymentPayload : Except RecordFxError JournalTransactionPosted := do
  let missing := RecordFxError.validation
    "FX credit-card payment accounts must exist in the requested Book"
  let source ← fetch (tables.getAccount command.bookId command.sourceAccountId) missing
  let sourceTrading ← fetch
    (tables.getAccount command.bookId command.sourceTradingAccountId) missing
  let targetTrading ← fetch
    (tables.getAccount command.bookId command.targetTradingAccountId) missing
  let card ← fetch (tables.getAccount command.bookId command.targetAccountId) missing
  requireFxAccounts command source sourceTrading targetTrading card
  let fee ← feeAccount tables command
  -- the assets are read in the order of their codes
  forEach ([command.sourceAssetCode, command.targetAssetCode].insertionSort (·.1 ≤ ·.1))
    fun assetCode => do
      let _ ← fxPolicy tables assetCode
  let targetPolicy ← fxPolicy tables command.targetAssetCode
  let sourcePolicy ← fxPolicy tables command.sourceAssetCode
  let targetUnits ← fxUnits targetPolicy command.targetAmount
  let sourceUnits ← fxUnits sourcePolicy command.sourceAmount
  let feeUnits ← fxUnits sourcePolicy command.feeAmount
  let postings ← (fxPaymentLegs command fee.accountId targetUnits.1 sourceUnits.1
    feeUnits.1).zipIdx.mapM fun (leg, position) => fxPosting uuid5 command leg position
  -- the accounts are in the order in which they were locked, and the fee account last
  let rows := [source, sourceTrading, targetTrading, card].insertionSort
    (·.accountId ≤ ·.accountId) ++ [fee]
  let accounts ← rows.mapM fun row => row.domain.mapError .shared
  (validateDomain command.bookId accounts .creditCardPayment postings).mapError .shared
  return { transactionId := command.transactionId
           kind := .creditCardPayment
           originalTransactionId := none
           postings := postings
           descriptionRef := command.descriptionRef
           externalReferences := command.externalReferences }

/-- The one line of the plan. -/
def fxFeeLine (feeUnits : CanonicalUnits) : ReportingLineInput where
  lineId := derivedFx uuid5 command.commandId "fee-line"
  lineVersionId := derivedFx uuid5 command.commandId "fee-line-version"
  catalogId := command.feeCategoryVersionId
  assetCode := command.sourceAssetCode
  units := feeUnits
  lineKind := .expense
  dimension := .category
  dimensionId := some command.feeCategoryId
  descriptionRef := none

def fxPending (actorSubjectId name streamType : String) (payload : EventContract)
    (causationEventId : Option UUID) : PendingEvent where
  eventId := derivedFx uuid5 command.commandId name
  streamType := streamType
  streamId := command.transactionId
  payload := payload
  commandId := command.commandId
  actorSubjectId := actorSubjectId
  correlationId := command.commandId
  causationEventId := causationEventId
  effectiveAt := command.effectiveAt

/-- `_build_fx_credit_card_payment_plan` -/
def buildFxCreditCardPaymentPlan (lockedHead : LockedBookHead) (actorSubjectId : String) :
    Except RecordFxError FxPlan := do
  require (lockedHead.bookId = command.bookId)
    (.validation "locked Book does not match command")
  let posted ← buildFxCreditCardPaymentPayload uuid5 tables command
  let payload ← (contractOf (.journalTransactionPosted posted)).mapError .shared
  let financial := fxPending uuid5 command actorSubjectId "event" "journal_transaction" payload
    none
  let category ← fetch (tables.getCategoryVersion command.bookId command.feeCategoryId
    command.feeCategoryVersionId) (.catalogNotFound
      "category version not found in requested scope")
  require (category.status = "active" ∧ category.usageKind ∈ [CategoryUsageKind.expense, .both])
    (.validation "fee category version must be active and expense-eligible")
  let sourceAsset ← fetch (tables.getAsset command.sourceAssetCode)
    (.catalogNotFound "asset not found in requested scope")
  let feeUnits ← fxUnits ⟨sourceAsset.inputScale, sourceAsset.ledgerScale, sourceAsset.hScale⟩
    command.feeAmount
  let lines := [fxFeeLine uuid5 command feeUnits]
  (validateReportingAllocations lines posted.postings (.creditCard .payment)).mapError .shared
  let assigned ← (buildReportingLinesAssigned command.transactionId lines).mapError .shared
  let reporting := fxPending uuid5 command actorSubjectId "reporting" "reporting_lines"
    assigned (some financial.eventId)
  return ⟨[(("journal_transaction", command.transactionId), command.expectedStreamVersion),
      (("reporting_lines", command.transactionId), 0)], [financial, reporting],
    command.transactionId, lockedHead.lastPosition + 2⟩

end Plan

/-! ## The roles of accounts -/

section Roles

variable {role : AccountSystemRole}

theorem accountSystemRole_ok {systemRole : Option String}
    (h : accountSystemRole systemRole = .ok role) : role.value = systemRole.getD "standard" := by
  have hFound := List.find?_some (fetch_eq_ok.1 h)
  simpa using hFound

theorem mem_standardRoles {systemRole : Option String}
    (h : accountSystemRole systemRole = .ok .standard) : systemRole ∈ standardRoles := by
  have hValue := accountSystemRole_ok h
  cases systemRole with
  | none => exact List.mem_cons_self
  | some text =>
      rw [Option.getD_some] at hValue
      rw [← hValue]
      exact List.mem_cons_of_mem none List.mem_cons_self

theorem systemRole_eq {systemRole : Option String} (hRole : role ≠ .standard)
    (h : accountSystemRole systemRole = .ok role) : systemRole = some role.value := by
  have hValue := accountSystemRole_ok h
  cases systemRole with
  | none => cases role <;> first | exact absurd rfl hRole | exact absurd hValue (by decide)
  | some text => rw [hValue, Option.getD_some]

theorem expenseClearing_iff {systemRole : Option String}
    (h : accountSystemRole systemRole = .ok role) :
    role = .expenseClearing ↔ systemRole = some "expense_clearing" := by
  constructor
  · rintro rfl
    exact systemRole_eq (by decide) h
  · rintro rfl
    have hValue := accountSystemRole_ok h
    rw [Option.getD_some] at hValue
    cases role <;> first | rfl | exact absurd hValue (by decide)

end Roles

/-! ## What is posted -/

section Direct

variable {uuid5 : UUID → String → UUID} {tables : CatalogTables}
  {command : RecordFxCreditCardPaymentCommand} {postings : List JournalPostingFact}

theorem fxPosting_ok {leg : FxLeg} {position : Nat} {posting : JournalPostingFact}
    (h : fxPosting uuid5 command leg position = .ok posting) :
    posting.posted = leg.posted ∧ posting.position = position
      ∧ posting.postingId = derivedFx uuid5 command.commandId leg.name := by
  unfold fxPosting at h
  split at h
  · cases h
    exact ⟨rfl, rfl, rfl⟩
  · exact nomatch h

/-- Legs within the limit are posted. -/
theorem fxPostings_total {legs : List FxLeg}
    (hUnits : ∀ leg ∈ legs, 0 < leg.units ∧ leg.units < 10 ^ 38) :
    ∃ postings, (legs.zipIdx.mapM fun (leg, position) => fxPosting uuid5 command leg position)
        = .ok postings
      ∧ postings.map (·.posted) = legs.map (·.posted)
      ∧ postings.map (·.position) = List.range legs.length
      ∧ postings.map (·.postingId)
        = legs.map fun leg => derivedFx uuid5 command.commandId leg.name := by
  have hTotal : ∀ numbered ∈ legs.zipIdx, ∃ posting,
      fxPosting uuid5 command numbered.1 numbered.2 = .ok posting :=
    fun numbered hMem => ⟨_, dif_pos (hUnits _ (List.fst_mem_of_mem_zipIdx hMem))⟩
  obtain ⟨postings, hPostings⟩ := mapM_total hTotal
  have hEach := mapM_eq_ok.1 hPostings
  have hMaps : postings.map (·.posted) = legs.zipIdx.map (·.1.posted)
      ∧ postings.map (·.position) = legs.zipIdx.map (·.2)
      ∧ postings.map (·.postingId)
        = legs.zipIdx.map fun numbered => derivedFx uuid5 command.commandId numbered.1.name := by
    clear hPostings hTotal
    generalize legs.zipIdx = numbered at hEach ⊢
    induction hEach with
    | nil => exact ⟨rfl, rfl, rfl⟩
    | cons hFirst _ ih =>
        obtain ⟨hPosted, hPosition, hId⟩ := fxPosting_ok hFirst
        simp only [List.map_cons, hPosted, hPosition, hId, ih, and_self]
  refine ⟨postings, hPostings, ?_, ?_, ?_⟩
  · rw [hMaps.1]
    exact map_fst_zipIdx FxLeg.posted legs
  · rw [hMaps.2.1, List.zipIdx_map_snd, List.range_eq_range']
  · rw [hMaps.2.2]
    exact map_fst_zipIdx (fun leg => derivedFx uuid5 command.commandId leg.name) legs

theorem fxPolicy_ok {row : BookCatalogs.AssetRecord} {assetCode : AssetCode}
    (hRow : tables.getAsset assetCode = some row) (hActive : row.status = "active") :
    fxPolicy tables assetCode = .ok ⟨row.inputScale, row.ledgerScale, row.hScale⟩ := by
  simp only [fxPolicy, bind_eq_ok, fetch_eq_ok, require_eq_ok, exists_const, pure_eq_ok]
  exact ⟨row, hRow, hActive, rfl⟩

/-- The contract of the event that the command posts. -/
theorem fxPosted_valid {posted : JournalTransactionPosted} {n : Nat} (hCount : 2 ≤ n)
    (hPositions : posted.postings.map (·.position) = List.range n)
    (hIds : (posted.postings.map (·.postingId)).Nodup)
    (hReferences : validateReferenceKeys posted.externalReferences = .ok ())
    (hKind : posted.kind ≠ .refund) (hOriginal : posted.originalTransactionId = none) :
    posted.validateCompletePostings = .ok () := by
  have hOrdered : validateOrderedPostings posted.postings = .ok () := by
    simp only [validateOrderedPostings, validateOrderedRecords, hPositions, List.length_range,
      bind_eq_ok, require_eq_ok, exists_const, forEach_eq_ok, List.mem_singleton, forall_eq,
      true_and]
    exact ⟨hCount, hIds⟩
  simp only [JournalTransactionPosted.validateCompletePostings, bind_eq_ok, if_neg hKind,
    require_eq_ok]
  exact ⟨(), hOrdered, (), hReferences, hOriginal⟩

/-- The fee is within the debits of its asset. -/
theorem fxFeeLine_allocated {fee : CanonicalUnits} (hSome : postings ≠ [])
    (hBalanced : ∀ assetCode,
      sideTotal postings .debit assetCode = sideTotal postings .credit assetCode)
    (hFee : fee.1 ≤ sideTotal postings .debit command.sourceAssetCode) :
    validateReportingAllocations [fxFeeLine uuid5 command fee] postings (.creditCard .payment)
      = .ok () := by
  simp only [validateReportingAllocations, bind_eq_ok, require_eq_ok, exists_const,
    forEach_eq_ok, List.mem_singleton, forall_eq]
  refine ⟨List.cons_ne_nil _ _, fun _ => rfl, ⟨rfl, Option.some_ne_none _⟩,
    ⟨hSome, fun p _ => hBalanced p.assetCode⟩, ?_⟩
  rw [allocatedTotal_eq_sum fun line hLine => by rw [List.mem_singleton.1 hLine],
    List.map_singleton, List.sum_singleton]
  exact hFee

end Direct

/-! ## Amounts of an entry -/

section Amounts

variable {u : UnicodeTables} {amount : AmountFields} {row : BookCatalogs.AssetRecord}
  {normalized : NormalizedAmount}

/-- An amount in asset units is read under the policy of its asset. -/
theorem fxUnits_of_normalizeAmount (hUnit : amount.denomination = .assetUnit)
    (h : normalizeAmount u amount (.ofRecord row) false = .ok normalized) :
    ∃ units, fxUnits ⟨row.inputScale, row.ledgerScale, row.hScale⟩ amount.value = .ok units
      ∧ units.1 = normalized.units := by
  obtain ⟨-, -, -, scales, hScales, hUnits, -⟩ := normalizeAmount_ok.1 h
  rw [hUnit] at hScales
  cases hScales
  obtain ⟨parsed, hParsed, hSame⟩ := (parseNonNegative_iff_parse row.hScale).1 hUnits
  refine ⟨parsed.units, ?_, hSame⟩
  simp only [fxUnits, bind_eq_ok, mapError_eq_ok, pure_eq_ok]
  exact ⟨parsed, hParsed, rfl⟩

theorem plainDecimal_of_normalizeAmount {asset : EntryAsset}
    (h : normalizeAmount u amount asset false = .ok normalized) :
    plainDecimal amount.value = true := by
  obtain ⟨-, -, -, _, -, hUnits, -⟩ := normalizeAmount_ok.1 h
  exact (parseNonNegative_ok.1 hUnits).1

/-- The fee of an entry passes the check of the command. -/
theorem validateFeeAmount_of_money (money : MoneyInput) :
    RecordFxCreditCardPaymentCommand.validateFeeAmount money.1.value = .ok () := by
  obtain ⟨raw, hRaw⟩ := money.2
  have hSame := AmountFields.eq_of_validate hRaw
  simp only [AmountFields.validateMoney, AmountFields.validate, checkText, bind_eq_ok,
    require_eq_ok, exists_const] at hRaw
  rw [← hSame]
  exact (check_eq_ok (by simp [positiveDecimalChecks])).2 hRaw.1.2.2

end Amounts

end TrackAnywhere.Ports
