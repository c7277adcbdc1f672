import TrackAnywhere.Ports.EntryEscapes
import TrackAnywhere.Ports.RecordFx

/-!
# Two ways to pay a card out of another asset

The entry compiler and the FX command each check the accounts of a payment, scale
its amounts, find the clearing account of the fee and write the fee line.  What
the compiler accepts, the command accepts as well, for every catalog that was
written, and both post and report the same, ids apart.
-/

namespace TrackAnywhere.Ports

open TrackAnywhere.Verified
open TrackAnywhere.Verified.Checked
open TrackAnywhere.Verified.FixedPoint

/-! ## What validation reads -/

section Validation

variable {postings postings' : List JournalPostingFact} {accounts accounts' : List DomainAccount}
  {bookId : UUID} {kind : TransactionKind} {legs : List PostingLeg}

theorem netUnits_congr (h : postings.map (·.posted) = postings'.map (·.posted))
    (assetCode : AssetCode) : netUnits assetCode postings = netUnits assetCode postings' := by
  have hUnits := congrArg (fun posted : List PostedUnits =>
    ((posted.filter fun p => p.assetCode = assetCode).map
      fun p => signedUnits p.side p.units).sum) h
  simp only [List.filter_map, List.map_map] at hUnits
  exact hUnits

theorem sideTotal_congr (h : postings.map (·.posted) = postings'.map (·.posted))
    (side : PostingSide) (assetCode : AssetCode) :
    sideTotal postings side assetCode = sideTotal postings' side assetCode := by
  have hTotal := congrArg (fun posted : List PostedUnits =>
    ((posted.filter fun p => p.side = side ∧ p.assetCode = assetCode).map (·.units)).sum) h
  simp only [List.filter_map, List.map_map] at hTotal
  exact hTotal

/-- An exchange is one of accounts, assets and units. -/
theorem validateExchange_congr (h : postings.map (·.posted) = postings'.map (·.posted))
    (trading : UUID → Bool) :
    validateExchange trading postings = validateExchange trading postings' := by
  have hAssets : postings.map (·.assetCode) = postings'.map (·.assetCode) := by
    have hMap := congrArg (List.map PostedUnits.assetCode) h
    rwa [List.map_map, List.map_map] at hMap
  have hLegs : (postings.filter fun p => trading p.accountId).map (·.posted)
      = (postings'.filter fun p => trading p.accountId).map (·.posted) := by
    have hFilter := congrArg (List.filter fun p : PostedUnits => trading p.accountId) h
    rwa [List.filter_map, List.filter_map] at hFilter
  have hLegAssets : (postings.filter fun p => trading p.accountId).map (·.assetCode)
      = (postings'.filter fun p => trading p.accountId).map (·.assetCode) := by
    have hMap := congrArg (List.map PostedUnits.assetCode) hLegs
    rwa [List.map_map, List.map_map] at hMap
  unfold validateExchange
  simp only [hAssets, hLegAssets, netUnits_congr hLegs]

/-- Postings that say the same, under ids of their own, are validated alike. -/
theorem validateJournal_renamed {trading : UUID → Bool} {db : BookReads}
    (h : postings.map (·.posted) = postings'.map (·.posted))
    (hIds : (postings'.map (·.postingId)).Nodup)
    (hPositions : (postings'.map (·.position)).Nodup)
    (hValid : validateJournal trading db kind postings = .ok ()) :
    validateJournal trading db kind postings' = .ok () := by
  have hLength : postings.length = postings'.length := by
    simpa using congrArg List.length h
  have hSame : ∀ posting ∈ postings', ∃ other ∈ postings, other.posted = posting.posted := by
    intro posting hMem
    have hIn : posting.posted ∈ postings.map (·.posted) := h ▸ List.mem_map_of_mem hMem
    exact List.mem_map.1 hIn
  simp only [validateJournal, bind_eq_ok, require_eq_ok, forEach_eq_ok, fetch_eq_ok,
    exists_const] at hValid ⊢
  obtain ⟨hCount, _, -, hEach, hNet, hExchange⟩ := hValid
  refine ⟨hLength ▸ hCount, (), rejectDuplicatePostingIdentity_ok.2
    ⟨⟨hIds, by simp⟩, hPositions, by simp⟩, ?_, ?_, ?_⟩
  · intro posting hMem
    obtain ⟨other, hOther, hPosted⟩ := hSame posting hMem
    have hAccount : other.accountId = posting.accountId :=
      congrArg PostedUnits.accountId hPosted
    have hAsset : other.assetCode = posting.assetCode :=
      congrArg PostedUnits.assetCode hPosted
    rw [← hAccount, ← hAsset]
    exact hEach other hOther
  · intro posting hMem
    obtain ⟨other, hOther, hPosted⟩ := hSame posting hMem
    have hAsset : other.assetCode = posting.assetCode :=
      congrArg PostedUnits.assetCode hPosted
    rw [← hAsset, ← netUnits_congr h]
    exact hNet other hOther
  · rw [← validateExchange_congr h]
    exact hExchange

/-- A search by a key finds the same row in every order of the rows. -/
theorem find?_perm {α κ : Type} [DecidableEq κ] {rows rows' : List α} (key : α → κ)
    (hPerm : rows.Perm rows') (hKeys : (rows.map key).Nodup) (k : κ) :
    rows.find? (fun row => key row = k) = rows'.find? (fun row => key row = k) := by
  cases hFound : rows'.find? (fun row => key row = k) with
  | none =>
      rw [List.find?_eq_none] at hFound ⊢
      exact fun row hRow => hFound row (hPerm.mem_iff.1 hRow)
  | some row =>
      have hKey := List.find?_some hFound
      have hMem := hPerm.mem_iff.2 (List.mem_of_find?_eq_some hFound)
      refine find?_only hMem hKey fun other hOther hSame => ?_
      exact List.inj_on_of_nodup_map hKeys hOther hMem
        ((of_decide_eq_true hSame).trans (of_decide_eq_true hKey).symm)

theorem any_perm {α : Type} {rows rows' : List α} (hPerm : rows.Perm rows') (p : α → Bool) :
    rows.any p = rows'.any p := by
  rw [Bool.eq_iff_iff, List.any_eq_true, List.any_eq_true]
  simp only [hPerm.mem_iff]

/-- The order of the accounts of a catalog does not matter. -/
theorem validateDomain_perm (hPerm : accounts.Perm accounts')
    (h : validateDomain bookId accounts kind postings = .ok ()) :
    validateDomain bookId accounts' kind postings = .ok () := by
  simp only [validateDomain, bind_eq_ok, require_eq_ok, exists_const, mapError_eq_ok] at h ⊢
  obtain ⟨hShapes, hIds, hValid⟩ := h
  have hTrades : tradesIn accounts = tradesIn accounts' := by
    funext accountId
    exact any_perm hPerm _
  have hClosed : (domainReads bookId accounts).closed = (domainReads bookId accounts').closed := by
    funext accountId
    exact any_perm hPerm _
  have hFound : (domainReads bookId accounts).account?
      = (domainReads bookId accounts').account? := by
    funext accountId
    refine find?_perm (fun a : AccountRecord => a.accountId) (hPerm.map _) ?_ accountId
    rw [List.map_map]
    exact hIds
  refine ⟨fun account hMem => hShapes account (hPerm.mem_iff.2 hMem),
    (hPerm.map _).nodup_iff.1 hIds, ?_⟩
  rw [← hTrades]
  simp only [validateJournal, hFound, hClosed] at hValid ⊢
  exact hValid

/-- The checks of the compiler are those of a command on the accounts of the legs. -/
theorem mixedPostings_validated {uuid5 : UUID → String → UUID}
    {context : EntryCompilationContext}
    (h : mixedPostings uuid5 context kind legs = .ok postings) :
    validateDomain context.bookId (legs.map (·.account.domain)) kind postings = .ok () := by
  unfold mixedPostings at h
  simp only [bind_eq_ok, require_eq_ok, pure_eq_ok, mapError_eq_ok, exists_const] at h
  obtain ⟨drafts, -, hShapes, hIds, _, hValid, rfl⟩ := h
  have hReads : legReads context.bookId legs
      = domainReads context.bookId (legs.map (·.account.domain)) := by
    unfold legReads domainReads
    rw [List.map_map]
    simp only [List.any_map]
    rfl
  simp only [validateDomain, bind_eq_ok, require_eq_ok, exists_const, mapError_eq_ok]
  refine ⟨?_, ?_, ?_⟩
  · intro account hMem
    obtain ⟨leg, hLeg, rfl⟩ := List.mem_map.1 hMem
    exact hShapes leg hLeg
  · rw [List.map_map]
    exact hIds
  · rw [← hReads]
    have hTrades : tradesIn (legs.map (·.account.domain)) = fun accountId =>
        legs.any fun leg => leg.account.accountId = accountId
          ∧ leg.account.systemRole = .fxTrading := by
      funext accountId
      exact List.any_map
    rw [hTrades]
    exact hValid

end Validation

/-! ## What the two are compared in -/

/-- What a posting says, apart from its id. -/
def JournalPostingFact.placed (posting : JournalPostingFact) : Nat × PostedUnits :=
  (posting.position, posting.posted)

/-- What a reporting line says, apart from its ids. -/
structure ClassifiedUnits where
  categoryId : Option UUID
  categoryVersionId : UUID
  assetCode : AssetCode
  units : Nat
  lineKind : ReportingLineKind
deriving DecidableEq

def ReportingLine.classified (line : ReportingLine) : ClassifiedUnits :=
  ⟨line.dimensionId, line.catalogId, line.assetCode, line.units.1, line.lineKind⟩

/-- The events of a payment: the transaction, and the one line of its fee. -/
def PaymentEvents (events : List PendingEvent) (posted : JournalTransactionPosted)
    (line : ReportingLine) : Prop :=
  ∃ assigned : ReportingLinesAssigned, assigned.lines = [line]
    ∧ events.map (·.payload.1)
      = [.journalTransactionPosted posted, .reportingLinesAssigned assigned]

/-- The same postings and the same fee line, ids apart. -/
def SamePayment (events events' : List PendingEvent) : Prop :=
  ∃ posted posted' line line', PaymentEvents events posted line
    ∧ PaymentEvents events' posted' line' ∧ posted.kind = posted'.kind
    ∧ posted.postings.map (·.placed) = posted'.postings.map (·.placed)
    ∧ line.classified = line'.classified

/-- The command is the payment that an entry states, in asset units: it names what the
compiler resolves. -/
structure PaysAs (u : UnicodeTables) (context : EntryCompilationContext)
    (entry : CreditCardPaymentEntryInput) (command : RecordFxCreditCardPaymentCommand) :
    Prop where
  bookId : command.bookId = context.bookId
  target : entry.amount.1.denomination = .assetUnit
    ∧ command.targetAssetCode = entry.amount.1.assetCode
    ∧ command.targetAmount = entry.amount.1.value
  source : ∀ amount, entry.sourceAmount = some amount →
    amount.1.denomination = .assetUnit ∧ command.sourceAssetCode = amount.1.assetCode
      ∧ command.sourceAmount = amount.1.value
  fee : ∀ amount, entry.feeAmount = some amount →
    amount.1.denomination = .assetUnit ∧ command.feeAmount = amount.1.value
  funding : ∀ account, context.account u entry.fundingAccount command.sourceAssetCode
    .cardPaymentFunding "funding_account" = .ok account →
      command.sourceAccountId = account.accountId
  card : ∀ reference account, entry.cardAccount = some reference →
    context.account u reference command.targetAssetCode .cardPaymentCard "card_account"
      = .ok account → command.targetAccountId = account.accountId
  sourceTrading : ∀ account, context.internal command.sourceAssetCode .fxTrading
    = .ok account → command.sourceTradingAccountId = account.accountId
  targetTrading : ∀ account, context.internal command.targetAssetCode .fxTrading
    = .ok account → command.targetTradingAccountId = account.accountId
  category : ∀ reference category, entry.feeCategory = some reference →
    context.category u reference .expense "fee_category" = .ok category →
      command.feeCategoryId = category.categoryId
        ∧ command.feeCategoryVersionId = category.categoryVersionId
  version : 0 ≤ command.expectedStreamVersion
  /-- An entry has no references; those of the command are ones that its event may have. -/
  references : validateReferenceKeys command.externalReferences = .ok ()

/-- The names that the posting ids are derived from. -/
def fxLegNames : List String :=
  ["target-card", "target-trading", "source-trading", "fee-expense", "source-user"]

/-! ## The rows behind the accounts -/

section Rows

variable {u : UnicodeTables} {tables : CatalogTables} {context : EntryCompilationContext}
  {row : BookCatalogs.AccountRecord} {account : EntryAccount} {role : AccountSystemRole}

theorem domain_of_loadAccount (h : loadAccount u row = .ok account) :
    row.domain = .ok account.domain := by
  simp only [loadAccount, bind_eq_ok, pure_eq_ok] at h
  obtain ⟨role, hRole, _, -, rfl⟩ := h
  simp only [BookCatalogs.AccountRecord.domain, bind_eq_ok, pure_eq_ok]
  exact ⟨role, hRole, rfl⟩

/-- The one clearing account that the compiler takes is the one that the query finds. -/
theorem feeAccount_of_internal (hLoaded : LoadedFrom u tables context)
    {command : RecordFxCreditCardPaymentCommand} (hBook : command.bookId = context.bookId)
    (h : Internal context command.sourceAssetCode .expenseClearing account) :
    ∃ row, feeAccount tables command = .ok row ∧ loadAccount u row = .ok account := by
  let p : BookCatalogs.AccountRecord → Bool := fun a => a.bookId = command.bookId
    ∧ a.assetCode = command.sourceAssetCode ∧ a.accountType = .expense
    ∧ a.systemRole = some "expense_clearing" ∧ a.status = "active"
  let q : EntryAccount → Bool := fun a => a.bookId = context.bookId
    ∧ a.assetCode = command.sourceAssetCode ∧ a.systemRole = .expenseClearing
    ∧ a.status = "active" ∧ (AccountSystemRole.expenseClearing.expectedType = none
      ∨ AccountSystemRole.expenseClearing.expectedType = some a.accountType)
  have hSame : ∀ row account, loadAccount u row = .ok account → (p row ↔ q account) := by
    intro row account hAccount
    obtain ⟨hRole, -, hRowBook, hAsset, hType, -, hStatus⟩ := loadAccount_ok hAccount
    simp only [p, q, decide_eq_true_eq, hBook, ← hRowBook, ← hAsset, ← hType, ← hStatus,
      ← expenseClearing_iff hRole, AccountSystemRole.expectedType, Option.some.injEq]
    constructor
    · rintro ⟨hIn, hCode, hExpense, hClears, hActive⟩
      exact ⟨hIn, hCode, hClears, hActive, .inr hExpense.symm⟩
    · rintro ⟨hIn, hCode, hClears, hActive, hNone | hExpense⟩
      · exact nomatch hNone
      · exact ⟨hIn, hCode, hExpense.symm, hClears, hActive⟩
  have hEach : List.Forall₂ (fun row account => loadAccount u row = .ok account)
      ((tables.accountRows context.bookId).filter p) (context.accounts.filter q) :=
    List.rel_filter (fun _ _ hAccount => hSame _ _ hAccount) (mapM_eq_ok.1 hLoaded.accounts)
  have hOnly : context.accounts.filter q = [account] := h
  rw [hOnly, List.forall₂_cons_right_iff] at hEach
  obtain ⟨row, rest, hAccount, hRest, hRows⟩ := hEach
  obtain rfl := List.forall₂_nil_right_iff.1 hRest
  refine ⟨row, ?_, hAccount⟩
  have hFound : feeAccounts tables command = [row] := by
    refine List.perm_singleton.1 ?_
    rw [← hRows]
    have hSorted : ((tables.accountRows context.bookId).filter p).Perm
        ((tables.accounts.filter fun a => a.bookId = context.bookId).filter p) :=
      (List.perm_insertionSort _ _).filter p
    refine .trans (.of_eq ?_) hSorted.symm
    rw [List.filter_filter]
    refine List.filter_congr fun a _ => ?_
    simp only [p, hBook, Bool.decide_and]
    by_cases hIn : a.bookId = context.bookId <;> simp [hIn]
  unfold feeAccount
  rw [hFound]

end Rows

/-! ## The plan of the compiler -/

section Compiled

variable {u : UnicodeTables} {uuid5 : UUID → String → UUID} {context : EntryCompilationContext}
  {kind : TransactionKind} {legs : List PostingLeg} {postings : List JournalPostingFact}

/-- The units of the legs are within the limit. -/
theorem mixedPostings_units (h : mixedPostings uuid5 context kind legs = .ok postings) :
    ∀ leg ∈ legs, 0 < leg.units ∧ leg.units < 10 ^ 38 := by
  intro leg hLeg
  have hIn : leg.posted ∈ postings.map (·.posted) := by
    rw [mixedPostings_facts h]
    exact List.mem_map_of_mem hLeg
  obtain ⟨posting, -, hPosted⟩ := List.mem_map.1 hIn
  have hUnits : posting.units.1 = leg.units := congrArg PostedUnits.units hPosted
  rw [← hUnits]
  exact posting.units.2

/-- The line of one allocation. -/
theorem reportingLineInput_classified {assetCode : AssetCode} {lineKind : ReportingLineKind}
    {allocation : ResolvedAllocation} {position : Nat} {line : ReportingLineInput}
    (h : reportingLineInput uuid5 context assetCode lineKind allocation position = .ok line) :
    (line.line position).classified = ⟨some allocation.category.categoryId,
      allocation.category.categoryVersionId, assetCode, allocation.units, lineKind⟩ := by
  unfold reportingLineInput at h
  split at h
  · cases h
    rfl
  · exact nomatch h

/-- The events of the plan of one allocation. -/
theorem entryPlan_events {entry : EverydayEntry} {posted : JournalTransactionPosted}
    {transactionKind : RecordedKind} {allocation : ResolvedAllocation}
    {lineKind : ReportingLineKind} {assetCode : AssetCode} {plan : CompiledEntry}
    (h : entryPlan uuid5 context entry (.posted posted) transactionKind [allocation] lineKind
      (some assetCode) = .ok plan) :
    ∃ line, PaymentEvents plan.events posted line
      ∧ line.classified = ⟨some allocation.category.categoryId,
        allocation.category.categoryVersionId, assetCode, allocation.units, lineKind⟩ := by
  simp only [entryPlan, reportingPending, if_neg (List.cons_ne_nil allocation []), bind_eq_ok,
    pure_eq_ok] at h
  obtain ⟨contract, hContract, pending, ⟨first, -, lines, hLines, _, -, assigned, hAssigned,
    rfl⟩, rfl⟩ := h
  obtain ⟨line, rest, hLine, hRest, rfl⟩ :=
    List.forall₂_cons_left_iff.1 (mapM_eq_ok.1 hLines)
  obtain rfl := List.forall₂_nil_left_iff.1 hRest
  refine ⟨line.line 0, ⟨⟨context.transactionId, 1, Nat.one_pos, [line.line 0]⟩, rfl, ?_⟩,
    reportingLineInput_classified hLine⟩
  rw [List.map_cons, List.map_cons, List.map_nil]
  exact congrArg₂ (fun a b => [a, b]) (contractOf_eq_ok.1 hContract)
    (contractOf_eq_ok.1 hAssigned)

end Compiled

/-! ## The two plans -/

/-- What the compiler resolves, named by the command. -/
structure FxResolved (u : UnicodeTables) (tables : CatalogTables)
    (context : EntryCompilationContext) (command : RecordFxCreditCardPaymentCommand)
    (card targetTrading sourceTrading feeClearing funding : EntryAccount) : Prop where
  loaded : LoadedFrom u tables context
  bookId : command.bookId = context.bookId
  accounts : FxPostable context command.targetAssetCode command.sourceAssetCode card
    targetTrading sourceTrading feeClearing funding
  card : command.targetAccountId = card.accountId
  targetTrading : command.targetTradingAccountId = targetTrading.accountId
  sourceTrading : command.sourceTradingAccountId = sourceTrading.accountId
  funding : command.sourceAccountId = funding.accountId

namespace FxResolved

variable {u : UnicodeTables} {uuid5 : UUID → String → UUID} {tables : CatalogTables}
  {context : EntryCompilationContext} {command : RecordFxCreditCardPaymentCommand}
  {card targetTrading sourceTrading feeClearing funding : EntryAccount}
  {targetUnits sourceUnits feeUnits : Nat} {postings : List JournalPostingFact}

/-- The row of an account that the command names. -/
theorem row (h : FxResolved u tables context command card targetTrading sourceTrading feeClearing
      funding) {account : EntryAccount} (hMem : account ∈ context.accounts) {accountId : UUID}
    (hId : accountId = account.accountId) :
    ∃ row, tables.getAccount command.bookId accountId = some row
      ∧ loadAccount u row = .ok account := by
  rw [h.bookId, hId]
  exact account_of_context h.loaded hMem

/-- The accounts pass the checks of the command. -/
theorem requires (h : FxResolved u tables context command card targetTrading sourceTrading
      feeClearing funding) {cardRow targetRow sourceRow fundingRow : BookCatalogs.AccountRecord}
    (hCard : loadAccount u cardRow = .ok card)
    (hTarget : loadAccount u targetRow = .ok targetTrading)
    (hSource : loadAccount u sourceRow = .ok sourceTrading)
    (hFunding : loadAccount u fundingRow = .ok funding) :
    requireFxAccounts command fundingRow sourceRow targetRow cardRow = .ok () := by
  obtain ⟨hCardRole, -, -, hCardAsset, hCardType, hCardSubtype, hCardStatus⟩ :=
    loadAccount_ok hCard
  obtain ⟨hFundingRole, -, -, hFundingAsset, hFundingType, -, hFundingStatus⟩ :=
    loadAccount_ok hFunding
  obtain ⟨hTargetRole, -, -, hTargetAsset, -, -, hTargetStatus⟩ := loadAccount_ok hTarget
  obtain ⟨hSourceRole, -, -, hSourceAsset, -, -, hSourceStatus⟩ := loadAccount_ok hSource
  have hCardChosen := h.accounts.hCard
  have hFundingChosen := h.accounts.hFunding
  obtain ⟨hTargetPostable, hTargetTrades⟩ := h.accounts.hTargetTrading.facts
  obtain ⟨hSourcePostable, hSourceTrades⟩ := h.accounts.hSourceTrading.facts
  rw [hCardChosen.standard] at hCardRole
  rw [hFundingChosen.standard] at hFundingRole
  rw [hTargetTrades] at hTargetRole
  rw [hSourceTrades] at hSourceRole
  have hIsCard : card.accountType = .liability ∧ card.accountSubtype = some "credit_card" := by
    simpa [EntryAccount.eligible, hCardChosen.standard] using hCardChosen.eligible
  have hIsAsset : funding.accountType = .asset := by
    simpa [EntryAccount.eligible, hFundingChosen.standard] using hFundingChosen.eligible
  simp only [requireFxAccounts, bind_eq_ok, require_eq_ok, exists_const, forEach_eq_ok]
  refine ⟨⟨hFundingStatus ▸ hFundingChosen.active, mem_standardRoles hFundingRole,
    hFundingType ▸ hIsAsset, hFundingAsset ▸ hFundingChosen.asset⟩,
    ⟨hCardStatus ▸ hCardChosen.active, mem_standardRoles hCardRole, hCardType ▸ hIsCard.1,
      hCardSubtype ▸ hIsCard.2, hCardAsset ▸ hCardChosen.asset⟩, ?_⟩
  simp only [List.forall_mem_cons, List.not_mem_nil, false_implies, implies_true, and_true]
  exact ⟨⟨hSourceStatus ▸ hSourcePostable.active, systemRole_eq (by decide) hSourceRole,
      hSourceAsset ▸ hSourcePostable.asset⟩,
    hTargetStatus ▸ hTargetPostable.active, systemRole_eq (by decide) hTargetRole,
      hTargetAsset ▸ hTargetPostable.asset⟩

/-- The catalog of the command is that of the legs, in another order. -/
theorem domains {cardRow targetRow sourceRow feeRow fundingRow : BookCatalogs.AccountRecord}
    (hCard : loadAccount u cardRow = .ok card)
    (hTarget : loadAccount u targetRow = .ok targetTrading)
    (hSource : loadAccount u sourceRow = .ok sourceTrading)
    (hFee : loadAccount u feeRow = .ok feeClearing)
    (hFunding : loadAccount u fundingRow = .ok funding) :
    ∃ accounts, (([fundingRow, sourceRow, targetRow, cardRow].insertionSort
          (·.accountId ≤ ·.accountId) ++ [feeRow]).mapM fun row =>
        row.domain.mapError RecordFxError.shared) = .ok accounts
      ∧ ([card, targetTrading, sourceTrading, feeClearing, funding].map (·.domain)).Perm
        accounts := by
  have hEach : List.Forall₂ (fun (row : BookCatalogs.AccountRecord) account =>
      row.domain.mapError RecordFxError.shared = .ok account)
      [cardRow, targetRow, sourceRow, feeRow, fundingRow]
      ([card, targetTrading, sourceTrading, feeClearing, funding].map (·.domain)) := by
    have hDomain : ∀ {row account}, loadAccount u row = .ok account →
        row.domain.mapError RecordFxError.shared = .ok account.domain :=
      fun hAccount => mapError_eq_ok.2 (domain_of_loadAccount hAccount)
    exact .cons (hDomain hCard) (.cons (hDomain hTarget) (.cons (hDomain hSource)
      (.cons (hDomain hFee) (.cons (hDomain hFunding) .nil))))
  have hOrder : ([fundingRow, sourceRow, targetRow, cardRow].insertionSort
      (·.accountId ≤ ·.accountId) ++ [feeRow]).Perm
      [cardRow, targetRow, sourceRow, feeRow, fundingRow] := by
    have hSorted := (List.perm_insertionSort
      (fun a b : BookCatalogs.AccountRecord => a.accountId ≤ b.accountId)
      [fundingRow, sourceRow, targetRow, cardRow]).append_right [feeRow]
    have hReverse := (List.reverse_perm [fundingRow, sourceRow, targetRow, cardRow,
      feeRow]).symm
    have hMiddle : ([cardRow, targetRow, sourceRow] ++ feeRow :: [fundingRow]).Perm
        (feeRow :: ([cardRow, targetRow, sourceRow] ++ [fundingRow])) := List.perm_middle
    exact hSorted.trans (hReverse.trans hMiddle.symm)
  obtain ⟨accounts, hAccounts, hPerm⟩ := List.perm_comp_forall₂ hOrder hEach
  exact ⟨accounts, mapM_eq_ok.2 hAccounts, hPerm.symm⟩

section Payload

variable {targetPolicy sourcePolicy : AssetPolicy} {target source fee : CanonicalUnits}

/-- The postings of the command are those of the compiler, under ids of its own. -/
theorem payload (h : FxResolved u tables context command card targetTrading sourceTrading
      feeClearing funding)
    (hTargetPolicy : fxPolicy tables command.targetAssetCode = .ok targetPolicy)
    (hSourcePolicy : fxPolicy tables command.sourceAssetCode = .ok sourcePolicy)
    (hTarget : fxUnits targetPolicy command.targetAmount = .ok target)
    (hSource : fxUnits sourcePolicy command.sourceAmount = .ok source)
    (hFee : fxUnits sourcePolicy command.feeAmount = .ok fee)
    (hIds : (fxLegNames.map (derivedFx uuid5 command.commandId)).Nodup)
    (hPostings : mixedPostings uuid5 context .creditCardPayment
      (fxLegs command.targetAssetCode command.sourceAssetCode target.1 source.1 fee.1 card
        targetTrading sourceTrading feeClearing funding) = .ok postings) :
    ∃ postings', buildFxCreditCardPaymentPayload uuid5 tables command = .ok
        { transactionId := command.transactionId
          kind := .creditCardPayment
          originalTransactionId := none
          postings := postings'
          descriptionRef := command.descriptionRef
          externalReferences := command.externalReferences }
      ∧ postings.map (·.posted) = postings'.map (·.posted)
      ∧ postings'.map (·.position) = List.range 5
      ∧ (postings'.map (·.postingId)).Nodup := by
  obtain ⟨cardRow, hCardRow, hCard⟩ := h.row h.accounts.hCard.mem h.card
  obtain ⟨targetRow, hTargetRow, hTargetTrading⟩ :=
    h.row h.accounts.hTargetTrading.facts.1.mem h.targetTrading
  obtain ⟨sourceRow, hSourceRow, hSourceTrading⟩ :=
    h.row h.accounts.hSourceTrading.facts.1.mem h.sourceTrading
  obtain ⟨fundingRow, hFundingRow, hFunding⟩ := h.row h.accounts.hFunding.mem h.funding
  obtain ⟨feeRow, hFeeRow, hFeeClearing⟩ :=
    feeAccount_of_internal h.loaded h.bookId h.accounts.hFeeClearing
  obtain ⟨accounts, hAccounts, hPerm⟩ :=
    domains hCard hTargetTrading hSourceTrading hFeeClearing hFunding
  have hLegs : (fxPaymentLegs command feeRow.accountId target.1 source.1 fee.1).map
      (·.posted) = (fxLegs command.targetAssetCode command.sourceAssetCode target.1 source.1
        fee.1 card targetTrading sourceTrading feeClearing funding).map (·.posted) := by
    simp only [fxPaymentLegs, fxLegs, List.map_cons, List.map_nil, FxLeg.posted,
      PostingLeg.posted, h.card, h.targetTrading, h.sourceTrading, h.funding,
      (loadAccount_ok hFeeClearing).2.1]
  have hUnits : ∀ leg ∈ fxPaymentLegs command feeRow.accountId target.1 source.1 fee.1,
      0 < leg.units ∧ leg.units < 10 ^ 38 := by
    intro leg hLeg
    have hIn : leg.posted ∈ (fxLegs command.targetAssetCode command.sourceAssetCode target.1
        source.1 fee.1 card targetTrading sourceTrading feeClearing funding).map (·.posted) :=
      hLegs ▸ List.mem_map_of_mem hLeg
    obtain ⟨other, hOther, hPosted⟩ := List.mem_map.1 hIn
    have hSame : other.units = leg.units := congrArg PostedUnits.units hPosted
    exact hSame ▸ mixedPostings_units hPostings other hOther
  obtain ⟨postings', hPostings', hPosted, hPositions, hPostingIds⟩ :=
    @fxPostings_total uuid5 command _ hUnits
  have hSame : postings.map (·.posted) = postings'.map (·.posted) := by
    rw [mixedPostings_facts hPostings, hPosted, hLegs]
  have hUnique : (postings'.map (·.postingId)).Nodup := by
    rw [hPostingIds]
    exact hIds
  have hValid : validateDomain command.bookId accounts .creditCardPayment postings' = .ok () := by
    have hCompiled := validateDomain_perm hPerm (mixedPostings_validated hPostings)
    rw [h.bookId]
    simp only [validateDomain, bind_eq_ok, require_eq_ok, exists_const, mapError_eq_ok]
      at hCompiled ⊢
    obtain ⟨hShapes, hDistinct, hJournal⟩ := hCompiled
    refine ⟨hShapes, hDistinct, validateJournal_renamed hSame hUnique ?_ hJournal⟩
    rw [hPositions]
    exact List.nodup_range
  refine ⟨postings', ?_, hSame, hPositions, hUnique⟩
  simp only [buildFxCreditCardPaymentPayload, bind_eq_ok, fetch_eq_ok, mapError_eq_ok,
    forEach_eq_ok, pure_eq_ok]
  refine ⟨fundingRow, hFundingRow, sourceRow, hSourceRow, targetRow, hTargetRow, cardRow,
    hCardRow, (), h.requires hCard hTargetTrading hSourceTrading hFunding, feeRow, hFeeRow, (),
    ?_, targetPolicy, hTargetPolicy, sourcePolicy, hSourcePolicy, target, hTarget, source,
    hSource, fee, hFee, postings', hPostings', accounts, hAccounts, (), hValid, rfl⟩
  intro assetCode hMem
  rw [(List.perm_insertionSort _ _).mem_iff] at hMem
  simp only [List.mem_cons, List.not_mem_nil, or_false] at hMem
  obtain rfl | rfl := hMem
  · exact ⟨sourcePolicy, hSourcePolicy, trivial⟩
  · exact ⟨targetPolicy, hTargetPolicy, trivial⟩

end Payload

end FxResolved

/-! ## The agreement -/

section Agreement

variable {u : UnicodeTables} {uuid5 : UUID → String → UUID} {tables : CatalogTables}
  {context : EntryCompilationContext} {command : RecordFxCreditCardPaymentCommand}
  {postings postings' : List JournalPostingFact}

/-- Postings of the same positions that say the same. -/
theorem placed_of_posted (hPosted : postings.map (·.posted) = postings'.map (·.posted))
    (hPositions : postings.map (·.position) = postings'.map (·.position)) :
    postings.map (·.placed) = postings'.map (·.placed) := by
  have hZip : ∀ items : List JournalPostingFact,
      items.map (·.placed) = (items.map (·.position)).zip (items.map (·.posted)) :=
    fun _ => List.zip_map'.symm
  rw [hZip, hZip, hPosted, hPositions]

/-- What is posted and reported by the command, once its postings are made. -/
theorem fxPlan_of_payload {lockedHead : LockedBookHead} {actorSubjectId : String}
    {posted : JournalTransactionPosted} {version : BookCatalogs.CategoryVersionRecord}
    {row : BookCatalogs.AssetRecord} {fee : CanonicalUnits}
    (hHead : lockedHead.bookId = command.bookId)
    (hPayload : buildFxCreditCardPaymentPayload uuid5 tables command = .ok posted)
    (hContract : posted.validateCompletePostings = .ok ())
    (hVersion : tables.getCategoryVersion command.bookId command.feeCategoryId
      command.feeCategoryVersionId = some version)
    (hActive : version.status = "active")
    (hUsage : version.usageKind = .expense ∨ version.usageKind = .both)
    (hRow : tables.getAsset command.sourceAssetCode = some row)
    (hFee : fxUnits ⟨row.inputScale, row.ledgerScale, row.hScale⟩ command.feeAmount = .ok fee)
    (hAllocates : validateReportingAllocations [fxFeeLine uuid5 command fee] posted.postings
      (.creditCard .payment) = .ok ()) :
    ∃ plan, buildFxCreditCardPaymentPlan uuid5 tables command lockedHead actorSubjectId
        = .ok plan
      ∧ PaymentEvents plan.events posted ((fxFeeLine uuid5 command fee).line 0) := by
  have hValid : (EventPayload.journalTransactionPosted posted).validate = .ok () := hContract
  obtain ⟨contract, hPosted⟩ := contractOf_of_valid hValid
  obtain ⟨assigned, hAssigned⟩ : ∃ assigned, buildReportingLinesAssigned command.transactionId
      [fxFeeLine uuid5 command fee] = .ok assigned :=
    buildReportingLinesAssigned_total (List.cons_ne_nil _ _) (List.nodup_singleton _)
      (List.nodup_singleton _)
  refine ⟨⟨[(("journal_transaction", command.transactionId), command.expectedStreamVersion),
      (("reporting_lines", command.transactionId), 0)],
    [fxPending uuid5 command actorSubjectId "event" "journal_transaction" contract none,
      fxPending uuid5 command actorSubjectId "reporting" "reporting_lines" assigned
        (some (derivedFx uuid5 command.commandId "event"))],
    command.transactionId, lockedHead.lastPosition + 2⟩, ?_,
    ⟨command.transactionId, 1, Nat.one_pos, [(fxFeeLine uuid5 command fee).line 0]⟩, rfl, ?_⟩
  · simp only [buildFxCreditCardPaymentPlan, bind_eq_ok, require_eq_ok, exists_const,
      fetch_eq_ok, mapError_eq_ok, pure_eq_ok]
    exact ⟨hHead, posted, hPayload, contract, hPosted, version, hVersion,
      ⟨hActive, by simpa using hUsage⟩, row, hRow, fee, hFee, (), hAllocates, assigned,
      hAssigned, rfl⟩
  · rw [List.map_cons, List.map_cons, List.map_nil]
    exact congrArg₂ (fun a b => [a, b]) (contractOf_eq_ok.1 hPosted)
      (contractOf_eq_ok.1 hAssigned)

/-- The command that names what the compiler resolves can be made. -/
theorem FxResolved.postInit {card targetTrading sourceTrading feeClearing funding : EntryAccount}
    {legs : List PostingLeg}
    (h : FxResolved u tables context command card targetTrading sourceTrading feeClearing
      funding)
    (hLegs : legs.map (·.account) = [card, targetTrading, sourceTrading, feeClearing, funding])
    (hPostings : mixedPostings uuid5 context .creditCardPayment legs = .ok postings)
    (hVersion : 0 ≤ command.expectedStreamVersion)
    (hSource : plainDecimal command.sourceAmount = true)
    (hTarget : plainDecimal command.targetAmount = true)
    (hFee : RecordFxCreditCardPaymentCommand.validateFeeAmount command.feeAmount = .ok ()) :
    command.postInit = .ok () := by
  have hValid := mixedPostings_validated hPostings
  simp only [validateDomain, bind_eq_ok, require_eq_ok, exists_const] at hValid
  obtain ⟨-, hIds, -⟩ := hValid
  have hDomains : (legs.map (·.account.domain)).map (·.accountId)
      = [card, targetTrading, sourceTrading, feeClearing, funding].map (·.accountId) := by
    rw [← hLegs, List.map_map, List.map_map]
    rfl
  rw [hDomains] at hIds
  have hDistinct : [command.sourceAccountId, command.sourceTradingAccountId,
      command.targetTradingAccountId, command.targetAccountId].Nodup := by
    rw [h.funding, h.sourceTrading, h.targetTrading, h.card]
    simp only [List.map_cons, List.map_nil, List.nodup_cons, List.mem_cons, List.not_mem_nil,
      or_false, not_or, not_false_eq_true, List.nodup_nil, and_true] at hIds ⊢
    obtain ⟨⟨hCardTarget, hCardSource, -, hCardFunding⟩, ⟨hTargetSource, -, hTargetFunding⟩,
      ⟨-, hSourceFunding⟩, -⟩ := hIds
    exact ⟨⟨Ne.symm hSourceFunding, Ne.symm hTargetFunding, Ne.symm hCardFunding⟩,
      ⟨Ne.symm hTargetSource, Ne.symm hCardSource⟩, Ne.symm hCardTarget⟩
  simp only [RecordFxCreditCardPaymentCommand.postInit, RecordFxCommand.postInit, bind_eq_ok,
    require_eq_ok, exists_const]
  exact ⟨⟨hDistinct, hVersion, h.accounts.hAssets.symm, hSource, hTarget⟩, hFee⟩

/-- The fee is allocated in the postings: the debits in the source asset are the amount that
leaves and the fee. -/
theorem fxFeeLine_of_legs {card targetTrading sourceTrading feeClearing funding : EntryAccount}
    {target source fee : CanonicalUnits}
    (hAssets : command.targetAssetCode ≠ command.sourceAssetCode)
    (hPostings : mixedPostings uuid5 context .creditCardPayment
      (fxLegs command.targetAssetCode command.sourceAssetCode target.1 source.1 fee.1 card
        targetTrading sourceTrading feeClearing funding) = .ok postings)
    (hSame : postings.map (·.posted) = postings'.map (·.posted))
    (hPositions : postings'.map (·.position) = List.range 5) :
    validateReportingAllocations [fxFeeLine uuid5 command fee] postings' (.creditCard .payment)
      = .ok () := by
  have hDebits : sideTotal postings' .debit command.sourceAssetCode = source.1 + fee.1 := by
    rw [← sideTotal_congr hSame, sideTotal_eq_legTotal (mixedPostings_facts hPostings)]
    simp [legTotal, fxLegs, hAssets]
  refine fxFeeLine_allocated ?_ ?_ ?_
  · rintro rfl
    exact absurd hPositions (by decide)
  · intro assetCode
    rw [← sideTotal_congr hSame, ← sideTotal_congr hSame]
    exact (mixedPostings_ok hPostings).balanced assetCode
  · rw [hDebits]
    exact Nat.le_add_left _ _

/-- A payment out of another asset that the compiler accepts is accepted as a command, with
the same postings and the same fee line: for every catalog that was written, when the command
names what the compiler resolves, and its posting ids do not collide. -/
theorem fxCardPayment_agrees {writes : List CatalogWrite}
    {bookId commandId transactionId : UUID} {actorSubjectId actorSubjectId' : String}
    {lastPosition : Nat} {lockedLastPosition : Option Nat}
    {entry : CreditCardPaymentEntryInput} {sourceAmount : MoneyInput} {targetAsset : EntryAsset}
    {lockedHead : LockedBookHead} {plan : CompiledEntry}
    (hRun : Run CatalogStep CatalogTables.empty writes tables)
    (hContext : loadCompilationContext u tables bookId commandId transactionId actorSubjectId
      lastPosition lockedLastPosition = .ok context)
    (hSource : entry.sourceAmount = some sourceAmount)
    (hAssets : sourceAmount.1.assetCode ≠ entry.amount.1.assetCode)
    (hTarget : context.asset entry.amount.1.assetCode = .ok targetAsset)
    (hPays : PaysAs u context entry command) (hHead : lockedHead.bookId = command.bookId)
    (hIds : (fxLegNames.map (derivedFx uuid5 command.commandId)).Nodup)
    (hAccepts : compileFxCardPayment u uuid5 context entry sourceAmount targetAsset = .ok plan) :
    command.postInit = .ok ()
      ∧ (∃ plan', buildFxCreditCardPaymentPlan uuid5 tables command lockedHead actorSubjectId'
        = .ok plan')
      ∧ ∀ plan', buildFxCreditCardPaymentPlan uuid5 tables command lockedHead actorSubjectId'
        = .ok plan' → SamePayment plan.events plan'.events := by
  obtain ⟨-, hLoaded⟩ := loadCompilationContext_ok hContext
  unfold compileFxCardPayment at hAccepts
  simp only [bind_eq_ok, fetch_eq_ok, require_eq_ok, requireDistinctAccounts] at hAccepts
  obtain ⟨feeAmount, hFeeAmount, feeCategory, hFeeCategory, cardAccount, hCardAccount,
    sourceAsset, hSourceAsset, target, hTargetUnits, source, hSourceUnits, fee, hFeeUnits,
    funding, hFunding, card, hCard, sourceTrading, hSourceTrading, targetTrading,
    hTargetTrading, feeClearing, hFeeClearing, _, hDistinct, category, hCategory, postings,
    hPostings, hPlan⟩ := hAccepts
  -- the rows of the assets, and the amounts under their policies
  obtain ⟨targetRow, hTargetRow, rfl⟩ := asset_of_context hLoaded hTarget
  obtain ⟨sourceRow, hSourceRow, rfl⟩ := asset_of_context hLoaded hSourceAsset
  have hTargetCode : (EntryAsset.ofRecord targetRow).assetCode = command.targetAssetCode :=
    (asset_ok hTarget).trans hPays.target.2.1.symm
  have hSourcePays := hPays.source sourceAmount hSource
  have hSourceCode : (EntryAsset.ofRecord sourceRow).assetCode = command.sourceAssetCode :=
    (asset_ok hSourceAsset).trans hSourcePays.2.1.symm
  rw [← hPays.target.2.1] at hTargetRow
  rw [← hSourcePays.2.1] at hSourceRow
  rw [hTargetCode] at hCard hTargetTrading hPostings
  rw [hSourceCode] at hFunding hSourceTrading hFeeClearing hPostings hPlan
  obtain ⟨targetUnits, hTargetRead, hTargetSame⟩ :=
    fxUnits_of_normalizeAmount hPays.target.1 hTargetUnits
  obtain ⟨sourceUnits, hSourceRead, hSourceSame⟩ :=
    fxUnits_of_normalizeAmount hSourcePays.1 hSourceUnits
  obtain ⟨feeUnits, hFeeRead, hFeeSame⟩ :=
    fxUnits_of_normalizeAmount (hPays.fee feeAmount hFeeAmount).1 hFeeUnits
  rw [← hPays.target.2.2] at hTargetRead
  rw [← hSourcePays.2.2] at hSourceRead
  rw [← (hPays.fee feeAmount hFeeAmount).2] at hFeeRead
  rw [← hTargetSame, ← hSourceSame, ← hFeeSame] at hPostings
  have hDifferent : command.targetAssetCode ≠ command.sourceAssetCode := by
    rw [hPays.target.2.1, hSourcePays.2.1]
    exact hAssets.symm
  have hResolved : FxResolved u tables context command card targetTrading sourceTrading
      feeClearing funding :=
    { loaded := hLoaded
      bookId := hPays.bookId
      accounts := ⟨hDifferent, account_ok hCard, internal_ok hTargetTrading,
        internal_ok hSourceTrading, internal_ok hFeeClearing, account_ok hFunding, hDistinct⟩
      card := hPays.card cardAccount card hCardAccount hCard
      targetTrading := hPays.targetTrading targetTrading hTargetTrading
      sourceTrading := hPays.sourceTrading sourceTrading hSourceTrading
      funding := hPays.funding funding hFunding }
  have hTargetActive : targetRow.status = "active" := (normalizeAmount_ok.1 hTargetUnits).2.1
  have hSourceActive : sourceRow.status = "active" := (normalizeAmount_ok.1 hSourceUnits).2.1
  obtain ⟨postings', hPayload, hSame, hPositions, hUnique⟩ :=
    hResolved.payload (fxPolicy_ok hTargetRow hTargetActive)
      (fxPolicy_ok hSourceRow hSourceActive) hTargetRead hSourceRead hFeeRead hIds hPostings
  -- the category, and the line of the fee
  obtain ⟨hCategoryMem, -, hCategoryActive, hCategoryUsage⟩ := category_ok hCategory
  obtain ⟨version, hVersion, hStatus, hUsage⟩ :=
    category_of_context hLoaded (statusAgrees_of_run hRun) hCategoryMem
  obtain ⟨hCategoryId, hVersionId⟩ := hPays.category feeCategory category hFeeCategory hCategory
  rw [← hPays.bookId, ← hCategoryId, ← hVersionId] at hVersion
  have hDrafted := mixedPostings_ok hPostings
  have hAllocates := fxFeeLine_of_legs hDifferent hPostings hSame hPositions
  obtain ⟨plan', hPlan', hEvents'⟩ := fxPlan_of_payload hHead hPayload
    (fxPosted_valid (by decide) hPositions hUnique hPays.references (by simp) rfl) hVersion
    (hStatus.trans hCategoryActive) (hUsage ▸ hCategoryUsage) hSourceRow hFeeRead hAllocates
  obtain ⟨line, hEvents, hLine⟩ := entryPlan_events hPlan
  refine ⟨?_, ⟨plan', hPlan'⟩, ?_⟩
  · refine hResolved.postInit rfl hPostings hPays.version ?_ ?_ ?_
    · rw [hSourcePays.2.2]
      exact plainDecimal_of_normalizeAmount hSourceUnits
    · rw [hPays.target.2.2]
      exact plainDecimal_of_normalizeAmount hTargetUnits
    · rw [(hPays.fee feeAmount hFeeAmount).2]
      exact validateFeeAmount_of_money feeAmount
  · intro plan'' hPlan''
    cases hPlan'.symm.trans hPlan''
    refine ⟨_, _, line, _, hEvents, hEvents', rfl, placed_of_posted hSame ?_, ?_⟩
    · have hLength : postings.length = 5 := by
        simpa using congrArg List.length (mixedPostings_facts hPostings)
      rw [hPositions, hDrafted.positions, hLength]
    · rw [hLine, ← hCategoryId, ← hVersionId, ← hFeeSame]
      rfl

end Agreement

/-! ### A sample payment -/

theorem usd_pattern : assetCodePattern "USD" = true := by
  decide

def sampleDollar : AssetCode := ⟨"USD", usd_pattern⟩

theorem cents_scale : 2 ≤ 2 ∧ 2 ≤ 30 := by
  decide

/-- A currency in cents. -/
def sampleAssetRow (assetCode : AssetCode) : BookCatalogs.AssetRecord :=
  ⟨assetCode, "fiat", 2, 2, "active", cents_scale⟩

theorem role_nonblank (role : Option AccountSystemRole) :
    role.map AccountSystemRole.value ≠ some "" := by
  cases role with
  | none => simp
  | some role => cases role <;> decide

def sampleAccountRow (accountId : UUID) (assetCode : AssetCode) (accountType : AccountType)
    (accountSubtype : Option String) (role : Option AccountSystemRole) :
    BookCatalogs.AccountRecord where
  bookId := 1
  accountId := accountId
  assetCode := assetCode
  accountType := accountType
  accountSubtype := accountSubtype
  systemRole := role.map AccountSystemRole.value
  currentName := "Account"
  status := "active"
  hRole := role_nonblank role

/-- Fees, as a category is created. -/
def sampleFees : CreateCategory := ⟨1, 7, 8, none, "Fees"⟩

/-- A card in euros and a wallet in dollars, with what a payment needs beside them. -/
def sampleCatalogTables : CatalogTables where
  assets := [sampleAssetRow sampleAsset, sampleAssetRow sampleDollar]
  accounts := [sampleAccountRow 2 sampleAsset .liability (some "credit_card") none,
    sampleAccountRow 3 sampleDollar .asset none none,
    sampleAccountRow 4 sampleDollar .expense none (some .expenseClearing),
    sampleAccountRow 5 sampleAsset .equity none (some .fxTrading),
    sampleAccountRow 6 sampleDollar .equity none (some .fxTrading)]
  categories := [(createCategory sampleFees).category]
  categoryVersions := [(createCategory sampleFees).version]
  hAssets := by decide
  hAccounts := by decide
  hCategories := by decide
  hVersions := by decide
  hOwners := by decide

theorem sampleCatalogTables_run : ∃ writes,
    Run CatalogStep CatalogTables.empty writes sampleCatalogTables := by
  have hCreated : CatalogStep CatalogTables.empty (.created sampleFees)
      { CatalogTables.empty with
        categories := sampleCatalogTables.categories
        categoryVersions := sampleCatalogTables.categoryVersions
        hCategories := sampleCatalogTables.hCategories
        hVersions := sampleCatalogTables.hVersions
        hOwners := sampleCatalogTables.hOwners } := ⟨rfl, rfl, fun _ => ⟨rfl, rfl⟩⟩
  refine ⟨[.created sampleFees, .elsewhere], .cons hCreated (.cons ⟨?_, ?_, ?_⟩ (.nil _))⟩
  · exact (List.append_nil _).symm
  · exact (List.append_nil _).symm
  · exact fun hNone => absurd rfl hNone

def sampleMoney (value : String) (assetCode : AssetCode) : AmountFields :=
  ⟨value, .assetUnit, assetCode, value⟩

theorem sampleTarget_validates : AmountFields.validateMoney (sampleMoney "12.50" sampleAsset)
    = .ok (sampleMoney "12.50" sampleAsset) := by
  decide

theorem sampleSource_validates : AmountFields.validateMoney (sampleMoney "13.75" sampleDollar)
    = .ok (sampleMoney "13.75" sampleDollar) := by
  decide

theorem sampleFee_validates : AmountFields.validateMoney (sampleMoney "0.25" sampleDollar)
    = .ok (sampleMoney "0.25" sampleDollar) := by
  decide

def sampleSourceAmount : MoneyInput :=
  ⟨sampleMoney "13.75" sampleDollar, _, sampleSource_validates⟩

/-- 12.50 euros to the card, for 13.75 dollars and a fee of a quarter. -/
def sampleFxEntry : CreditCardPaymentEntryInput where
  occurredAt := ⟨⟨sampleDate, 0⟩, 0⟩
  narrative := none
  amount := ⟨sampleMoney "12.50" sampleAsset, _, sampleTarget_validates⟩
  fundingAccount := .ofId 3
  cardAccount := some (.ofId 2)
  paymentInstrument := none
  sourceAmount := some sampleSourceAmount
  feeAmount := some ⟨sampleMoney "0.25" sampleDollar, _, sampleFee_validates⟩
  feeCategory := some (.ofId 7)

def sampleFxCommand : RecordFxCreditCardPaymentCommand where
  bookId := 1
  commandId := 200
  transactionId := 201
  expectedStreamVersion := 0
  sourceAccountId := 3
  sourceTradingAccountId := 6
  sourceAssetCode := sampleDollar
  sourceAmount := "13.75"
  targetTradingAccountId := 5
  targetAccountId := 2
  targetAssetCode := sampleAsset
  targetAmount := "12.50"
  effectiveAt := ⟨sampleDate, 0⟩
  descriptionRef := none
  externalReferences := []
  feeAmount := "0.25"
  feeCategoryId := 7
  feeCategoryVersionId := 8

/-- What the compiler reads of the sample. -/
def sampleFxContext : EntryCompilationContext where
  bookId := 1
  commandId := 100
  transactionId := 101
  actorSubjectId := "user"
  lockedLastPosition := 7
  assets := (sampleCatalogTables.assets.insertionSort
    (·.assetCode.1 ≤ ·.assetCode.1)).map .ofRecord
  accounts := [sampleEntryAccount 2 .liability (some "credit_card") .standard,
    { sampleEntryAccount 3 .asset none .standard with assetCode := sampleDollar },
    { sampleEntryAccount 4 .expense none .expenseClearing with assetCode := sampleDollar },
    sampleEntryAccount 5 .equity none .fxTrading,
    { sampleEntryAccount 6 .equity none .fxTrading with assetCode := sampleDollar }]
  categories := [⟨7, 8, 1, ["Fees"], .both, "active", []⟩]
  currentBalanceUnits := none
  originalEntry := none

theorem sampleFxContext_loads : loadCompilationContext sampleUnicode sampleCatalogTables 1 100 101
    "user" 7 none = .ok sampleFxContext := by
  have hAccounts : (sampleCatalogTables.accountRows 1).mapM (loadAccount sampleUnicode)
      = .ok sampleFxContext.accounts := by
    decide
  have hCategories : (sampleCatalogTables.categoryRows 1).mapM
      (loadCategory (sampleCatalogTables.categoryRows 1)) = .ok sampleFxContext.categories := by
    decide
  simp only [loadCompilationContext, bind_eq_ok, pure_eq_ok, require_eq_ok, exists_const]
  exact ⟨by simp, _, hAccounts, _, hCategories, rfl⟩

theorem sampleFxCommand_pays :
    PaysAs sampleUnicode sampleFxContext sampleFxEntry sampleFxCommand := by
  constructor
  case bookId => rfl
  case target => exact ⟨rfl, rfl, rfl⟩
  case source =>
    intro amount hAmount
    cases hAmount
    exact ⟨rfl, rfl, rfl⟩
  case fee =>
    intro amount hAmount
    cases hAmount
    exact ⟨rfl, rfl⟩
  case funding =>
    intro account hAccount
    have hAll : (sampleFxContext.account sampleUnicode sampleFxEntry.fundingAccount
        sampleFxCommand.sourceAssetCode .cardPaymentFunding "funding_account").toOption.all
          (fun account => decide (3 = account.accountId)) = true := by
      decide
    have hPasses := passes_of_all hAll hAccount
    exact of_decide_eq_true hPasses
  case card =>
    intro reference account hReference hAccount
    cases hReference
    have hAll : (sampleFxContext.account sampleUnicode (.ofId 2)
        sampleFxCommand.targetAssetCode .cardPaymentCard "card_account").toOption.all
          (fun account => decide (2 = account.accountId)) = true := by
      decide
    have hPasses := passes_of_all hAll hAccount
    exact of_decide_eq_true hPasses
  case sourceTrading =>
    intro account hAccount
    have hAll : (sampleFxContext.internal sampleFxCommand.sourceAssetCode
        .fxTrading).toOption.all (fun account => decide (6 = account.accountId)) = true := by
      decide
    have hPasses := passes_of_all hAll hAccount
    exact of_decide_eq_true hPasses
  case targetTrading =>
    intro account hAccount
    have hAll : (sampleFxContext.internal sampleFxCommand.targetAssetCode
        .fxTrading).toOption.all (fun account => decide (5 = account.accountId)) = true := by
      decide
    have hPasses := passes_of_all hAll hAccount
    exact of_decide_eq_true hPasses
  case category =>
    intro reference category hReference hCategory
    cases hReference
    have hAll : (sampleFxContext.category sampleUnicode (.ofId 7) .expense
        "fee_category").toOption.all (fun category =>
          decide (7 = category.categoryId ∧ 8 = category.categoryVersionId)) = true := by
      decide
    have hPasses := passes_of_all hAll hCategory
    exact of_decide_eq_true hPasses
  case version => decide
  case references => decide

theorem fxCardPayment_agrees_sample : ∃ plan,
    compileFxCardPayment sampleUnicode sampleEntryUuid5 sampleFxContext sampleFxEntry
        sampleSourceAmount (.ofRecord (sampleAssetRow sampleAsset)) = .ok plan
      ∧ sampleFxCommand.postInit = .ok ()
      ∧ ∃ plan', buildFxCreditCardPaymentPlan sampleEntryUuid5 sampleCatalogTables
          sampleFxCommand ⟨1, 7, 7⟩ "user" = .ok plan'
        ∧ SamePayment plan.events plan'.events := by
  have hPlan : (compileFxCardPayment sampleUnicode sampleEntryUuid5 sampleFxContext sampleFxEntry
      sampleSourceAmount (.ofRecord (sampleAssetRow sampleAsset))).toOption.any
        (fun plan => plan.events.length = 2) = true := by
    decide +kernel
  have hTarget : sampleFxContext.asset sampleFxEntry.amount.1.assetCode
      = .ok (.ofRecord (sampleAssetRow sampleAsset)) := by
    decide
  have hHead : (⟨1, 7, 7⟩ : LockedBookHead).bookId = sampleFxCommand.bookId := rfl
  obtain ⟨plan, hAccepts, -⟩ := exists_ok_of_any hPlan
  obtain ⟨writes, hRun⟩ := sampleCatalogTables_run
  obtain ⟨hInit, ⟨plan', hPlan'⟩, hSame⟩ := fxCardPayment_agrees hRun sampleFxContext_loads rfl
    (by decide) hTarget sampleFxCommand_pays hHead (by decide +kernel) hAccepts
  exact ⟨plan, hAccepts, hInit, plan', hPlan', hSame plan' hPlan'⟩

end TrackAnywhere.Ports
