import TrackAnywhere.Ports.EntryErrors
import TrackAnywhere.Ports.EntryPreviews

/-!
# Drafts of a plan

The compiler resolves an entry before it plans it: `Drafts` is what the steps of a
kind must return, and `EntryDraft` what the plan is then made of.  The draft does
not depend on the command; the ids of the events and of the lines do.
-/

namespace TrackAnywhere.Ports

open TrackAnywhere.Verified
open TrackAnywhere.Verified.Checked

/-! ## Drafts of a plan -/

/-- What a plan is made of: the financial event and the kind of its transaction, and the
allocations with the kind and the asset of their lines. -/
structure EntryDraft where
  financial : EntryFinancial
  transactionKind : RecordedKind
  allocations : List ResolvedAllocation
  lineKind : ReportingLineKind
  reportingAssetCode : Option AssetCode

/-- The plan of a draft. -/
def EntryDraft.plan (draft : EntryDraft) (uuid5 : UUID → String → UUID)
    (context : EntryCompilationContext) (entry : EverydayEntry) :
    Except EntryError CompiledEntry :=
  entryPlan uuid5 context entry draft.financial draft.transactionKind draft.allocations
    draft.lineKind draft.reportingAssetCode

/-- The draft of an expense: a card is charged. -/
def expenseDraft (context : EntryCompilationContext) (source clearing : EntryAccount)
    (allocations : List ResolvedAllocation) (postings : List JournalPostingFact) : EntryDraft :=
  if source.accountSubtype = some "credit_card" then
    ⟨.recorded ⟨.charge, context.transactionId, source.accountId, clearing.accountId, none,
      postings, none, []⟩, .creditCard .charge, allocations, .expense, none⟩
  else
    ⟨.posted ⟨context.transactionId, .standard, none, postings, none, []⟩, .standard, allocations,
      .expense, none⟩

/-- What an entry is drafted from, kind by kind: the steps of the compiler before the plan. -/
inductive Drafts (u : UnicodeTables) (uuid5 : UUID → String → UUID)
    (context : EntryCompilationContext) : EverydayEntry → EntryDraft → Prop
  | expense {entry : ExpenseEntryInput} {asset : EntryAsset} {amount : NormalizedAmount}
      {reference : AccountRef} {source clearing : EntryAccount}
      {allocations : List ResolvedAllocation} {postings : List JournalPostingFact}
      (hAsset : context.asset entry.amount.1.assetCode = .ok asset)
      (hAmount : normalizeAmount u entry.amount.1 asset false = .ok amount)
      (hReference : entry.sourceAccount = some reference)
      (hSource : context.account u reference asset.assetCode .expenseSource "source_account"
        = .ok source)
      (hClearing : context.internal asset.assetCode .expenseClearing = .ok clearing)
      (hAllocations : entryAllocations u context entry.toCategorizedEntryInput asset amount
        .expense = .ok allocations)
      (hPostings : twoPostings uuid5 context asset.assetCode amount.units clearing source
        = .ok postings) :
      Drafts u uuid5 context (.expense entry)
        (expenseDraft context source clearing allocations postings)
  | income {entry : IncomeEntryInput} {asset : EntryAsset} {amount : NormalizedAmount}
      {destination clearing : EntryAccount} {allocations : List ResolvedAllocation}
      {postings : List JournalPostingFact}
      (hAsset : context.asset entry.amount.1.assetCode = .ok asset)
      (hAmount : normalizeAmount u entry.amount.1 asset false = .ok amount)
      (hDestination : context.account u entry.destinationAccount asset.assetCode
        .incomeDestination "destination_account" = .ok destination)
      (hClearing : context.internal asset.assetCode .incomeClearing = .ok clearing)
      (hAllocations : entryAllocations u context entry.toCategorizedEntryInput asset amount
        .income = .ok allocations)
      (hPostings : twoPostings uuid5 context asset.assetCode amount.units destination clearing
        = .ok postings) :
      Drafts u uuid5 context (.income entry)
        ⟨.posted ⟨context.transactionId, .standard, none, postings, none, []⟩, .standard,
          allocations, .income, none⟩
  | transfer {entry : TransferEntryInput} {asset : EntryAsset} {amount : NormalizedAmount}
      {source destination : EntryAccount} {postings : List JournalPostingFact}
      (hAsset : context.asset entry.amount.1.assetCode = .ok asset)
      (hAmount : normalizeAmount u entry.amount.1 asset false = .ok amount)
      (hSource : context.account u entry.sourceAccount asset.assetCode .transferSource
        "source_account" = .ok source)
      (hDestination : context.account u entry.destinationAccount asset.assetCode
        .transferDestination "destination_account" = .ok destination)
      (hDistinct : source.accountId ≠ destination.accountId)
      (hPostings : twoPostings uuid5 context asset.assetCode amount.units destination source
        = .ok postings) :
      Drafts u uuid5 context (.transfer entry)
        ⟨.posted ⟨context.transactionId, .transfer, none, postings, none, []⟩, .transfer, [],
          .transfer, none⟩
  | cardPayment {entry : CreditCardPaymentEntryInput} {asset : EntryAsset}
      {amount : NormalizedAmount} {reference : AccountRef} {funding card : EntryAccount}
      {postings : List JournalPostingFact} (hSame : entry.sourceAmount = none)
      (hAsset : context.asset entry.amount.1.assetCode = .ok asset)
      (hAmount : normalizeAmount u entry.amount.1 asset false = .ok amount)
      (hReference : entry.cardAccount = some reference)
      (hFunding : context.account u entry.fundingAccount asset.assetCode .cardPaymentFunding
        "funding_account" = .ok funding)
      (hCard : context.account u reference asset.assetCode .cardPaymentCard "card_account"
        = .ok card)
      (hDistinct : funding.accountId ≠ card.accountId)
      (hPostings : twoPostings uuid5 context asset.assetCode amount.units card funding
        = .ok postings) :
      Drafts u uuid5 context (.creditCardPayment entry)
        ⟨.recorded ⟨.payment, context.transactionId, card.accountId, funding.accountId, none,
          postings, none, []⟩, .creditCard .payment, [], .transfer, none⟩
  | fxCardPayment {entry : CreditCardPaymentEntryInput} {sourceAmount feeAmount : MoneyInput}
      {feeReference : CategoryRef} {reference : AccountRef} {target source : EntryAsset}
      {targetUnits sourceUnits feeUnits : NormalizedAmount}
      {funding card sourceTrading targetTrading feeClearing : EntryAccount}
      {category : EntryCategory} {postings : List JournalPostingFact}
      (hSourceAmount : entry.sourceAmount = some sourceAmount)
      (hFeeAmount : entry.feeAmount = some feeAmount)
      (hFeeReference : entry.feeCategory = some feeReference)
      (hReference : entry.cardAccount = some reference)
      (hTarget : context.asset entry.amount.1.assetCode = .ok target)
      (hSource : context.asset sourceAmount.1.assetCode = .ok source)
      (hTargetUnits : normalizeAmount u entry.amount.1 target false = .ok targetUnits)
      (hSourceUnits : normalizeAmount u sourceAmount.1 source false = .ok sourceUnits)
      (hFeeUnits : normalizeAmount u feeAmount.1 source false = .ok feeUnits)
      (hFunding : context.account u entry.fundingAccount source.assetCode .cardPaymentFunding
        "funding_account" = .ok funding)
      (hCard : context.account u reference target.assetCode .cardPaymentCard "card_account"
        = .ok card)
      (hSourceTrading : context.internal source.assetCode .fxTrading = .ok sourceTrading)
      (hTargetTrading : context.internal target.assetCode .fxTrading = .ok targetTrading)
      (hFeeClearing : context.internal source.assetCode .expenseClearing = .ok feeClearing)
      (hDistinct : funding.accountId ≠ card.accountId)
      (hCategory : context.category u feeReference .expense "fee_category" = .ok category)
      (hPostings : mixedPostings uuid5 context .creditCardPayment
        [⟨card, target.assetCode, .debit, targetUnits.units⟩,
          ⟨targetTrading, target.assetCode, .credit, targetUnits.units⟩,
          ⟨sourceTrading, source.assetCode, .debit, sourceUnits.units⟩,
          ⟨feeClearing, source.assetCode, .debit, feeUnits.units⟩,
          ⟨funding, source.assetCode, .credit, sourceUnits.units + feeUnits.units⟩]
        = .ok postings) :
      Drafts u uuid5 context (.creditCardPayment entry)
        ⟨.posted ⟨context.transactionId, .creditCardPayment, none, postings, none, []⟩,
          .creditCard .payment, [⟨category, feeUnits.units⟩], .expense, some source.assetCode⟩
  | refund {entry : RefundEntryInput} {asset : EntryAsset} {assetCode : AssetCode}
      {original : OriginalEntry} {amount : NormalizedAmount} {clearing : EntryAccount}
      {allocations : List ResolvedAllocation} {refunded : EntryFinancial × RecordedKind}
      (hCode : entryAssetCode context (.refund entry) = .ok assetCode)
      (hAsset : context.asset assetCode = .ok asset)
      (hOriginal : context.originalEntry.filter
        (fun o => o.transactionId = entry.originalTransactionId) = some original)
      (hSame : original.assetCode = asset.assetCode)
      (hAmount : refundAmount u entry original asset = .ok amount)
      (hUnits : amount.units ≤ original.units)
      (hClearing : context.internal asset.assetCode .expenseClearing = .ok clearing)
      (hAllocations : refundAllocations u context entry original asset amount = .ok allocations)
      (hFinancial : refundFinancial u uuid5 context original clearing asset.assetCode
        amount.units = .ok refunded) :
      Drafts u uuid5 context (.refund entry)
        ⟨refunded.1, refunded.2, allocations, .expense, none⟩
  | adjustment {entry : AdjustmentEntryInput} {asset : EntryAsset} {actual : NormalizedAmount}
      {account clearing : EntryAccount} {current : Int} {postings : List JournalPostingFact}
      (hAsset : context.asset entry.actualBalance.1.assetCode = .ok asset)
      (hActual : normalizeAmount u entry.actualBalance.1 asset true = .ok actual)
      (hAccount : context.account u entry.account asset.assetCode .adjusted "account"
        = .ok account)
      (hCurrent : context.currentBalanceUnits = some current)
      (hDifferent : (actual.units - current : Int) ≠ 0)
      (hClearing : context.internal asset.assetCode .balanceAdjustment = .ok clearing)
      (hPostings : (if 0 < (actual.units - current : Int) then
          twoPostings uuid5 context asset.assetCode (actual.units - current : Int).natAbs account
            clearing
        else twoPostings uuid5 context asset.assetCode (actual.units - current : Int).natAbs
          clearing account) = .ok postings) :
      Drafts u uuid5 context (.adjustment entry)
        ⟨.posted ⟨context.transactionId, .adjustment, none, postings, none, []⟩, .adjustment, [],
          .transfer, none⟩

theorem expenseDraft_facts {context : EntryCompilationContext} {source clearing : EntryAccount}
    {allocations : List ResolvedAllocation} {postings : List JournalPostingFact} :
    (expenseDraft context source clearing allocations postings).allocations = allocations
      ∧ (expenseDraft context source clearing allocations postings).financial.postings = postings
      ∧ ∀ recorded, (expenseDraft context source clearing allocations postings).financial
        = .recorded recorded → recorded.cardAccountId = source.accountId := by
  unfold expenseDraft
  split_ifs
  · refine ⟨rfl, rfl, ?_⟩
    rintro _ ⟨⟩
    rfl
  · refine ⟨rfl, rfl, ?_⟩
    rintro _ ⟨⟩

section Drafted

variable {u : UnicodeTables} {uuid5 : UUID → String → UUID}
  {context : EntryCompilationContext} {entry : EverydayEntry} {plan : CompiledEntry}

/-- An entry compiles to the plan of what it drafts. -/
theorem compileEntry_ok_iff :
    compileEntry u uuid5 context entry = .ok plan
      ↔ ∃ draft, Drafts u uuid5 context entry draft
        ∧ draft.plan uuid5 context entry = .ok plan := by
  unfold compileEntry
  constructor
  · intro h
    obtain ⟨assetCode, hCode, asset, hAsset, h⟩ := by simpa only [bind_eq_ok] using h
    cases entry with
    | expense entry =>
        cases hCode
        simp only [compileExpense, bind_eq_ok, fetch_eq_ok] at h
        obtain ⟨amount, hAmount, reference, hReference, source, hSource, clearing, hClearing,
          allocations, hAllocations, postings, hPostings, hPlan⟩ := h
        refine ⟨_, .expense hAsset hAmount hReference hSource hClearing hAllocations hPostings, ?_⟩
        unfold expenseDraft
        split_ifs at hPlan ⊢ <;> exact hPlan
    | income entry =>
        cases hCode
        simp only [compileIncome, bind_eq_ok] at h
        obtain ⟨amount, hAmount, destination, hDestination, clearing, hClearing, allocations,
          hAllocations, postings, hPostings, hPlan⟩ := h
        exact ⟨_, .income hAsset hAmount hDestination hClearing hAllocations hPostings, hPlan⟩
    | transfer entry =>
        cases hCode
        simp only [compileTransfer, bind_eq_ok, requireDistinctAccounts, require_eq_ok] at h
        obtain ⟨amount, hAmount, source, hSource, destination, hDestination, _, hDistinct,
          postings, hPostings, hPlan⟩ := h
        exact ⟨_, .transfer hAsset hAmount hSource hDestination hDistinct hPostings, hPlan⟩
    | creditCardPayment entry =>
        cases hCode
        simp only [compileCardPayment] at h
        split at h
        · next sourceAmount hSourceAmount =>
            simp only [compileFxCardPayment, bind_eq_ok, fetch_eq_ok, requireDistinctAccounts,
              require_eq_ok] at h
            obtain ⟨feeAmount, hFeeAmount, feeReference, hFeeReference, reference, hReference,
              source, hSource, targetUnits, hTargetUnits, sourceUnits, hSourceUnits, feeUnits,
              hFeeUnits, funding, hFunding, card, hCard, sourceTrading, hSourceTrading,
              targetTrading, hTargetTrading, feeClearing, hFeeClearing, _, hDistinct, category,
              hCategory, postings, hPostings, hPlan⟩ := h
            exact ⟨_, .fxCardPayment hSourceAmount hFeeAmount hFeeReference hReference hAsset
              hSource hTargetUnits hSourceUnits hFeeUnits hFunding hCard hSourceTrading
              hTargetTrading hFeeClearing hDistinct hCategory hPostings, hPlan⟩
        · next hSame =>
            simp only [bind_eq_ok, fetch_eq_ok, requireDistinctAccounts, require_eq_ok] at h
            obtain ⟨amount, hAmount, reference, hReference, funding, hFunding, card, hCard, _,
              hDistinct, postings, hPostings, hPlan⟩ := h
            exact ⟨_, .cardPayment hSame hAsset hAmount hReference hFunding hCard hDistinct
              hPostings, hPlan⟩
    | refund entry =>
        simp only [compileRefund, bind_eq_ok, fetch_eq_ok, require_eq_ok] at h
        obtain ⟨original, hOriginal, _, hSame, amount, hAmount, _, hUnits, clearing, hClearing,
          allocations, hAllocations, refunded, hFinancial, hPlan⟩ := h
        exact ⟨_, .refund hCode hAsset hOriginal hSame hAmount hUnits hClearing hAllocations
          hFinancial, hPlan⟩
    | adjustment entry =>
        cases hCode
        simp only [compileAdjustment, bind_eq_ok, fetch_eq_ok, require_eq_ok] at h
        obtain ⟨actual, hActual, account, hAccount, current, hCurrent, _, hDifferent, clearing,
          hClearing, h⟩ := h
        have hPostings : ∃ postings, (if 0 < (actual.units - current : Int) then
            twoPostings uuid5 context asset.assetCode (actual.units - current : Int).natAbs account
              clearing
          else twoPostings uuid5 context asset.assetCode (actual.units - current : Int).natAbs
            clearing account) = .ok postings
            ∧ EntryDraft.plan ⟨.posted ⟨context.transactionId, .adjustment, none, postings, none,
              []⟩, .adjustment, [], .transfer, none⟩ uuid5 context (.adjustment entry)
                = .ok plan := by
          split_ifs at h ⊢ <;> exact bind_eq_ok.1 h
        obtain ⟨postings, hPostings, hPlan⟩ := hPostings
        exact ⟨_, .adjustment hAsset hActual hAccount hCurrent hDifferent hClearing hPostings,
          hPlan⟩
  · rintro ⟨draft, hDrafts, hPlan⟩
    simp only [bind_eq_ok]
    cases hDrafts with
    | expense hAsset hAmount hReference hSource hClearing hAllocations hPostings =>
        refine ⟨_, rfl, _, hAsset, ?_⟩
        simp only [compileExpense, bind_eq_ok, fetch_eq_ok]
        refine ⟨_, hAmount, _, hReference, _, hSource, _, hClearing, _, hAllocations, _, hPostings,
          ?_⟩
        unfold expenseDraft at hPlan
        split_ifs at hPlan ⊢ <;> exact hPlan
    | income hAsset hAmount hDestination hClearing hAllocations hPostings =>
        refine ⟨_, rfl, _, hAsset, ?_⟩
        simp only [compileIncome, bind_eq_ok]
        exact ⟨_, hAmount, _, hDestination, _, hClearing, _, hAllocations, _, hPostings, hPlan⟩
    | transfer hAsset hAmount hSource hDestination hDistinct hPostings =>
        refine ⟨_, rfl, _, hAsset, ?_⟩
        simp only [compileTransfer, bind_eq_ok, requireDistinctAccounts, require_eq_ok]
        exact ⟨_, hAmount, _, hSource, _, hDestination, (), hDistinct, _, hPostings, hPlan⟩
    | cardPayment hSame hAsset hAmount hReference hFunding hCard hDistinct hPostings =>
        refine ⟨_, rfl, _, hAsset, ?_⟩
        simp only [compileCardPayment, hSame, bind_eq_ok, fetch_eq_ok, requireDistinctAccounts,
          require_eq_ok]
        exact ⟨_, hAmount, _, hReference, _, hFunding, _, hCard, (), hDistinct, _, hPostings,
          hPlan⟩
    | fxCardPayment hSourceAmount hFeeAmount hFeeReference hReference hTarget hSource hTargetUnits
        hSourceUnits hFeeUnits hFunding hCard hSourceTrading hTargetTrading hFeeClearing hDistinct
        hCategory hPostings =>
        refine ⟨_, rfl, _, hTarget, ?_⟩
        simp only [compileCardPayment, hSourceAmount, compileFxCardPayment, bind_eq_ok,
          fetch_eq_ok, requireDistinctAccounts, require_eq_ok]
        exact ⟨_, hFeeAmount, _, hFeeReference, _, hReference, _, hSource, _, hTargetUnits, _,
          hSourceUnits, _, hFeeUnits, _, hFunding, _, hCard, _, hSourceTrading, _, hTargetTrading,
          _, hFeeClearing, (), hDistinct, _, hCategory, _, hPostings, hPlan⟩
    | refund hCode hAsset hOriginal hSame hAmount hUnits hClearing hAllocations hFinancial =>
        refine ⟨_, hCode, _, hAsset, ?_⟩
        simp only [compileRefund, bind_eq_ok, fetch_eq_ok, require_eq_ok]
        exact ⟨_, hOriginal, (), hSame, _, hAmount, (), hUnits, _, hClearing, _, hAllocations, _,
          hFinancial, hPlan⟩
    | adjustment hAsset hActual hAccount hCurrent hDifferent hClearing hPostings =>
        refine ⟨_, rfl, _, hAsset, ?_⟩
        simp only [compileAdjustment, bind_eq_ok, fetch_eq_ok, require_eq_ok]
        refine ⟨_, hActual, _, hAccount, _, hCurrent, (), hDifferent, _, hClearing, ?_⟩
        split_ifs at hPostings ⊢ <;> exact bind_eq_ok.2 ⟨_, hPostings, hPlan⟩

end Drafted

/-! ## What the references of a plan say -/

/-- The accounts and the categories of a context are rows of their tables. -/
structure CatalogIds (context : EntryCompilationContext) : Prop where
  accounts : (context.accounts.map (·.accountId)).Nodup
  categories : (context.categories.map (·.categoryId)).Nodup
  apart : ∀ account ∈ context.accounts,
    account.accountId ∉ context.categories.map (·.categoryId)

section References

variable {u : UnicodeTables} {uuid5 : UUID → String → UUID}
  {context : EntryCompilationContext} {entry : EverydayEntry} {draft : EntryDraft}
  {plan : CompiledEntry} {preview : EntryPreview} {resolved : ResolvedEntryReferences}

theorem CatalogIds.notAccount (hIds : CatalogIds context) {category : EntryCategory}
    (h : category ∈ context.categories) :
    category.categoryId ∉ context.accounts.map (·.accountId) := by
  intro hMem
  obtain ⟨account, hAccount, hSame⟩ := List.mem_map.1 hMem
  exact hIds.apart account hAccount (hSame ▸ List.mem_map_of_mem h)

/-- The id of a chosen account stands for it. -/
theorem account_ofId (hIds : CatalogIds context) {reference : AccountRef} {assetCode : AssetCode}
    {use : AccountUse} {field : String} {account : EntryAccount}
    (h : context.account u reference assetCode use field = .ok account) (field' : String) :
    context.account u (.ofId account.accountId) assetCode use field' = .ok account := by
  have hChosen := account_ok h
  unfold EntryCompilationContext.account at h ⊢
  obtain ⟨resolution, hResolution, h⟩ := bind_eq_ok.1 h
  cases resolution with
  | choices choices => exact nomatch h
  | resolved found =>
      cases pure_eq_ok.1 h
      exact bind_eq_ok.2 ⟨_, resolveAccount_ofId hIds.accounts (hIds.apart _ hChosen.mem)
        hResolution, rfl⟩

/-- The id of a chosen category stands for it. -/
theorem category_ofId (hIds : CatalogIds context) {reference : CategoryRef}
    {usageKind : CategoryUsageKind} {field : String} {category : EntryCategory}
    (h : context.category u reference usageKind field = .ok category) (field' : String) :
    context.category u (.ofId category.categoryId) usageKind field' = .ok category := by
  have hChosen := category_ok h
  unfold EntryCompilationContext.category at h ⊢
  obtain ⟨resolution, hResolution, h⟩ := bind_eq_ok.1 h
  cases resolution with
  | choices choices => exact nomatch h
  | resolved found =>
      cases pure_eq_ok.1 h
      exact bind_eq_ok.2 ⟨_, resolveCategory_ofId hIds.categories (hIds.notAccount hChosen.1)
        hResolution, rfl⟩

theorem planFinancial_eq {financial : EntryFinancial} {event : PendingEvent}
    {rest : List PendingEvent} (hEvents : plan.events = event :: rest)
    (hPayload : event.payload.1 = financial.payload) : planFinancial plan = .ok financial := by
  unfold planFinancial
  rw [hEvents, List.head?_cons, Option.map_some, hPayload]
  cases financial <;> rfl

theorem planLines_eq {event reporting : PendingEvent} {assigned : ReportingLinesAssigned}
    (hEvents : plan.events = [event, reporting])
    (hPayload : reporting.payload.1 = .reportingLinesAssigned assigned) :
    planLines plan = .ok assigned.lines := by
  have hSecond : plan.events[1]? = some reporting := by rw [hEvents]; rfl
  unfold planLines
  rw [hSecond, Option.map_some, hPayload]

/-- The events of a plan are those of its draft. -/
theorem plan_facts (h : draft.plan uuid5 context entry = .ok plan) :
    planFinancial plan = .ok draft.financial
      ∧ ∃ lines, planLines plan = .ok lines
        ∧ lines.map (·.dimensionId)
          = draft.allocations.map fun allocation => some allocation.category.categoryId := by
  unfold EntryDraft.plan entryPlan at h
  obtain ⟨contract, hContract, h⟩ := bind_eq_ok.1 h
  have hPayload := contractOf_eq_ok.1 hContract
  by_cases hNone : draft.allocations = []
  · rw [if_pos hNone] at h
    cases pure_eq_ok.1 h
    exact ⟨planFinancial_eq rfl hPayload, [], rfl, by rw [hNone]; rfl⟩
  · rw [if_neg hNone] at h
    obtain ⟨reporting, hReporting, h⟩ := bind_eq_ok.1 h
    cases pure_eq_ok.1 h
    obtain ⟨first, hFirst, -⟩ := bind_eq_ok.1 hReporting
    have hAsset : ∀ other ∈ draft.financial.postings.head?,
        draft.reportingAssetCode.getD other.assetCode
          = draft.reportingAssetCode.getD first.assetCode := by
      intro other hOther
      rw [fetch_eq_ok.1 hFirst] at hOther
      cases hOther
      rfl
    obtain ⟨-, assigned, hAssigned, -, hAllocates⟩ := reportingPending_ok hAsset hReporting
    exact ⟨planFinancial_eq rfl hPayload, assigned.lines, planLines_eq rfl hAssigned,
      hAllocates.categories⟩

/-- The references of a plan are those of its postings and of its lines. -/
theorem previewAndResolved_facts (hPlan : draft.plan uuid5 context entry = .ok plan)
    (h : previewAndResolved context entry plan = .ok (preview, resolved)) :
    ∃ references lines, planReferences context entry draft.financial = .ok references
      ∧ planLines plan = .ok lines
      ∧ resolved = { references with
          categoryIds := draft.allocations.map (·.category.categoryId)
          categoryVersionIds := lines.map (·.catalogId) } := by
  obtain ⟨hFinancial, lines, hLines, hCategories⟩ := plan_facts hPlan
  have hIds : lines.filterMap (·.dimensionId)
      = draft.allocations.map (·.category.categoryId) := by
    have hSome := congrArg (List.filterMap id) hCategories
    rw [List.filterMap_map, List.filterMap_map] at hSome
    exact hSome.trans (congrFun (List.filterMap_eq_map (f := fun allocation :
      ResolvedAllocation => allocation.category.categoryId)) _)
  unfold previewAndResolved at h
  rw [hFinancial, hLines] at h
  simp only [bind_eq_ok, Except.ok.injEq, exists_eq_left', hIds] at h
  obtain ⟨first, -, asset, -, references, hReferences, accounts, -, paths, -, h⟩ := h
  refine ⟨references, lines, hReferences, hLines, ?_⟩
  split at h
  · obtain ⟨cross, -, h⟩ := bind_eq_ok.1 h
    cases h
    rfl
  · cases h
    rfl

end References

/-! ## The references of the kinds -/

section KindReferences

variable {uuid5 : UUID → String → UUID} {context : EntryCompilationContext}
  {assetCode : AssetCode} {units : Nat} {debit credit : EntryAccount}
  {postings : List JournalPostingFact} {financial : EntryFinancial}

theorem posting_ok {legs : List PostedUnits} (h : financial.postings.map (·.posted) = legs)
    {index : Nat} {leg : PostedUnits} (hLeg : legs[index]? = some leg) :
    ∃ posting, financial.posting index = .ok posting ∧ posting.accountId = leg.accountId := by
  rw [← h, List.getElem?_map] at hLeg
  obtain ⟨posting, hPosting, hPosted⟩ := Option.map_eq_some_iff.1 hLeg
  exact ⟨posting, fetch_eq_ok.2 hPosting, congrArg PostedUnits.accountId hPosted⟩

theorem references_expense {entry : ExpenseEntryInput}
    (hMoves : financial.Moves assetCode units debit.accountId credit.accountId)
    (hCard : ∀ recorded, financial = .recorded recorded →
      recorded.cardAccountId = credit.accountId) :
    planReferences context (.expense entry) financial
      = .ok { ResolvedEntryReferences.empty with sourceAccountId := some credit.accountId } := by
  cases financial with
  | recorded recorded =>
      rw [← hCard recorded rfl]
      rfl
  | posted posted =>
      have hSecond := posting_ok hMoves (List.getElem?_cons_succ.trans List.getElem?_cons_zero)
      obtain ⟨source, hSource, hAccount⟩ := hSecond
      simp only [planReferences, bind_eq_ok, pure_eq_ok]
      exact ⟨source, hSource, by rw [hAccount]⟩

theorem references_income {entry : IncomeEntryInput}
    (hMoves : financial.Moves assetCode units debit.accountId credit.accountId) :
    planReferences context (.income entry) financial
      = .ok { ResolvedEntryReferences.empty with
          destinationAccountId := some debit.accountId } := by
  obtain ⟨destination, hDestination, hAccount⟩ := posting_ok hMoves List.getElem?_cons_zero
  simp only [planReferences, bind_eq_ok, pure_eq_ok]
  exact ⟨destination, hDestination, by rw [hAccount]⟩

theorem references_transfer {entry : TransferEntryInput}
    (hMoves : financial.Moves assetCode units debit.accountId credit.accountId) :
    planReferences context (.transfer entry) financial
      = .ok { ResolvedEntryReferences.empty with
          sourceAccountId := some credit.accountId
          destinationAccountId := some debit.accountId } := by
  obtain ⟨destination, hDestination, hDebit⟩ := posting_ok hMoves List.getElem?_cons_zero
  obtain ⟨source, hSource, hCredit⟩ := posting_ok hMoves
    (List.getElem?_cons_succ.trans List.getElem?_cons_zero)
  simp only [planReferences, bind_eq_ok, pure_eq_ok]
  exact ⟨destination, hDestination, source, hSource, by rw [hDebit, hCredit]⟩

theorem references_cardPayment {entry : CreditCardPaymentEntryInput}
    {recorded : CreditCardTransactionRecorded} (hSame : entry.sourceAmount = none) :
    planReferences context (.creditCardPayment entry) (.recorded recorded)
      = .ok { ResolvedEntryReferences.empty with
          fundingAccountId := some recorded.counterAccountId
          cardAccountId := some recorded.cardAccountId } := by
  unfold planReferences
  exact bind_eq_ok.2 ⟨(), require_eq_ok.2 hSame, rfl⟩

theorem references_fxCardPayment {entry : CreditCardPaymentEntryInput}
    {posted : JournalTransactionPosted} {card targetTrading sourceTrading fee funding : PostedUnits}
    (hCross : entry.sourceAmount ≠ none)
    (hLegs : posted.postings.map (·.posted) = [card, targetTrading, sourceTrading, fee, funding]) :
    planReferences context (.creditCardPayment entry) (.posted posted)
      = .ok { ResolvedEntryReferences.empty with
          fundingAccountId := some funding.accountId
          cardAccountId := some card.accountId
          sourceTradingAccountId := some sourceTrading.accountId
          targetTradingAccountId := some targetTrading.accountId } := by
  have hPosting : ∀ (index : Nat) (leg : PostedUnits),
      [card, targetTrading, sourceTrading, fee, funding][index]? = some leg →
        ∃ posting, EntryFinancial.posting (.posted posted) index = .ok posting
          ∧ posting.accountId = leg.accountId :=
    fun index leg hLeg =>
      posting_ok (show (EntryFinancial.posted posted).postings.map (·.posted) = _ from hLegs) hLeg
  obtain ⟨first, hFirst, hCard⟩ := hPosting 0 card rfl
  obtain ⟨second, hSecond, hTarget⟩ := hPosting 1 targetTrading rfl
  obtain ⟨third, hThird, hSource⟩ := hPosting 2 sourceTrading rfl
  obtain ⟨fifth, hFifth, hFunding⟩ := hPosting 4 funding rfl
  simp only [planReferences, bind_eq_ok, require_eq_ok, pure_eq_ok]
  exact ⟨(), hCross, first, hFirst, second, hSecond, third, hThird, fifth, hFifth,
    by rw [hCard, hTarget, hSource, hFunding]⟩

theorem EntryFinancial.Moves.two {debit credit : UUID}
    (h : financial.Moves assetCode units debit credit) : ∃ first second,
      financial.postings = [first, second] ∧ first.accountId = debit
        ∧ second.accountId = credit := by
  obtain ⟨first, rest, hPostings, hFirst, hRest⟩ := List.map_eq_cons_iff.1 h
  obtain ⟨second, rfl, hSecond⟩ := List.map_eq_singleton_iff.1 hRest
  exact ⟨first, second, hPostings, congrArg PostedUnits.accountId hFirst,
    congrArg PostedUnits.accountId hSecond⟩

/-- The adjusted account is the one of the two that is not internal. -/
theorem references_adjustment {entry : AdjustmentEntryInput} {account clearing : EntryAccount}
    (hAccounts : (context.accounts.map (·.accountId)).Nodup)
    (hAccount : Chosen context assetCode .adjusted account)
    (hClearing : Internal context assetCode .balanceAdjustment clearing)
    (hMoves : financial.Moves assetCode units account.accountId clearing.accountId
      ∨ financial.Moves assetCode units clearing.accountId account.accountId) :
    planReferences context (.adjustment entry) financial
      = .ok { ResolvedEntryReferences.empty with
          adjustedAccountId := some account.accountId } := by
  obtain ⟨hPostable, hRole⟩ := hClearing.facts
  have hStandard : ∀ posting : JournalPostingFact, posting.accountId = account.accountId →
      (context.accounts.any fun a => a.accountId = posting.accountId ∧ a.systemRole = .standard)
        = true := by
    intro posting hSame
    exact List.any_eq_true.2 ⟨account, hAccount.mem,
      decide_eq_true ⟨hSame.symm, hAccount.standard⟩⟩
  have hInternal : ∀ posting : JournalPostingFact, posting.accountId = clearing.accountId →
      (context.accounts.any fun a => a.accountId = posting.accountId ∧ a.systemRole = .standard)
        = false := by
    intro posting hSame
    rw [List.any_eq_false]
    intro other hOther hFound
    obtain ⟨hId, hOtherRole⟩ := of_decide_eq_true hFound
    have hIs := List.inj_on_of_nodup_map hAccounts hOther hPostable.mem (hId.trans hSame)
    rw [hIs, hRole] at hOtherRole
    cases hOtherRole
  have hFound : ∃ adjusted, financial.postings.find? (fun posting =>
      context.accounts.any fun a => a.accountId = posting.accountId
        ∧ a.systemRole = .standard) = some adjusted ∧ adjusted.accountId = account.accountId := by
    obtain hMoves | hMoves := hMoves
    · obtain ⟨first, second, hPostings, hFirst, -⟩ := hMoves.two
      refine ⟨first, ?_, hFirst⟩
      simp only [hPostings, List.find?_cons, hStandard first hFirst]
    · obtain ⟨first, second, hPostings, hFirst, hSecond⟩ := hMoves.two
      refine ⟨second, ?_, hSecond⟩
      simp only [hPostings, List.find?_cons, hInternal first hFirst, hStandard second hSecond]
  obtain ⟨adjusted, hAdjusted, hId⟩ := hFound
  simp only [planReferences, bind_eq_ok, fetch_eq_ok, pure_eq_ok]
  exact ⟨adjusted, hAdjusted, by rw [hId]⟩

end KindReferences

/-! ## The same draft under another command -/

section Later

variable {u : UnicodeTables} {uuid5 : UUID → String → UUID}
  {context later : EntryCompilationContext} {entry answered : EverydayEntry}
  {draft : EntryDraft} {plan other : CompiledEntry}

end Later

end TrackAnywhere.Ports
