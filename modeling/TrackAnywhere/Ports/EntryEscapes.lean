import TrackAnywhere.Ports.EntryErrors

/-!
# When an error escapes the entry compiler

The limit of 38 digits is checked for every amount that is read.  A payment out of
another asset posts a sum of two amounts, an adjustment posts a difference of
balances, and a whole refund posts what its original had.  None of these is checked
again before the postings are drafted, and the error of a posting is not one of the
gateway.

`Overflows` says which entries come to such units, and `Unaskable` which come to a
reference that they cannot ask about.
-/

namespace TrackAnywhere.Ports

open TrackAnywhere.Verified
open TrackAnywhere.Verified.Checked

/-! ## The six kinds -/

section Kinds

variable (u : UnicodeTables) (context : EntryCompilationContext)

/-- The allocations of an entry are read, and one of its categories cannot be asked
for. -/
def AllocationsUnaskable (money : MoneyInput) (stated : List CategoryAllocationInput)
    (references : List CategoryRef) (asset : EntryAsset) (usageKind : CategoryUsageKind) :
    Prop :=
  (∃ normalized, normalizeCategoryAllocations u money stated asset = .ok normalized)
    ∧ CategoriesUnaskable u context references usageKind

/-- The references of an expense are resolved up to one that cannot be asked for. -/
def ExpenseUnaskable (entry : ExpenseEntryInput) (asset : EntryAsset) : Prop :=
  ∃ amount reference, normalizeAmount u entry.amount.1 asset false = .ok amount
    ∧ entry.sourceAccount = some reference
    ∧ (AccountUnaskable u context reference asset.assetCode .expenseSource
      ∨ ∃ source clearing, context.account u reference asset.assetCode .expenseSource
            "source_account" = .ok source
          ∧ context.internal asset.assetCode .expenseClearing = .ok clearing
          ∧ AllocationsUnaskable u context entry.amount entry.categoryAllocations
            entry.references asset .expense)

def IncomeUnaskable (entry : IncomeEntryInput) (asset : EntryAsset) : Prop :=
  ∃ amount, normalizeAmount u entry.amount.1 asset false = .ok amount
    ∧ (AccountUnaskable u context entry.destinationAccount asset.assetCode
        .incomeDestination
      ∨ ∃ destination clearing, context.account u entry.destinationAccount asset.assetCode
            .incomeDestination "destination_account" = .ok destination
          ∧ context.internal asset.assetCode .incomeClearing = .ok clearing
          ∧ AllocationsUnaskable u context entry.amount entry.categoryAllocations
            entry.references asset .income)

def TransferUnaskable (entry : TransferEntryInput) (asset : EntryAsset) : Prop :=
  ∃ amount, normalizeAmount u entry.amount.1 asset false = .ok amount
    ∧ (AccountUnaskable u context entry.sourceAccount asset.assetCode .transferSource
      ∨ ∃ source, context.account u entry.sourceAccount asset.assetCode .transferSource
          "source_account" = .ok source
        ∧ AccountUnaskable u context entry.destinationAccount asset.assetCode
          .transferDestination)

/-- A payment in the asset of the card. -/
def CardPaymentUnaskable (entry : CreditCardPaymentEntryInput) (asset : EntryAsset) : Prop :=
  ∃ amount cardAccount, entry.sourceAmount = none
    ∧ normalizeAmount u entry.amount.1 asset false = .ok amount
    ∧ entry.cardAccount = some cardAccount
    ∧ (AccountUnaskable u context entry.fundingAccount asset.assetCode .cardPaymentFunding
      ∨ ∃ funding, context.account u entry.fundingAccount asset.assetCode
          .cardPaymentFunding "funding_account" = .ok funding
        ∧ AccountUnaskable u context cardAccount asset.assetCode .cardPaymentCard)

/-- What a payment out of another asset is read as, before its accounts. -/
structure FxRead (entry : CreditCardPaymentEntryInput) (targetAsset sourceAsset : EntryAsset)
    (target source fee : NormalizedAmount) (cardAccount : AccountRef)
    (feeCategory : CategoryRef) : Prop where
  hSource : ∃ sourceAmount, entry.sourceAmount = some sourceAmount
    ∧ context.asset sourceAmount.1.assetCode = .ok sourceAsset
    ∧ normalizeAmount u sourceAmount.1 sourceAsset false = .ok source
  hTarget : normalizeAmount u entry.amount.1 targetAsset false = .ok target
  hFee : ∃ feeAmount, entry.feeAmount = some feeAmount
    ∧ normalizeAmount u feeAmount.1 sourceAsset false = .ok fee
  hCard : entry.cardAccount = some cardAccount
  hCategory : entry.feeCategory = some feeCategory

/-- Its accounts are resolved, and those of the Book found. -/
structure FxAccounts (entry : CreditCardPaymentEntryInput)
    (targetAsset sourceAsset : EntryAsset) (cardAccount : AccountRef)
    (funding card sourceTrading targetTrading feeClearing : EntryAccount) : Prop where
  hFunding : context.account u entry.fundingAccount sourceAsset.assetCode
    .cardPaymentFunding "funding_account" = .ok funding
  hCard : context.account u cardAccount targetAsset.assetCode .cardPaymentCard
    "card_account" = .ok card
  hSourceTrading : context.internal sourceAsset.assetCode .fxTrading = .ok sourceTrading
  hTargetTrading : context.internal targetAsset.assetCode .fxTrading = .ok targetTrading
  hFeeClearing : context.internal sourceAsset.assetCode .expenseClearing = .ok feeClearing
  hDistinct : funding.accountId ≠ card.accountId

/-- The references of a payment out of another asset are resolved up to one that cannot be
asked for: the accounts, and then the category of the fee. -/
def FxUnaskable (entry : CreditCardPaymentEntryInput) (targetAsset : EntryAsset) : Prop :=
  ∃ sourceAsset target source fee cardAccount feeCategory,
    FxRead u context entry targetAsset sourceAsset target source fee cardAccount feeCategory
    ∧ (AccountUnaskable u context entry.fundingAccount sourceAsset.assetCode
        .cardPaymentFunding
      ∨ (∃ funding, context.account u entry.fundingAccount sourceAsset.assetCode
            .cardPaymentFunding "funding_account" = .ok funding
          ∧ AccountUnaskable u context cardAccount targetAsset.assetCode .cardPaymentCard)
      ∨ ∃ funding card sourceTrading targetTrading feeClearing,
        FxAccounts u context entry targetAsset sourceAsset cardAccount funding card
          sourceTrading targetTrading feeClearing
        ∧ CategoryUnaskable u context feeCategory .expense)

/-- The amount and the fee are within the limit, and their sum is not. -/
def FxOverflows (entry : CreditCardPaymentEntryInput) (targetAsset : EntryAsset) : Prop :=
  ∃ sourceAsset target source fee cardAccount feeCategory funding card sourceTrading
      targetTrading feeClearing category,
    FxRead u context entry targetAsset sourceAsset target source fee cardAccount feeCategory
    ∧ FxAccounts u context entry targetAsset sourceAsset cardAccount funding card
      sourceTrading targetTrading feeClearing
    ∧ context.category u feeCategory .expense "fee_category" = .ok category
    ∧ 10 ^ 38 ≤ source.units + fee.units

/-- A refund is read, within its original. -/
structure RefundRead (entry : RefundEntryInput) (asset : EntryAsset)
    (original : OriginalEntry) (amount : NormalizedAmount) (clearing : EntryAccount) :
    Prop where
  hOriginal : context.originalEntry = some original
  hNamed : original.transactionId = entry.originalTransactionId
  hAsset : original.assetCode = asset.assetCode
  hAmount : refundAmount u entry original asset = .ok amount
  hWithin : amount.units ≤ original.units
  hClearing : context.internal asset.assetCode .expenseClearing = .ok clearing

def RefundUnaskable (entry : RefundEntryInput) (asset : EntryAsset) : Prop :=
  ∃ original amount clearing stated, RefundRead u context entry asset original amount clearing
    ∧ entry.categoryAllocations ≠ [] ∧ entry.amount = some stated
    ∧ AllocationsUnaskable u context stated entry.categoryAllocations
      (entry.categoryAllocations.map (·.category)) asset .expense

/-- The account that a refund goes back to. -/
def RefundAccount (original : OriginalEntry) (assetCode : AssetCode)
    (account : EntryAccount) : Prop :=
  (original.kind = .creditCardCharge
      ∧ context.accountById u original.cardAccountId assetCode .cardPaymentCard = .ok account)
    ∨ (original.kind = .everyday .expense
      ∧ context.accountById u original.sourceAccountId assetCode .expenseSource = .ok account)

/-- An original past the limit goes back whole. -/
def RefundOverflows (entry : RefundEntryInput) (asset : EntryAsset) : Prop :=
  ∃ original amount clearing account, RefundRead u context entry asset original amount clearing
    ∧ entry.amount = none ∧ original.categoryAllocations ≠ []
    ∧ RefundAccount u context original asset.assetCode account ∧ 10 ^ 38 ≤ original.units

def AdjustmentUnaskable (entry : AdjustmentEntryInput) (asset : EntryAsset) : Prop :=
  ∃ actual, normalizeAmount u entry.actualBalance.1 asset true = .ok actual
    ∧ AccountUnaskable u context entry.account asset.assetCode .adjusted

/-- The balances are further apart than the limit. -/
def AdjustmentOverflows (entry : AdjustmentEntryInput) (asset : EntryAsset) : Prop :=
  ∃ actual account current clearing,
    normalizeAmount u entry.actualBalance.1 asset true = .ok actual
    ∧ context.account u entry.account asset.assetCode .adjusted "account" = .ok account
    ∧ context.currentBalanceUnits = some current
    ∧ context.internal asset.assetCode .balanceAdjustment = .ok clearing
    ∧ 10 ^ 38 ≤ ((actual.units : Int) - current).natAbs

variable {u context} {uuid5 : UUID → String → UUID} {asset : EntryAsset}

/-- A posting that is not a refund is valid. -/
theorem plainPosted_valid {assetCode : AssetCode} {units : Nat} {debit credit : EntryAccount}
    {kind : TransactionKind} (hKind : kind ≠ .refund) : ∀ postings,
    twoPostings uuid5 context assetCode units debit credit = .ok postings →
      postings = postings
      ∧ (EntryFinancial.posted
        { transactionId := context.transactionId
          kind := kind
          originalTransactionId := none
          postings := postings
          descriptionRef := none
          externalReferences := [] }).payload.validate = .ok () :=
  fun _ h => ⟨rfl, posted_valid (mixedPostings_ordered h) rfl (by rw [if_neg hKind])⟩

theorem compileExpense_raises_iff (hLoaded : LoadedContext uuid5 context)
    {entry : ExpenseEntryInput} (hValid : entry.validatePaymentSource = .ok ()) :
    Raises EntryError.Escapes (compileExpense u uuid5 context entry asset)
      ↔ ExpenseUnaskable u context entry asset := by
  have hShape : entry.toCategorizedEntryInput.validateClassificationShape = .ok () := by
    simp only [ExpenseEntryInput.validatePaymentSource, bind_eq_ok] at hValid
    exact hValid.choose_spec.1
  unfold compileExpense ExpenseUnaskable
  simp only [raises_bind, raises_fetch, gateway_stays, and_false, normalizeAmount_raises,
    account_raises_iff, internal_raises, entryAllocations_raises_iff, false_or, fetch_eq_ok]
  constructor
  · rintro ⟨amount, hAmount, reference, hReference, hSource | ⟨source, hSource, clearing,
      hClearing, hCategories | ⟨allocations, hAllocations, hPlan⟩⟩⟩
    · exact ⟨amount, reference, hAmount, hReference, .inl hSource⟩
    · exact ⟨amount, reference, hAmount, hReference,
        .inr ⟨source, clearing, hSource, hClearing, hCategories⟩⟩
    · have hChosen := account_ok hSource
      have hInternal := internal_ok hClearing
      have hDistinct : clearing.accountId ≠ source.accountId :=
        (hLoaded.chosen_ne_internal hChosen hInternal (by decide)).symm
      have hAllocated := entryAllocations_allocated hShape hAmount hAllocations
      refine absurd (normalizeAmount_limit hAmount) (Nat.not_lt.2 ?_)
      rw [← raises_bind] at hPlan
      by_cases hCard : source.accountSubtype = some "credit_card"
      · simp only [if_pos hCard] at hPlan
        refine (movedPlan_raises_iff hLoaded hInternal.facts.1 hChosen.postable hDistinct
          (normalizeAmount_positive hAmount) ?_ hAllocated fun _ => rfl).1 hPlan
        intro postings hPostings
        exact ⟨rfl, recorded_valid (mixedPostings_ordered hPostings)
          (twoPostings_facts hPostings) rfl hDistinct.symm rfl (by simp)⟩
      · simp only [if_neg hCard] at hPlan
        exact (movedPlan_raises_iff hLoaded hInternal.facts.1 hChosen.postable hDistinct
          (normalizeAmount_positive hAmount) (plainPosted_valid (by decide)) hAllocated
          fun _ => rfl).1 hPlan
  · rintro ⟨amount, reference, hAmount, hReference, hSource | ⟨source, clearing, hSource,
      hClearing, hCategories⟩⟩
    · exact ⟨amount, hAmount, reference, hReference, .inl hSource⟩
    · exact ⟨amount, hAmount, reference, hReference,
        .inr ⟨source, hSource, clearing, hClearing, .inl hCategories⟩⟩

theorem compileIncome_raises_iff (hLoaded : LoadedContext uuid5 context)
    {entry : IncomeEntryInput}
    (hShape : entry.toCategorizedEntryInput.validateClassificationShape = .ok ()) :
    Raises EntryError.Escapes (compileIncome u uuid5 context entry asset)
      ↔ IncomeUnaskable u context entry asset := by
  unfold compileIncome IncomeUnaskable
  simp only [raises_bind, normalizeAmount_raises, account_raises_iff, internal_raises,
    entryAllocations_raises_iff, false_or]
  constructor
  · rintro ⟨amount, hAmount, hDestination | ⟨destination, hDestination, clearing,
      hClearing, hCategories | ⟨allocations, hAllocations, hPlan⟩⟩⟩
    · exact ⟨amount, hAmount, .inl hDestination⟩
    · exact ⟨amount, hAmount, .inr ⟨destination, clearing, hDestination, hClearing,
        hCategories⟩⟩
    · have hChosen := account_ok hDestination
      have hInternal := internal_ok hClearing
      refine absurd (normalizeAmount_limit hAmount) (Nat.not_lt.2 ?_)
      exact (movedPlan_raises_iff hLoaded hChosen.postable hInternal.facts.1
        (hLoaded.chosen_ne_internal hChosen hInternal (by decide))
        (normalizeAmount_positive hAmount) (plainPosted_valid (by decide))
        (entryAllocations_allocated hShape hAmount hAllocations)
        fun hCard => by simp at hCard).1 (raises_bind.2 hPlan)
  · rintro ⟨amount, hAmount, hDestination | ⟨destination, clearing, hDestination,
      hClearing, hCategories⟩⟩
    · exact ⟨amount, hAmount, .inl hDestination⟩
    · exact ⟨amount, hAmount,
        .inr ⟨destination, hDestination, clearing, hClearing, .inl hCategories⟩⟩

theorem compileTransfer_raises_iff (hLoaded : LoadedContext uuid5 context)
    {entry : TransferEntryInput} :
    Raises EntryError.Escapes (compileTransfer u uuid5 context entry asset)
      ↔ TransferUnaskable u context entry asset := by
  unfold compileTransfer TransferUnaskable
  simp only [raises_bind, normalizeAmount_raises, account_raises_iff,
    requireDistinctAccounts_raises, false_or]
  constructor
  · rintro ⟨amount, hAmount, hSource | ⟨source, hSource, hDestination |
      ⟨destination, hDestination, _, hDistinct, hPlan⟩⟩⟩
    · exact ⟨amount, hAmount, .inl hSource⟩
    · exact ⟨amount, hAmount, .inr ⟨source, hSource, hDestination⟩⟩
    · have hDistinct : destination.accountId ≠ source.accountId :=
        fun hSame => require_eq_ok.1 hDistinct hSame.symm
      refine absurd (normalizeAmount_limit hAmount) (Nat.not_lt.2 ?_)
      exact (movedPlan_raises_iff hLoaded (account_ok hDestination).postable
        (account_ok hSource).postable hDistinct (normalizeAmount_positive hAmount)
        (plainPosted_valid (by decide)) .nil fun hCard => by simp at hCard).1
        (raises_bind.2 hPlan)
  · rintro ⟨amount, hAmount, hSource | ⟨source, hSource, hDestination⟩⟩
    · exact ⟨amount, hAmount, .inl hSource⟩
    · exact ⟨amount, hAmount, .inr ⟨source, hSource, .inl hDestination⟩⟩

/-- A difference is posted in one direction or the other, and fails on its units only. -/
theorem adjustmentPlan_raises_iff (hLoaded : LoadedContext uuid5 context)
    {assetCode : AssetCode} {account clearing : EntryAccount} {delta : Int}
    {planned : List JournalPostingFact → Except EntryError CompiledEntry}
    (hAccount : Postable context account assetCode)
    (hClearing : Postable context clearing assetCode)
    (hDistinct : account.accountId ≠ clearing.accountId) (hDelta : delta ≠ 0)
    (hPlanned : ∀ debit credit postings,
      twoPostings uuid5 context assetCode delta.natAbs debit credit = .ok postings →
      ∃ plan, planned postings = .ok plan) :
    Raises EntryError.Escapes (if 0 < delta then
        twoPostings uuid5 context assetCode delta.natAbs account clearing >>= planned
      else twoPostings uuid5 context assetCode delta.natAbs clearing account >>= planned)
      ↔ 10 ^ 38 ≤ delta.natAbs := by
  have hUnits := Int.natAbs_pos.2 hDelta
  have hMade : ∀ debit credit, ¬∃ postings,
      twoPostings uuid5 context assetCode delta.natAbs debit credit = .ok postings
        ∧ Raises EntryError.Escapes (planned postings) := by
    rintro debit credit ⟨postings, hPostings, h⟩
    obtain ⟨plan, hPlan⟩ := hPlanned debit credit postings hPostings
    rw [hPlan] at h
    exact raises_ok h
  split_ifs
  · rw [raises_bind, or_iff_left (hMade _ _)]
    exact twoPostings_raises_iff hLoaded hAccount hClearing hDistinct hUnits
  · rw [raises_bind, or_iff_left (hMade _ _)]
    exact twoPostings_raises_iff hLoaded hClearing hAccount hDistinct.symm hUnits

theorem compileAdjustment_raises_iff (hLoaded : LoadedContext uuid5 context)
    {entry : AdjustmentEntryInput} :
    Raises EntryError.Escapes (compileAdjustment u uuid5 context entry asset)
      ↔ AdjustmentUnaskable u context entry asset
        ∨ AdjustmentOverflows u context entry asset := by
  unfold compileAdjustment AdjustmentUnaskable AdjustmentOverflows
  simp only [raises_bind, raises_fetch, raises_require, fetch_eq_ok, require_eq_ok,
    gateway_stays, and_false, false_or, normalizeAmount_raises, account_raises_iff,
    internal_raises, exists_const]
  have hPlanned : ∀ units debit credit postings,
      twoPostings uuid5 context asset.assetCode units debit credit = .ok postings →
      ∃ plan, entryPlan uuid5 context (.adjustment entry)
        (.posted
          { transactionId := context.transactionId
            kind := .adjustment
            originalTransactionId := none
            postings := postings
            descriptionRef := none
            externalReferences := [] })
        .adjustment [] .transfer none = .ok plan :=
    fun _ _ _ _ hPostings => movedPlan_total hLoaded hPostings
      (plainPosted_valid (by decide) _ hPostings).2 .nil fun hCard => by simp at hCard
  constructor
  · rintro ⟨actual, hActual, hUnaskable | ⟨account, hAccount, current, hCurrent, hDelta, clearing,
      hClearing, h⟩⟩
    · exact .inl ⟨actual, hActual, hUnaskable⟩
    · have hChosen := account_ok hAccount
      have hInternal := internal_ok hClearing
      exact .inr ⟨actual, account, current, clearing, hActual, hAccount, hCurrent, hClearing,
        (adjustmentPlan_raises_iff hLoaded hChosen.postable hInternal.facts.1
          (hLoaded.chosen_ne_internal hChosen hInternal (by decide)) hDelta (hPlanned _)).1 h⟩
  · rintro (⟨actual, hActual, hUnaskable⟩ | ⟨actual, account, current, clearing, hActual, hAccount,
      hCurrent, hClearing, hUnits⟩)
    · exact ⟨actual, hActual, .inl hUnaskable⟩
    · have hChosen := account_ok hAccount
      have hInternal := internal_ok hClearing
      have hDelta : (actual.units : Int) - current ≠ 0 := by
        intro hZero
        rw [hZero] at hUnits
        exact absurd hUnits (by decide)
      exact ⟨actual, hActual, .inr ⟨account, hAccount, current, hCurrent, hDelta, clearing,
        hClearing, (adjustmentPlan_raises_iff hLoaded hChosen.postable hInternal.facts.1
          (hLoaded.chosen_ne_internal hChosen hInternal (by decide)) hDelta
          (hPlanned _)).2 hUnits⟩⟩

/-- A refund of stated units that its account takes fails on them only. -/
theorem refundFinancial_raises_iff (hLoaded : LoadedContext uuid5 context)
    {original : OriginalEntry} {clearing : EntryAccount} {assetCode : AssetCode} {units : Nat}
    (hClearing : Internal context assetCode .expenseClearing clearing) (hUnits : 0 < units) :
    Raises EntryError.Escapes
        (refundFinancial u uuid5 context original clearing assetCode units)
      ↔ (∃ account, RefundAccount u context original assetCode account)
        ∧ 10 ^ 38 ≤ units := by
  have hPosts : ∀ {accountId use account},
      context.accountById u accountId assetCode use = .ok account →
      (Raises EntryError.Escapes (twoPostings uuid5 context assetCode units account clearing)
        ↔ 10 ^ 38 ≤ units) := by
    intro accountId use account hAccount
    have hChosen := (accountById_ok hAccount).2
    exact twoPostings_raises_iff hLoaded hChosen.postable hClearing.facts.1
      (hLoaded.chosen_ne_internal hChosen hClearing (by decide)) hUnits
  unfold refundFinancial RefundAccount
  split
  · next hKind =>
      simp only [raises_bind, accountById_raises, raises_pure, and_false, exists_false, or_false,
        false_or, hKind, true_and, reduceCtorEq, false_and]
      constructor
      · rintro ⟨card, hCard, h⟩
        exact ⟨⟨card, hCard⟩, (hPosts hCard).1 h⟩
      · rintro ⟨⟨card, hCard⟩, h⟩
        exact ⟨card, hCard, (hPosts hCard).2 h⟩
  · next hKind =>
      simp only [raises_bind, accountById_raises, raises_pure, and_false, exists_false, or_false,
        false_or, hKind, true_and, reduceCtorEq, false_and]
      constructor
      · rintro ⟨source, hSource, h⟩
        exact ⟨⟨source, hSource⟩, (hPosts hSource).1 h⟩
      · rintro ⟨⟨source, hSource⟩, h⟩
        exact ⟨source, hSource, (hPosts hSource).2 h⟩
  · next hOther hExpense =>
      refine iff_of_false (fun h => gateway_stays (raises_error.1 h)) ?_
      rintro ⟨⟨account, ⟨hKind, -⟩ | ⟨hKind, -⟩⟩, -⟩
      · exact hOther hKind
      · exact hExpense hKind

theorem refundAmount_raises {entry : RefundEntryInput} {original : OriginalEntry} :
    ¬Raises EntryError.Escapes (refundAmount u entry original asset) := by
  unfold refundAmount
  split
  · exact raises_ok
  · exact normalizeAmount_raises

/-- Only a whole refund is past the limit. -/
theorem refundAmount_over {entry : RefundEntryInput} {original : OriginalEntry}
    {amount : NormalizedAmount} (h : refundAmount u entry original asset = .ok amount)
    (hUnits : 10 ^ 38 ≤ amount.units) :
    entry.amount = none ∧ amount.units = original.units := by
  unfold refundAmount at h
  split at h
  · next hNone =>
      cases h
      exact ⟨hNone, rfl⟩
  · exact absurd hUnits (Nat.not_le.2 (normalizeAmount_limit h))

/-- The event of a refund is valid, and its plan is made. -/
theorem refundPlan_total (hLoaded : LoadedContext uuid5 context) {original : OriginalEntry}
    {clearing : EntryAccount} {assetCode : AssetCode} {units : Nat} {entry : EverydayEntry}
    {allocations : List ResolvedAllocation} {refunded : EntryFinancial × RecordedKind}
    (hOriginal : context.originalEntry = some original)
    (hClearing : Internal context assetCode .expenseClearing clearing)
    (hAllocated : Allocated context allocations units)
    (h : refundFinancial u uuid5 context original clearing assetCode units = .ok refunded) :
    ∃ plan, entryPlan uuid5 context entry refunded.1 refunded.2 allocations .expense none
      = .ok plan := by
  have hNew := hLoaded.newTransaction original hOriginal
  unfold refundFinancial at h
  split at h
  · simp only [bind_eq_ok, pure_eq_ok] at h
    obtain ⟨card, hCard, postings, hPostings, rfl⟩ := h
    have hDistinct := hLoaded.chosen_ne_internal (accountById_ok hCard).2 hClearing (by decide)
    refine movedPlan_total hLoaded hPostings ?_ hAllocated fun _ => rfl
    exact recorded_valid (mixedPostings_ordered hPostings) (twoPostings_facts hPostings) rfl
      hDistinct rfl (by simpa using hNew)
  · simp only [bind_eq_ok, pure_eq_ok] at h
    obtain ⟨source, hSource, postings, hPostings, rfl⟩ := h
    refine movedPlan_total hLoaded hPostings ?_ hAllocated fun _ => rfl
    exact posted_valid (mixedPostings_ordered hPostings) rfl (by simpa using hNew)
  · cases h

theorem refundAllocations_none {entry : RefundEntryInput}
    (hValid : entry.validateRefundAllocations = .ok ()) (hNone : entry.amount = none) :
    entry.categoryAllocations = [] := by
  simp only [RefundEntryInput.validateRefundAllocations, bind_eq_ok, require_eq_ok] at hValid
  obtain ⟨_, -, hEither⟩ := hValid
  exact hEither.resolve_right fun hSome => hSome hNone

/-- A whole refund takes over what its original has. -/
theorem refundAllocations_whole {entry : RefundEntryInput} {original : OriginalEntry}
    {amount : NormalizedAmount} (hStated : entry.categoryAllocations = [])
    (hSome : original.categoryAllocations ≠ []) (hWhole : amount.units = original.units) :
    ∃ allocations, refundAllocations u context entry original asset amount
      = .ok allocations := by
  unfold refundAllocations
  rw [if_neg fun hNe => hNe hStated]
  split
  · exact ⟨_, rfl⟩
  · exact ⟨_, if_pos ⟨hWhole, hSome⟩⟩

theorem compileRefund_raises_iff (hLoaded : LoadedContext uuid5 context)
    {entry : RefundEntryInput} (hValid : entry.validateRefundAllocations = .ok ()) :
    Raises EntryError.Escapes (compileRefund u uuid5 context entry asset)
      ↔ RefundUnaskable u context entry asset ∨ RefundOverflows u context entry asset := by
  unfold compileRefund
  simp only [raises_bind, raises_fetch, raises_require, fetch_eq_ok, require_eq_ok,
    gateway_stays, and_false, false_or, refundAmount_raises, internal_raises, exists_const,
    refundAllocations_raises_iff hValid, Option.filter_eq_some_iff, decide_eq_true_eq]
  constructor
  · rintro ⟨original, ⟨hOriginal, hNamed⟩, hAsset, amount, hAmount, hWithin, clearing, hClearing, h⟩
    have hRead : RefundRead u context entry asset original amount clearing :=
      ⟨hOriginal, hNamed, hAsset, hAmount, hWithin, hClearing⟩
    have hInternal := internal_ok hClearing
    obtain ⟨hStated, stated, hSome, hUnaskable⟩ | ⟨allocations, hAllocations, h⟩ := h
    · exact .inl ⟨original, amount, clearing, stated, hRead, hStated, hSome, hUnaskable⟩
    · have hAllocated := refundAllocations_allocated hLoaded hOriginal hValid hAmount hAllocations
      obtain h | ⟨refunded, hRefunded, h⟩ := h
      · obtain ⟨⟨account, hAccount⟩, hUnits⟩ := (refundFinancial_raises_iff hLoaded hInternal
          (refundAmount_positive hLoaded hOriginal hAmount)).1 h
        obtain ⟨hNone, hWhole⟩ := refundAmount_over hAmount hUnits
        have hStated := refundAllocations_none hValid hNone
        refine .inr ⟨original, amount, clearing, account, hRead, hNone, ?_, hAccount,
          hWhole ▸ hUnits⟩
        obtain ⟨allocation, hOne, -⟩ | ⟨-, hSome, -⟩ :=
          (refundAllocations_ok hAmount hAllocations).2 hStated
        · rw [hOne]
          exact List.cons_ne_nil _ _
        · exact hSome
      · obtain ⟨plan, hPlan⟩ := refundPlan_total hLoaded hOriginal hInternal hAllocated hRefunded
        rw [hPlan] at h
        exact absurd h raises_ok
  · rintro (⟨original, amount, clearing, stated, hRead, hStated, hSome, hUnaskable⟩ | ⟨original,
      amount, clearing, account, hRead, hNone, hSome, hAccount, hUnits⟩)
    · exact ⟨original, ⟨hRead.hOriginal, hRead.hNamed⟩, hRead.hAsset, amount, hRead.hAmount,
        hRead.hWithin, clearing, hRead.hClearing, .inl ⟨hStated, stated, hSome, hUnaskable⟩⟩
    · have hWhole : amount.units = original.units := by
        have hAmount := hRead.hAmount
        simp only [refundAmount, hNone, Except.ok.injEq] at hAmount
        rw [← hAmount]
      obtain ⟨allocations, hAllocations⟩ : ∃ allocations,
          refundAllocations u context entry original asset amount = .ok allocations :=
        refundAllocations_whole (refundAllocations_none hValid hNone) hSome hWhole
      have hFinancial := (refundFinancial_raises_iff hLoaded (internal_ok hRead.hClearing)
        (refundAmount_positive hLoaded hRead.hOriginal hRead.hAmount)).2
        ⟨⟨account, hAccount⟩, hWhole.symm ▸ hUnits⟩
      exact ⟨original, ⟨hRead.hOriginal, hRead.hNamed⟩, hRead.hAsset, amount, hRead.hAmount,
        hRead.hWithin, clearing, hRead.hClearing, .inr ⟨allocations, hAllocations,
          .inl hFinancial⟩⟩

theorem sameAssetPayment_raises_iff (hLoaded : LoadedContext uuid5 context)
    {entry : CreditCardPaymentEntryInput} (hSame : entry.sourceAmount = none) :
    Raises EntryError.Escapes (compileCardPayment u uuid5 context entry asset)
      ↔ CardPaymentUnaskable u context entry asset := by
  unfold compileCardPayment CardPaymentUnaskable
  simp only [hSame, raises_bind, raises_fetch, fetch_eq_ok, gateway_stays, and_false, false_or,
    normalizeAmount_raises, account_raises_iff, requireDistinctAccounts_raises, true_and]
  constructor
  · rintro ⟨amount, hAmount, cardAccount, hCardAccount, hFunding | ⟨funding, hFunding, hCard |
      ⟨card, hCard, _, hDistinct, hPlan⟩⟩⟩
    · exact ⟨amount, cardAccount, hAmount, hCardAccount, .inl hFunding⟩
    · exact ⟨amount, cardAccount, hAmount, hCardAccount, .inr ⟨funding, hFunding, hCard⟩⟩
    · have hDistinct : card.accountId ≠ funding.accountId :=
        fun hEqual => require_eq_ok.1 hDistinct hEqual.symm
      refine absurd (normalizeAmount_limit hAmount) (Nat.not_lt.2 ?_)
      refine (movedPlan_raises_iff hLoaded (account_ok hCard).postable
        (account_ok hFunding).postable hDistinct (normalizeAmount_positive hAmount) ?_ .nil
        fun hIs => by simp at hIs).1 (raises_bind.2 hPlan)
      intro postings hPostings
      exact ⟨rfl, recorded_valid (mixedPostings_ordered hPostings)
        (twoPostings_facts hPostings) rfl hDistinct rfl (by simp)⟩
  · rintro ⟨amount, cardAccount, hAmount, hCardAccount, hFunding | ⟨funding, hFunding, hCard⟩⟩
    · exact ⟨amount, hAmount, cardAccount, hCardAccount, .inl hFunding⟩
    · exact ⟨amount, hAmount, cardAccount, hCardAccount, .inr ⟨funding, hFunding, .inl hCard⟩⟩

/-! ### Payments out of another asset -/

/-- The five accounts of such a payment. -/
structure FxPostable (context : EntryCompilationContext) (target source : AssetCode)
    (card targetTrading sourceTrading feeClearing funding : EntryAccount) : Prop where
  hAssets : target ≠ source
  hCard : Chosen context target .cardPaymentCard card
  hTargetTrading : Internal context target .fxTrading targetTrading
  hSourceTrading : Internal context source .fxTrading sourceTrading
  hFeeClearing : Internal context source .expenseClearing feeClearing
  hFunding : Chosen context source .cardPaymentFunding funding
  hDistinct : funding.accountId ≠ card.accountId

section Fx

variable {target source : AssetCode} {targetUnits sourceUnits feeUnits : Nat}
  {card targetTrading sourceTrading feeClearing funding : EntryAccount}
  {postings : List JournalPostingFact}

/-- The legs of such a payment. -/
def fxLegs (target source : AssetCode) (targetUnits sourceUnits feeUnits : Nat)
    (card targetTrading sourceTrading feeClearing funding : EntryAccount) :
    List PostingLeg :=
  [⟨card, target, .debit, targetUnits⟩, ⟨targetTrading, target, .credit, targetUnits⟩,
    ⟨sourceTrading, source, .debit, sourceUnits⟩, ⟨feeClearing, source, .debit, feeUnits⟩,
    ⟨funding, source, .credit, sourceUnits + feeUnits⟩]

theorem fxLegs_fit (hLoaded : LoadedContext uuid5 context)
    (h : FxPostable context target source card targetTrading sourceTrading feeClearing
      funding) (hTarget : 0 < targetUnits) (hSource : 0 < sourceUnits) (hFee : 0 < feeUnits) :
    LegsFit context .creditCardPayment (fxLegs target source targetUnits sourceUnits feeUnits
      card targetTrading sourceTrading feeClearing funding) where
  count := by simp [fxLegs]
  postable := by
    simpa [fxLegs] using ⟨h.hCard.postable, h.hTargetTrading.facts.1,
      h.hSourceTrading.facts.1, h.hFeeClearing.facts.1, h.hFunding.postable⟩
  distinct := by
    have hTrading : targetTrading.accountId ≠ sourceTrading.accountId := by
      refine hLoaded.ids_ne h.hTargetTrading.facts.1.mem h.hSourceTrading.facts.1.mem ?_
      rintro rfl
      exact h.hAssets (h.hTargetTrading.facts.1.asset.symm.trans h.hSourceTrading.facts.1.asset)
    have hClearing : ∀ {assetCode : AssetCode} {trading : EntryAccount},
        Internal context assetCode .fxTrading trading →
        trading.accountId ≠ feeClearing.accountId := by
      intro assetCode trading hInternal
      refine hLoaded.ids_ne hInternal.facts.1.mem h.hFeeClearing.facts.1.mem ?_
      rintro rfl
      have hRole := hInternal.facts.2.symm.trans h.hFeeClearing.facts.2
      exact nomatch hRole
    have hOther : ∀ {assetCode : AssetCode} {use : AccountUse} {chosen : EntryAccount},
        Chosen context assetCode use chosen →
        chosen.accountId ≠ targetTrading.accountId ∧ chosen.accountId ≠ sourceTrading.accountId
          ∧ chosen.accountId ≠ feeClearing.accountId := fun hChosen =>
      ⟨hLoaded.chosen_ne_internal hChosen h.hTargetTrading (by decide),
        hLoaded.chosen_ne_internal hChosen h.hSourceTrading (by decide),
        hLoaded.chosen_ne_internal hChosen h.hFeeClearing (by decide)⟩
    obtain ⟨hCardTarget, hCardSource, hCardFee⟩ := hOther h.hCard
    obtain ⟨hFundingTarget, hFundingSource, hFundingFee⟩ := hOther h.hFunding
    simp [fxLegs, hCardTarget, hCardSource, hCardFee, h.hDistinct.symm, hTrading,
      hClearing h.hTargetTrading, hClearing h.hSourceTrading, hFundingTarget.symm,
      hFundingSource.symm, hFundingFee.symm]
  positive := by simp [fxLegs, hTarget, hSource, hFee]
  balanced := by
    intro assetCode
    by_cases hIsTarget : target = assetCode
    · have hNotSource : source ≠ assetCode := fun hSame => h.hAssets (hIsTarget.trans hSame.symm)
      simp [legTotal, fxLegs, hIsTarget, hNotSource]
    · by_cases hIsSource : source = assetCode
      · simp [legTotal, fxLegs, hIsTarget, hIsSource]
      · simp [legTotal, fxLegs, hIsTarget, hIsSource]

/-- On distinct accounts, the account of a leg trades when it has the role. -/
theorem LegsFit.trading {kind : TransactionKind} {legs : List PostingLeg}
    (hFit : LegsFit context kind legs) : ∀ leg ∈ legs,
      (legs.any fun other => other.account.accountId = leg.account.accountId
          ∧ other.account.systemRole = .fxTrading)
        = decide (leg.account.systemRole = .fxTrading) := by
  intro leg hLeg
  rw [Bool.eq_iff_iff, List.any_eq_true, decide_eq_true_eq]
  constructor
  · rintro ⟨other, hOther, hTrades⟩
    obtain ⟨hSame, hRole⟩ := of_decide_eq_true hTrades
    rwa [← List.inj_on_of_nodup_map hFit.distinct hOther hLeg hSame]
  · exact fun hRole => ⟨leg, hLeg, decide_eq_true ⟨rfl, hRole⟩⟩

/-- The trading accounts take the amount in one asset and give it in the other. -/
theorem fxLegs_exchange (hLoaded : LoadedContext uuid5 context)
    (h : FxPostable context target source card targetTrading sourceTrading feeClearing
      funding) (hTarget : 0 < targetUnits) (hSource : 0 < sourceUnits) (hFee : 0 < feeUnits)
    (hPosted : postings.map (·.posted) = (fxLegs target source targetUnits sourceUnits
      feeUnits card targetTrading sourceTrading feeClearing funding).map (·.posted)) :
    validateExchange (fun accountId => (fxLegs target source targetUnits sourceUnits feeUnits
      card targetTrading sourceTrading feeClearing funding).any fun leg =>
        leg.account.accountId = accountId ∧ leg.account.systemRole = .fxTrading) postings
      = .ok () := by
  have hTrading := (fxLegs_fit hLoaded h hTarget hSource hFee).trading
  generalize hTrades : (fun accountId => (fxLegs target source targetUnits sourceUnits
    feeUnits card targetTrading sourceTrading feeClearing funding).any fun leg =>
      leg.account.accountId = accountId ∧ leg.account.systemRole = .fxTrading) = trading
  have hEach : ∀ leg ∈ fxLegs target source targetUnits sourceUnits feeUnits card
      targetTrading sourceTrading feeClearing funding,
      trading leg.account.accountId = decide (leg.account.systemRole = .fxTrading) := by
    rw [← hTrades]
    exact hTrading
  clear hTrading hTrades
  simp only [fxLegs, List.forall_mem_cons, List.not_mem_nil, false_implies, implies_true,
    and_true, h.hCard.standard, h.hTargetTrading.facts.2, h.hSourceTrading.facts.2,
    h.hFeeClearing.facts.2, h.hFunding.standard] at hEach
  obtain ⟨hCardNot, hTargetTrades, hSourceTrades, hFeeNot, hFundingNot⟩ := hEach
  simp only [fxLegs, List.map_cons, List.map_nil, PostingLeg.posted,
    List.map_eq_cons_iff, List.map_eq_nil_iff] at hPosted
  obtain ⟨first, _, rfl, hFirst, second, _, rfl, hSecond, third, _, rfl, hThird, fourth, _,
    rfl, hFourth, fifth, _, rfl, hFifth, rfl⟩ := hPosted
  simp only [JournalPostingFact.posted, PostedUnits.mk.injEq] at hFirst hSecond hThird
  simp only [JournalPostingFact.posted, PostedUnits.mk.injEq] at hFourth hFifth
  have hLegs : [first, second, third, fourth, fifth].filter (fun p => trading p.accountId)
      = [second, third] := by
    simp [hFirst, hSecond, hThird, hFourth, hFifth, hCardNot, hTargetTrades, hSourceTrades,
      hFeeNot, hFundingNot]
  have hDedup : ([first, second, third, fourth, fifth].map (·.assetCode)).dedup
      = [target, source] := by
    simp [hFirst, hSecond, hThird, hFourth, hFifth, h.hAssets]
  have hNetTarget : netUnits target [second, third] = -(targetUnits : Int) := by
    simp [netUnits, hSecond, hThird, h.hAssets.symm, signedUnits]
  have hNetSource : netUnits source [second, third] = sourceUnits := by
    simp [netUnits, hSecond, hThird, h.hAssets, signedUnits]
  simp only [validateExchange, hLegs, hDedup, bind_eq_ok, require_eq_ok, exists_const]
  refine ⟨by simp, ?_, ?_, ?_⟩
  · simp [hSecond, hThird]
  · simp [hNetTarget, hNetSource, hTarget.ne', hSource.ne']
  · refine ⟨⟨source, by simp, ?_⟩, target, by simp, ?_⟩
    · rw [hNetSource]
      exact_mod_cast hSource
    · rw [hNetTarget]
      omega

/-- The postings of such a payment fail on the sum only. -/
theorem fxPostings_raises_iff (hLoaded : LoadedContext uuid5 context)
    (h : FxPostable context target source card targetTrading sourceTrading feeClearing
      funding) (hTarget : 0 < targetUnits ∧ targetUnits < 10 ^ 38)
    (hSource : 0 < sourceUnits) (hFee : 0 < feeUnits) :
    Raises EntryError.Escapes (mixedPostings uuid5 context .creditCardPayment
        (fxLegs target source targetUnits sourceUnits feeUnits card targetTrading
          sourceTrading feeClearing funding))
      ↔ 10 ^ 38 ≤ sourceUnits + feeUnits := by
  rw [mixedPostings_raises_iff hLoaded (fxLegs_fit hLoaded h hTarget.1 hSource hFee)
    fun _ _ hPosted => fxLegs_exchange hLoaded h hTarget.1 hSource hFee hPosted]
  constructor
  · rintro ⟨leg, hLeg, hUnits⟩
    simp only [fxLegs, List.mem_cons, List.not_mem_nil, or_false] at hLeg
    obtain rfl | rfl | rfl | rfl | rfl := hLeg
    · exact absurd hUnits (Nat.not_le.2 hTarget.2)
    · exact absurd hUnits (Nat.not_le.2 hTarget.2)
    · exact le_trans hUnits (Nat.le_add_right _ _)
    · exact le_trans hUnits (Nat.le_add_left _ _)
    · exact hUnits
  · exact fun hUnits => ⟨⟨funding, source, .credit, sourceUnits + feeUnits⟩,
      by simp [fxLegs], hUnits⟩

/-- And their plan is made; its one line is the fee. -/
theorem fxPlan_total (hLoaded : LoadedContext uuid5 context) {entry : EverydayEntry}
    {category : EntryCategory} (hFee : 0 < feeUnits)
    (hAssets : target ≠ source)
    (hPostings : mixedPostings uuid5 context .creditCardPayment
      (fxLegs target source targetUnits sourceUnits feeUnits card targetTrading sourceTrading
        feeClearing funding) = .ok postings) :
    ∃ plan, entryPlan uuid5 context entry
      (.posted
        { transactionId := context.transactionId
          kind := .creditCardPayment
          originalTransactionId := none
          postings := postings
          descriptionRef := none
          externalReferences := [] })
      (.creditCard .payment) [⟨category, feeUnits⟩] .expense (some source) = .ok plan := by
  have hPosted := mixedPostings_facts hPostings
  have hDrafted := mixedPostings_ok hPostings
  have hDebits : sideTotal postings .debit source = sourceUnits + feeUnits := by
    rw [sideTotal_eq_legTotal hPosted]
    simp [legTotal, fxLegs, hAssets]
  have hLimit : feeUnits < 10 ^ 38 := by
    have hIn : (⟨feeClearing.accountId, source, .debit, feeUnits⟩ : PostedUnits)
        ∈ postings.map (·.posted) := by
      rw [hPosted]
      simp [fxLegs, PostingLeg.posted]
    obtain ⟨posting, -, hPosting⟩ := List.mem_map.1 hIn
    have hUnits : posting.units.1 = feeUnits := congrArg PostedUnits.units hPosting
    exact hUnits ▸ posting.units.2.2
  have hSome : postings ≠ [] := by
    rintro rfl
    simp [fxLegs] at hPosted
  have hFit : LinesFit context postings (.creditCard .payment) [⟨category, feeUnits⟩] .expense
      source :=
    { positive := by simpa using hFee
      bounded := by simpa using hLimit
      allocated := by
        rw [hDebits]
        simp
      count := (Allocated.one hFee).count
      kind := fun _ => rfl }
  exact entryPlan_total hLoaded
    (posted_valid (mixedPostings_ordered hPostings) rfl (by simp)) hDrafted hSome
    (fun _ _ => rfl) fun _ => hFit

end Fx

theorem FxAccounts.postable {entry : CreditCardPaymentEntryInput}
    {targetAsset sourceAsset : EntryAsset} {cardAccount : AccountRef}
    {funding card sourceTrading targetTrading feeClearing : EntryAccount}
    (h : FxAccounts u context entry targetAsset sourceAsset cardAccount funding card
      sourceTrading targetTrading feeClearing)
    (hAssets : targetAsset.assetCode ≠ sourceAsset.assetCode) :
    FxPostable context targetAsset.assetCode sourceAsset.assetCode card targetTrading
      sourceTrading feeClearing funding where
  hAssets := hAssets
  hCard := account_ok h.hCard
  hTargetTrading := internal_ok h.hTargetTrading
  hSourceTrading := internal_ok h.hSourceTrading
  hFeeClearing := internal_ok h.hFeeClearing
  hFunding := account_ok h.hFunding
  hDistinct := h.hDistinct

/-- A payment out of another asset has a fee in it, and a category for the fee. -/
theorem validatePaymentTarget_fx {entry : CreditCardPaymentEntryInput}
    {sourceAmount : MoneyInput} (hSource : entry.sourceAmount = some sourceAmount)
    (h : entry.validatePaymentTarget = .ok ()) :
    sourceAmount.1.assetCode ≠ entry.amount.1.assetCode
      ∧ ∃ feeAmount feeCategory, entry.feeAmount = some feeAmount
        ∧ entry.feeCategory = some feeCategory := by
  simp only [CreditCardPaymentEntryInput.validatePaymentTarget, bind_eq_ok, hSource] at h
  obtain ⟨-, -, -, -, h⟩ := h
  cases hFee : entry.feeAmount with
  | none =>
      rw [hFee] at h
      exact nomatch h
  | some feeAmount =>
      cases hCategory : entry.feeCategory with
      | none =>
          rw [hFee, hCategory] at h
          exact nomatch h
      | some feeCategory =>
          rw [hFee, hCategory] at h
          simp only [bind_eq_ok, require_eq_ok, exists_const] at h
          exact ⟨h.1, feeAmount, feeCategory, rfl, rfl⟩

theorem compileFxCardPayment_raises_iff (hLoaded : LoadedContext uuid5 context)
    {entry : CreditCardPaymentEntryInput} {sourceAmount : MoneyInput}
    (hSource : entry.sourceAmount = some sourceAmount)
    (hValid : entry.validatePaymentTarget = .ok ())
    (hAsset : context.asset entry.amount.1.assetCode = .ok asset) :
    Raises EntryError.Escapes (compileFxCardPayment u uuid5 context entry sourceAmount asset)
      ↔ FxUnaskable u context entry asset ∨ FxOverflows u context entry asset := by
  obtain ⟨hAssets, feeAmount, feeCategory, hFee, hCategory⟩ :=
    validatePaymentTarget_fx hSource hValid
  have hOther : ∀ {sourceAsset}, context.asset sourceAmount.1.assetCode = .ok sourceAsset →
      asset.assetCode ≠ sourceAsset.assetCode := by
    intro sourceAsset hSourceAsset
    rw [asset_ok hAsset, asset_ok hSourceAsset]
    exact hAssets.symm
  unfold compileFxCardPayment
  simp only [raises_bind, raises_fetch, fetch_eq_ok, gateway_stays, and_false, false_or,
    asset_raises, normalizeAmount_raises, account_raises_iff, internal_raises,
    requireDistinctAccounts_raises, category_raises_iff, hFee, hCategory, reduceCtorEq,
    false_and, Option.some.injEq, exists_eq_left']
  constructor
  · rintro ⟨cardAccount, hCardAccount, sourceAsset, hSourceAsset, target, hTarget, source,
      hSourceUnits, fee, hFeeUnits, h⟩
    have hRead : FxRead u context entry asset sourceAsset target source fee cardAccount
        feeCategory :=
      ⟨⟨sourceAmount, hSource, hSourceAsset, hSourceUnits⟩, hTarget, ⟨feeAmount, hFee, hFeeUnits⟩,
        hCardAccount, hCategory⟩
    obtain hFunding | ⟨funding, hFunding, hCard | ⟨card, hCard, sourceTrading, hSourceTrading,
      targetTrading, hTargetTrading, feeClearing, hFeeClearing, _, hDistinct,
      hUnaskable | ⟨category, hResolved, h⟩⟩⟩ := h
    · exact .inl ⟨_, _, _, _, _, _, hRead, .inl hFunding⟩
    · exact .inl ⟨_, _, _, _, _, _, hRead, .inr (.inl ⟨funding, hFunding, hCard⟩)⟩
    · exact .inl ⟨_, _, _, _, _, _, hRead, .inr (.inr ⟨_, _, _, _, _, ⟨hFunding, hCard,
        hSourceTrading, hTargetTrading, hFeeClearing, require_eq_ok.1 hDistinct⟩,
        hUnaskable⟩)⟩
    · have hAccounts : FxAccounts u context entry asset sourceAsset cardAccount funding card
          sourceTrading targetTrading feeClearing :=
        ⟨hFunding, hCard, hSourceTrading, hTargetTrading, hFeeClearing,
          require_eq_ok.1 hDistinct⟩
      have hPostable := hAccounts.postable (hOther hSourceAsset)
      refine .inr ⟨_, _, _, _, _, _, _, _, _, _, _, category, hRead, hAccounts, hResolved, ?_⟩
      have hFeePositive := normalizeAmount_positive hFeeUnits
      obtain h | ⟨postings, hPostings, h⟩ := h
      · exact (fxPostings_raises_iff hLoaded hPostable
          ⟨normalizeAmount_positive hTarget, normalizeAmount_limit hTarget⟩
          (normalizeAmount_positive hSourceUnits) hFeePositive).1 h
      · obtain ⟨plan, hPlan⟩ := fxPlan_total hLoaded hFeePositive hPostable.hAssets hPostings
        rw [hPlan] at h
        exact absurd h raises_ok
  · -- what is read of the two cases is what the compiler reads
    have hReads : ∀ {sourceAsset target source fee cardAccount category},
        FxRead u context entry asset sourceAsset target source fee cardAccount category →
        context.asset sourceAmount.1.assetCode = .ok sourceAsset
          ∧ normalizeAmount u sourceAmount.1 sourceAsset false = .ok source
          ∧ normalizeAmount u feeAmount.1 sourceAsset false = .ok fee
          ∧ category = feeCategory := by
      rintro sourceAsset target source fee cardAccount category
        ⟨⟨_, hSame, hSourceAsset, hSourceUnits⟩, -, ⟨_, hSameFee, hFeeUnits⟩, -, hSameCategory⟩
      cases hSource.symm.trans hSame
      cases hFee.symm.trans hSameFee
      cases hCategory.symm.trans hSameCategory
      exact ⟨hSourceAsset, hSourceUnits, hFeeUnits, rfl⟩
    rintro (⟨sourceAsset, target, source, fee, cardAccount, category, hRead, h⟩ | ⟨sourceAsset,
      target, source, fee, cardAccount, _, funding, card, sourceTrading, targetTrading,
      feeClearing, category, hRead, hAccounts, hResolved, hUnits⟩)
    · obtain ⟨hSourceAsset, hSourceUnits, hFeeUnits, rfl⟩ := hReads hRead
      refine ⟨cardAccount, hRead.hCard, sourceAsset, hSourceAsset, target, hRead.hTarget, source,
        hSourceUnits, fee, hFeeUnits, ?_⟩
      obtain hFunding | ⟨funding, hFunding, hCard⟩ | ⟨funding, card, sourceTrading,
        targetTrading, feeClearing, hAccounts, hUnaskable⟩ := h
      · exact .inl hFunding
      · exact .inr ⟨funding, hFunding, .inl hCard⟩
      · exact .inr ⟨funding, hAccounts.hFunding, .inr ⟨card, hAccounts.hCard, sourceTrading,
          hAccounts.hSourceTrading, targetTrading, hAccounts.hTargetTrading, feeClearing,
          hAccounts.hFeeClearing, (), require_eq_ok.2 hAccounts.hDistinct, .inl hUnaskable⟩⟩
    · obtain ⟨hSourceAsset, hSourceUnits, hFeeUnits, rfl⟩ := hReads hRead
      have hPostable : FxPostable context asset.assetCode sourceAsset.assetCode card
          targetTrading sourceTrading feeClearing funding :=
        hAccounts.postable (hOther hSourceAsset)
      have hPostings := (fxPostings_raises_iff hLoaded hPostable
        ⟨normalizeAmount_positive hRead.hTarget, normalizeAmount_limit hRead.hTarget⟩
        (normalizeAmount_positive hSourceUnits) (normalizeAmount_positive hFeeUnits)).2 hUnits
      exact ⟨cardAccount, hRead.hCard, sourceAsset, hSourceAsset, target, hRead.hTarget, source,
        hSourceUnits, fee, hFeeUnits, .inr ⟨funding, hAccounts.hFunding, .inr ⟨card,
          hAccounts.hCard, sourceTrading, hAccounts.hSourceTrading, targetTrading,
          hAccounts.hTargetTrading, feeClearing, hAccounts.hFeeClearing, (),
          require_eq_ok.2 hAccounts.hDistinct, .inr ⟨category, hResolved, .inl hPostings⟩⟩⟩⟩

theorem compileCardPayment_raises_iff (hLoaded : LoadedContext uuid5 context)
    {entry : CreditCardPaymentEntryInput} (hValid : entry.validatePaymentTarget = .ok ())
    (hAsset : context.asset entry.amount.1.assetCode = .ok asset) :
    Raises EntryError.Escapes (compileCardPayment u uuid5 context entry asset)
      ↔ (CardPaymentUnaskable u context entry asset ∨ FxUnaskable u context entry asset)
        ∨ FxOverflows u context entry asset := by
  cases hSource : entry.sourceAmount with
  | none =>
      have hNotFx : ∀ {sourceAsset target source fee cardAccount category},
          ¬FxRead u context entry asset sourceAsset target source fee cardAccount category := by
        intro _ _ _ _ _ _ hRead
        obtain ⟨_, hSome, -⟩ := hRead.hSource
        exact nomatch hSource.symm.trans hSome
      rw [sameAssetPayment_raises_iff hLoaded hSource, or_assoc]
      refine (or_iff_left ?_).symm
      rintro (⟨_, _, _, _, _, _, hRead, -⟩ | ⟨_, _, _, _, _, _, _, _, _, _, _, _, hRead, -⟩)
      · exact hNotFx hRead
      · exact hNotFx hRead
  | some sourceAmount =>
      have hNotSame : ¬CardPaymentUnaskable u context entry asset := by
        rintro ⟨_, _, hNone, -⟩
        exact nomatch hSource.symm.trans hNone
      rw [or_iff_right hNotSame, ← compileFxCardPayment_raises_iff hLoaded hSource hValid hAsset]
      unfold compileCardPayment
      rw [hSource]

end Kinds

/-! ## Every entry -/

section Entries

variable (u : UnicodeTables) (context : EntryCompilationContext)

/-- The references of an entry in an asset are resolved up to one that cannot be asked
for. -/
def UnaskableIn (asset : EntryAsset) : EverydayEntry → Prop
  | .expense entry => ExpenseUnaskable u context entry asset
  | .income entry => IncomeUnaskable u context entry asset
  | .transfer entry => TransferUnaskable u context entry asset
  | .creditCardPayment entry =>
      CardPaymentUnaskable u context entry asset ∨ FxUnaskable u context entry asset
  | .refund entry => RefundUnaskable u context entry asset
  | .adjustment entry => AdjustmentUnaskable u context entry asset

/-- The units that are worked out for an entry in an asset are past the limit. -/
def OverflowsIn (asset : EntryAsset) : EverydayEntry → Prop
  | .creditCardPayment entry => FxOverflows u context entry asset
  | .refund entry => RefundOverflows u context entry asset
  | .adjustment entry => AdjustmentOverflows u context entry asset
  | _ => False

/-- The compiler finds the asset of the entry, and in it a reference that cannot be asked
for. -/
def Unaskable (entry : EverydayEntry) : Prop :=
  ∃ assetCode asset, entryAssetCode context entry = .ok assetCode
    ∧ context.asset assetCode = .ok asset ∧ UnaskableIn u context asset entry

/-- The compiler finds the asset of the entry, and units past the limit in it. -/
def Overflows (entry : EverydayEntry) : Prop :=
  ∃ assetCode asset, entryAssetCode context entry = .ok assetCode
    ∧ context.asset assetCode = .ok asset ∧ OverflowsIn u context asset entry

variable {u context} {uuid5 : UUID → String → UUID}

/-- What is compiled once the asset is found. -/
def compileIn (u : UnicodeTables) (uuid5 : UUID → String → UUID)
    (context : EntryCompilationContext) (asset : EntryAsset) :
    EverydayEntry → Except EntryError CompiledEntry
  | .expense entry => compileExpense u uuid5 context entry asset
  | .income entry => compileIncome u uuid5 context entry asset
  | .transfer entry => compileTransfer u uuid5 context entry asset
  | .creditCardPayment entry => compileCardPayment u uuid5 context entry asset
  | .refund entry => compileRefund u uuid5 context entry asset
  | .adjustment entry => compileAdjustment u uuid5 context entry asset

theorem compileEntry_eq {entry : EverydayEntry} :
    compileEntry u uuid5 context entry
      = (entryAssetCode context entry >>= fun assetCode =>
        context.asset assetCode >>= fun asset => compileIn u uuid5 context asset entry) := by
  cases entry <;> rfl

theorem entryAssetCode_raises {entry : EverydayEntry} :
    ¬Raises EntryError.Escapes (entryAssetCode context entry) := by
  cases entry with
  | refund entry =>
      simp only [entryAssetCode]
      split
      · exact raises_ok
      · simp only [raises_bind, raises_fetch, gateway_stays, and_false, raises_pure,
          exists_false, or_self, not_false_eq_true]
  | _ => exact raises_ok

theorem compileIn_raises_iff (hLoaded : LoadedContext uuid5 context) {assetCode : AssetCode}
    {asset : EntryAsset} {entry : EverydayEntry} (hValid : entry.validate = .ok ())
    (hCode : entryAssetCode context entry = .ok assetCode)
    (hAsset : context.asset assetCode = .ok asset) :
    Raises EntryError.Escapes (compileIn u uuid5 context asset entry)
      ↔ UnaskableIn u context asset entry ∨ OverflowsIn u context asset entry := by
  cases entry with
  | expense entry =>
      exact (compileExpense_raises_iff hLoaded hValid).trans (or_iff_left not_false).symm
  | income entry =>
      exact (compileIncome_raises_iff hLoaded hValid).trans (or_iff_left not_false).symm
  | transfer entry => exact (compileTransfer_raises_iff hLoaded).trans (or_iff_left not_false).symm
  | creditCardPayment entry =>
      cases hCode
      exact compileCardPayment_raises_iff hLoaded hValid hAsset
  | refund entry => exact compileRefund_raises_iff hLoaded hValid
  | adjustment entry => exact compileAdjustment_raises_iff hLoaded

/-- What escapes the compiler are choices that no clarification carries, and units that no
posting has. -/
theorem compileEntry_raises_iff (hLoaded : LoadedContext uuid5 context)
    {entry : EverydayEntry} (hValid : entry.validate = .ok ()) :
    Raises EntryError.Escapes (compileEntry u uuid5 context entry)
      ↔ Unaskable u context entry ∨ Overflows u context entry := by
  rw [compileEntry_eq]
  simp only [raises_bind, entryAssetCode_raises, asset_raises, false_or]
  constructor
  · rintro ⟨assetCode, hCode, asset, hAsset, h⟩
    obtain hUnaskable | hOverflows := (compileIn_raises_iff hLoaded hValid hCode hAsset).1 h
    · exact .inl ⟨assetCode, asset, hCode, hAsset, hUnaskable⟩
    · exact .inr ⟨assetCode, asset, hCode, hAsset, hOverflows⟩
  · rintro (⟨assetCode, asset, hCode, hAsset, hUnaskable⟩ | ⟨assetCode, asset, hCode, hAsset,
      hOverflows⟩)
    · exact ⟨assetCode, hCode, asset, hAsset,
        (compileIn_raises_iff hLoaded hValid hCode hAsset).2 (.inl hUnaskable)⟩
    · exact ⟨assetCode, hCode, asset, hAsset,
        (compileIn_raises_iff hLoaded hValid hCode hAsset).2 (.inr hOverflows)⟩

/-- Only gateway errors are raised, except where a reference cannot be asked for or the
units that are worked out are past the limit. -/
theorem compileEntry_raisesOnly_iff (hLoaded : LoadedContext uuid5 context)
    (entry : EverydayEntryInput) :
    RaisesOnly EntryError.IsGateway (compileEntry u uuid5 context entry.1)
      ↔ ¬(Unaskable u context entry.1 ∨ Overflows u context entry.1) := by
  rw [raisesOnly_iff, ← compileEntry_raises_iff hLoaded entry.2]
  rfl

end Entries

/-! ### A sample overflow -/

/-- A way to derive ids from the bytes of a name, quick to work out. -/
def sampleBytesUuid5 (parent : UUID) (name : String) : UUID :=
  Fin.ofNat _ (name.toByteArray.data.toList.foldl
    (fun digest byte => 131 * digest + byte.toNat) parent.1)

/-- The sample Book, with one cent overdrawn. -/
def sampleOverdrawn : EntryCompilationContext :=
  { sampleEntryContext with currentBalanceUnits := some (-100) }

/-- The most that an amount of the sample currency may be. -/
def sampleMost : AmountFields :=
  ⟨"9999999999999999999999999999999999.99", .assetUnit, sampleAsset,
    "9999999999999999999999999999999999.99"⟩

theorem sampleMost_validates : AmountFields.validateBalance sampleMost = .ok sampleMost := by
  decide

/-- Its wallet is said to hold the most. -/
def sampleFarAdjustment : EverydayEntryInput :=
  ⟨.adjustment
    { occurredAt := ⟨⟨sampleDate, 0⟩, 0⟩
      narrative := none
      account := .ofId 3
      actualBalance := ⟨sampleMost, sampleMost, sampleMost_validates⟩ }, rfl⟩

theorem sampleOverdrawn_loaded : LoadedContext sampleBytesUuid5 sampleOverdrawn where
  accounts := by decide
  shapes := by decide
  newTransaction := fun _ hNone => nomatch hNone
  originalUnits := fun _ hNone => nomatch hNone
  originalLines := fun _ hNone => nomatch hNone
  postingIds := by decide +kernel
  lineIds := by decide +kernel

theorem compileEntry_raisesOnly_iff_sample :
    LoadedContext sampleBytesUuid5 sampleOverdrawn
      ∧ (RaisesOnly EntryError.IsGateway
          (compileEntry sampleUnicode sampleBytesUuid5 sampleOverdrawn sampleFarAdjustment.1)
        ↔ ¬(Unaskable sampleUnicode sampleOverdrawn sampleFarAdjustment.1
          ∨ Overflows sampleUnicode sampleOverdrawn sampleFarAdjustment.1)) :=
  ⟨sampleOverdrawn_loaded, compileEntry_raisesOnly_iff sampleOverdrawn_loaded _⟩

theorem sampleFarAdjustment_overflows :
    Overflows sampleUnicode sampleOverdrawn sampleFarAdjustment.1 :=
  ⟨sampleAsset, sampleCurrency, by decide, by decide,
    ⟨10 ^ 38 - 100, 4, sampleAsset⟩, sampleEntryAccount 3 .asset none .standard, -100,
    sampleEntryAccount 5 .equity none .balanceAdjustment, by decide +kernel, by decide +kernel,
    rfl, by decide, by decide⟩

/-- A difference past the limit raises an error of the journal. -/
theorem adjustment_past_limit_escapes :
    LoadedContext sampleBytesUuid5 sampleOverdrawn
      ∧ ¬RaisesOnly EntryError.IsGateway
        (compileEntry sampleUnicode sampleBytesUuid5 sampleOverdrawn sampleFarAdjustment.1) := by
  refine ⟨sampleOverdrawn_loaded, fun hOnly => raisesOnly_iff.1 hOnly ?_⟩
  exact (compileEntry_raises_iff sampleOverdrawn_loaded sampleFarAdjustment.2).2
    (.inr sampleFarAdjustment_overflows)

end TrackAnywhere.Ports
