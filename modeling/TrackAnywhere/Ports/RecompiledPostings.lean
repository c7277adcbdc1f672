import TrackAnywhere.Ports.PreparedPayloads

/-!
# Postings of a commit

A commit is refused as stale when its preview or its references differ from those
that were prepared.  They show the amounts and the accounts that the entry names;
the clearing account of the Book, the account that a refund goes back to, and the
side of an adjustment are not among them.
-/

namespace TrackAnywhere.Ports

open TrackAnywhere.Verified
open TrackAnywhere.Verified.Checked
open TrackAnywhere.Verified.FixedPoint

/-! ## What the references do not show -/

/-- What the postings of a plan say. -/
def CompiledEntry.posted (plan : CompiledEntry) : Except EntryError (List PostedUnits) :=
  (planFinancial plan).map fun financial => financial.postings.map (·.posted)

section Unnamed

variable (u : UnicodeTables) (context : EntryCompilationContext)

def internalId (assetCode : AssetCode) (role : AccountSystemRole) : Option UUID :=
  (context.internal assetCode role).toOption.map (·.accountId)

/-- The clearing account of an entry that goes over one. -/
def clearingId : EverydayEntry → Option UUID
  | .expense entry => internalId context entry.amount.1.assetCode .expenseClearing
  | .income entry => internalId context entry.amount.1.assetCode .incomeClearing
  | .transfer _ => none
  | .creditCardPayment entry =>
      entry.sourceAmount.bind fun source =>
        internalId context source.1.assetCode .expenseClearing
  | .refund entry =>
      (entryAssetCode context (.refund entry)).toOption.bind fun assetCode =>
        internalId context assetCode .expenseClearing
  | .adjustment entry =>
      internalId context entry.actualBalance.1.assetCode .balanceAdjustment

/-- The account that a refund goes back to. -/
def refundedId : Option UUID :=
  context.originalEntry.bind fun original =>
    if original.kind = .creditCardCharge then original.cardAccountId
    else original.sourceAccountId

/-- Whether an adjustment is over the balance of its account. -/
def RaisesBalance (entry : AdjustmentEntryInput) : Prop :=
  ∃ asset actual current, context.asset entry.actualBalance.1.assetCode = .ok asset
    ∧ normalizeAmount u entry.actualBalance.1 asset true = .ok actual
    ∧ context.currentBalanceUnits = some current ∧ current < actual.units

/-- What the references of an entry do not show is the same in two Books. -/
structure SameUnnamed (later : EntryCompilationContext) (entry : EverydayEntry) : Prop where
  clearing : clearingId later entry = clearingId context entry
  refunded : ∀ refund, entry = .refund refund → refundedId later = refundedId context
  direction : ∀ adjustment, entry = .adjustment adjustment →
    (RaisesBalance u later adjustment ↔ RaisesBalance u context adjustment)

end Unnamed

/-! ## What the preview shows -/

theorem fractionLength_formatUnits (n scale : Nat) :
    fractionLength (Gateway.formatUnits n scale) = scale := by
  obtain ⟨-, hFraction⟩ := partitionDot_joinDot
    (digits_append_iff.1 (digits_at scale n)).1 (fractionAt scale n)
  rw [Gateway.formatUnits_eq, fractionLength, hFraction, length_fractionAt]

/-- Written units determine the units and the scale. -/
theorem formatUnits_injective {n m scale other : Nat}
    (h : Gateway.formatUnits n scale = Gateway.formatUnits m other) : n = m ∧ scale = other := by
  have hScale : scale = other := by
    rw [← fractionLength_formatUnits n scale, h, fractionLength_formatUnits]
  subst hScale
  have hValue : (n : ℚ) = m := by
    rw [← decimalValue_formatUnits n scale, h, decimalValue_formatUnits]
  exact ⟨Nat.cast_injective hValue, rfl⟩

/-- Two legs that are shown as the same amount have the same units of the same asset. -/
theorem of_injective {n m scale other : Nat} {first second : AssetCode}
    (h : PreviewMoney.of (Gateway.formatUnits n scale) first
      = .of (Gateway.formatUnits m other) second) : n = m ∧ first = second :=
  ⟨(formatUnits_injective (congrArg PreviewMoney.value h)).1, congrArg PreviewMoney.assetCode h⟩

section Shown

variable {u : UnicodeTables} {uuid5 : UUID → String → UUID}
  {context : EntryCompilationContext} {entry : EverydayEntry} {draft : EntryDraft}
  {plan : CompiledEntry} {preview : EntryPreview} {resolved : ResolvedEntryReferences}

theorem posting_of_legs {financial : EntryFinancial} {legs : List PostedUnits}
    (h : financial.postings.map (·.posted) = legs) {index : Nat} {posting : JournalPostingFact}
    (hPosting : financial.posting index = .ok posting) : legs[index]? = some posting.posted := by
  rw [← h, List.getElem?_map, fetch_eq_ok.1 hPosting]
  rfl

/-- A preview shows the amount of the first leg. -/
theorem preview_amount {leg : PostedUnits} {legs : List PostedUnits}
    (hPlan : draft.plan uuid5 context entry = .ok plan)
    (hLegs : draft.financial.postings.map (·.posted) = leg :: legs)
    (h : previewAndResolved context entry plan = .ok (preview, resolved)) :
    ∃ scale, preview.amount = .of (Gateway.formatUnits leg.units scale) leg.assetCode := by
  obtain ⟨hFinancial, -⟩ := plan_facts hPlan
  unfold previewAndResolved at h
  rw [hFinancial] at h
  simp only [bind_eq_ok, Except.ok.injEq, exists_eq_left'] at h
  obtain ⟨first, hFirst, asset, -, lines, -, references, -, accounts, -, paths, -, h⟩ := h
  have hLeg := Option.some.inj (posting_of_legs hLegs hFirst)
  refine ⟨asset.ledgerScale, ?_⟩
  split at h
  · obtain ⟨cross, -, h⟩ := bind_eq_ok.1 h
    cases h
    rw [hLeg]
    rfl
  · cases h
    rw [hLeg]
    rfl

/-- The preview of a cross-asset payment shows its source and its fee too. -/
theorem preview_crossAsset {card targetTrading source fee funding : PostedUnits}
    (hCross : entry.isCrossAsset = true)
    (hPlan : draft.plan uuid5 context entry = .ok plan)
    (hLegs : draft.financial.postings.map (·.posted)
      = [card, targetTrading, source, fee, funding])
    (h : previewAndResolved context entry plan = .ok (preview, resolved)) :
    ∃ scale code,
      preview.sourceAmount = some (.of (Gateway.formatUnits source.units scale) code)
        ∧ preview.feeAmount = some (.of (Gateway.formatUnits fee.units scale) code) := by
  obtain ⟨hFinancial, -⟩ := plan_facts hPlan
  unfold previewAndResolved at h
  rw [hFinancial] at h
  simp only [bind_eq_ok, Except.ok.injEq, exists_eq_left'] at h
  obtain ⟨first, -, asset, -, lines, -, references, -, accounts, -, paths, -, h⟩ := h
  rw [if_pos hCross] at h
  obtain ⟨cross, hShown, h⟩ := bind_eq_ok.1 h
  cases h
  simp only [crossAssetPreview, bind_eq_ok, pure_eq_ok] at hShown
  obtain ⟨third, hThird, fourth, hFourth, fifth, -, sourceAsset, -, rfl⟩ := hShown
  have hSource := Option.some.inj (posting_of_legs hLegs hThird)
  have hFee := Option.some.inj (posting_of_legs hLegs hFourth)
  exact ⟨sourceAsset.ledgerScale, sourceAsset.assetCode, by rw [hSource]; rfl,
    by rw [hFee]; rfl⟩

end Shown

/-! ## The legs of a plan -/

/-- The legs of an entry: what its references name, and what they do not. -/
inductive PostsAs (u : UnicodeTables) (context : EntryCompilationContext) :
    EverydayEntry → ResolvedEntryReferences → List PostedUnits → Prop
  | expense {entry : ExpenseEntryInput} {resolved : ResolvedEntryReferences}
      {source clearing : UUID} {units : Nat}
      (hSource : resolved.sourceAccountId = some source)
      (hClearing : clearingId context (.expense entry) = some clearing) :
      PostsAs u context (.expense entry) resolved
        [⟨clearing, entry.amount.1.assetCode, .debit, units⟩,
          ⟨source, entry.amount.1.assetCode, .credit, units⟩]
  | income {entry : IncomeEntryInput} {resolved : ResolvedEntryReferences}
      {destination clearing : UUID} {units : Nat}
      (hDestination : resolved.destinationAccountId = some destination)
      (hClearing : clearingId context (.income entry) = some clearing) :
      PostsAs u context (.income entry) resolved
        [⟨destination, entry.amount.1.assetCode, .debit, units⟩,
          ⟨clearing, entry.amount.1.assetCode, .credit, units⟩]
  | transfer {entry : TransferEntryInput} {resolved : ResolvedEntryReferences}
      {source destination : UUID} {units : Nat}
      (hSource : resolved.sourceAccountId = some source)
      (hDestination : resolved.destinationAccountId = some destination) :
      PostsAs u context (.transfer entry) resolved
        [⟨destination, entry.amount.1.assetCode, .debit, units⟩,
          ⟨source, entry.amount.1.assetCode, .credit, units⟩]
  | cardPayment {entry : CreditCardPaymentEntryInput} {resolved : ResolvedEntryReferences}
      {funding card : UUID} {units : Nat} (hSame : entry.sourceAmount = none)
      (hFunding : resolved.fundingAccountId = some funding)
      (hCard : resolved.cardAccountId = some card) :
      PostsAs u context (.creditCardPayment entry) resolved
        [⟨card, entry.amount.1.assetCode, .debit, units⟩,
          ⟨funding, entry.amount.1.assetCode, .credit, units⟩]
  | fxCardPayment {entry : CreditCardPaymentEntryInput} {resolved : ResolvedEntryReferences}
      {sourceAmount : MoneyInput} {funding card sourceTrading targetTrading clearing : UUID}
      {units sourceUnits feeUnits : Nat} (hCross : entry.sourceAmount = some sourceAmount)
      (hFunding : resolved.fundingAccountId = some funding)
      (hCard : resolved.cardAccountId = some card)
      (hSource : resolved.sourceTradingAccountId = some sourceTrading)
      (hTarget : resolved.targetTradingAccountId = some targetTrading)
      (hClearing : clearingId context (.creditCardPayment entry) = some clearing) :
      PostsAs u context (.creditCardPayment entry) resolved
        [⟨card, entry.amount.1.assetCode, .debit, units⟩,
          ⟨targetTrading, entry.amount.1.assetCode, .credit, units⟩,
          ⟨sourceTrading, sourceAmount.1.assetCode, .debit, sourceUnits⟩,
          ⟨clearing, sourceAmount.1.assetCode, .debit, feeUnits⟩,
          ⟨funding, sourceAmount.1.assetCode, .credit, sourceUnits + feeUnits⟩]
  | refund {entry : RefundEntryInput} {resolved : ResolvedEntryReferences}
      {assetCode : AssetCode} {account clearing : UUID} {units : Nat}
      (hAccount : refundedId context = some account)
      (hClearing : clearingId context (.refund entry) = some clearing) :
      PostsAs u context (.refund entry) resolved
        [⟨account, assetCode, .debit, units⟩, ⟨clearing, assetCode, .credit, units⟩]
  | raised {entry : AdjustmentEntryInput} {resolved : ResolvedEntryReferences}
      {account clearing : UUID} {units : Nat} (hRaises : RaisesBalance u context entry)
      (hAccount : resolved.adjustedAccountId = some account)
      (hClearing : clearingId context (.adjustment entry) = some clearing)
      (hDistinct : account ≠ clearing) :
      PostsAs u context (.adjustment entry) resolved
        [⟨account, entry.actualBalance.1.assetCode, .debit, units⟩,
          ⟨clearing, entry.actualBalance.1.assetCode, .credit, units⟩]
  | lowered {entry : AdjustmentEntryInput} {resolved : ResolvedEntryReferences}
      {account clearing : UUID} {units : Nat} (hLowers : ¬RaisesBalance u context entry)
      (hAccount : resolved.adjustedAccountId = some account)
      (hClearing : clearingId context (.adjustment entry) = some clearing)
      (hDistinct : account ≠ clearing) :
      PostsAs u context (.adjustment entry) resolved
        [⟨clearing, entry.actualBalance.1.assetCode, .debit, units⟩,
          ⟨account, entry.actualBalance.1.assetCode, .credit, units⟩]

section Legs

variable {u : UnicodeTables} {uuid5 : UUID → String → UUID}
  {context : EntryCompilationContext} {entry : EverydayEntry} {draft : EntryDraft}
  {plan : CompiledEntry} {preview : EntryPreview} {resolved : ResolvedEntryReferences}

theorem internalId_eq {assetCode : AssetCode} {role : AccountSystemRole} {account : EntryAccount}
    (h : context.internal assetCode role = .ok account) :
    internalId context assetCode role = some account.accountId := by
  unfold internalId
  rw [h]
  rfl

/-- What is drafted of an entry has the legs of its kind. -/
theorem Drafts.posts (hIds : CatalogIds context) (hDrafts : Drafts u uuid5 context entry draft)
    (hPlan : draft.plan uuid5 context entry = .ok plan)
    (hPreview : previewAndResolved context entry plan = .ok (preview, resolved)) :
    PostsAs u context entry resolved (draft.financial.postings.map (·.posted)) := by
  obtain ⟨references, lines, hReferences, -, rfl⟩ := previewAndResolved_facts hPlan hPreview
  clear hPreview hPlan
  cases hDrafts with
  | @expense entry asset amount reference source clearing allocations postings hAsset hAmount
      hReference hSource hClearing hAllocations hPostings =>
      obtain ⟨-, hDrafted, hCard⟩ : _ ∧ _ ∧ _ := expenseDraft_facts
      have hMoves : EntryFinancial.Moves (expenseDraft context source clearing allocations
        postings).financial asset.assetCode amount.units clearing.accountId source.accountId :=
          (congrArg _ hDrafted).trans (twoPostings_facts hPostings)
      have hInternal := internalId_eq hClearing
      rw [references_expense hMoves hCard, Except.ok.injEq] at hReferences
      subst hReferences
      rw [asset_ok hAsset] at hMoves hInternal
      rw [hMoves]
      exact .expense rfl hInternal
  | @income entry asset amount destination clearing allocations postings hAsset hAmount
      hDestination hClearing hAllocations hPostings =>
      have hMoves : EntryFinancial.Moves (.posted ⟨context.transactionId, .standard, none,
        postings, none, []⟩) asset.assetCode amount.units destination.accountId
          clearing.accountId := twoPostings_facts hPostings
      have hInternal := internalId_eq hClearing
      rw [references_income hMoves, Except.ok.injEq] at hReferences
      subst hReferences
      rw [asset_ok hAsset] at hMoves hInternal
      rw [hMoves]
      exact .income rfl hInternal
  | @transfer entry asset amount source destination postings hAsset hAmount hSource hDestination
      hDistinct hPostings =>
      have hMoves : EntryFinancial.Moves (.posted ⟨context.transactionId, .transfer, none,
        postings, none, []⟩) asset.assetCode amount.units destination.accountId
          source.accountId := twoPostings_facts hPostings
      rw [references_transfer hMoves, Except.ok.injEq] at hReferences
      subst hReferences
      rw [asset_ok hAsset] at hMoves
      rw [hMoves]
      exact .transfer rfl rfl
  | @cardPayment entry asset amount reference funding card postings hSame hAsset hAmount
      hReference hFunding hCard hDistinct hPostings =>
      have hMoves := twoPostings_facts hPostings
      rw [references_cardPayment hSame, Except.ok.injEq] at hReferences
      subst hReferences
      rw [show EntryFinancial.postings _ = postings from rfl, hMoves, asset_ok hAsset]
      exact .cardPayment hSame rfl rfl
  | @fxCardPayment entry sourceAmount feeAmount feeReference reference target source targetUnits
      sourceUnits feeUnits funding card sourceTrading targetTrading feeClearing category postings
      hSourceAmount hFeeAmount hFeeReference hReference hTarget hSource hTargetUnits hSourceUnits
      hFeeUnits hFunding hCard hSourceTrading hTargetTrading hFeeClearing hDistinct hCategory
      hPostings =>
      have hCross : entry.sourceAmount ≠ none := by
        rw [hSourceAmount]
        exact Option.some_ne_none _
      have hInternal := internalId_eq hFeeClearing
      rw [references_fxCardPayment hCross (mixedPostings_facts hPostings), Except.ok.injEq]
        at hReferences
      subst hReferences
      rw [asset_ok hSource] at hInternal
      rw [show EntryFinancial.postings _ = postings from rfl, mixedPostings_facts hPostings]
      simp only [List.map_cons, List.map_nil, PostingLeg.posted, asset_ok hTarget,
        asset_ok hSource]
      refine .fxCardPayment hSourceAmount rfl rfl rfl rfl ?_
      show entry.sourceAmount.bind _ = _
      rw [hSourceAmount]
      exact hInternal
  | @refund entry asset assetCode original amount clearing allocations refunded hCode hAsset
      hOriginal hSame hAmount hUnits hClearing hAllocations hFinancial =>
      cases hReferences
      obtain ⟨account, -, hMoves, hCharge, hExpense⟩ := refundFinancial_ok hFinancial
      obtain ⟨hFound, -⟩ := Option.filter_eq_some_iff.1 hOriginal
      have hInternal := internalId_eq hClearing
      rw [asset_ok hAsset] at hInternal
      show PostsAs u context _ _ (refunded.1.postings.map (·.posted))
      rw [hMoves]
      refine .refund ?_ ?_
      · unfold refundedId
        rw [hFound, Option.bind_some]
        by_cases hKind : original.kind = .creditCardCharge
        · rw [if_pos hKind, (hCharge hKind).1]
        · rw [if_neg hKind, (hExpense hKind).2.1]
      · show (entryAssetCode context (.refund entry)).toOption.bind _ = _
        rw [hCode]
        exact hInternal
  | @adjustment entry asset actual account clearing current postings hAsset hActual hAccount
      hCurrent hDifferent hClearing hPostings =>
      have hRaises : RaisesBalance u context entry ↔ 0 < (actual.units - current : Int) := by
        unfold RaisesBalance
        rw [hAsset, hCurrent]
        constructor
        · rintro ⟨_, other, _, ⟨⟩, hOther, ⟨⟩, hLess⟩
          rw [hActual, Except.ok.injEq] at hOther
          rw [hOther]
          omega
        · exact fun hLess => ⟨asset, actual, current, rfl, hActual, rfl, by omega⟩
      have hInternal := internalId_eq hClearing
      rw [asset_ok hAsset] at hInternal
      by_cases hLess : 0 < (actual.units - current : Int)
      · rw [if_pos hLess] at hPostings
        have hMoves : EntryFinancial.Moves (.posted ⟨context.transactionId, .adjustment, none,
            postings, none, []⟩) asset.assetCode (actual.units - current : Int).natAbs
            account.accountId clearing.accountId := twoPostings_facts hPostings
        rw [references_adjustment hIds.accounts (account_ok hAccount) (internal_ok hClearing)
          (.inl hMoves), Except.ok.injEq] at hReferences
        subst hReferences
        rw [asset_ok hAsset] at hMoves
        rw [hMoves]
        exact .raised (hRaises.2 hLess) rfl hInternal (twoPostings_distinct hPostings)
      · rw [if_neg hLess] at hPostings
        have hMoves : EntryFinancial.Moves (.posted ⟨context.transactionId, .adjustment, none,
            postings, none, []⟩) asset.assetCode (actual.units - current : Int).natAbs
            clearing.accountId account.accountId := twoPostings_facts hPostings
        rw [references_adjustment hIds.accounts (account_ok hAccount) (internal_ok hClearing)
          (.inr hMoves), Except.ok.injEq] at hReferences
        subst hReferences
        rw [asset_ok hAsset] at hMoves
        rw [hMoves]
        exact .lowered (fun h => hLess (hRaises.1 h)) rfl hInternal
          (twoPostings_distinct hPostings).symm

end Legs

section Compared

variable {u : UnicodeTables} {uuid5 : UUID → String → UUID} {ilike : String → String → Bool}
  {moment laterMoment : InstrumentMoment} {t laterTables : InstrumentTables}
  {context later : EntryCompilationContext} {entry input : EverydayEntry}
  {plan again : CompiledEntry} {preview shown : EntryPreview}
  {resolved : ResolvedEntryReferences} {legs others : List PostedUnits}
  {payload : PreparedPayload}

/-- The legs of a stored entry are legs of the entry. -/
theorem PostsAs.of_restored (h : PostsAs u context (entry.restored resolved) resolved legs) :
    PostsAs u context entry resolved legs := by
  cases entry with
  | expense entry =>
      cases h with
      | expense hSource hClearing => exact .expense hSource hClearing
  | income entry =>
      cases h with
      | income hDestination hClearing => exact .income hDestination hClearing
  | transfer entry =>
      cases h with
      | transfer hSource hDestination => exact .transfer hSource hDestination
  | creditCardPayment entry =>
      cases h with
      | cardPayment hSame hFunding hCard => exact .cardPayment hSame hFunding hCard
      | fxCardPayment hCross hFunding hCard hSource hTarget hClearing =>
          exact .fxCardPayment hCross hFunding hCard hSource hTarget hClearing
  | refund entry =>
      cases h with
      | refund hAccount hClearing => exact .refund hAccount hClearing
  | adjustment entry =>
      cases h with
      | raised hRaises hAccount hClearing hDistinct =>
          exact .raised hRaises hAccount hClearing hDistinct
      | lowered hLowers hAccount hClearing hDistinct =>
          exact .lowered hLowers hAccount hClearing hDistinct

/-- Legs that are shown alike: of the first the asset and the units, and of a cross-asset
payment the units of the source and of the fee. -/
structure ShownAlike (entry : EverydayEntry) (legs others : List PostedUnits) : Prop where
  first : others.head?.map (fun leg => (leg.assetCode, leg.units))
    = legs.head?.map fun leg => (leg.assetCode, leg.units)
  source : entry.isCrossAsset = true → others[2]?.map (·.units) = legs[2]?.map (·.units)
  fee : entry.isCrossAsset = true → others[3]?.map (·.units) = legs[3]?.map (·.units)

theorem sameUnnamed_iff_clearing (hRefund : ∀ refund, entry ≠ .refund refund)
    (hAdjustment : ∀ adjustment, entry ≠ .adjustment adjustment) :
    SameUnnamed u context later entry ↔ clearingId later entry = clearingId context entry :=
  ⟨fun h => h.clearing, fun h => ⟨h, fun refund hIs => absurd hIs (hRefund refund),
    fun adjustment hIs => absurd hIs (hAdjustment adjustment)⟩⟩

/-- Two legs of one amount are the same exactly where their accounts are. -/
theorem twoLegs_iff {assetCode other : AssetCode} {units otherUnits : Nat}
    {debit credit otherDebit otherCredit : UUID}
    (hShown : ShownAlike entry
      [⟨debit, assetCode, .debit, units⟩, ⟨credit, assetCode, .credit, units⟩]
      [⟨otherDebit, other, .debit, otherUnits⟩, ⟨otherCredit, other, .credit, otherUnits⟩]) :
    ([⟨otherDebit, other, .debit, otherUnits⟩, ⟨otherCredit, other, .credit, otherUnits⟩]
        : List PostedUnits)
        = [⟨debit, assetCode, .debit, units⟩, ⟨credit, assetCode, .credit, units⟩]
      ↔ otherDebit = debit ∧ otherCredit = credit := by
  obtain ⟨rfl, rfl⟩ : other = assetCode ∧ otherUnits = units := by
    simpa using hShown.first
  simp

/-- Legs of one entry that are shown alike are the same exactly where what the references do
not show is the same. -/
theorem PostsAs.same_iff (hShown : ShownAlike entry legs others)
    (h : PostsAs u context entry resolved legs) (hLater : PostsAs u later entry resolved others) :
    others = legs ↔ SameUnnamed u context later entry := by
  cases h with
  | expense hSource hClearing =>
      cases hLater with
      | expense hSource' hClearing' =>
          obtain rfl := Option.some.inj (hSource.symm.trans hSource')
          rw [twoLegs_iff hShown, sameUnnamed_iff_clearing (by rintro _ ⟨⟩) (by rintro _ ⟨⟩),
            hClearing, hClearing']
          simp
  | income hDestination hClearing =>
      cases hLater with
      | income hDestination' hClearing' =>
          obtain rfl := Option.some.inj (hDestination.symm.trans hDestination')
          rw [twoLegs_iff hShown, sameUnnamed_iff_clearing (by rintro _ ⟨⟩) (by rintro _ ⟨⟩),
            hClearing, hClearing']
          simp
  | transfer hSource hDestination =>
      cases hLater with
      | transfer hSource' hDestination' =>
          obtain rfl := Option.some.inj (hSource.symm.trans hSource')
          obtain rfl := Option.some.inj (hDestination.symm.trans hDestination')
          rw [twoLegs_iff hShown, sameUnnamed_iff_clearing (by rintro _ ⟨⟩) (by rintro _ ⟨⟩)]
          exact iff_of_true ⟨rfl, rfl⟩ rfl
  | @cardPayment entry _ _ _ _ hSame hFunding hCard =>
      have hNone : ∀ context, clearingId context (.creditCardPayment entry) = none := by
        intro context
        show entry.sourceAmount.bind _ = none
        rw [hSame]
        rfl
      cases hLater with
      | cardPayment hSame' hFunding' hCard' =>
          obtain rfl := Option.some.inj (hFunding.symm.trans hFunding')
          obtain rfl := Option.some.inj (hCard.symm.trans hCard')
          rw [twoLegs_iff hShown, sameUnnamed_iff_clearing (by rintro _ ⟨⟩) (by rintro _ ⟨⟩),
            hNone, hNone]
          exact iff_of_true ⟨rfl, rfl⟩ rfl
      | fxCardPayment hCross => exact nomatch hSame.symm.trans hCross
  | @fxCardPayment entry _ _ _ _ _ _ _ _ _ _ hCross hFunding hCard hSource hTarget hClearing =>
      have hIs : (EverydayEntry.creditCardPayment entry).isCrossAsset = true := by
        show entry.sourceAmount.isSome = true
        rw [hCross]
        rfl
      cases hLater with
      | cardPayment hSame => exact nomatch hSame.symm.trans hCross
      | fxCardPayment hCross' hFunding' hCard' hSource' hTarget' hClearing' =>
          obtain rfl := Option.some.inj (hCross.symm.trans hCross')
          obtain rfl := Option.some.inj (hFunding.symm.trans hFunding')
          obtain rfl := Option.some.inj (hCard.symm.trans hCard')
          obtain rfl := Option.some.inj (hSource.symm.trans hSource')
          obtain rfl := Option.some.inj (hTarget.symm.trans hTarget')
          have hFirst := hShown.first
          have hThird := hShown.source hIs
          have hFourth := hShown.fee hIs
          simp only [List.head?_cons, Option.map_some, Option.some.injEq, Prod.mk.injEq, true_and,
            List.getElem?_cons_succ, List.getElem?_cons_zero] at hFirst hThird hFourth
          rw [sameUnnamed_iff_clearing (by rintro _ ⟨⟩) (by rintro _ ⟨⟩), hClearing, hClearing',
            hFirst, hThird, hFourth]
          simp
  | refund hAccount hClearing =>
      cases hLater with
      | refund hAccount' hClearing' =>
          rw [twoLegs_iff hShown]
          constructor
          · rintro ⟨rfl, rfl⟩
            refine ⟨hClearing'.trans hClearing.symm, fun _ _ => hAccount'.trans hAccount.symm, ?_⟩
            rintro _ ⟨⟩
          · intro hSame
            exact ⟨Option.some.inj (hAccount'.symm.trans ((hSame.refunded _ rfl).trans hAccount)),
              Option.some.inj (hClearing'.symm.trans (hSame.clearing.trans hClearing))⟩
  | @raised entry _ account clearing _ hRaises hAccount hClearing hDistinct =>
      cases hLater with
      | raised hRaises' hAccount' hClearing' hDistinct' =>
          obtain rfl := Option.some.inj (hAccount.symm.trans hAccount')
          rw [twoLegs_iff hShown]
          constructor
          · rintro ⟨-, rfl⟩
            refine ⟨hClearing'.trans hClearing.symm, by rintro _ ⟨⟩, ?_⟩
            rintro _ ⟨⟩
            exact iff_of_true hRaises' hRaises
          · exact fun hSame => ⟨rfl,
              Option.some.inj (hClearing'.symm.trans (hSame.clearing.trans hClearing))⟩
      | lowered hLowers' hAccount' hClearing' hDistinct' =>
          obtain rfl := Option.some.inj (hAccount.symm.trans hAccount')
          rw [twoLegs_iff hShown]
          refine iff_of_false (fun hSame => hDistinct' hSame.1.symm) fun hSame => hLowers' ?_
          exact (hSame.direction entry rfl).2 hRaises
  | @lowered entry _ account clearing _ hLowers hAccount hClearing hDistinct =>
      cases hLater with
      | raised hRaises' hAccount' hClearing' hDistinct' =>
          obtain rfl := Option.some.inj (hAccount.symm.trans hAccount')
          rw [twoLegs_iff hShown]
          refine iff_of_false (fun hSame => hDistinct hSame.1) fun hSame => hLowers ?_
          exact (hSame.direction entry rfl).1 hRaises'
      | lowered hLowers' hAccount' hClearing' hDistinct' =>
          obtain rfl := Option.some.inj (hAccount.symm.trans hAccount')
          rw [twoLegs_iff hShown]
          constructor
          · rintro ⟨rfl, -⟩
            refine ⟨hClearing'.trans hClearing.symm, by rintro _ ⟨⟩, ?_⟩
            rintro _ ⟨⟩
            exact iff_of_false hLowers' hLowers
          · exact fun hSame => ⟨Option.some.inj
              (hClearing'.symm.trans (hSame.clearing.trans hClearing)), rfl⟩

end Compared

section Commits

variable {u : UnicodeTables} {uuid5 : UUID → String → UUID} {ilike : String → String → Bool}
  {moment laterMoment : InstrumentMoment} {t laterTables : InstrumentTables}
  {context later : EntryCompilationContext} {entry input : EverydayEntry}
  {draft redraft : EntryDraft} {plan again : CompiledEntry} {preview shown : EntryPreview}
  {resolved : ResolvedEntryReferences} {legs others : List PostedUnits}
  {payload : PreparedPayload}

theorem PostsAs.ne_nil (h : PostsAs u context entry resolved legs) :
    ∃ first rest, legs = first :: rest := by
  cases h <;> exact ⟨_, _, rfl⟩

theorem PostsAs.five (h : PostsAs u context entry resolved legs)
    (hCross : entry.isCrossAsset = true) :
    ∃ card target source fee funding, legs = [card, target, source, fee, funding] := by
  cases h with
  | fxCardPayment => exact ⟨_, _, _, _, _, rfl⟩
  | cardPayment hSame =>
      rw [EverydayEntry.isCrossAsset, hSame] at hCross
      exact nomatch hCross
  | _ => exact nomatch hCross

/-- Plans with one preview are shown alike. -/
theorem shownAlike_of_preview (hPlan : draft.plan uuid5 context entry = .ok plan)
    (hAgain : redraft.plan uuid5 later (entry.restored resolved) = .ok again)
    (hPreview : previewAndResolved context entry plan = .ok (preview, resolved))
    (hShown : previewAndResolved later (entry.restored resolved) again = .ok (preview, resolved))
    (hPosts : PostsAs u context entry resolved (draft.financial.postings.map (·.posted)))
    (hLater : PostsAs u later entry resolved (redraft.financial.postings.map (·.posted))) :
    ShownAlike entry (draft.financial.postings.map (·.posted))
      (redraft.financial.postings.map (·.posted)) := by
  have hRestored : (entry.restored resolved).isCrossAsset = entry.isCrossAsset := by
    cases entry <;> rfl
  have hBoth : entry.isCrossAsset = true →
      (redraft.financial.postings.map (·.posted))[2]?.map (·.units)
          = (draft.financial.postings.map (·.posted))[2]?.map (·.units)
        ∧ (redraft.financial.postings.map (·.posted))[3]?.map (·.units)
          = (draft.financial.postings.map (·.posted))[3]?.map (·.units) := by
    intro hCross
    obtain ⟨card, target, source, fee, funding, hLegs⟩ := hPosts.five hCross
    obtain ⟨card', target', source', fee', funding', hLegs'⟩ := hLater.five hCross
    obtain ⟨scale, code, hSource, hFee⟩ := preview_crossAsset hCross hPlan hLegs hPreview
    obtain ⟨scale', code', hSource', hFee'⟩ :=
      preview_crossAsset (hRestored.trans hCross) hAgain hLegs' hShown
    have hUnits := (of_injective (Option.some.inj (hSource'.symm.trans hSource))).1
    have hFees := (of_injective (Option.some.inj (hFee'.symm.trans hFee))).1
    rw [hLegs, hLegs']
    exact ⟨congrArg some hUnits, congrArg some hFees⟩
  refine ⟨?_, fun hCross => (hBoth hCross).1, fun hCross => (hBoth hCross).2⟩
  obtain ⟨first, rest, hLegs⟩ := hPosts.ne_nil
  obtain ⟨first', rest', hLegs'⟩ := hLater.ne_nil
  obtain ⟨scale, hAmount⟩ := preview_amount hPlan hLegs hPreview
  obtain ⟨scale', hAmount'⟩ := preview_amount hAgain hLegs' hShown
  obtain ⟨hUnits, hCode⟩ := of_injective (hAmount'.symm.trans hAmount)
  rw [hLegs, hLegs', List.head?_cons, List.head?_cons, Option.map_some, Option.map_some, hUnits,
    hCode]

theorem posted_eq (hPlan : draft.plan uuid5 context entry = .ok plan) :
    plan.posted = .ok (draft.financial.postings.map (·.posted)) := by
  unfold CompiledEntry.posted
  rw [(plan_facts hPlan).1]
  rfl

/-- A commit that is not stale posts what was prepared, exactly where what its references do
not show has not changed: the clearing account, where a refund goes, and the side of an
adjustment. -/
theorem recompile_posts_same_iff (hIds : CatalogIds context) (hLaterIds : CatalogIds later)
    (hInput : input.validate = .ok ())
    (hPrepared : preparePayload u uuid5 ilike moment t context input = .ok payload)
    (hAgain : recompile u uuid5 ilike laterMoment laterTables later payload
      = .ok (again, shown)) :
    ∃ entry plan,
      resolvePaymentInstrumentSource ilike moment t input = .ok (entry, payload.instrument)
        ∧ compileEntry u uuid5 context entry = .ok plan
        ∧ shown = payload.preview
        ∧ (again.posted = plan.posted ↔ SameUnnamed u context later entry) := by
  unfold preparePayload at hPrepared
  obtain ⟨⟨entry, instrument⟩, hSource, hPrepared⟩ := bind_eq_ok.1 hPrepared
  obtain ⟨plan, hPlan, hPrepared⟩ := bind_eq_ok.1 hPrepared
  obtain ⟨⟨preview, resolved⟩, hPreview, hPrepared⟩ := bind_eq_ok.1 hPrepared
  obtain ⟨document, hStored, hPrepared⟩ := bind_eq_ok.1 hPrepared
  cases pure_eq_ok.1 hPrepared
  obtain ⟨draft, hDrafts, hDraft⟩ := compileEntry_ok_iff.1 hPlan
  have hEntry := validate_resolved hInput hSource hDrafts
  obtain ⟨hCount, hValid, -⟩ := restored_drafts hIds hEntry hDrafts hDraft hPreview
  -- the commit compiles the stored entry, and finds the preview and the references unchanged
  unfold recompile at hAgain
  obtain ⟨restored, hRestored, hAgain⟩ := bind_eq_ok.1 hAgain
  rw [restoreEntry_stored hCount hValid hStored, Except.ok.injEq] at hRestored
  subst hRestored
  obtain ⟨_, -, hAgain⟩ := bind_eq_ok.1 hAgain
  obtain ⟨⟨replan, reshown, reresolved⟩, hCompiled, hAgain⟩ := bind_eq_ok.1 hAgain
  obtain ⟨_, hUnchanged, hAnswer⟩ := bind_eq_ok.1 hAgain
  cases pure_eq_ok.1 hAnswer
  obtain ⟨rfl, rfl⟩ := require_eq_ok.1 hUnchanged
  obtain ⟨replan, hReplan, hCompiled⟩ := bind_eq_ok.1 (mapError_eq_ok.1 hCompiled)
  obtain ⟨⟨reshown, reresolved⟩, hReshown, hCompiled⟩ := bind_eq_ok.1 hCompiled
  cases pure_eq_ok.1 hCompiled
  obtain ⟨redraft, hRedrafts, hRedraft⟩ := compileEntry_ok_iff.1 hReplan
  have hPosts := hDrafts.posts hIds hDraft hPreview
  have hReposts := (hRedrafts.posts hLaterIds hRedraft hReshown).of_restored
  refine ⟨entry, plan, hSource, hPlan, rfl, ?_⟩
  rw [posted_eq hDraft, posted_eq hRedraft, Except.ok.injEq]
  exact PostsAs.same_iff
    (shownAlike_of_preview hDraft hRedraft hPreview hReshown hPosts hReposts) hPosts hReposts

end Commits

/-! ### A sample correction -/

def sampleNothing : AmountFields := ⟨"0", .assetUnit, sampleAsset, "0"⟩

theorem sampleNothing_validates :
    AmountFields.validateBalance sampleNothing = .ok sampleNothing := by
  decide

/-- The overdrawn wallet of the sample Book is said to be empty. -/
def sampleCorrection : EverydayEntry :=
  .adjustment
    { occurredAt := ⟨⟨sampleDate, 0⟩, 0⟩
      narrative := none
      account := .ofId 3
      actualBalance := ⟨sampleNothing, sampleNothing, sampleNothing_validates⟩ }

/-- The same Book when the entry is committed: the wallet has what it lacked. -/
def sampleFilled : EntryCompilationContext :=
  { sampleEntryContext with currentBalanceUnits := some 100 }

theorem sampleOverdrawn_ids : CatalogIds sampleOverdrawn where
  accounts := by decide
  categories := by decide
  apart := by decide

theorem sampleFilled_ids : CatalogIds sampleFilled where
  accounts := by decide
  categories := by decide
  apart := by decide

theorem sampleCorrection_recompiled :
    (preparePayload sampleUnicode sampleBytesUuid5 (fun _ _ => false) sampleMoment .empty
      sampleOverdrawn sampleCorrection >>= fun payload =>
        (recompile sampleUnicode sampleBytesUuid5 (fun _ _ => false) sampleMoment .empty
          sampleFilled payload)).toOption.isSome = true := by
  decide +kernel

theorem sampleNothing_normalized :
    normalizeAmount sampleUnicode sampleNothing sampleCurrency true = .ok ⟨0, 4, sampleAsset⟩ := by
  decide +kernel

theorem sampleCorrection_turns :
    ¬SameUnnamed sampleUnicode sampleOverdrawn sampleFilled sampleCorrection := by
  intro hSame
  have hRaises : RaisesBalance sampleUnicode sampleOverdrawn
      { occurredAt := ⟨⟨sampleDate, 0⟩, 0⟩
        narrative := none
        account := .ofId 3
        actualBalance := ⟨sampleNothing, sampleNothing, sampleNothing_validates⟩ } :=
    ⟨sampleCurrency, _, -100, by decide, sampleNothing_normalized, rfl, by decide⟩
  obtain ⟨asset, actual, current, hAsset, hActual, hCurrent, hLess⟩ :=
    (hSame.direction _ rfl).2 hRaises
  have hPolicy : sampleFilled.asset sampleAsset = .ok sampleCurrency := by decide
  cases hCurrent
  rw [show asset = sampleCurrency from Except.ok.inj (hAsset.symm.trans hPolicy)] at hActual
  cases sampleNothing_normalized.symm.trans hActual
  exact absurd hLess (by decide)

/-- The commit shows what was prepared, and moves the amount the other way. -/
theorem recompile_posts_same_iff_sample : ∃ payload again shown plan,
    preparePayload sampleUnicode sampleBytesUuid5 (fun _ _ => false) sampleMoment .empty
        sampleOverdrawn sampleCorrection = .ok payload
      ∧ recompile sampleUnicode sampleBytesUuid5 (fun _ _ => false) sampleMoment .empty
        sampleFilled payload = .ok (again, shown)
      ∧ compileEntry sampleUnicode sampleBytesUuid5 sampleOverdrawn sampleCorrection = .ok plan
      ∧ shown = payload.preview ∧ again.posted ≠ plan.posted := by
  obtain ⟨⟨again, shown⟩, hBoth⟩ := Option.isSome_iff_exists.1 sampleCorrection_recompiled
  obtain ⟨payload, hPrepared, hAgain⟩ : ∃ payload, _ ∧ _ := by
    cases hResult : (preparePayload sampleUnicode sampleBytesUuid5 (fun _ _ => false) sampleMoment
      .empty sampleOverdrawn sampleCorrection >>= fun payload =>
        (recompile sampleUnicode sampleBytesUuid5 (fun _ _ => false) sampleMoment .empty
          sampleFilled payload)) with
    | error error =>
        rw [hResult] at hBoth
        exact nomatch hBoth
    | ok result =>
        rw [hResult] at hBoth
        cases hBoth
        exact bind_eq_ok.1 hResult
  obtain ⟨entry, plan, hSource, hPlan, hShown, hSame⟩ :=
    recompile_posts_same_iff sampleOverdrawn_ids sampleFilled_ids rfl hPrepared hAgain
  have hEntry : entry = sampleCorrection := (congrArg Prod.fst (Except.ok.inj hSource)).symm
  subst hEntry
  exact ⟨payload, again, shown, plan, hPrepared, hAgain, hPlan, hShown,
    fun h => sampleCorrection_turns (hSame.1 h)⟩

end TrackAnywhere.Ports
