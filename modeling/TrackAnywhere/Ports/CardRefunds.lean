import TrackAnywhere.Ports.ReverseTransaction
import Mathlib

/-!
# Refunds of card charges

A refund row names the charge it refunds.  A refund is accepted while the
charge is not reversed and its active refunds leave room; a reversal of a
charge is accepted while it has no active refunds; a reversal of a refund makes
room again.  `CardStep` says what one event can do to the card tables, and
`CardBook` is what every run keeps.

The card command checks a refund before it is posted, the trigger
`v2_validate_credit_card_projection` when it is projected.
-/

namespace TrackAnywhere.Ports

open TrackAnywhere.Verified
open TrackAnywhere.Verified.Checked
open TrackAnywhere.Verified.KeyedSum

/-! ## The checks of the card command -/

inductive CardRefundError
  | sourceInvalid (message : String)
  | sourceReversed (message : String)
  | exceeded (message : String)
deriving DecidableEq

/-- What `RefundCreditCardCommand` says of its charge. -/
structure RefundCreditCard where
  originalTransactionId : UUID
  cardAccountId : UUID
  assetCode : AssetCode
  effectiveAt : Instant

/-- `_load_refund_source`. -/
def loadRefundSource (command : RefundCreditCard) (t : SyncTables) :
    Except CardRefundError CreditCardTransactionRecord := do
  let original ← fetch
    (t.creditCardTransactions.find? fun r =>
      r.transactionId = command.originalTransactionId)
    (.sourceInvalid "refund source must be an existing typed credit-card charge")
  require (original.intent = .charge)
    (.sourceInvalid "refund source must be an existing typed credit-card charge")
  require (original.cardAccountId = command.cardAccountId
      ∧ original.assetCode = command.assetCode)
    (.sourceInvalid "refund must use the original charge card and asset")
  require (t.reversalOf? command.originalTransactionId = none)
    (.sourceReversed "refund source charge is reversed")
  let originalJournal ← fetch (t.transaction? command.originalTransactionId)
    (.sourceInvalid "refund cannot precede the original charge")
  require (originalJournal.effectiveAt ≤ command.effectiveAt)
    (.sourceInvalid "refund cannot precede the original charge")
  return original

/-- `_validate_refund_capacity`. -/
def validateRefundCapacity (command : RefundCreditCard) (t : SyncTables)
    (requestedUnits : Nat) : Except CardRefundError Unit := do
  let original ← fetch
    (t.creditCardTransactions.find? fun r =>
      r.transactionId = command.originalTransactionId)
    (.sourceInvalid "refund source is missing")
  require (((t.activeRefunds command.originalTransactionId).map (·.units)).sum
      + requestedUnits ≤ original.units)
    (.exceeded "active refunds cannot exceed the original charge amount")

/-! ## The card rows -/

/-- What a new refund was checked against. -/
structure RefundFits (t : SyncTables) (refund charge : CreditCardTransactionRecord) :
    Prop where
  charge_mem : charge ∈ t.creditCardTransactions
  isCharge : charge.intent = .charge
  linked : refund.originalTransactionId = some charge.transactionId
  cardAccountId : refund.cardAccountId = charge.cardAccountId
  counterAccountId : refund.counterAccountId = charge.counterAccountId
  assetCode : refund.assetCode = charge.assetCode
  current : t.reversalOf? charge.transactionId = none
  fits : ((t.activeRefunds charge.transactionId).map (·.units)).sum + refund.units
    ≤ charge.units

/-- The transaction has its row. -/
def SyncTables.Journaled (t : SyncTables) (tx : UUID) : Prop :=
  tx ∈ t.journalTransactions.map (·.transactionId)

/-- What one event does to the card rows and the reversals. -/
inductive CardStep (t t' : SyncTables) : Prop
  | frame (hCards : t'.creditCardTransactions = t.creditCardTransactions)
      (hReversals : t'.transactionReversals = t.transactionReversals)
  | recorded (row : CreditCardTransactionRecord)
      (hFresh : ¬t.Journaled row.transactionId)
      (hJournaled : t'.Journaled row.transactionId)
      (hRefund : row.intent = .refund → ∃ charge, RefundFits t row charge)
      (hCards : t'.creditCardTransactions = t.creditCardTransactions ++ [row])
      (hReversals : t'.transactionReversals = t.transactionReversals)
  | reversed (row : TransactionReversalRecord)
      (hOriginal : t.Journaled row.originalTransactionId)
      (hCharge : ∀ charge ∈ t.creditCardTransactions, charge.intent = .charge →
        charge.transactionId = row.originalTransactionId →
        t.activeRefunds charge.transactionId = [])
      (hCards : t'.creditCardTransactions = t.creditCardTransactions)
      (hReversals : t'.transactionReversals = t.transactionReversals ++ [row])

/-- What holds of the card rows in every reachable state. -/
structure CardBook (t : SyncTables) : Prop where
  ids : (t.creditCardTransactions.map (·.transactionId)).Nodup
  journaled : ∀ row ∈ t.creditCardTransactions, t.Journaled row.transactionId
  reversed : ∀ row ∈ t.transactionReversals, t.Journaled row.originalTransactionId
  linked : ∀ refund ∈ t.creditCardTransactions, refund.intent = .refund →
    ∃ charge ∈ t.creditCardTransactions, charge.intent = .charge
      ∧ refund.originalTransactionId = some charge.transactionId
      ∧ refund.cardAccountId = charge.cardAccountId
      ∧ refund.counterAccountId = charge.counterAccountId
      ∧ refund.assetCode = charge.assetCode
  within : ∀ charge ∈ t.creditCardTransactions, charge.intent = .charge →
    ((t.activeRefunds charge.transactionId).map (·.units)).sum ≤ charge.units
  current : ∀ charge ∈ t.creditCardTransactions, charge.intent = .charge →
    t.reversalOf? charge.transactionId ≠ none →
    t.activeRefunds charge.transactionId = []

section Step

variable {t t' : SyncTables}

theorem CardBook.empty : CardBook SyncTables.empty where
  ids := List.nodup_nil
  journaled := fun _ h => absurd h List.not_mem_nil
  reversed := fun _ h => absurd h List.not_mem_nil
  linked := fun _ h => absurd h List.not_mem_nil
  within := fun _ h => absurd h List.not_mem_nil
  current := fun _ h => absurd h List.not_mem_nil

/-- The active refunds are read from two tables. -/
theorem activeRefunds_congr
    (hCards : t'.creditCardTransactions = t.creditCardTransactions)
    (hReversals : t'.transactionReversals = t.transactionReversals) (chargeId : UUID) :
    t'.activeRefunds chargeId = t.activeRefunds chargeId := by
  unfold SyncTables.activeRefunds SyncTables.reversalOf?
  rw [hCards, hReversals]

/-- A further reversal leaves some of the active refunds. -/
theorem activeRefunds_sublist {row : TransactionReversalRecord}
    (hCards : t'.creditCardTransactions = t.creditCardTransactions)
    (hReversals : t'.transactionReversals = t.transactionReversals ++ [row])
    (chargeId : UUID) :
    (t'.activeRefunds chargeId).Sublist (t.activeRefunds chargeId) := by
  unfold SyncTables.activeRefunds
  rw [hCards]
  refine List.monotone_filter_right _ fun refund hActive => ?_
  rw [decide_eq_true_eq] at hActive ⊢
  refine ⟨hActive.1, hActive.2.1, ?_⟩
  have hOne := @reversalOf?_append t t' refund.transactionId row hReversals
  rw [hActive.2.2] at hOne
  exact (Option.or_eq_none_iff.1 hOne.symm).1

/-- A new row is active if it is a refund of the charge. -/
theorem activeRefunds_recorded {row : CreditCardTransactionRecord}
    (hCards : t'.creditCardTransactions = t.creditCardTransactions ++ [row])
    (hReversals : t'.transactionReversals = t.transactionReversals)
    (hCurrent : t.reversalOf? row.transactionId = none) (chargeId : UUID) :
    t'.activeRefunds chargeId = t.activeRefunds chargeId
      ++ if row.intent = .refund ∧ row.originalTransactionId = some chargeId then [row]
        else [] := by
  unfold SyncTables.activeRefunds
  have hSame : ∀ tx, t'.reversalOf? tx = t.reversalOf? tx := by
    intro tx
    unfold SyncTables.reversalOf?
    rw [hReversals]
  simp only [hSame]
  rw [hCards, List.filter_append]
  congr 1
  by_cases hOwn : row.intent = .refund ∧ row.originalTransactionId = some chargeId
  · rw [if_pos hOwn, List.filter_cons_of_pos]
    · rfl
    · simpa [hCurrent] using hOwn
  · rw [if_neg hOwn, List.filter_cons_of_neg]
    · rfl
    · simpa [hCurrent] using hOwn

/-- A transaction without a row is not reversed. -/
theorem CardBook.not_reversed (h : CardBook t) {tx : UUID} (hFresh : ¬t.Journaled tx) :
    t.reversalOf? tx = none := by
  unfold SyncTables.reversalOf?
  rw [List.find?_eq_none]
  intro row hRow hOwn
  have hOriginal : row.originalTransactionId = tx := by simpa using hOwn
  exact hFresh (hOriginal ▸ h.reversed row hRow)

/-- A charge without a row has no refunds. -/
theorem CardBook.no_refunds (h : CardBook t) {tx : UUID} (hFresh : ¬t.Journaled tx) :
    t.activeRefunds tx = [] := by
  unfold SyncTables.activeRefunds
  rw [List.filter_eq_nil_iff]
  intro refund hRefund hActive
  rw [decide_eq_true_eq] at hActive
  obtain ⟨charge, hCharge, -, hLinked, -⟩ := h.linked refund hRefund hActive.1
  obtain rfl : tx = charge.transactionId :=
    Option.some.inj (hActive.2.1.symm.trans hLinked)
  exact hFresh (h.journaled charge hCharge)

/-- A new card row: a refund takes of its charge what is left. -/
theorem CardBook.recorded (h : CardBook t) {row : CreditCardTransactionRecord}
    (hGrows : ∀ tx, t.Journaled tx → t'.Journaled tx)
    (hFresh : ¬t.Journaled row.transactionId) (hJournaled : t'.Journaled row.transactionId)
    (hRefund : row.intent = .refund → ∃ charge, RefundFits t row charge)
    (hCards : t'.creditCardTransactions = t.creditCardTransactions ++ [row])
    (hReversals : t'.transactionReversals = t.transactionReversals) : CardBook t' := by
  have hActive := activeRefunds_recorded hCards hReversals (h.not_reversed hFresh)
  have hSame : ∀ tx, t'.reversalOf? tx = t.reversalOf? tx := by
    intro tx
    unfold SyncTables.reversalOf?
    rw [hReversals]
  -- the charge of the row, found among the older rows
  have hOwn : ∀ charge ∈ t.creditCardTransactions, row.intent = .refund →
      row.originalTransactionId = some charge.transactionId → RefundFits t row charge := by
    intro charge hCharge hIntent hLinked
    obtain ⟨found, hFits⟩ := hRefund hIntent
    have hId : found.transactionId = charge.transactionId :=
      Option.some.inj (hFits.linked.symm.trans hLinked)
    obtain rfl := List.inj_on_of_nodup_map h.ids hFits.charge_mem hCharge hId
    exact hFits
  -- nothing refunds the row itself
  have hNew : t'.activeRefunds row.transactionId = [] := by
    rw [hActive, h.no_refunds hFresh, List.nil_append, if_neg]
    rintro ⟨hIntent, hLinked⟩
    obtain ⟨found, hFits⟩ := hRefund hIntent
    have hId : found.transactionId = row.transactionId :=
      Option.some.inj (hFits.linked.symm.trans hLinked)
    exact hFresh (hId ▸ h.journaled found hFits.charge_mem)
  refine ⟨?_, ?_, ?_, ?_, ?_, ?_⟩
  · rw [hCards, List.map_append, List.nodup_append]
    refine ⟨h.ids, List.nodup_singleton _, ?_⟩
    rintro a ha b hb rfl
    obtain ⟨old, hOld, rfl⟩ := List.mem_map.1 ha
    rw [List.map_singleton, List.mem_singleton] at hb
    exact hFresh (hb ▸ h.journaled old hOld)
  · intro other hOther
    rw [hCards, List.mem_append, List.mem_singleton] at hOther
    obtain hOther | rfl := hOther
    · exact hGrows _ (h.journaled other hOther)
    · exact hJournaled
  · intro other hOther
    rw [hReversals] at hOther
    exact hGrows _ (h.reversed other hOther)
  · intro refund hMem hIntent
    rw [hCards] at hMem ⊢
    obtain hMem | hMem := List.mem_append.1 hMem
    · obtain ⟨charge, hCharge, hLinked⟩ := h.linked refund hMem hIntent
      exact ⟨charge, List.mem_append_left _ hCharge, hLinked⟩
    · obtain rfl := List.mem_singleton.1 hMem
      obtain ⟨charge, hFits⟩ := hRefund hIntent
      exact ⟨charge, List.mem_append_left _ hFits.charge_mem, hFits.isCharge, hFits.linked,
        hFits.cardAccountId, hFits.counterAccountId, hFits.assetCode⟩
  · intro charge hMem hIntent
    rw [hCards] at hMem
    obtain hMem | hMem := List.mem_append.1 hMem
    · rw [hActive, List.map_append, List.sum_append]
      split_ifs with hLink
      · have hFits := (hOwn charge hMem hLink.1 hLink.2).fits
        simpa using hFits
      · simpa using h.within charge hMem hIntent
    · obtain rfl := List.mem_singleton.1 hMem
      rw [hNew]
      exact Nat.zero_le _
  · intro charge hMem hIntent hReversed
    rw [hCards] at hMem
    rw [hSame] at hReversed
    obtain hMem | hMem := List.mem_append.1 hMem
    · rw [hActive, h.current charge hMem hIntent hReversed, List.nil_append, if_neg]
      rintro ⟨hRefundIntent, hLinked⟩
      exact hReversed (hOwn charge hMem hRefundIntent hLinked).current
    · obtain rfl := List.mem_singleton.1 hMem
      exact hNew

/-- A new reversal: of a refund, which makes room, or of a charge without active
refunds. -/
theorem CardBook.reverse (h : CardBook t) {row : TransactionReversalRecord}
    (hGrows : ∀ tx, t.Journaled tx → t'.Journaled tx)
    (hOriginal : t.Journaled row.originalTransactionId)
    (hCharge : ∀ charge ∈ t.creditCardTransactions, charge.intent = .charge →
      charge.transactionId = row.originalTransactionId →
      t.activeRefunds charge.transactionId = [])
    (hCards : t'.creditCardTransactions = t.creditCardTransactions)
    (hReversals : t'.transactionReversals = t.transactionReversals ++ [row]) :
    CardBook t' := by
  have hFewer := activeRefunds_sublist hCards hReversals
  refine ⟨?_, ?_, ?_, ?_, ?_, ?_⟩
  · rw [hCards]
    exact h.ids
  · intro other hOther
    rw [hCards] at hOther
    exact hGrows _ (h.journaled other hOther)
  · intro other hOther
    rw [hReversals, List.mem_append, List.mem_singleton] at hOther
    obtain hOther | rfl := hOther
    · exact hGrows _ (h.reversed other hOther)
    · exact hGrows _ hOriginal
  · rw [hCards]
    exact h.linked
  · intro charge hMem hIntent
    rw [hCards] at hMem
    exact (((hFewer _).map _).sum_le_sum (by simp)).trans (h.within charge hMem hIntent)
  · intro charge hMem hIntent hReversed
    rw [hCards] at hMem
    have hNone : t.activeRefunds charge.transactionId = [] := by
      by_cases hOld : t.reversalOf? charge.transactionId = none
      · refine hCharge charge hMem hIntent ?_
        rw [reversalOf?_append hReversals, hOld] at hReversed
        by_contra hNe
        exact hReversed (by rw [if_neg (Ne.symm hNe)]; rfl)
      · exact h.current charge hMem hIntent hOld
    have hSub := hFewer charge.transactionId
    rw [hNone] at hSub
    exact List.sublist_nil.1 hSub

/-- What one event preserves. -/
theorem CardBook.step (h : CardBook t) (hGrows : ∀ tx, t.Journaled tx → t'.Journaled tx)
    (hStep : CardStep t t') : CardBook t' := by
  cases hStep with
  | frame hCards hReversals =>
      have hActive := activeRefunds_congr hCards hReversals
      have hSame : ∀ tx, t'.reversalOf? tx = t.reversalOf? tx := by
        intro tx
        unfold SyncTables.reversalOf?
        rw [hReversals]
      refine ⟨?_, ?_, ?_, ?_, ?_, ?_⟩
      · rw [hCards]
        exact h.ids
      · rw [hCards]
        exact fun row hRow => hGrows _ (h.journaled row hRow)
      · rw [hReversals]
        exact fun row hRow => hGrows _ (h.reversed row hRow)
      · rw [hCards]
        exact h.linked
      · simp only [hCards, hActive]
        exact h.within
      · simp only [hCards, hActive, hSame]
        exact h.current
  | recorded row hFresh hJournaled hRefund hCards hReversals =>
      exact h.recorded hGrows hFresh hJournaled hRefund hCards hReversals
  | reversed row hOriginal hCharge hCards hReversals =>
      exact h.reverse hGrows hOriginal hCharge hCards hReversals

end Step

/-! ## What the projector does to the card rows -/

/-- The events of the card rows, and the kind of their transactions. -/
structure CardSources (events : List LedgerEventRecord) (t : SyncTables) : Prop where
  sources : ∀ row ∈ t.creditCardTransactions, ∃ e ∈ events, ∃ contract p,
    e.contract? = some contract ∧ contract.1 = .creditCardTransactionRecorded p
      ∧ p.transactionId = row.transactionId ∧ p.intent = row.intent
  kinds : ∀ row ∈ t.creditCardTransactions, ∀ transaction ∈ t.journalTransactions,
    transaction.transactionId = row.transactionId →
    ∃ intent, transaction.transactionKind = .creditCard intent

section Projector

variable {catalog : Catalog} {ledger events : List LedgerEventRecord} {bookId : UUID}
  {stored : LedgerEventRecord} {t t' : SyncTables}

theorem CardSources.empty : CardSources [] SyncTables.empty where
  sources := fun _ h => absurd h List.not_mem_nil
  kinds := fun _ h => absurd h List.not_mem_nil

/-- A payload that is not of a card leaves the card rows alone. -/
theorem creditCardTransactions_frame {payload : EventPayload}
    (h : applyPayload catalog ledger stored payload t = .ok t')
    (hOther : ∀ p, payload ≠ .creditCardTransactionRecorded p) :
    t'.creditCardTransactions = t.creditCardTransactions := by
  cases payload with
  | creditCardTransactionRecorded p => exact absurd rfl (hOther p)
  | journalTransactionPosted p =>
      simp only [applyPayload, applyJournalPosted, bind_eq_ok] at h
      obtain ⟨t₁, hFinancial, hReferences⟩ := h
      obtain ⟨rows, rfl⟩ := addExternalReferences_ok hReferences
      obtain ⟨-, -, -, -, hCards⟩ := applyFinancialTransaction_ok hFinancial
      exact hCards
  | journalTransactionReversed p =>
      obtain ⟨target, source, contract, original, t₁, -, -, -, -, -, -, -, -, -,
        hFinancial, -, -, rfl⟩ := applyJournalReversed_ok h
      obtain ⟨-, -, -, -, hCards⟩ := applyFinancialTransaction_ok hFinancial
      exact hCards
  | financialExternalReferenceCorrected p =>
      simp only [applyPayload, applyExternalReferenceCorrected, bind_eq_ok,
        require_eq_ok, fetch_eq_ok, exists_const] at h
      obtain ⟨-, transaction, -, -, -, h⟩ := h
      split at h
      · cases h
        rfl
      · cases h
        rfl
  | reportingLinesAssigned p =>
      simp only [applyPayload, applyReportingLinesAssigned, bind_eq_ok,
        pure_eq_ok] at h
      obtain ⟨-, -, -, -, rfl⟩ := h
      rfl
  | reportingLinesCleared p =>
      simp only [applyPayload, applyReportingLinesCleared, bind_eq_ok,
        pure_eq_ok] at h
      obtain ⟨-, -, rfl⟩ := h
      rfl
  | investmentLotAcquired p =>
      simp only [applyPayload, applyInvestmentLotAcquired, bind_eq_ok,
        require_eq_ok, pure_eq_ok] at h
      obtain ⟨-, -, -, -, -, -, -, -, rfl⟩ := h
      rfl
  | investmentLotDisposed p =>
      obtain ⟨lots, allocations, rfl⟩ := applyInvestmentLotDisposed_frame h
      rfl

/-- A card payload that is applied: its row was checked against the rows before
it. -/
theorem applyCreditCardRecorded_ok {payload : CreditCardTransactionRecorded}
    (h : applyCreditCardRecorded catalog stored payload t = .ok t') :
    ∃ row transaction t₁,
      row.transactionId = payload.transactionId ∧ row.intent = payload.intent
        ∧ t₁.creditCardTransactions = t.creditCardTransactions
        ∧ t₁.transactionReversals = t.transactionReversals
        ∧ validateCreditCardProjection catalog stored row t₁ = .ok ()
        ∧ payload.transactionId ∉ t.journalTransactions.map (·.transactionId)
        ∧ transaction.transactionId = payload.transactionId
        ∧ transaction.transactionKind = .creditCard payload.intent
        ∧ t'.journalTransactions = t.journalTransactions ++ [transaction]
        ∧ t'.creditCardTransactions = t.creditCardTransactions ++ [row]
        ∧ t'.transactionReversals = t.transactionReversals := by
  simp only [applyCreditCardRecorded, applyFinancialTransaction, bind_eq_ok,
    require_eq_ok, fetch_eq_ok, pure_eq_ok, exists_const] at h
  obtain ⟨t₁, ⟨-, hFresh, -, -, -, -, rfl⟩, t₂, hReferences, first, -, _, hCheck, rfl⟩ := h
  obtain ⟨rows, rfl⟩ := addExternalReferences_ok hReferences
  refine ⟨_, ⟨payload.transactionId, stored.eventId, stored.bookPosition,
    stored.effectiveAt, payload.intent.transactionKind, payload.descriptionRef⟩, _,
    ?_, ?_, ?_, ?_, hCheck, hFresh, rfl, rfl, rfl, rfl, rfl⟩
  all_goals rfl

/-- The trigger of a refund row. -/
theorem refundFits_of_validate {row : CreditCardTransactionRecord} {t₁ : SyncTables}
    (hCards : t₁.creditCardTransactions = t.creditCardTransactions)
    (hReversals : t₁.transactionReversals = t.transactionReversals)
    (h : validateCreditCardProjection catalog stored row t₁ = .ok ())
    (hIntent : row.intent = .refund) : ∃ charge, RefundFits t row charge := by
  simp only [validateCreditCardProjection, bind_eq_ok, require_eq_ok, fetch_eq_ok,
    if_pos hIntent, exists_const] at h
  obtain ⟨-, charge, hCharge, ⟨hCard, hCounter, hAsset, hCurrent, -⟩, hFits⟩ := h
  have hFound := List.find?_some hCharge
  rw [decide_eq_true_eq] at hFound
  have hMem := List.mem_of_find?_eq_some hCharge
  rw [hCards] at hMem
  rw [activeRefunds_congr hCards hReversals] at hFits
  refine ⟨charge, hMem, hFound.2, hFound.1.symm, hCard.symm, hCounter.symm, hAsset.symm,
    ?_, hFits⟩
  unfold SyncTables.reversalOf? at hCurrent ⊢
  rwa [← hReversals]

/-- The trigger of a reversal row, for a charge. -/
theorem noRefunds_of_validate {target : JournalTransactionRecord}
    {original : CreditCardTransactionRecorded} {t₁ : SyncTables}
    (hCards : t₁.creditCardTransactions = t.creditCardTransactions)
    (hReversals : t₁.transactionReversals = t.transactionReversals)
    (hKind : ∃ intent, target.transactionKind = .creditCard intent)
    (hIntent : original.intent = .charge)
    (h : validateCreditCardReversal catalog stored target
      (.creditCardTransactionRecorded original) t₁ = .ok ()) :
    t.activeRefunds target.transactionId = [] := by
  obtain ⟨intent, hKind⟩ := hKind
  simp only [validateCreditCardReversal, hKind, if_true, bind_eq_ok, require_eq_ok,
    exists_const] at h
  rw [← activeRefunds_congr hCards hReversals]
  exact h.2.2 hIntent

/-- What one accepted event does to the card rows and the reversals. -/
theorem cardStep_of_apply (hKeys : LedgerKeys ledger)
    (hDistinct : (events.map (·.eventId)).Nodup)
    (hRun : Run (Projects ledger bookId) SyncTables.empty events t)
    (hSources : CardSources events t) {contract : EventContract}
    (h : applyPayload catalog ledger stored contract.1 (t.mark stored.eventId) = .ok t') :
    CardStep t t' := by
  have hHistory := journalHistory_run hDistinct hRun
  have hEffect := applyPayload_journalEffect h
  obtain ⟨payload, hValid⟩ := contract
  cases payload with
  | creditCardTransactionRecorded p =>
      obtain ⟨row, transaction, t₁, hId, -, hCards, hReversals, hCheck, hFresh, hOwn, -,
        hJournal, hCards', hReversals'⟩ := applyCreditCardRecorded_ok h
      refine .recorded row (hId ▸ hFresh) ?_
        (refundFits_of_validate hCards hReversals hCheck) hCards' hReversals'
      unfold SyncTables.Journaled
      rw [hJournal, hId, ← hOwn]
      simp
  | journalTransactionReversed p =>
      obtain ⟨target, source, other, original, t₁, hTarget, hSource, -, hLookup, -,
        hContract, hOriginal, hIdentity, -, hFinancial, hCheck, -, -⟩ :=
        applyJournalReversed_ok h
      obtain ⟨-, -, hRows, -, hCards⟩ := applyFinancialTransaction_ok hFinancial
      have hTargetMem : target ∈ t.journalTransactions :=
        List.mem_of_find?_eq_some hTarget
      have hTargetId : target.transactionId = p.reversesTransactionId := by
        simpa using List.find?_some hTarget
      have hMem : source ∈ events := source_mem_of_run hKeys hRun hHistory hTargetMem
        (List.mem_of_find?_eq_some hLookup) (by
          have hId : source.eventId = p.originalEventId := by
            simpa using List.find?_some hLookup
          exact hId.trans hSource.symm)
      have hFrame : t'.creditCardTransactions
          = (t.mark stored.eventId).creditCardTransactions :=
        creditCardTransactions_frame h fun _ hSame => by cases hSame
      refine .reversed _ (List.mem_map.2 ⟨target, hTargetMem, hTargetId⟩) ?_ hFrame
        hEffect.reversals
      intro charge hCharge hIntent hTx
      -- the event of the charge is the one the reversal was checked against
      obtain ⟨e, he, found, q, hFound, hPayload, hTransaction, hSame⟩ :=
        hSources.sources charge hCharge
      have hEvents : e = source := by
        refine @creates_unique _ _ e source charge.transactionId hHistory hDistinct he hMem ?_ ?_
        · have hFact : found.1.financialFact = some (q.transactionId, q.postings) := by
            rw [hPayload]
            rfl
          exact hTransaction ▸ creates_of_contract hFound hFact
        · rw [hTx, ← hIdentity]
          exact creates_of_contract (LedgerEventRecord.contract?_eq_some.2 hContract)
            hOriginal
      rw [hEvents, LedgerEventRecord.contract?_eq_some.2 hContract] at hFound
      obtain rfl := Option.some.inj hFound
      rw [hPayload] at hCheck
      have hKind := hSources.kinds charge hCharge target hTargetMem (hTargetId.trans hTx.symm)
      have hNone := @noRefunds_of_validate catalog stored t target q t₁ hCards hRows hKind
        (hSame.trans hIntent) hCheck
      rwa [hTx, ← hTargetId]
  | _ =>
      have hFrame : t'.creditCardTransactions
          = (t.mark stored.eventId).creditCardTransactions :=
        creditCardTransactions_frame h fun _ hSame => by cases hSame
      refine .frame hFrame ?_
      simpa [EventPayload.reversalRow, SyncTables.mark] using hEffect.reversals

/-- The card rows go on being those of events, under card kinds. -/
theorem CardSources.step (hSources : CardSources events t) (hBook : CardBook t)
    {contract : EventContract} (hContract : stored.contract? = some contract)
    (h : applyPayload catalog ledger stored contract.1 (t.mark stored.eventId) = .ok t') :
    CardSources (events ++ [stored]) t' := by
  have hOld : ∀ row ∈ t.creditCardTransactions, ∃ e ∈ events ++ [stored], ∃ contract p,
      e.contract? = some contract ∧ contract.1 = .creditCardTransactionRecorded p
        ∧ p.transactionId = row.transactionId ∧ p.intent = row.intent := by
    intro row hRow
    obtain ⟨e, he, hOwn⟩ := hSources.sources row hRow
    exact ⟨e, List.mem_append_left _ he, hOwn⟩
  obtain ⟨payload, hValid⟩ := contract
  by_cases hCard : ∃ p, payload = .creditCardTransactionRecorded p
  · obtain ⟨p, rfl⟩ := hCard
    obtain ⟨row, transaction, t₁, hId, hIntent, -, -, -, hFresh, hOwn, hKind, hJournal,
      hCards, -⟩ := applyCreditCardRecorded_ok h
    refine ⟨?_, ?_⟩
    · intro other hOther
      rw [hCards] at hOther
      obtain hOther | hOther := List.mem_append.1 hOther
      · exact hOld other hOther
      · obtain rfl := List.mem_singleton.1 hOther
        exact ⟨stored, by simp, _, p, hContract, rfl, hId.symm, hIntent.symm⟩
    · intro other hOther found hFound hSame
      rw [hCards] at hOther
      rw [hJournal] at hFound
      obtain hFound | hFound := List.mem_append.1 hFound
      · obtain hOther | hOther := List.mem_append.1 hOther
        · exact hSources.kinds other hOther found hFound hSame
        · obtain rfl := List.mem_singleton.1 hOther
          exact absurd (List.mem_map.2 ⟨found, hFound, hSame.trans hId⟩) hFresh
      · obtain rfl := List.mem_singleton.1 hFound
        exact ⟨p.intent, hKind⟩
  · have hFrame : t'.creditCardTransactions
        = (t.mark stored.eventId).creditCardTransactions :=
      creditCardTransactions_frame h fun p hSame => hCard ⟨p, hSame⟩
    refine ⟨?_, ?_⟩
    · rw [hFrame]
      exact hOld
    · intro other hOther found hFound hSame
      rw [hFrame] at hOther
      have hJournal := (applyPayload_journalEffect h).journal
      split at hJournal
      · obtain ⟨new, hKey, hRows⟩ := hJournal.transactions
        rw [hRows] at hFound
        obtain hFound | hFound := List.mem_append.1 hFound
        · exact hSources.kinds other hOther found hFound hSame
        · obtain rfl := List.mem_singleton.1 hFound
          have hNew : found.transactionId = _ :=
            congrArg TransactionKey.transactionId hKey
          refine absurd (hBook.journaled other hOther) ?_
          rw [← hSame, hNew]
          exact hJournal.fresh
      · rw [hJournal.transactions] at hFound
        exact hSources.kinds other hOther found hFound hSame

/-- One event keeps the card book. -/
theorem cardBook_step (hKeys : LedgerKeys ledger)
    (hDistinct : ((events ++ [stored]).map (·.eventId)).Nodup)
    (hRun : Run (Projects ledger bookId) SyncTables.empty events t)
    (hBook : CardBook t) (hSources : CardSources events t)
    (hStep : Projects ledger bookId t stored t') :
    CardBook t' ∧ CardSources (events ++ [stored]) t' := by
  rw [List.map_append, List.nodup_append] at hDistinct
  have hFresh : stored.eventId ∉ t.appliedEvents.map (·.eventId) := by
    intro hMarked
    obtain ⟨e, he, hId, -⟩ :=
      ((journalHistory_run hDistinct.1 hRun).applied _).1 hMarked
    exact hDistinct.2.2 _ (List.mem_map.2 ⟨e, he, hId⟩) _ (List.mem_singleton.2 rfl) rfl
  rcases projects_cases hStep hFresh with
    ⟨-, rfl⟩ | ⟨catalog, contract, hContract, hApply⟩
  · refine ⟨hBook, ?_, hSources.kinds⟩
    intro row hRow
    obtain ⟨e, he, hOwn⟩ := hSources.sources row hRow
    exact ⟨e, List.mem_append_left _ he, hOwn⟩
  · refine ⟨hBook.step ?_ (cardStep_of_apply hKeys hDistinct.1 hRun hSources hApply),
      hSources.step hBook hContract hApply⟩
    intro tx hJournaled
    unfold SyncTables.Journaled at hJournaled ⊢
    have hJournal := (applyPayload_journalEffect hApply).journal
    split at hJournal
    · obtain ⟨new, -, hRows⟩ := hJournal.transactions
      rw [hRows, List.map_append]
      exact List.mem_append_left _ hJournaled
    · rw [hJournal.transactions]
      exact hJournaled

/-- What every run keeps. -/
theorem cardBook_run (hKeys : LedgerKeys ledger)
    (hDistinct : (events.map (·.eventId)).Nodup)
    (hRun : Run (Projects ledger bookId) SyncTables.empty events t) : CardBook t := by
  have hBoth : CardBook t ∧ CardSources events t := by
    refine Run.traceInvariant (I := fun done t => (done.map (·.eventId)).Nodup →
      CardBook t ∧ CardSources done t)
      (fun _ => ⟨CardBook.empty, CardSources.empty⟩) ?_ hRun hDistinct
    intro done t₁ stored t₂ hDone hI hStep hNodup
    have hEarlier : (done.map (·.eventId)).Nodup := by
      rw [List.map_append, List.nodup_append] at hNodup
      exact hNodup.1
    obtain ⟨hBook, hSources⟩ := hI hEarlier
    exact cardBook_step hKeys hNodup hDone hBook hSources hStep
  exact hBoth.1

/-- In every reachable state every refund is of a charge of its card account and
asset, the active refunds of a charge add up to at most the charge, and a
reversed charge has none.  A refund that the card command admits keeps within
the charge. -/
theorem refunds_within_charges_over_run (hKeys : LedgerKeys ledger)
    (hDistinct : (events.map (·.eventId)).Nodup)
    (hRun : Run (Projects ledger bookId) SyncTables.empty events t) :
    (∀ refund ∈ t.creditCardTransactions, refund.intent = .refund →
      ∃ charge ∈ t.creditCardTransactions, charge.intent = .charge
        ∧ refund.originalTransactionId = some charge.transactionId
        ∧ refund.cardAccountId = charge.cardAccountId
        ∧ refund.assetCode = charge.assetCode)
    ∧ (∀ charge ∈ t.creditCardTransactions, charge.intent = .charge →
      ((t.activeRefunds charge.transactionId).map (·.units)).sum ≤ charge.units
        ∧ (t.reversalOf? charge.transactionId ≠ none →
          t.activeRefunds charge.transactionId = []))
    ∧ ∀ command charge units, loadRefundSource command t = .ok charge →
      validateRefundCapacity command t units = .ok () →
      charge ∈ t.creditCardTransactions ∧ charge.intent = .charge
        ∧ charge.cardAccountId = command.cardAccountId
        ∧ charge.assetCode = command.assetCode
        ∧ t.reversalOf? charge.transactionId = none
        ∧ ((t.activeRefunds charge.transactionId).map (·.units)).sum + units
          ≤ charge.units := by
  have hBook := cardBook_run hKeys hDistinct hRun
  refine ⟨?_, ?_, ?_⟩
  · intro refund hRefund hIntent
    obtain ⟨charge, hCharge, hKind, hLinked, hCard, -, hAsset⟩ :=
      hBook.linked refund hRefund hIntent
    exact ⟨charge, hCharge, hKind, hLinked, hCard, hAsset⟩
  · exact fun charge hCharge hIntent =>
      ⟨hBook.within charge hCharge hIntent, hBook.current charge hCharge hIntent⟩
  · intro command charge units hSource hCapacity
    simp only [loadRefundSource, bind_eq_ok, require_eq_ok, fetch_eq_ok, pure_eq_ok,
      exists_const] at hSource
    obtain ⟨found, hFound, hKind, ⟨hCard, hAsset⟩, hCurrent, -, -, -, rfl⟩ := hSource
    have hId : found.transactionId = command.originalTransactionId := by
      simpa using List.find?_some hFound
    simp only [validateRefundCapacity, bind_eq_ok, require_eq_ok, fetch_eq_ok] at hCapacity
    obtain ⟨found', hFound', hFits⟩ := hCapacity
    obtain rfl : found = found' := Option.some.inj (hFound.symm.trans hFound')
    rw [hId]
    exact ⟨List.mem_of_find?_eq_some hFound, hKind, hCard, hAsset, hCurrent, hFits⟩

end Projector

/-! ### A charge, a refund and its reversal -/

def sampleCardCatalog : Catalog where
  accounts := [⟨1, sampleAsset, .liability, some "credit_card"⟩,
    ⟨2, sampleAsset, .expense, none⟩]
  categoryVersions := []
  assetCodes := [sampleAsset]

/-- 100 units charged to the card. -/
def sampleCharge : LedgerEventRecord :=
  sampleEvent 1 "journal_transaction" 10 ⟨sampleDate, 0⟩
    (.creditCardTransactionRecorded
      ⟨.charge, 10, 1, 2, none, samplePostings 20 21 .debit, none, []⟩)

/-- All of it refunded. -/
def sampleRefund : LedgerEventRecord :=
  sampleEvent 2 "journal_transaction" 11 ⟨sampleDate, 0⟩
    (.creditCardTransactionRecorded
      ⟨.refund, 11, 1, 2, some 10,
        [⟨22, 0, 1, sampleAsset, .debit, ⟨100, sample_hundred⟩⟩,
          ⟨23, 1, 2, sampleAsset, .credit, ⟨100, sample_hundred⟩⟩], none, []⟩)

def sampleCardLedger : List LedgerEventRecord := [sampleCharge, sampleRefund]

def sampleCardTables : SyncTables :=
  sampleCardLedger.foldl (projected sampleCardCatalog sampleCardLedger) SyncTables.empty

theorem refunds_within_charges_over_sample :
    (∀ charge ∈ sampleCardTables.creditCardTransactions, charge.intent = .charge →
      ((sampleCardTables.activeRefunds charge.transactionId).map (·.units)).sum
        ≤ charge.units)
      ∧ ((sampleCardTables.activeRefunds 10).map (·.units)).sum = 100 := by
  have hRun : Run (Projects sampleCardLedger 1) SyncTables.empty sampleCardLedger
      sampleCardTables :=
    .cons (projects_projected sampleCardCatalog (by decide) rfl (by decide))
      (.cons (projects_projected sampleCardCatalog (by decide) rfl (by decide)) (.nil _))
  obtain ⟨-, hWithin, -⟩ := refunds_within_charges_over_run
    (by constructor <;> decide) (by decide) hRun
  exact ⟨fun charge hCharge hIntent => (hWithin charge hCharge hIntent).1, by decide⟩

end TrackAnywhere.Ports
