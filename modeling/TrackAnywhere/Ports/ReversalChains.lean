import TrackAnywhere.Ports.AccountBalances
import TrackAnywhere.Ports.IncrementalReplay
import Mathlib

/-!
# Chains of reversals

A reversal is itself a transaction, and outside card accounts it may be
reversed again.  `ReversalChain t tx chain` lists the reversals over a
transaction up to the one that stands.

Account balances follow the parity of the chain: every reversal posts the
exact inverse of what it reverses (`chainUnits_parity`).  The cold replay keys
a reversal by the transaction it reverses and looks up the reported transaction
only, so a reported line is cancelled by the first reversal and never comes
back: `lineUnits_follow_chain_iff` says for which chains that is the same.
-/

namespace TrackAnywhere.Ports

open TrackAnywhere.Verified
open TrackAnywhere.Verified.Checked
open TrackAnywhere.Verified.KeyedSum

/-! ## Chains -/

/-- The reversals over a transaction, each of the one before it, up to the one
that is not reversed. -/
inductive ReversalChain (t : SyncTables) : UUID → List UUID → Prop
  | current {tx : UUID} (hNone : t.reversalOf? tx = none) :
      ReversalChain t tx []
  | reversed {tx : UUID} {row : TransactionReversalRecord} {rest : List UUID}
      (hSome : t.reversalOf? tx = some row)
      (hRest : ReversalChain t row.reversalTransactionId rest) :
      ReversalChain t tx (row.reversalTransactionId :: rest)

theorem reversalOf?_append {t t' : SyncTables} {tx : UUID}
    {row : TransactionReversalRecord}
    (h : t'.transactionReversals = t.transactionReversals ++ [row]) :
    t'.reversalOf? tx = (t.reversalOf? tx).or
      (if row.originalTransactionId = tx then some row else none) := by
  unfold SyncTables.reversalOf?
  rw [h, List.find?_append]
  by_cases hTx : row.originalTransactionId = tx <;> simp [hTx]

/-- A new reversal, of a transaction that was not reversed, by one that is
not, lengthens the chains that ended at its target. -/
theorem ReversalChain.append {t t' : SyncTables} {tx : UUID}
    {chain : List UUID} {row : TransactionReversalRecord}
    (hChain : ReversalChain t tx chain)
    (hRows : t'.transactionReversals = t.transactionReversals ++ [row])
    (hFresh : t.reversalOf? row.reversalTransactionId = none)
    (hNe : row.originalTransactionId ≠ row.reversalTransactionId) :
    ∃ chain', ReversalChain t' tx chain' := by
  induction hChain with
  | @current tx hNone =>
      by_cases hTx : row.originalTransactionId = tx
      · refine ⟨_, @ReversalChain.reversed _ _ row _ ?_ (.current ?_)⟩
        · rw [reversalOf?_append hRows, hNone, if_pos hTx]
          rfl
        · rw [reversalOf?_append hRows, hFresh, if_neg hNe]
          rfl
      · refine ⟨[], .current ?_⟩
        rw [reversalOf?_append hRows, hNone, if_neg hTx]
        rfl
  | @reversed tx old rest hSome _ ih =>
      obtain ⟨chain', hRest⟩ := ih
      refine ⟨_, @ReversalChain.reversed _ _ old _ ?_ hRest⟩
      rw [reversalOf?_append hRows, hSome]
      rfl

theorem ReversalChain.congr {t t' : SyncTables} {tx : UUID}
    {chain : List UUID} (hChain : ReversalChain t tx chain)
    (hRows : t'.transactionReversals = t.transactionReversals) :
    ReversalChain t' tx chain := by
  have hSame : ∀ tx, t'.reversalOf? tx = t.reversalOf? tx := by
    intro tx
    unfold SyncTables.reversalOf?
    rw [hRows]
  induction hChain with
  | current hNone => exact .current ((hSame _).trans hNone)
  | reversed hSome _ ih => exact .reversed ((hSame _).trans hSome) ih

/-! ## The postings of a transaction -/

/-- The event creates this transaction. -/
def LedgerEventRecord.Creates (stored : LedgerEventRecord) (tx : UUID) : Prop :=
  stored.financialFact?.map (·.1) = some tx

instance (stored : LedgerEventRecord) (tx : UUID) :
    Decidable (stored.Creates tx) :=
  inferInstanceAs (Decidable (_ = _))

/-- What the postings of a transaction add to a balance. -/
def transactionUnits (events : List LedgerEventRecord) (tx : UUID)
    (key : BalanceKey) : Int :=
  sumAt (signedPostings (events.filter fun e => e.Creates tx)) key

/-- What postings add to a balance. -/
def postingUnits (postings : List JournalPostingFact) (key : BalanceKey) :
    Int :=
  sumAt (postings.map fun p =>
    ((p.accountId, p.assetCode), signedUnits p.side p.units.1)) key

section Units

variable {events : List LedgerEventRecord} {t : SyncTables} {tx : UUID}
  {key : BalanceKey} {stored : LedgerEventRecord}
  {postings : List JournalPostingFact}

theorem creates_of_fact (h : stored.financialFact? = some (tx, postings)) :
    stored.Creates tx := by
  unfold LedgerEventRecord.Creates
  rw [h]
  rfl

theorem creates_of_contract {contract : EventContract}
    {fact : UUID × List JournalPostingFact} (h : stored.contract? = some contract)
    (hFact : contract.1.financialFact = some fact) : stored.Creates fact.1 :=
  @creates_of_fact fact.1 stored fact.2 (Option.bind_eq_some_iff.2 ⟨contract, h, hFact⟩)

/-- Only a transaction of the tables was created. -/
theorem mem_transactions_of_creates (h : JournalHistory events t)
    (hMem : stored ∈ events) (hCreates : stored.Creates tx) :
    tx ∈ t.journalTransactions.map (·.transactionId) := by
  obtain ⟨fact, hFact, rfl⟩ := Option.map_eq_some_iff.1 hCreates
  obtain ⟨row, hRow, hKey⟩ := h.transaction_of_source
    ⟨stored, hMem, by rw [LedgerEventRecord.transactionKey?, hFact]; rfl⟩
  exact List.mem_map.2 ⟨row, hRow, congrArg TransactionKey.transactionId hKey⟩

theorem transactionUnits_append_ne (h : ¬stored.Creates tx) :
    transactionUnits (events ++ [stored]) tx key
      = transactionUnits events tx key := by
  unfold transactionUnits
  rw [List.filter_append, List.filter_cons_of_neg (by simpa using h),
    List.filter_nil, List.append_nil]

theorem transactionUnits_eq_zero (h : ∀ e ∈ events, ¬e.Creates tx) :
    transactionUnits events tx key = 0 := by
  unfold transactionUnits
  rw [List.filter_eq_nil_iff.2 (by simpa using h)]
  rfl

theorem signedPostings_append (before after : List LedgerEventRecord) :
    signedPostings (before ++ after)
      = signedPostings before ++ signedPostings after :=
  List.flatMap_append

theorem transactionUnits_singleton
    (h : stored.financialFact? = some (tx, postings)) :
    transactionUnits [stored] tx key = postingUnits postings key := by
  unfold transactionUnits postingUnits
  rw [List.filter_cons_of_pos (by simpa using creates_of_fact h)]
  simp [signedPostings, LedgerEventRecord.signedPostings, h]

theorem transactionUnits_append (more : List LedgerEventRecord) :
    transactionUnits (events ++ more) tx key
      = transactionUnits events tx key + transactionUnits more tx key := by
  unfold transactionUnits
  rw [List.filter_append, signedPostings_append, sumAt_append]

/-- A transaction is created once, so its postings are those of the event. -/
theorem transactionUnits_of_mem (h : JournalHistory events t)
    (hMem : stored ∈ events)
    (hFact : stored.financialFact? = some (tx, postings)) :
    transactionUnits events tx key = postingUnits postings key := by
  have hIds : ((events.filterMap (·.transactionKey?)).map
      (·.transactionId)).Nodup := by
    rw [← h.transactions, List.map_map]
    exact h.transactionIds
  obtain ⟨before, after, rfl⟩ := List.append_of_mem hMem
  have hKey : stored.transactionKey?
      = some ⟨tx, stored.eventId, stored.bookPosition, stored.effectiveAt⟩ := by
    rw [LedgerEventRecord.transactionKey?, hFact]
    rfl
  rw [List.filterMap_append, List.filterMap_cons_some hKey, List.map_append,
    List.map_cons, List.nodup_middle, List.nodup_cons] at hIds
  have hOthers : ∀ e, e ∈ before ∨ e ∈ after → ¬e.Creates tx := by
    intro e he hCreates
    obtain ⟨fact, hFact', rfl⟩ := Option.map_eq_some_iff.1 hCreates
    apply hIds.1
    rw [← List.map_append, ← List.filterMap_append]
    refine List.mem_map.2 ⟨⟨fact.1, e.eventId, e.bookPosition, e.effectiveAt⟩,
      List.mem_filterMap.2 ⟨e, List.mem_append.2 he, ?_⟩, rfl⟩
    rw [LedgerEventRecord.transactionKey?, hFact']
    rfl
  rw [transactionUnits_append, ← List.singleton_append,
    transactionUnits_append, transactionUnits_singleton hFact,
    transactionUnits_eq_zero fun e he => hOthers e (.inl he),
    transactionUnits_eq_zero fun e he => hOthers e (.inr he)]
  omega

/-- Inverse postings add the opposite. -/
theorem postingUnits_of_validateExactInverse
    {original inverse : List JournalPostingFact}
    (h : validateExactInverse original inverse = .ok ()) :
    postingUnits inverse key = -postingUnits original key := by
  simp only [validateExactInverse, bind_eq_ok, require_eq_ok, forEach_eq_ok,
    exists_const] at h
  obtain ⟨hLength, -, hPairs⟩ := h
  have hForall : List.Forall₂ inverts original inverse :=
    List.forall₂_iff_zip.2 ⟨hLength, fun hMem => hPairs _ hMem⟩
  clear hPairs hLength
  unfold postingUnits
  induction hForall with
  | nil => rfl
  | cons hHead _ ih =>
      obtain ⟨-, hAccount, hAsset, hUnits, hSide⟩ := hHead
      rw [List.map_cons, List.map_cons, sumAt_cons, sumAt_cons, ih, hAccount,
        hAsset, hUnits, hSide, signedUnits_opposite]
      split <;> omega

end Units

/-! ## Reversals over a run -/

/-- What the reversal rows of a history satisfy. -/
structure ReversalsSound (events : List LedgerEventRecord) (t : SyncTables) :
    Prop where
  projected : ∀ row ∈ t.transactionReversals,
    row.originalTransactionId ∈ t.journalTransactions.map (·.transactionId)
      ∧ row.reversalTransactionId ∈ t.journalTransactions.map (·.transactionId)
  inverse : ∀ row ∈ t.transactionReversals, ∀ key,
    transactionUnits events row.reversalTransactionId key
      = -transactionUnits events row.originalTransactionId key
  chains : ∀ tx, ∃ chain, ReversalChain t tx chain

/-- A reversal that is accepted after a run inverts the postings of an event
of the run, and is the first of its target. -/
theorem reversal_source {ledger events : List LedgerEventRecord}
    {bookId : UUID} {catalog : Catalog} {t t' : SyncTables}
    {stored : LedgerEventRecord} {payload : JournalTransactionReversed}
    (hKeys : LedgerKeys ledger)
    (hRun : Run (Projects ledger bookId) SyncTables.empty events t)
    (hHistory : JournalHistory events t)
    (h : applyJournalReversed catalog ledger stored payload
      (t.mark stored.eventId) = .ok t') :
    ∃ source ∈ events, ∃ postings,
      source.financialFact? = some (payload.reversesTransactionId, postings)
        ∧ validateExactInverse postings payload.inversePostings = .ok ()
        ∧ t.reversalOf? payload.reversesTransactionId = none := by
  obtain ⟨target, source, contract, original, t₁, hTarget, hSource, -, hLookup,
    -, hContract, hOriginal, hIdentity, hInverse, -, -, hOnce, -⟩ :=
    applyJournalReversed_ok h
  have hId : source.eventId = payload.originalEventId := by
    simpa using List.find?_some hLookup
  have hMem : source ∈ events := source_mem_of_run hKeys hRun hHistory
    (List.mem_of_find?_eq_some hTarget) (List.mem_of_find?_eq_some hLookup)
    (hId.trans hSource.symm)
  refine ⟨source, hMem, original.2, ?_, hInverse, ?_⟩
  · rw [← hIdentity]
    exact Option.bind_eq_some_iff.2 ⟨contract,
      LedgerEventRecord.contract?_eq_some.2 hContract, hOriginal⟩
  · unfold SyncTables.reversalOf?
    rw [List.find?_eq_none]
    intro row hRow hTx
    exact hOnce (List.mem_map.2 ⟨row, hRow, by simpa using hTx⟩)

namespace ReversalsSound

variable {events : List LedgerEventRecord} {t t' : SyncTables}
  {stored : LedgerEventRecord}

theorem empty : ReversalsSound [] SyncTables.empty where
  projected := fun _ h => absurd h List.not_mem_nil
  inverse := fun _ h => absurd h List.not_mem_nil
  chains := fun _ => ⟨[], .current rfl⟩

/-- An event that reverses nothing. -/
theorem frame (h : ReversalsSound events t)
    (hCreated : ∀ tx ∈ t.journalTransactions.map (·.transactionId),
      ¬stored.Creates tx ∧ tx ∈ t'.journalTransactions.map (·.transactionId))
    (hRows : t'.transactionReversals = t.transactionReversals) :
    ReversalsSound (events ++ [stored]) t' := by
  refine ⟨?_, ?_, ?_⟩
  · intro row hRow
    rw [hRows] at hRow
    obtain ⟨hOriginal, hReversal⟩ := h.projected row hRow
    exact ⟨(hCreated _ hOriginal).2, (hCreated _ hReversal).2⟩
  · intro row hRow key
    rw [hRows] at hRow
    obtain ⟨hOriginal, hReversal⟩ := h.projected row hRow
    rw [transactionUnits_append_ne (hCreated _ hOriginal).1,
      transactionUnits_append_ne (hCreated _ hReversal).1]
    exact h.inverse row hRow key
  · intro tx
    obtain ⟨chain, hChain⟩ := h.chains tx
    exact ⟨chain, hChain.congr hRows⟩

/-- A reversal of a transaction that was not reversed. -/
theorem reverse (h : ReversalsSound events t)
    (row : TransactionReversalRecord) {postings inverse}
    (hHistory : JournalHistory events t)
    (hCreated : ∀ tx ∈ t.journalTransactions.map (·.transactionId),
      ¬stored.Creates tx ∧ tx ∈ t'.journalTransactions.map (·.transactionId))
    (hSource : ∃ source ∈ events, source.financialFact?
      = some (row.originalTransactionId, postings))
    (hFact : stored.financialFact?
      = some (row.reversalTransactionId, inverse))
    (hOwn : row.reversalTransactionId
      ∈ t'.journalTransactions.map (·.transactionId))
    (hInverse : validateExactInverse postings inverse = .ok ())
    (hRows : t'.transactionReversals = t.transactionReversals ++ [row]) :
    ReversalsSound (events ++ [stored]) t' := by
  obtain ⟨source, hMem, hSourceFact⟩ := hSource
  have hOriginal := mem_transactions_of_creates hHistory hMem
    (creates_of_fact hSourceFact)
  have hNew : row.reversalTransactionId
      ∉ t.journalTransactions.map (·.transactionId) := fun hOld =>
    (hCreated _ hOld).1 (creates_of_fact hFact)
  refine ⟨?_, ?_, ?_⟩
  · intro old hOld
    rw [hRows] at hOld
    rcases List.mem_append.1 hOld with hOld | hOld
    · obtain ⟨hFirst, hSecond⟩ := h.projected old hOld
      exact ⟨(hCreated _ hFirst).2, (hCreated _ hSecond).2⟩
    · rw [List.mem_singleton.1 hOld]
      exact ⟨(hCreated _ hOriginal).2, hOwn⟩
  · intro old hOld key
    rw [hRows] at hOld
    rcases List.mem_append.1 hOld with hOld | hOld
    · obtain ⟨hFirst, hSecond⟩ := h.projected old hOld
      rw [transactionUnits_append_ne (hCreated _ hFirst).1,
        transactionUnits_append_ne (hCreated _ hSecond).1]
      exact h.inverse old hOld key
    · rw [List.mem_singleton.1 hOld,
        transactionUnits_append_ne (hCreated _ hOriginal).1,
        transactionUnits_of_mem hHistory hMem hSourceFact,
        transactionUnits_append, transactionUnits_singleton hFact,
        transactionUnits_eq_zero, zero_add,
        postingUnits_of_validateExactInverse hInverse]
      intro e he hCreates
      exact hNew (mem_transactions_of_creates hHistory he hCreates)
  · intro tx
    obtain ⟨chain, hChain⟩ := h.chains tx
    refine hChain.append hRows ?_ ?_
    · unfold SyncTables.reversalOf?
      rw [List.find?_eq_none]
      intro old hOld hTx
      have hEq : old.originalTransactionId = row.reversalTransactionId := by
        simpa using hTx
      exact hNew (hEq ▸ (h.projected old hOld).1)
    · intro hEq
      exact hNew (hEq ▸ hOriginal)

/-- One accepted event. -/
theorem step {ledger : List LedgerEventRecord} {bookId : UUID}
    (h : ReversalsSound events t) (hKeys : LedgerKeys ledger)
    (hRun : Run (Projects ledger bookId) SyncTables.empty events t)
    (hHistory : JournalHistory events t)
    (hFresh : stored.eventId ∉ events.map (·.eventId))
    (hStep : Projects ledger bookId t stored t') :
    ReversalsSound (events ++ [stored]) t' := by
  have hUnmarked : stored.eventId ∉ t.appliedEvents.map (·.eventId) := by
    intro hMem
    obtain ⟨e, he, hId, -⟩ := (hHistory.applied _).1 hMem
    exact hFresh (List.mem_map.2 ⟨e, he, hId⟩)
  rcases projects_cases hStep hUnmarked with
    ⟨hNone, rfl⟩ | ⟨catalog, contract, hContract, hPayload⟩
  · refine h.frame (fun tx hTx => ⟨?_, hTx⟩) rfl
    simp [LedgerEventRecord.Creates, LedgerEventRecord.financialFact?, hNone]
  · have hEffect := applyPayload_journalEffect hPayload
    have hFact : stored.financialFact? = contract.1.financialFact := by
      simp [LedgerEventRecord.financialFact?, hContract]
    have hCreated : ∀ tx ∈ t.journalTransactions.map (·.transactionId),
        ¬stored.Creates tx
          ∧ tx ∈ t'.journalTransactions.map (·.transactionId) := by
      intro tx hTx
      have hJournal := hEffect.journal
      unfold LedgerEventRecord.Creates
      rw [hFact]
      cases hCase : contract.1.financialFact with
      | none =>
          rw [hCase] at hJournal
          rw [hJournal.transactions]
          exact ⟨by simp, hTx⟩
      | some fact =>
          rw [hCase] at hJournal
          obtain ⟨row, -, hRows⟩ := hJournal.transactions
          rw [hRows, List.map_append]
          refine ⟨?_, List.mem_append_left _ hTx⟩
          rintro hEq
          obtain rfl : fact.1 = tx := Option.some.inj hEq
          exact hJournal.fresh hTx
    have hRows := hEffect.reversals
    obtain ⟨payload, hValid⟩ := contract
    cases payload with
    | journalTransactionReversed p =>
        obtain ⟨source, hMem, postings, hSource, hInverse, -⟩ :=
          reversal_source hKeys hRun hHistory hPayload
        have hOwn : p.reversalTransactionId
            ∈ t'.journalTransactions.map (·.transactionId) := by
          obtain ⟨row, hKey, hAppend⟩ := hEffect.journal.transactions
          rw [hAppend, List.map_append]
          exact List.mem_append_right _ (List.mem_singleton.2
            (congrArg TransactionKey.transactionId hKey).symm)
        exact h.reverse ⟨p.reversalTransactionId, p.reversesTransactionId,
          stored.eventId, p.originalEventId, p.originalEventHash,
          p.reasonCode⟩ hHistory hCreated
          ⟨source, hMem, hSource⟩ hFact hOwn hInverse hRows
    | _ =>
        refine h.frame hCreated ?_
        simpa [EventPayload.reversalRow, SyncTables.mark] using hRows

theorem run {ledger : List LedgerEventRecord} {bookId : UUID}
    (hKeys : LedgerKeys ledger)
    (hDistinct : (events.map (·.eventId)).Nodup)
    (hRun : Run (Projects ledger bookId) SyncTables.empty events t) :
    ReversalsSound events t := by
  refine Run.traceInvariant
    (I := fun done t => (done.map (·.eventId)).Nodup → ReversalsSound done t)
    (fun _ => empty) ?_ hRun hDistinct
  intro done t₁ stored t₂ hDone hI hStep hNodup
  rw [List.map_append, List.nodup_append] at hNodup
  refine (hI hNodup.1).step hKeys hDone (journalHistory_run hNodup.1 hDone) ?_
    hStep
  intro hMem
  exact hNodup.2.2 _ hMem _ (List.mem_singleton.2 rfl) rfl

end ReversalsSound

/-! ## Once for each transaction -/

section Once

variable {ledger events : List LedgerEventRecord} {bookId : UUID} {t t' : SyncTables}
  {stored : LedgerEventRecord}

/-- A reversal names a transaction that no reversal names yet. -/
theorem reversedOnce_step (h : (t.transactionReversals.map (·.originalTransactionId)).Nodup)
    (hStep : Projects ledger bookId t stored t') :
    (t'.transactionReversals.map (·.originalTransactionId)).Nodup := by
  obtain ⟨-, -, catalog, result, hApply⟩ := hStep
  obtain ⟨rfl, -, -⟩ | ⟨contract, -, -, hPayload⟩ := applyStored_cases hApply
  · exact h
  obtain ⟨payload, hValid⟩ := contract
  have hRows := (applyPayload_journalEffect hPayload).reversals
  cases payload with
  | journalTransactionReversed p =>
      obtain ⟨_, _, _, _, _, -, -, -, -, -, -, -, -, -, -, -, hOnce, -⟩ :=
        applyJournalReversed_ok hPayload
      rw [hRows, List.map_append, List.nodup_append]
      refine ⟨h, List.nodup_singleton _, ?_⟩
      intro a ha b hb hSame
      obtain rfl := List.mem_singleton.1 hb
      rw [hSame] at ha
      exact hOnce ha
  | _ =>
      rw [hRows]
      simpa [EventPayload.reversalRow, SyncTables.mark] using h

theorem reversedOnce_run (hRun : Run (Projects ledger bookId) SyncTables.empty events t) :
    (t.transactionReversals.map (·.originalTransactionId)).Nodup :=
  Run.invariant (I := fun t => (t.transactionReversals.map (·.originalTransactionId)).Nodup)
    List.nodup_nil (fun _ _ _ => reversedOnce_step) hRun

/-- One event creates a transaction. -/
theorem creates_unique {other : LedgerEventRecord} {tx : UUID} (h : JournalHistory events t)
    (hDistinct : (events.map (·.eventId)).Nodup) (hMem : stored ∈ events)
    (hOther : other ∈ events) (hCreates : stored.Creates tx) (hAlso : other.Creates tx) :
    stored = other := by
  obtain ⟨fact, hFact, rfl⟩ := Option.map_eq_some_iff.1 hCreates
  obtain ⟨fact', hFact', hSame⟩ := Option.map_eq_some_iff.1 hAlso
  obtain ⟨row, hRow, hKey⟩ := h.transaction_of_source
    ⟨stored, hMem, by rw [LedgerEventRecord.transactionKey?, hFact]; rfl⟩
  obtain ⟨row', hRow', hKey'⟩ := h.transaction_of_source
    ⟨other, hOther, by rw [LedgerEventRecord.transactionKey?, hFact']; rfl⟩
  have hRows : row = row' := by
    refine List.inj_on_of_nodup_map h.transactionIds hRow hRow' ?_
    have hId : row.transactionId = fact.1 := congrArg TransactionKey.transactionId hKey
    have hId' : row'.transactionId = fact'.1 := congrArg TransactionKey.transactionId hKey'
    rw [hId, hId', hSame]
  rw [hRows, hKey'] at hKey
  have hEvents : other.eventId = stored.eventId := congrArg TransactionKey.sourceEventId hKey
  exact List.inj_on_of_nodup_map hDistinct hMem hOther hEvents.symm

end Once

/-! ## Balances follow the parity of the chain -/

/-- What a transaction and the reversals over it add to a balance. -/
def chainUnits (events : List LedgerEventRecord) (tx : UUID)
    (chain : List UUID) (key : BalanceKey) : Int :=
  ((tx :: chain).map fun tx => transactionUnits events tx key).sum

/-- A chain of odd length cancels the transaction, one of even length leaves
it as it was posted. -/
theorem chainUnits_parity {events : List LedgerEventRecord} {t : SyncTables}
    (h : ReversalsSound events t) {tx : UUID} {chain : List UUID}
    (hChain : ReversalChain t tx chain) (key : BalanceKey) :
    chainUnits events tx chain key
      = if Even chain.length then transactionUnits events tx key else 0 := by
  induction hChain with
  | current hNone => simp [chainUnits]
  | @reversed tx row rest hSome _ ih =>
      have hRow : row ∈ t.transactionReversals :=
        List.mem_of_find?_eq_some hSome
      have hOriginal : row.originalTransactionId = tx := by
        simpa using List.find?_some hSome
      have hInverse := h.inverse row hRow key
      rw [hOriginal] at hInverse
      have hRest : chainUnits events tx (row.reversalTransactionId :: rest) key
          = transactionUnits events tx key
            + chainUnits events row.reversalTransactionId rest key := by
        simp [chainUnits]
      rw [hRest, ih, hInverse]
      by_cases hEven : Even rest.length
      · have hOdd : ¬Even (rest.length + 1) := by
          rw [Nat.even_add_one]
          simpa using hEven
        simp [hEven, hOdd]
      · have hEven' : Even (rest.length + 1) := by
          rw [Nat.even_add_one]
          exact hEven
        simp [hEven, hEven']

end TrackAnywhere.Ports
