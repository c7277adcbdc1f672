import TrackAnywhere.Ports.SyncEffects

/-!
# The journal tables as a reading of the event history

A run of the projector over distinct events leaves tables that can be read off
the events themselves: the transaction rows are the financial facts of the
events in order, the posting rows are their postings, the balances are the
upserts of those postings, the reversal rows are the reversals, and the
markers are the events of a required type.  `journalHistory_run` is the
invariant; the modules on balances, summaries and refunds start from it.
-/

namespace TrackAnywhere.Ports

open TrackAnywhere.Verified
open TrackAnywhere.Verified.KeyedSum

namespace LedgerEventRecord

/-- The key of the transaction row an event creates. -/
def transactionKey? (stored : LedgerEventRecord) : Option TransactionKey :=
  stored.financialFact?.map fun fact =>
    ⟨fact.1, stored.eventId, stored.bookPosition, stored.effectiveAt⟩

/-- The posting rows an event creates. -/
def postingRecords (stored : LedgerEventRecord) : List JournalPostingRecord :=
  match stored.financialFact? with
  | some fact => fact.2.map (·.record fact.1)
  | none => []

/-- The balance upserts an event performs. -/
def balanceInserts (stored : LedgerEventRecord) :
    List (BalanceKey × AccountBalanceRecord) :=
  match stored.financialFact? with
  | some fact => fact.2.map (·.balanceInsert stored.bookPosition)
  | none => []

/-- The reversal row an event creates. -/
def reversalRow? (stored : LedgerEventRecord) :
    Option TransactionReversalRecord :=
  stored.contract?.bind (·.1.reversalRow stored)

theorem eventId_of_transactionKey? {stored : LedgerEventRecord}
    {key : TransactionKey} (h : stored.transactionKey? = some key) :
    stored.eventId = key.sourceEventId := by
  obtain ⟨fact, -, rfl⟩ := Option.map_eq_some_iff.1 h
  rfl

end LedgerEventRecord

/-- The tables are the reading of these events. -/
structure JournalHistory (events : List LedgerEventRecord) (t : SyncTables) :
    Prop where
  transactions : t.journalTransactions.map (·.key)
    = events.filterMap (·.transactionKey?)
  transactionIds : (t.journalTransactions.map (·.transactionId)).Nodup
  postings : t.journalPostings = events.flatMap (·.postingRecords)
  balances : t.accountBalances
    = accumulate mergeBalance ∅ (events.flatMap (·.balanceInserts))
  reversals : t.transactionReversals = events.filterMap (·.reversalRow?)
  applied : ∀ eventId, eventId ∈ t.appliedEvents.map (·.eventId) ↔
    ∃ e ∈ events, e.eventId = eventId ∧ e.contract?.isSome

namespace JournalHistory

theorem empty : JournalHistory [] SyncTables.empty := by
  refine ⟨rfl, List.nodup_nil, rfl, rfl, rfl, ?_⟩
  simp [SyncTables.empty]

variable {events : List LedgerEventRecord} {t t' : SyncTables}
  {stored : LedgerEventRecord}

/-- Every transaction row comes from an event of the history. -/
theorem source_of_transaction (h : JournalHistory events t)
    {row : JournalTransactionRecord} (hRow : row ∈ t.journalTransactions) :
    ∃ e ∈ events, e.transactionKey? = some row.key := by
  have hKey : row.key ∈ events.filterMap (·.transactionKey?) := by
    rw [← h.transactions]
    exact List.mem_map.2 ⟨row, hRow, rfl⟩
  exact List.mem_filterMap.1 hKey

/-- Every financial event of the history has its transaction row. -/
theorem transaction_of_source (h : JournalHistory events t) {key}
    (hSource : ∃ e ∈ events, e.transactionKey? = some key) :
    ∃ row ∈ t.journalTransactions, row.key = key := by
  have hKey : key ∈ t.journalTransactions.map (·.key) := by
    rw [h.transactions]
    exact List.mem_filterMap.2 hSource
  exact List.mem_map.1 hKey

/-- An event of an unknown type is read as nothing. -/
theorem skip (h : JournalHistory events t) (hNone : stored.contract? = none) :
    JournalHistory (events ++ [stored]) t := by
  have hFact : stored.financialFact? = none := by
    simp [LedgerEventRecord.financialFact?, hNone]
  refine ⟨?_, h.transactionIds, ?_, ?_, ?_, ?_⟩
  · simp [h.transactions, LedgerEventRecord.transactionKey?, hFact]
  · simp [h.postings, LedgerEventRecord.postingRecords, hFact]
  · simp [h.balances, LedgerEventRecord.balanceInserts, hFact]
  · simp [h.reversals, LedgerEventRecord.reversalRow?, hNone]
  · intro eventId
    rw [h.applied]
    simp only [List.mem_append, List.mem_singleton]
    constructor
    · rintro ⟨e, he, hId⟩
      exact ⟨e, .inl he, hId⟩
    · rintro ⟨e, he | rfl, hId, hSome⟩
      · exact ⟨e, he, hId, hSome⟩
      · simp [hNone] at hSome

/-- An applied event extends the reading by itself. -/
theorem apply {contract : EventContract} (h : JournalHistory events t)
    (hContract : stored.contract? = some contract)
    (hEffect : JournalEffect stored contract.1 (t.mark stored.eventId) t') :
    JournalHistory (events ++ [stored]) t' := by
  have hApplied : ∀ eventId, eventId ∈ t'.appliedEvents.map (·.eventId) ↔
      ∃ e ∈ events ++ [stored], e.eventId = eventId ∧ e.contract?.isSome := by
    intro eventId
    rw [hEffect.appliedEvents]
    simp only [SyncTables.mark, List.map_append, List.mem_append, h.applied,
      List.map_cons, List.map_nil, List.mem_singleton]
    constructor
    · rintro (⟨e, he, hId⟩ | rfl)
      · exact ⟨e, .inl he, hId⟩
      · exact ⟨stored, .inr rfl, rfl, by simp [hContract]⟩
    · rintro ⟨e, he | rfl, hId, hSome⟩
      · exact .inl ⟨e, he, hId, hSome⟩
      · exact .inr hId.symm
  have hReversals : t'.transactionReversals
      = (events ++ [stored]).filterMap (·.reversalRow?) := by
    have hRow : stored.reversalRow? = contract.1.reversalRow stored := by
      simp [LedgerEventRecord.reversalRow?, hContract]
    rw [hEffect.reversals, List.filterMap_append, ← h.reversals, ← hRow]
    cases hCase : stored.reversalRow? <;> simp [SyncTables.mark, hCase]
  have hFact : stored.financialFact? = contract.1.financialFact := by
    simp [LedgerEventRecord.financialFact?, hContract]
  have hJournal := hEffect.journal
  cases hCase : contract.1.financialFact with
  | none =>
      rw [hCase] at hJournal hFact
      refine ⟨?_, ?_, ?_, ?_, hReversals, hApplied⟩
      · simp [hJournal.transactions, SyncTables.mark, h.transactions,
          LedgerEventRecord.transactionKey?, hFact]
      · rw [hJournal.transactions]
        exact h.transactionIds
      · simp [hJournal.postings, SyncTables.mark, h.postings,
          LedgerEventRecord.postingRecords, hFact]
      · simp [hJournal.balances, SyncTables.mark, h.balances,
          LedgerEventRecord.balanceInserts, hFact]
  | some fact =>
      rw [hCase] at hJournal hFact
      obtain ⟨row, hKey, hRows⟩ := hJournal.transactions
      have hId : row.transactionId = fact.1 :=
        congrArg TransactionKey.transactionId hKey
      refine ⟨?_, ?_, ?_, ?_, hReversals, hApplied⟩
      · simp [hRows, SyncTables.mark, h.transactions, hKey,
          LedgerEventRecord.transactionKey?, hFact]
      · rw [hRows, List.map_append, List.nodup_append]
        refine ⟨h.transactionIds, List.nodup_singleton _, ?_⟩
        intro a ha b hb hab
        simp only [List.map_cons, List.map_nil, List.mem_singleton] at hb
        subst hb
        rw [hab, hId] at ha
        exact hJournal.fresh ha
      · simp [hJournal.postings, SyncTables.mark, h.postings,
          LedgerEventRecord.postingRecords, hFact]
      · simp [hJournal.balances, SyncTables.mark, h.balances, accumulate,
          LedgerEventRecord.balanceInserts, hFact]

end JournalHistory

/-- What one accepted event with a new identity does to the reading. -/
theorem journalHistory_step {ledger events : List LedgerEventRecord}
    {bookId : UUID} {t t' : SyncTables} {stored : LedgerEventRecord}
    (h : JournalHistory events t)
    (hFresh : stored.eventId ∉ events.map (·.eventId))
    (hStep : Projects ledger bookId t stored t') :
    JournalHistory (events ++ [stored]) t' := by
  obtain ⟨-, -, catalog, result, hApply⟩ := hStep
  obtain ⟨rfl, -, hSkip⟩ | ⟨contract, hContract, -, hPayload⟩ :=
    applyStored_cases hApply
  · obtain hVersion | hMarked := hSkip
    · exact h.skip (LedgerEventRecord.contract?_eq_none hVersion)
    · obtain ⟨e, he, hId, -⟩ := (h.applied _).1 hMarked
      exact absurd (List.mem_map.2 ⟨e, he, hId⟩) hFresh
  · exact h.apply (LedgerEventRecord.contract?_eq_some.2 hContract)
      (applyPayload_journalEffect hPayload)

/-- After a run over distinct events, the tables are the reading of these
events. -/
theorem journalHistory_run {ledger events : List LedgerEventRecord}
    {bookId : UUID} {t : SyncTables}
    (hDistinct : (events.map (·.eventId)).Nodup)
    (hRun : Run (Projects ledger bookId) SyncTables.empty events t) :
    JournalHistory events t := by
  refine Run.traceInvariant
    (I := fun done t => (done.map (·.eventId)).Nodup → JournalHistory done t)
    (fun _ => JournalHistory.empty) ?_ hRun hDistinct
  intro done t₁ stored t₂ _ hI hStep hNodup
  rw [List.map_append, List.nodup_append] at hNodup
  refine journalHistory_step (hI hNodup.1) ?_ hStep
  intro hMem
  exact hNodup.2.2 _ hMem _ (List.mem_singleton.2 rfl) rfl

/-- Events of one Book at increasing positions are distinct. -/
theorem eventIds_nodup {ledger events : List LedgerEventRecord}
    (hKeys : LedgerKeys ledger) (hMem : ∀ e ∈ events, e ∈ ledger)
    (hOrder : events.Pairwise fun a b => a.bookPosition < b.bookPosition) :
    (events.map (·.eventId)).Nodup := by
  rw [List.Nodup, List.pairwise_map]
  refine hOrder.imp_of_mem ?_
  intro a b ha hb hlt hId
  have hEq : a = b :=
    List.inj_on_of_nodup_map hKeys.eventId (hMem a ha) (hMem b hb) hId
  subst hEq
  exact lt_irrefl _ hlt

/-- The events of a run are events of the ledger. -/
theorem mem_ledger_of_run {ledger events : List LedgerEventRecord}
    {bookId : UUID} {t t' : SyncTables}
    (hRun : Run (Projects ledger bookId) t events t') :
    ∀ e ∈ events, e ∈ ledger ∧ e.bookId = bookId := by
  induction hRun with
  | nil => exact fun _ h => absurd h List.not_mem_nil
  | cons hStep _ ih =>
      intro e he
      obtain rfl | he := List.mem_cons.1 he
      · exact ⟨hStep.1, hStep.2.1⟩
      · exact ih e he

/-- The ledger event under the source of a transaction row is an event of the
run. -/
theorem source_mem_of_run {ledger events : List LedgerEventRecord}
    {bookId : UUID} {t : SyncTables} (hKeys : LedgerKeys ledger)
    (hRun : Run (Projects ledger bookId) SyncTables.empty events t)
    (hHistory : JournalHistory events t) {row : JournalTransactionRecord}
    (hRow : row ∈ t.journalTransactions) {source : LedgerEventRecord}
    (hFound : source ∈ ledger) (hId : source.eventId = row.sourceEventId) :
    source ∈ events := by
  obtain ⟨e, he, hKey⟩ := hHistory.source_of_transaction hRow
  have hSame : e = source := by
    refine List.inj_on_of_nodup_map hKeys.eventId
      (mem_ledger_of_run hRun e he).1 hFound ?_
    rw [hId]
    exact LedgerEventRecord.eventId_of_transactionKey? hKey
  exact hSame ▸ he

end TrackAnywhere.Ports
