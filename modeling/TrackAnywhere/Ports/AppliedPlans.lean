import TrackAnywhere.Ports.AsOfReads
import TrackAnywhere.Ports.EntryDrafts
import TrackAnywhere.Ports.PlannedStreams

/-!
# The rows of an applied plan

A plan is applied to a Book by appending its events and projecting them in order.  The log then
holds a row for each event, and the tables go on being a reading of the log.  A transaction comes
under an id that no row of the tables names, so that what a query reads of it afterwards is what
its own event put there.
-/

namespace TrackAnywhere.Ports

open TrackAnywhere.Verified
open TrackAnywhere.Verified.Checked
open TrackAnywhere.Verified.KeyedSum
open TrackAnywhere.Verified.ChainedLog
open TrackAnywhere.Verified.Transaction
open TrackAnywhere.Verified.KeysetPages

/-! ## The rows of a batch -/

/-- The row of the log says what the pending event says. -/
structure RecordsEvent (pending : PendingEvent) (row : LedgerEventRecord) : Prop where
  eventId : row.eventId = pending.eventId
  stream : row.streamKey = pending.streamKey
  contract : row.contract? = some pending.payload
  effectiveAt : row.effectiveAt = pending.effectiveAt

section Batch

variable {sha256 : ByteArray → EventHash} {bookId : UUID}
  {expectedStreamVersions : Dict StreamKey Int} {events : List PendingEvent}
  {generated : UUID → Nat × Instant} {state state' : BatchState} {result : AppendBatchResult}
  {t t' : EventStoreTables} {rows : List LedgerEventRecord}

end Batch

/-! ## An applied plan -/

/-- What a plan does to its Book: a row for each event, in the log and in the tables. -/
structure PlanRows (sha256 : ByteArray → EventHash) (bookId : UUID) (events : List PendingEvent)
    (head : BookEventHeadRecord) (rows : List LedgerEventRecord) (ledger ledger' : BookLedger) :
    Prop where
  appended : BatchAppended sha256 bookId head rows ledger.store ledger'.store
  records : List.Forall₂ RecordsEvent events rows
  log : ledger'.store.bookEvents bookId = ledger.store.bookEvents bookId ++ rows
  projected : Run (Projects ledger'.store.events bookId) ledger.sync rows ledger'.sync

/-- New Books. -/
def BookLedger.opened (bookIds : List UUID) : BookLedger :=
  ⟨.opened bookIds, SyncTables.empty⟩

section Plans

variable {sha256 : ByteArray → EventHash} {bookId : UUID} {plan : LedgerWritePlan}
  {ledger ledger' : BookLedger}

end Plans

/-! ## The Book of a log -/

/-- The rows beside the journal name transactions of the journal. -/
structure TransactionRows (t : SyncTables) : Prop where
  originals : ∀ row ∈ t.transactionReversals,
    row.originalTransactionId ∈ t.journalTransactions.map (·.transactionId)
  cards : ∀ row ∈ t.creditCardTransactions,
    row.transactionId ∈ t.journalTransactions.map (·.transactionId)

/-- The tables of a Book are a reading of its log. -/
structure ReadsLog (events : List LedgerEventRecord) (t : SyncTables) : Prop where
  journal : JournalHistory events t
  book : JournalBook t
  rows : TransactionRows t
  reporting : ∃ current, (events.filter isReportingEvent).foldlM replayReporting ∅ = .ok current
    ∧ ReplayAgrees current t

theorem ReadsLog.empty : ReadsLog [] SyncTables.empty :=
  ⟨.empty, .empty, ⟨nofun, nofun⟩, ∅, rfl, fun _ => rfl⟩

/-- The Book is one that plans were applied to. -/
structure LedgerHistory (sha256 : ByteArray → EventHash) (bookId : UUID) (ledger : BookLedger) :
    Prop where
  store : StoreInvariant sha256 ledger.store
  reads : ReadsLog (ledger.store.bookEvents bookId) ledger.sync

section History

variable {catalog : Catalog} {sha256 : ByteArray → EventHash} {bookId : UUID}
  {events ledgerEvents rows : List LedgerEventRecord} {stored : LedgerEventRecord}
  {t t' : SyncTables} {ledger ledger' : BookLedger}

/-- Transactions stay in the journal. -/
theorem transactionIds_of_apply {payload : EventPayload}
    (h : applyPayload catalog ledgerEvents stored payload t = .ok t') :
    t.journalTransactions.map (·.transactionId)
      ⊆ t'.journalTransactions.map (·.transactionId) := by
  have hJournal := (applyPayload_journalEffect h).journal
  cases hFact : payload.financialFact with
  | none =>
      rw [hFact] at hJournal
      rw [hJournal.transactions]
      exact List.Subset.refl _
  | some fact =>
      rw [hFact] at hJournal
      obtain ⟨row, -, hRows⟩ := hJournal.transactions
      rw [hRows, List.map_append]
      exact List.subset_append_left _ _

/-- The row of a reversal names a transaction, and so does the row of a card. -/
theorem TransactionRows.apply (hRows : TransactionRows t) {payload : EventPayload}
    (h : applyPayload catalog ledgerEvents stored payload t = .ok t') : TransactionRows t' := by
  have hKept := transactionIds_of_apply h
  constructor
  · intro row hRow
    rw [(applyPayload_journalEffect h).reversals, List.mem_append, Option.mem_toList] at hRow
    rcases hRow with hOld | hNew
    · exact hKept (hRows.originals row hOld)
    · cases payload with
      | journalTransactionReversed p =>
          cases hNew
          obtain ⟨target, _, _, _, _, hTarget, -⟩ := applyJournalReversed_ok h
          have hId := List.find?_some hTarget
          refine hKept (List.mem_map.2 ⟨target, List.mem_of_find?_eq_some hTarget, ?_⟩)
          simpa using hId
      | _ => cases hNew
  · intro row hRow
    by_cases hCard : ∃ p, payload = .creditCardTransactionRecorded p
    · obtain ⟨p, rfl⟩ := hCard
      obtain ⟨added, transaction, _, hId, -, -, -, -, -, hTransaction, -, hTransactions, hCards,
        -⟩ := applyCreditCardRecorded_ok h
      rw [hCards, List.mem_append, List.mem_singleton] at hRow
      rcases hRow with hOld | rfl
      · exact hKept (hRows.cards row hOld)
      · rw [hTransactions, hId, ← hTransaction]
        exact List.mem_map_of_mem (List.mem_append_right _ (List.mem_singleton_self _))
    · rw [creditCardTransactions_frame h fun p hSame => hCard ⟨p, hSame⟩] at hRow
      exact hKept (hRows.cards row hRow)

theorem transactionRows_step (hRows : TransactionRows t)
    (hStep : Projects ledgerEvents bookId t stored t') : TransactionRows t' := by
  obtain ⟨-, -, catalog, result, hApply⟩ := hStep
  rcases applyStored_cases hApply with ⟨rfl, -, -⟩ | ⟨contract, -, -, hPayload⟩
  · exact hRows
  · exact TransactionRows.apply (t := t.mark stored.eventId) ⟨hRows.originals, hRows.cards⟩
      hPayload

/-- A new event is handed to the applier of its type. -/
theorem ReadsLog.applies (h : ReadsLog events t) (hFresh : stored.eventId ∉ events.map (·.eventId))
    (hStep : Projects ledgerEvents bookId t stored t') {contract : EventContract}
    (hContract : stored.contract? = some contract) :
    ∃ catalog, applyPayload catalog ledgerEvents stored contract.1 (t.mark stored.eventId)
      = .ok t' := by
  have hUnmarked : stored.eventId ∉ t.appliedEvents.map (·.eventId) := by
    rw [h.journal.applied]
    rintro ⟨e, he, hId, -⟩
    exact hFresh (List.mem_map.2 ⟨e, he, hId⟩)
  rcases projects_cases hStep hUnmarked with ⟨hNone, -⟩ | ⟨catalog, other, hOther, hApply⟩
  · cases hNone.symm.trans hContract
  · cases hOther.symm.trans hContract
    exact ⟨catalog, hApply⟩

/-- A new event extends the reading. -/
theorem ReadsLog.step (h : ReadsLog events t) (hFresh : stored.eventId ∉ events.map (·.eventId))
    (hValid : stored.contract?.isSome) (hStep : Projects ledgerEvents bookId t stored t') :
    ReadsLog (events ++ [stored]) t' := by
  refine ⟨journalHistory_step h.journal hFresh hStep, journalBook_step h.book hStep,
    transactionRows_step h.rows hStep, ?_⟩
  obtain ⟨contract, hContract⟩ := Option.isSome_iff_exists.1 hValid
  obtain ⟨catalog, hApply⟩ := h.applies hFresh hStep hContract
  obtain ⟨current, hReplay, hAgree⟩ := h.reporting
  obtain ⟨current', hNext, hAgree'⟩ := replayReporting_agrees hAgree hContract hApply
  refine ⟨current', ?_, hAgree'⟩
  rw [List.filter_append, List.foldlM_append, hReplay]
  exact hNext

/-- The id of an event that follows others is new. -/
theorem fresh_of_nodup (h : ((events ++ stored :: rows).map (·.eventId)).Nodup) :
    stored.eventId ∉ events.map (·.eventId) := by
  rw [List.map_append, List.nodup_append] at h
  exact fun hMem => h.2.2 _ hMem _ List.mem_cons_self rfl

theorem ReadsLog.run (h : ReadsLog events t)
    (hDistinct : ((events ++ rows).map (·.eventId)).Nodup)
    (hValid : ∀ row ∈ rows, row.contract?.isSome)
    (hRun : Run (Projects ledgerEvents bookId) t rows t') : ReadsLog (events ++ rows) t' := by
  induction hRun generalizing events with
  | nil => rwa [List.append_nil]
  | @cons t t₁ t' stored rows hStep _ ih =>
      have hNext := h.step (fresh_of_nodup hDistinct) (hValid _ List.mem_cons_self) hStep
      rw [List.append_cons] at hDistinct ⊢
      exact ih hNext hDistinct fun row hRow => hValid row (List.mem_cons_of_mem _ hRow)

/-- At the head of its Book, the query returns the lines of the tables, source by source. -/
theorem ReadsLog.listCurrentReportingLines {store : EventStoreTables}
    {head : BookEventHeadRecord} (h : ReadsLog (store.bookEvents bookId) t)
    (hLog : AcceptedLog store bookId) (hHead : store.bookHead? bookId = some head) :
    ∃ lines, listCurrentReportingLines store bookId head.lastPosition = .ok lines
      ∧ ∀ source, lines.filter (·.transactionId = source)
        = (t.reportingRowsOf source).map (·.view) := by
  obtain ⟨current, hReplay, hAgree⟩ := h.reporting
  have hSelected : ((store.bookEvents bookId).filter fun e =>
        e.bookPosition ≤ head.lastPosition ∧ isReportingEvent e)
      = (store.bookEvents bookId).filter isReportingEvent := by
    refine List.filter_congr fun e he => ?_
    simp [hLog.position_le hHead e he]
  refine ⟨_, bind_eq_ok.2 ⟨head, fetch_eq_ok.2 hHead, bind_eq_ok.2 ⟨(), require_eq_ok.2 le_rfl,
    bind_eq_ok.2 ⟨current, ?_, rfl⟩⟩⟩, fun source => ?_⟩
  · rw [hSelected, hLog.sorted List.filter_sublist]
    exact hReplay
  · rw [filter_flatMap_sources]
    · split_ifs with hKey
      · exact hAgree source
      · rw [List.mem_insertionSort, ← AList.mem_keys] at hKey
        rw [← hAgree source, AList.lookup_eq_none.2 hKey]
        rfl
    · intro k line hLine
      rw [hAgree k] at hLine
      obtain ⟨row, hRow, rfl⟩ := List.mem_map.1 hLine
      exact of_decide_eq_true (List.mem_filter.1 hRow).2
    · exact (List.perm_insertionSort _ _).nodup_iff.2 current.keys_nodup

/-- A plan extends the history of its Book. -/
theorem LedgerHistory.apply (h : LedgerHistory sha256 bookId ledger) {events : List PendingEvent}
    {head : BookEventHeadRecord} (hPlan : PlanRows sha256 bookId events head rows ledger ledger') :
    LedgerHistory sha256 bookId ledger' := by
  have hStore := h.store.append hPlan.appended
  refine ⟨hStore, ?_⟩
  have hLog := hStore.acceptedLog bookId
  have hDistinct := hLog.distinct
  rw [hPlan.log] at hDistinct ⊢
  refine h.reads.run hDistinct (fun row hRow => hLog.validated row ?_) hPlan.projected
  rw [hPlan.log]
  exact List.mem_append_right _ hRow

end History

/-! ## A new transaction -/

/-- The kind that the transaction of a financial event is posted with. -/
def EntryFinancial.recordedKind : EntryFinancial → RecordedKind
  | posted p => p.kind.recorded
  | recorded p => p.intent.transactionKind

def EntryFinancial.transactionId : EntryFinancial → UUID
  | posted p => p.transactionId
  | recorded p => p.transactionId

def EntryFinancial.descriptionRef : EntryFinancial → Option UUID
  | posted p => p.descriptionRef
  | recorded p => p.descriptionRef

/-- What a card transaction says of its accounts. -/
def EntryFinancial.relation? : EntryFinancial → Option CreditCardRelation
  | posted _ => none
  | recorded p => some ⟨p.intent, p.cardAccountId, p.counterAccountId, p.originalTransactionId⟩

/-- The rows of the journal are those of before, with those of one new transaction. -/
structure PostsTransaction (stored : LedgerEventRecord) (financial : EntryFinancial)
    (t t' : SyncTables) : Prop where
  fresh : financial.transactionId ∉ t.journalTransactions.map (·.transactionId)
  transactions : t'.journalTransactions = t.journalTransactions ++
    [⟨financial.transactionId, stored.eventId, stored.bookPosition, stored.effectiveAt,
      financial.recordedKind, financial.descriptionRef⟩]
  postings : t'.journalPostings = t.journalPostings
    ++ financial.postings.map (·.record financial.transactionId)
  reversals : t'.transactionReversals = t.transactionReversals
  cards : ∃ rows, t'.creditCardTransactions = t.creditCardTransactions ++ rows
    ∧ (∀ row ∈ rows, row.transactionId = financial.transactionId)
    ∧ rows.map (·.relation) = financial.relation?.toList

section Posts

variable {catalog : Catalog} {ledgerEvents : List LedgerEventRecord} {stored : LedgerEventRecord}
  {financial : EntryFinancial} {t t' t'' : SyncTables}

/-- The tables that the journal is read from. -/
structure SameJournal (t t' : SyncTables) : Prop where
  transactions : t'.journalTransactions = t.journalTransactions
  postings : t'.journalPostings = t.journalPostings
  reversals : t'.transactionReversals = t.transactionReversals
  cards : t'.creditCardTransactions = t.creditCardTransactions

theorem PostsTransaction.same (h : PostsTransaction stored financial t t')
    (hSame : SameJournal t' t'') : PostsTransaction stored financial t t'' := by
  obtain ⟨rows, hRows, hIds, hRelations⟩ := h.cards
  exact ⟨h.fresh, hSame.transactions.trans h.transactions, hSame.postings.trans h.postings,
    hSame.reversals.trans h.reversals, rows, hSame.cards.trans hRows, hIds, hRelations⟩

/-- The item that the journal shows of a new transaction. -/
def EntryFinancial.item (financial : EntryFinancial) (stored : LedgerEventRecord) :
    JournalItem where
  transactionId := financial.transactionId
  effectiveAt := stored.effectiveAt
  bookPosition := stored.bookPosition
  transactionKind := financial.recordedKind
  postings := financial.postings.map fun posting => (posting.record financial.transactionId).view
  reversedByTransactionId := none
  reversesTransactionId := none
  creditCardRelation := financial.relation?
  descriptionRef := financial.descriptionRef

/-- The rows of a key that no earlier row has. -/
theorem filter_new {ρ : Type} (column : ρ → UUID) {old new : List ρ} {key : UUID}
    (hOld : ∀ row ∈ old, column row ≠ key) (hNew : ∀ row ∈ new, column row = key) :
    (old ++ new).filter (fun row => column row = key) = new := by
  rw [List.filter_append, List.filter_eq_nil_iff.2, List.filter_eq_self.2, List.nil_append]
  · exact fun row hRow => decide_eq_true (hNew row hRow)
  · exact fun row hRow hSame => hOld row hRow (of_decide_eq_true hSame)

/-- A posting of the journal is one of its transactions. -/
theorem JournalHistory.posting_transaction {events : List LedgerEventRecord}
    (h : JournalHistory events t) {posting : JournalPostingRecord}
    (hPosting : posting ∈ t.journalPostings) :
    posting.transactionId ∈ t.journalTransactions.map (·.transactionId) := by
  rw [h.postings, List.mem_flatMap] at hPosting
  obtain ⟨e, he, hPosting⟩ := hPosting
  unfold LedgerEventRecord.postingRecords at hPosting
  split at hPosting
  · next fact hFact =>
      obtain ⟨p, -, rfl⟩ := List.mem_map.1 hPosting
      have hKey : e.transactionKey? = some ⟨fact.1, e.eventId, e.bookPosition, e.effectiveAt⟩ := by
        rw [LedgerEventRecord.transactionKey?, hFact]
        rfl
      obtain ⟨row, hRow, hSame⟩ := h.transaction_of_source ⟨e, he, hKey⟩
      exact List.mem_map.2 ⟨row, hRow, congrArg TransactionKey.transactionId hSame⟩
  · cases hPosting

variable {events : List LedgerEventRecord} {store : EventStoreTables} {bookId : UUID}
  {head : BookEventHeadRecord}

/-- No reversal names a new transaction, on either side. -/
theorem PostsTransaction.unrelated (h : PostsTransaction stored financial t t')
    (hReads : ReadsLog events t) (asOf : Nat) :
    t'.reversedBy? asOf financial.transactionId = none
      ∧ t'.reverses? asOf financial.transactionId = none := by
  unfold SyncTables.reversedBy? SyncTables.reverses?
  rw [h.reversals]
  constructor
  · rw [List.find?_eq_none.2 fun row hRow hSame => ?_]
    · rfl
    · exact h.fresh (of_decide_eq_true hSame ▸ hReads.rows.originals row hRow)
  · rw [List.find?_eq_none.2 fun row hRow hSame => ?_]
    · rfl
    · exact h.fresh (of_decide_eq_true hSame ▸ hReads.book.posted row hRow)

/-- The rows of a new transaction are read as its item. -/
theorem PostsTransaction.item (h : PostsTransaction stored financial t t')
    (hReads : ReadsLog events t)
    (hOrder : financial.postings.Pairwise fun a b => a.position ≤ b.position) (asOf : Nat) :
    (t'.journalRow asOf ⟨financial.transactionId, stored.eventId, stored.bookPosition,
      stored.effectiveAt, financial.recordedKind, financial.descriptionRef⟩).item t'
        = financial.item stored := by
  obtain ⟨hReversedBy, hReverses⟩ := h.unrelated hReads asOf
  obtain ⟨rows, hCards, hIds, hRelations⟩ := h.cards
  have hPostings : (t'.journalPostings.filter fun p =>
        p.transactionId = financial.transactionId).insertionSort
          (·.postingPosition ≤ ·.postingPosition)
      = financial.postings.map (·.record financial.transactionId) := by
    rw [h.postings, filter_new fun p : JournalPostingRecord => p.transactionId]
    · exact List.Pairwise.insertionSort_eq (List.pairwise_map.2 hOrder)
    · intro posting hPosting hSame
      exact h.fresh (hSame ▸ hReads.journal.posting_transaction hPosting)
    · intro posting hPosting
      obtain ⟨p, -, rfl⟩ := List.mem_map.1 hPosting
      rfl
  have hRelation : (t'.creditCardTransactions.filter fun r =>
        r.transactionId = financial.transactionId).getLast?.map (·.relation)
      = financial.relation? := by
    have hOld : ∀ row ∈ t.creditCardTransactions, row.transactionId ≠ financial.transactionId :=
      fun row hRow hSame => h.fresh (hSame ▸ hReads.rows.cards row hRow)
    rw [hCards, filter_new (fun r : CreditCardTransactionRecord => r.transactionId) hOld hIds,
      ← List.getLast?_map, hRelations]
    cases financial.relation? <;> rfl
  unfold JournalRow.item SyncTables.journalRow EntryFinancial.item
  simp only [hReversedBy, hReverses, hPostings, hRelation, List.map_map, Function.comp_def]

/-- The journal shows a new transaction as its event posted it. -/
theorem PostsTransaction.getJournalTransaction (h : PostsTransaction stored financial t t')
    (hReads : ReadsLog events t) (hKeys : JournalKeys t')
    (hOrder : financial.postings.Pairwise fun a b => a.position ≤ b.position)
    (hHead : store.bookHead? bookId = some head)
    (hPosition : stored.bookPosition ≤ head.lastPosition) :
    getJournalTransaction store t' bookId financial.transactionId none
      = .ok (financial.item stored) := by
  have hSelected : ((journalRows t' head.lastPosition).filter fun row =>
        (some financial.transactionId).all (row.transaction.transactionId = ·)
          && beyond none row.transaction.journalKey)
      = [t'.journalRow head.lastPosition ⟨financial.transactionId, stored.eventId,
          stored.bookPosition, stored.effectiveAt, financial.recordedKind,
          financial.descriptionRef⟩] := by
    rw [journalRows_eq hKeys, h.transactions, List.filter_append, List.map_append,
      List.filter_append, List.filter_eq_nil_iff.2, List.nil_append]
    · simp [SyncTables.journalRow, beyond, hPosition]
    · intro row hRow
      obtain ⟨transaction, hTransaction, rfl⟩ := List.mem_map.1 hRow
      have hOther : transaction.transactionId ≠ financial.transactionId := by
        intro hSame
        exact h.fresh (hSame ▸ List.mem_map_of_mem (List.mem_filter.1 hTransaction).1)
      simp [SyncTables.journalRow, hOther]
  unfold Ports.getJournalTransaction
  refine bind_eq_ok.2 ⟨⟨[_], none, head.lastPosition⟩, ?_, congrArg Except.ok
    (h.item hReads hOrder head.lastPosition)⟩
  unfold listJournalRows
  refine bind_eq_ok.2 ⟨(), by decide, bind_eq_ok.2 ⟨head, by rw [hHead]; rfl,
    bind_eq_ok.2 ⟨(), require_eq_ok.2 (le_refl _), bind_eq_ok.2 ⟨none, rfl, ?_⟩⟩⟩⟩
  rw [Option.getD_none, hSelected]
  rfl

end Posts

end TrackAnywhere.Ports
