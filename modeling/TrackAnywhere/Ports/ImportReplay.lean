import TrackAnywhere.Ports.CompiledHistory
import TrackAnywhere.Ports.EntryErrors
import TrackAnywhere.Ports.ReportingCommands

/-!
# The replay of a compiled history

A compiled history is an import of rows that no command has made.  Here it is replayed as if
commands had: a posted transaction is put to the journal validator, and every row to the
synchronous projector, from empty tables.

The compiler leaves rules to others.  `ReplayRules` are the rules of an event that it does
not look at; the replay goes through exactly when every event of the history meets them.
-/

namespace TrackAnywhere.Ports

open TrackAnywhere.Verified
open TrackAnywhere.Verified.Checked
open TrackAnywhere.Verified.KeyedSum

/-! ## The replay -/

section Replay

variable (trading : UUID → Bool) (db : BookReads)

end Replay

/-! ## The rules that the compiler leaves -/

/-- A posting is on a credit-card account. -/
def PostsToCard (catalog : Catalog) (postings : List JournalPostingFact) : Prop :=
  ∃ posting ∈ postings, (catalog.account? posting.accountId posting.assetCode).bind
    (·.accountSubtype) = some "credit_card"

/-- The transaction of a planned event is a card payment, has a posting on a card, or
reverses such a transaction. -/
inductive CardTransaction (catalog : Catalog) (planned : List PlannedLedgerEvent) :
    PlannedLedgerEvent → Prop
  | payment {event : PlannedLedgerEvent} {payload : JournalTransactionPosted}
      (hPayload : event.payload.1 = .journalTransactionPosted payload)
      (hKind : payload.kind = .creditCardPayment) : CardTransaction catalog planned event
  | posting {event : PlannedLedgerEvent} {fact : UUID × List JournalPostingFact}
      (hFact : event.fact? = some fact) (hCard : PostsToCard catalog fact.2) :
      CardTransaction catalog planned event
  | reversal {event source : PlannedLedgerEvent} {payload : JournalTransactionReversed}
      (hPayload : event.payload.1 = .journalTransactionReversed payload)
      (hSource : source ∈ planned) (hId : source.eventId = payload.originalEventId)
      (hCard : CardTransaction catalog planned source) : CardTransaction catalog planned event

/-- What the journal validator asks of postings that the contract of the event does not. -/
structure JournalRules (trading : UUID → Bool) (db : BookReads) (kind : TransactionKind)
    (postings : List JournalPostingFact) : Prop where
  accounts : ∀ posting ∈ postings, ∃ account, db.account? posting.accountId = some account
    ∧ db.closed posting.accountId = false ∧ posting.assetCode = account.assetCode
  balanced : Balanced postings
  exchange : kind = .fx ∨ kind = .creditCardPayment → validateExchange trading postings = .ok ()

section Rows

variable {bookId : UUID} {generated : UUID → Nat × Instant} {event : PlannedLedgerEvent}
  {planned before : List PlannedLedgerEvent}

theorem row_contract? : (event.row bookId generated).contract? = some event.payload := by
  refine LedgerEventRecord.contract?_eq_some.2 (validateStored_eq_ok.2 ⟨rfl, ?_, ?_⟩)
  · exact event.hEventType
  · exact event.hSchemaVersion

theorem row_financialFact? : (event.row bookId generated).financialFact? = event.fact? := by
  rw [LedgerEventRecord.financialFact?, row_contract?]
  rfl

theorem row_postingRecords {fact : UUID × List JournalPostingFact}
    (h : event.fact? = some fact) :
    (event.row bookId generated).postingRecords = fact.2.map (·.record fact.1) := by
  rw [LedgerEventRecord.postingRecords, row_financialFact?, h]

end Rows

/-! ## The rules of one transaction -/

section Rules

variable {trading : UUID → Bool} {db : BookReads} {catalog : Catalog} {kind : TransactionKind}
  {postings : List JournalPostingFact} {fact : UUID × List JournalPostingFact}
  {event source : PlannedLedgerEvent} {planned before : List PlannedLedgerEvent}

/-- Postings that the contract of an event admits. -/
structure OrderedPostings (postings : List JournalPostingFact) : Prop where
  count : 2 ≤ postings.length
  postingIds : (postings.map (·.postingId)).Nodup
  positions : (postings.map (·.position)).Nodup

theorem orderedPostings_of_fact (h : event.fact? = some fact) : OrderedPostings fact.2 := by
  have hOrdered := ordered_of_financialFact event.payload.2 h
  simp only [validateOrderedPostings, validateOrderedRecords, bind_eq_ok, require_eq_ok,
    forEach_eq_ok, exists_const, List.length_map] at hOrdered
  obtain ⟨hCount, hPositions, hIds⟩ := hOrdered
  refine ⟨hCount, hIds _ (List.mem_singleton_self _), ?_⟩
  rw [hPositions]
  exact List.nodup_range

/-- An account that the validator admits is in the catalog with the asset of the posting. -/
theorem JournalRules.catalogued (h : JournalRules trading db kind postings) :
    ∀ posting ∈ postings,
      (db.catalog.account? posting.accountId posting.assetCode).isSome := by
  intro posting hMem
  obtain ⟨account, hAccount, -, hAsset⟩ := h.accounts posting hMem
  refine List.find?_isSome.2 ⟨account, List.mem_of_find?_eq_some hAccount, ?_⟩
  have hId := List.find?_some hAccount
  simp only [decide_eq_true_eq] at hId ⊢
  exact ⟨hId, hAsset.symm⟩

/-! ### Cards -/

/-- The kind is one of the credit-card kinds. -/
def RecordedKind.isCard : RecordedKind → Bool
  | .creditCard _ => true
  | _ => false

end Rules

/-! ## The tables after a prefix -/

/-- What the tables say of the transaction of an event. -/
structure RecordFits (db : BookReads) (planned : List PlannedLedgerEvent)
    (event : PlannedLedgerEvent) (fact : UUID × List JournalPostingFact)
    (record : JournalTransactionRecord) : Prop where
  key : record.key = ⟨fact.1, event.eventId, event.bookPosition, event.effectiveAt⟩
  kind : ∀ payload, event.payload.1 = .journalTransactionPosted payload →
    record.transactionKind = payload.kind.recorded
  card : record.transactionKind.isCard = true ∨ PostsToCard db.catalog fact.2
    ↔ CardTransaction db.catalog planned event
  accounts : ∀ posting ∈ fact.2,
    (db.catalog.account? posting.accountId posting.assetCode).isSome
  balanced : Balanced fact.2

/-- The transaction of an event is found in the tables, with its postings. -/
structure Booked (db : BookReads) (planned : List PlannedLedgerEvent) (t : SyncTables)
    (event : PlannedLedgerEvent) (fact : UUID × List JournalPostingFact)
    (record : JournalTransactionRecord) : Prop extends
    RecordFits db planned event fact record where
  found : t.transaction? fact.1 = some record
  postings : t.postingsOf fact.1 = fact.2.map (·.record fact.1)

/-- The key of a reference row. -/
def TransactionExternalReferenceRecord.key (r : TransactionExternalReferenceRecord) :
    UUID × ProviderCode × ExternalReferenceKind :=
  (r.transactionId, r.providerCode, r.referenceKind)

/-- The tables are those of the events of the prefix. -/
structure Replayed (db : BookReads) (bookId : UUID) (generated : UUID → Nat × Instant)
    (planned before : List PlannedLedgerEvent) (t : SyncTables) : Prop where
  history : JournalHistory (before.map (·.row bookId generated)) t
  booked : ∀ event ∈ before, ∀ fact, event.fact? = some fact →
    ∃ record, Booked db planned t event fact record
  referenceKeys : (t.externalReferences.map (·.key)).Nodup
  references : ∀ r ∈ t.externalReferences,
    ∃ event ∈ before, ∃ fact, event.fact? = some fact ∧ r.transactionId = fact.1

section Tables

variable {trading : UUID → Bool} {db : BookReads} {bookId : UUID}
  {generated : UUID → Nat × Instant} {ledger : List LedgerEventRecord}
  {planned before : List PlannedLedgerEvent} {event source : PlannedLedgerEvent}
  {fact : UUID × List JournalPostingFact} {record : JournalTransactionRecord}
  {postings : List JournalPostingFact} {t t' : SyncTables}

theorem Replayed.start : Replayed db bookId generated planned [] SyncTables.empty where
  history := JournalHistory.empty
  booked := fun _ h => nomatch h
  referenceKeys := List.nodup_nil
  references := fun _ h => nomatch h

/-- Every transaction row is that of an event of the prefix. -/
theorem Replayed.source_of_record (h : Replayed db bookId generated planned before t)
    (hRecord : record ∈ t.journalTransactions) :
    ∃ e ∈ before, ∃ fact, e.fact? = some fact
      ∧ record.key = ⟨fact.1, e.eventId, e.bookPosition, e.effectiveAt⟩ := by
  obtain ⟨stored, hStored, hKey⟩ := h.history.source_of_transaction hRecord
  obtain ⟨e, hMem, rfl⟩ := List.mem_map.1 hStored
  obtain ⟨fact, hFact, hSame⟩ := Option.map_eq_some_iff.1 hKey
  exact ⟨e, hMem, fact, row_financialFact? ▸ hFact, hSame.symm⟩

/-- Every posting row is that of a posting of the prefix. -/
theorem Replayed.mem_journalPostings (h : Replayed db bookId generated planned before t)
    {row : JournalPostingRecord} : row ∈ t.journalPostings
      ↔ ∃ e ∈ before, ∃ fact, e.fact? = some fact
        ∧ ∃ posting ∈ fact.2, posting.record fact.1 = row := by
  simp only [h.history.postings, List.mem_flatMap, List.mem_map, exists_exists_and_eq_and]
  refine exists_congr fun e => and_congr_right fun _ => ?_
  constructor
  · intro hRow
    cases hFact : e.fact? with
    | none =>
        rw [LedgerEventRecord.postingRecords, row_financialFact?, hFact] at hRow
        cases hRow
    | some fact =>
        rw [row_postingRecords hFact] at hRow
        exact ⟨fact, rfl, List.mem_map.1 hRow⟩
  · rintro ⟨fact, hFact, hPosting⟩
    rw [row_postingRecords hFact]
    exact List.mem_map.2 hPosting

/-- The tables with one more transaction. -/
def SyncTables.book (t : SyncTables) (stored : LedgerEventRecord)
    (record : JournalTransactionRecord) (postings : List JournalPostingFact) : SyncTables :=
  { t with
    journalTransactions := t.journalTransactions ++ [record]
    journalPostings := t.journalPostings ++ postings.map (·.record record.transactionId)
    accountBalances := accumulate mergeBalance t.accountBalances
      (postings.map (·.balanceInsert stored.bookPosition)) }

/-- A compiled transaction meets the keys of the tables, its posting ids apart. -/
structure FreshTransaction (stored : LedgerEventRecord)
    (fact : UUID × List JournalPostingFact) (t : SyncTables) : Prop where
  stream : stored.streamId = fact.1
  transactionId : fact.1 ∉ t.journalTransactions.map (·.transactionId)
  eventId : stored.eventId ∉ t.journalTransactions.map (·.sourceEventId)
  ordered : OrderedPostings fact.2

theorem Replayed.fresh (h : Replayed db bookId generated planned before t)
    (hCompiled : CompiledAfter before event) (hFact : event.fact? = some fact) :
    FreshTransaction (event.row bookId generated) fact t where
  stream := (hCompiled.transaction fact hFact).1
  transactionId := by
    intro hOld
    obtain ⟨record, hRecord, hId⟩ := List.mem_map.1 hOld
    obtain ⟨earlier, hEarlier, fact', hFact', hKey⟩ := h.source_of_record hRecord
    have hSame : fact'.1 = fact.1 := (congrArg TransactionKey.transactionId hKey).symm.trans hId
    exact (hCompiled.transaction fact hFact).2 earlier hEarlier fact' hFact' hSame
  eventId := by
    intro hOld
    obtain ⟨record, hRecord, hId⟩ := List.mem_map.1 hOld
    obtain ⟨earlier, hEarlier, fact', -, hKey⟩ := h.source_of_record hRecord
    have hSame : earlier.eventId = event.eventId :=
      (congrArg TransactionKey.sourceEventId hKey).symm.trans hId
    exact hCompiled.fresh (hSame ▸ List.mem_map_of_mem hEarlier)
  ordered := orderedPostings_of_fact hFact

/-- Transactions are appended, so that one of the prefix stays where it is. -/
theorem Booked.grow (h : Booked db planned t event fact record)
    (hRecords : ∃ more, t'.journalTransactions = t.journalTransactions ++ more)
    (hPostings : ∃ more, t'.journalPostings = t.journalPostings ++ more
      ∧ ∀ row ∈ more, row.transactionId ≠ fact.1) : Booked db planned t' event fact record where
  toRecordFits := h.toRecordFits
  found := by
    obtain ⟨more, hMore⟩ := hRecords
    rw [SyncTables.transaction?, hMore, List.find?_append, ← SyncTables.transaction?, h.found]
    rfl
  postings := by
    obtain ⟨more, hMore, hOther⟩ := hPostings
    have hNone : more.filter (fun row => row.transactionId = fact.1) = [] :=
      List.filter_eq_nil_iff.2 fun row hRow => by simpa using hOther row hRow
    rw [SyncTables.postingsOf, hMore, List.filter_append, hNone, List.append_nil,
      ← SyncTables.postingsOf, h.postings]

/-- A new transaction is found with its postings. -/
theorem booked_new (hFits : RecordFits db planned event fact record)
    (hFresh : fact.1 ∉ t.journalTransactions.map (·.transactionId))
    (hOld : ∀ row ∈ t.journalPostings, row.transactionId ≠ fact.1)
    (hRecords : t'.journalTransactions = t.journalTransactions ++ [record])
    (hPostings : t'.journalPostings = t.journalPostings ++ fact.2.map (·.record fact.1)) :
    Booked db planned t' event fact record where
  toRecordFits := hFits
  found := by
    have hId : record.transactionId = fact.1 := congrArg TransactionKey.transactionId hFits.key
    have hNone : t.journalTransactions.find? (fun r => r.transactionId = fact.1) = none := by
      refine List.find?_eq_none.2 fun r hRow hSame => hFresh ?_
      exact List.mem_map.2 ⟨r, hRow, of_decide_eq_true hSame⟩
    rw [SyncTables.transaction?, hRecords, List.find?_append, hNone]
    simp [hId]
  postings := by
    have hNone : t.journalPostings.filter (fun row => row.transactionId = fact.1) = [] :=
      List.filter_eq_nil_iff.2 fun row hRow => by simpa using hOld row hRow
    have hAll : (fact.2.map (·.record fact.1)).filter (fun row => row.transactionId = fact.1)
        = fact.2.map (·.record fact.1) := by
      refine List.filter_eq_self.2 fun row hRow => ?_
      obtain ⟨posting, -, rfl⟩ := List.mem_map.1 hRow
      exact decide_eq_true rfl
    rw [SyncTables.postingsOf, hPostings, List.filter_append, hNone, hAll, List.nil_append]

/-- The event adds its transaction, if it has one, and no reference of another. -/
structure EventReplayed (db : BookReads) (planned : List PlannedLedgerEvent)
    (event : PlannedLedgerEvent) (t t' : SyncTables) : Prop where
  booked : ∀ fact, event.fact? = some fact → ∃ record, RecordFits db planned event fact record
    ∧ t'.journalTransactions = t.journalTransactions ++ [record]
    ∧ t'.journalPostings = t.journalPostings ++ fact.2.map (·.record fact.1)
  unbooked : event.fact? = none → t'.journalTransactions = t.journalTransactions
    ∧ t'.journalPostings = t.journalPostings
  referenceKeys : (t'.externalReferences.map (·.key)).Nodup
  references : ∀ r ∈ t'.externalReferences, r ∈ t.externalReferences
    ∨ ∃ fact, event.fact? = some fact ∧ r.transactionId = fact.1

/-- The tables are those of the longer prefix. -/
theorem Replayed.snoc (h : Replayed db bookId generated planned before t)
    (hCompiled : CompiledAfter before event)
    (hStep : Projects ledger bookId t (event.row bookId generated) t')
    (hEvent : EventReplayed db planned event t t') :
    Replayed db bookId generated planned (before ++ [event]) t' where
  history := by
    rw [List.map_append]
    refine journalHistory_step h.history ?_ hStep
    rw [List.map_map]
    exact hCompiled.fresh
  booked := by
    intro current hCurrent fact hFact
    rcases List.mem_append.1 hCurrent with hOld | hNew
    · obtain ⟨record, hBooked⟩ := h.booked current hOld fact hFact
      refine ⟨record, hBooked.grow ?_ ?_⟩
      · cases hLast : event.fact? with
        | none => exact ⟨[], by rw [(hEvent.unbooked hLast).1, List.append_nil]⟩
        | some last =>
            obtain ⟨added, -, hRecords, -⟩ := hEvent.booked last hLast
            exact ⟨[added], hRecords⟩
      · cases hLast : event.fact? with
        | none =>
            refine ⟨[], by rw [(hEvent.unbooked hLast).2, List.append_nil], ?_⟩
            exact fun row hRow => nomatch hRow
        | some last =>
            obtain ⟨added, -, -, hPostings⟩ := hEvent.booked last hLast
            refine ⟨_, hPostings, fun row hRow hSame => ?_⟩
            obtain ⟨posting, -, rfl⟩ := List.mem_map.1 hRow
            exact (hCompiled.transaction last hLast).2 current hOld fact hFact hSame.symm
    · obtain rfl := List.mem_singleton.1 hNew
      obtain ⟨record, hFits, hRecords, hPostings⟩ := hEvent.booked fact hFact
      refine ⟨record, booked_new hFits (h.fresh hCompiled hFact).transactionId ?_ hRecords
        hPostings⟩
      intro row hRow hSame
      obtain ⟨earlier, hEarlier, fact', hFact', posting, -, rfl⟩ := h.mem_journalPostings.1 hRow
      exact (hCompiled.transaction fact hFact).2 earlier hEarlier fact' hFact' hSame
  referenceKeys := hEvent.referenceKeys
  references := by
    intro r hRow
    rcases hEvent.references r hRow with hOld | ⟨fact, hFact, hId⟩
    · obtain ⟨earlier, hEarlier, hFact⟩ := h.references r hOld
      exact ⟨earlier, List.mem_append_left _ hEarlier, hFact⟩
    · exact ⟨event, List.mem_append_right _ (List.mem_singleton_self _), fact, hFact, hId⟩

/-! ### Posted transactions -/

end Tables

/-! ### Compiled lists, replayed -/

end TrackAnywhere.Ports
