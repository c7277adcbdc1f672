import TrackAnywhere.Ports.DirtyPeriods

/-!
# Which months an event can change

The replay state of a log prefix and the synchronous tables of the same prefix
tell the same story: the month of a transaction, the month of its reversal, and
that lines are only ever filed under a known transaction.  `ReplayReading` is
that correspondence, kept by every accepted event.

From it, `replayStep_frame`: an event leaves the totals of every month alone
that `affected_periods` does not name, even when the tables it asks have moved
on past the event.  A financial event changes no total unless it reverses a
transaction with lines, and then only in the month of the reversal; an
assignment or a clear changes the months of its transaction and of the reversal
of it, if there is one by then.
-/

namespace TrackAnywhere.Ports

open TrackAnywhere.Verified
open TrackAnywhere.Verified.Checked
open TrackAnywhere.Verified.KeyedSum

/-! ## Tables that have moved on -/

/-- The transaction and reversal tables only grew. -/
structure Extends (t T : SyncTables) : Prop where
  transactions : t.journalTransactions <+: T.journalTransactions
  reversals : t.transactionReversals <+: T.transactionReversals

namespace Extends

variable {t u T : SyncTables}

theorem refl (t : SyncTables) : Extends t t :=
  ⟨List.prefix_rfl, List.prefix_rfl⟩

theorem trans (h : Extends t u) (h' : Extends u T) : Extends t T :=
  ⟨h.transactions.trans h'.transactions, h.reversals.trans h'.reversals⟩

theorem transaction? (h : Extends t T) {transactionId : UUID} {row}
    (hRow : t.transaction? transactionId = some row) :
    T.transaction? transactionId = some row := by
  obtain ⟨more, hMore⟩ := h.transactions
  unfold SyncTables.transaction? at hRow ⊢
  rw [← hMore, List.find?_append, hRow]
  rfl

theorem reversalOf? (h : Extends t T) {transactionId : UUID} {row}
    (hRow : t.reversalOf? transactionId = some row) :
    T.reversalOf? transactionId = some row := by
  obtain ⟨more, hMore⟩ := h.reversals
  unfold SyncTables.reversalOf? at hRow ⊢
  rw [← hMore, List.find?_append, hRow]
  rfl

/-- An applied event extends the tables. -/
theorem of_effect {stored : LedgerEventRecord} {payload : EventPayload}
    (h : JournalEffect stored payload (t.mark stored.eventId) T) :
    Extends t T := by
  refine ⟨?_, ⟨_, h.reversals.symm⟩⟩
  have hJournal := h.journal
  cases hFact : payload.financialFact with
  | none =>
      rw [hFact] at hJournal
      exact ⟨[], by simpa [SyncTables.mark] using hJournal.transactions.symm⟩
  | some fact =>
      rw [hFact] at hJournal
      obtain ⟨row, -, hRows⟩ := hJournal.transactions
      exact ⟨[row], hRows.symm⟩

/-- An accepted event extends the tables. -/
theorem of_projects {ledger : List LedgerEventRecord} {bookId : UUID}
    {stored : LedgerEventRecord} (h : Projects ledger bookId t stored T) :
    Extends t T := by
  obtain ⟨-, -, catalog, result, hApply⟩ := h
  obtain ⟨rfl, -, -⟩ | ⟨contract, -, -, hPayload⟩ := applyStored_cases hApply
  · exact refl _
  · exact of_effect (applyPayload_journalEffect hPayload)

theorem of_run {ledger events : List LedgerEventRecord} {bookId : UUID}
    (h : Run (Projects ledger bookId) t events T) : Extends t T := by
  induction h with
  | nil => exact refl _
  | cons hStep _ ih => exact (of_projects hStep).trans ih

end Extends

/-! ## The replay state against the tables -/

/-- The date of a transaction in the tables. -/
def SyncTables.dateOf? (t : SyncTables) (transactionId : UUID) : Option Date :=
  (t.transaction? transactionId).map fun row => utcDate row.effectiveAt

/-- The replay state and the tables of the same events agree. -/
structure ReplayReading (s : ReplayState) (t : SyncTables) : Prop where
  times : ∀ tx, s.transactionTimes.lookup tx = t.dateOf? tx
  reversals : ∀ tx, s.reversals.lookup tx
    = (t.reversalOf? tx).bind fun row => t.dateOf? row.reversalTransactionId
  reporting : ∀ tx ∈ s.reporting, (t.dateOf? tx).isSome
  reversed : ∀ row ∈ t.transactionReversals,
    (t.dateOf? row.reversalTransactionId).isSome

theorem ReplayReading.empty :
    ReplayReading ReplayState.empty SyncTables.empty := by
  refine ⟨fun _ => rfl, fun _ => rfl, ?_, ?_⟩
  · intro tx hMem
    exact absurd hMem (AList.notMem_empty tx)
  · intro row hRow
    exact absurd hRow List.not_mem_nil

/-! ## Contributions -/

/-- A line of one month adds nothing to a key of another. -/
theorem sumAt_lineItems {period : Date} {lines : List ReportingLine}
    {sign : Int} {key : TotalKey} (h : key.period ≠ period) :
    sumAt (lineItems period lines sign) key = 0 := by
  refine sumAt_eq_zero fun hMem => h ?_
  simp only [lineItems, List.mem_map, List.mem_filterMap,
    Option.map_eq_some_iff] at hMem
  obtain ⟨_, ⟨line, -, key', hKey, rfl⟩, rfl⟩ := hMem
  unfold lineKey at hKey
  split at hKey
  · obtain ⟨categoryId, -, rfl⟩ := Option.map_eq_some_iff.1 hKey
    rfl
  · exact nomatch hKey

/-- A transaction contributes only to its month and its reversal's. -/
theorem contribution_eq_zero {s : ReplayState} {key : TotalKey} {tx : UUID}
    {lines : List ReportingLine}
    (hTime : ∀ d, s.transactionTimes.lookup tx = some d →
      key.period ≠ monthStart d)
    (hReversal : ∀ d, s.reversals.lookup tx = some d →
      key.period ≠ monthStart d) :
    contribution s key tx lines = 0 := by
  unfold contribution transactionItems
  cases hLookup : s.transactionTimes.lookup tx with
  | none => rfl
  | some date =>
      simp only []
      split_ifs
      · rfl
      · rw [sumAt_append, sumAt_lineItems (hTime date hLookup), zero_add]
        cases hLookup' : s.reversals.lookup tx with
        | none => rfl
        | some reversedAt =>
            exact sumAt_lineItems (hReversal reversedAt hLookup')

/-- A contribution is read off the date, the sign and the reversal of the
transaction. -/
theorem contribution_congr {s s' : ReplayState} {key : TotalKey} {tx : UUID}
    {lines : List ReportingLine}
    (hTime : s'.transactionTimes.lookup tx = s.transactionTimes.lookup tx)
    (hSign : s'.transactionReportingSigns.lookup tx
      = s.transactionReportingSigns.lookup tx)
    (hReversal : s'.reversals.lookup tx = s.reversals.lookup tx) :
    contribution s' key tx lines = contribution s key tx lines := by
  unfold contribution transactionItems
  rw [hTime, hSign, hReversal]

/-- A first reversal adds to the month of the reversal only. -/
theorem contribution_reversed {s s' : ReplayState} {key : TotalKey}
    {tx : UUID} {lines : List ReportingLine} {date : Date}
    (hTime : s'.transactionTimes.lookup tx = s.transactionTimes.lookup tx)
    (hSign : s'.transactionReportingSigns.lookup tx
      = s.transactionReportingSigns.lookup tx)
    (hBefore : s.reversals.lookup tx = none)
    (hAfter : s'.reversals.lookup tx = some date)
    (hPeriod : key.period ≠ monthStart date) :
    contribution s' key tx lines = contribution s key tx lines := by
  unfold contribution transactionItems
  rw [hTime, hSign, hBefore, hAfter]
  cases s.transactionTimes.lookup tx with
  | none => rfl
  | some effectiveDate =>
      simp only []
      split_ifs
      · rfl
      · rw [sumAt_append, sumAt_append, sumAt_lineItems hPeriod]
        rfl

/-! ## One event -/

section Step

variable {stored : LedgerEventRecord} {s s' : ReplayState}
  {t t' : SyncTables}

/-- The dates after a financial event: one more. -/
private theorem dateOf?_financial {fact : UUID × List JournalPostingFact}
    (h : FinancialStep stored fact t t') (tx : UUID) :
    t.dateOf? fact.1 = none ∧ t'.dateOf? tx
      = if tx = fact.1 then some (utcDate stored.effectiveAt)
        else t.dateOf? tx := by
  have hNone : t.transaction? fact.1 = none := by
    unfold SyncTables.transaction?
    rw [List.find?_eq_none]
    intro row hRow hId
    exact h.fresh (List.mem_map.2 ⟨row, hRow, by simpa using hId⟩)
  refine ⟨by rw [SyncTables.dateOf?, hNone]; rfl, ?_⟩
  obtain ⟨row, hKey, hRows⟩ := h.transactions
  have hId : row.transactionId = fact.1 :=
    congrArg TransactionKey.transactionId hKey
  have hAt : row.effectiveAt = stored.effectiveAt :=
    congrArg TransactionKey.effectiveAt hKey
  have hFind : t'.transaction? tx
      = (t.transaction? tx).or (if fact.1 = tx then some row else none) := by
    unfold SyncTables.transaction?
    rw [hRows, List.find?_append]
    by_cases hTx : fact.1 = tx <;> simp [hId, hTx]
  unfold SyncTables.dateOf?
  rw [hFind]
  by_cases hTx : tx = fact.1
  · subst hTx
    simp [hNone, hAt]
  · simp [hTx, Ne.symm hTx]

private theorem dateOf?_frame (h : JournalFrame t t') (tx : UUID) :
    t'.dateOf? tx = t.dateOf? tx := by
  unfold SyncTables.dateOf? SyncTables.transaction?
  rw [h.transactions]

/-- A date, once known, stays. -/
private theorem dateOf?_mono {fact : UUID × List JournalPostingFact}
    (h : FinancialStep stored fact t t') {tx : UUID}
    (hTx : (t.dateOf? tx).isSome) : t'.dateOf? tx = t.dateOf? tx := by
  obtain ⟨hNone, hDate⟩ := dateOf?_financial h tx
  rw [hDate, if_neg]
  rintro rfl
  simp [hNone] at hTx

private theorem reversalOf?_mem {tx : UUID} {row : TransactionReversalRecord}
    (h : t.reversalOf? tx = some row) : row ∈ t.transactionReversals :=
  List.mem_of_find?_eq_some h

/-- A transaction that is not a reversal: its date and sign are noted, and no
total changes, since no line is filed under it yet. -/
private theorem reading_posted {fact : UUID × List JournalPostingFact}
    {sign : Int} (h : ReplayReading s t)
    (hStep : FinancialStep stored fact t t')
    (hRows : t'.transactionReversals = t.transactionReversals)
    (hTimes : s'.transactionTimes
      = s.transactionTimes.insert fact.1 (utcDate stored.effectiveAt))
    (hSigns : s'.transactionReportingSigns
      = s.transactionReportingSigns.insert fact.1 sign)
    (hReversals : s'.reversals = s.reversals)
    (hReporting : s'.reporting = s.reporting) :
    ReplayReading s' t' ∧ ∀ key,
      sumEntries (contribution s' key) s'.reporting
        = sumEntries (contribution s key) s.reporting := by
  have hOther : ∀ tx ∈ s.reporting, tx ≠ fact.1 := by
    rintro tx hTx rfl
    have hSome := h.reporting fact.1 hTx
    rw [(dateOf?_financial hStep fact.1).1] at hSome
    exact absurd hSome (by simp)
  refine ⟨⟨?_, ?_, ?_, ?_⟩, ?_⟩
  · intro tx
    rw [hTimes, (dateOf?_financial hStep tx).2]
    by_cases hTx : tx = fact.1
    · subst hTx
      rw [AList.lookup_insert, if_pos rfl]
    · rw [AList.lookup_insert_ne hTx, if_neg hTx, h.times]
  · intro tx
    rw [hReversals, h.reversals]
    have hSame : t'.reversalOf? tx = t.reversalOf? tx := by
      unfold SyncTables.reversalOf?
      rw [hRows]
    rw [hSame]
    cases hRow : t.reversalOf? tx with
    | none => rfl
    | some row =>
        exact (dateOf?_mono hStep (h.reversed row (reversalOf?_mem hRow))).symm
  · intro tx hTx
    rw [hReporting] at hTx
    rw [dateOf?_mono hStep (h.reporting tx hTx)]
    exact h.reporting tx hTx
  · intro row hRow
    rw [hRows] at hRow
    rw [dateOf?_mono hStep (h.reversed row hRow)]
    exact h.reversed row hRow
  · intro key
    rw [hReporting]
    refine sumEntries_congr fun e he => ?_
    have hNe := hOther e.1 (List.mem_map.2 ⟨e, he, rfl⟩)
    refine contribution_congr ?_ ?_ (by rw [hReversals])
    · rw [hTimes, AList.lookup_insert_ne hNe]
    · rw [hSigns, AList.lookup_insert_ne hNe]

/-- A reversal: its date and that of its target's reversal are noted, and only
totals in the month of the reversal change. -/
private theorem reading_reversed {payload : JournalTransactionReversed}
    (h : ReplayReading s t)
    (hStep : FinancialStep stored
      (payload.reversalTransactionId, payload.inversePostings) t t')
    (hOnce : t.reversalOf? payload.reversesTransactionId = none)
    (hRows : ∃ row : TransactionReversalRecord,
      row.originalTransactionId = payload.reversesTransactionId
      ∧ row.reversalTransactionId = payload.reversalTransactionId
      ∧ t'.transactionReversals = t.transactionReversals ++ [row])
    (hTimes : s'.transactionTimes = s.transactionTimes.insert
      payload.reversalTransactionId (utcDate stored.effectiveAt))
    (hSigns : s'.transactionReportingSigns = s.transactionReportingSigns)
    (hReversals : s'.reversals = s.reversals.insert
      payload.reversesTransactionId (utcDate stored.effectiveAt))
    (hReporting : s'.reporting = s.reporting) :
    ReplayReading s' t' ∧ ∀ key : TotalKey,
      key.period ≠ monthStart (utcDate stored.effectiveAt) →
      sumEntries (contribution s' key) s'.reporting
        = sumEntries (contribution s key) s.reporting := by
  obtain ⟨row, hOriginal, hReversal, hAppend⟩ := hRows
  have hDate : ∀ tx, t'.dateOf? tx
      = if tx = payload.reversalTransactionId then
          some (utcDate stored.effectiveAt) else t.dateOf? tx :=
    fun tx => (dateOf?_financial hStep tx).2
  have hFind : ∀ tx, t'.reversalOf? tx = (t.reversalOf? tx).or
      (if payload.reversesTransactionId = tx then some row else none) := by
    intro tx
    unfold SyncTables.reversalOf?
    rw [hAppend, List.find?_append]
    by_cases hTx : payload.reversesTransactionId = tx <;>
      simp [hOriginal, hTx]
  have hOther : ∀ tx ∈ s.reporting, tx ≠ payload.reversalTransactionId := by
    rintro tx hTx rfl
    have hSome := h.reporting _ hTx
    rw [(dateOf?_financial hStep 0).1] at hSome
    exact absurd hSome (by simp)
  have hMono : ∀ tx, (t.dateOf? tx).isSome → t'.dateOf? tx = t.dateOf? tx :=
    fun tx => dateOf?_mono hStep
  refine ⟨⟨?_, ?_, ?_, ?_⟩, ?_⟩
  · intro tx
    rw [hTimes, hDate]
    by_cases hTx : tx = payload.reversalTransactionId
    · subst hTx
      rw [AList.lookup_insert, if_pos rfl]
    · rw [AList.lookup_insert_ne hTx, if_neg hTx, h.times]
  · intro tx
    rw [hReversals, hFind]
    by_cases hTx : tx = payload.reversesTransactionId
    · subst hTx
      rw [AList.lookup_insert, hOnce, if_pos rfl]
      simp [hReversal, hDate]
    · rw [AList.lookup_insert_ne hTx, if_neg (Ne.symm hTx), h.reversals]
      cases hRow : t.reversalOf? tx with
      | none => rfl
      | some old =>
          exact (hMono _ (h.reversed old (reversalOf?_mem hRow))).symm
  · intro tx hTx
    rw [hReporting] at hTx
    rw [hMono tx (h.reporting tx hTx)]
    exact h.reporting tx hTx
  · intro old hOld
    rw [hAppend] at hOld
    obtain hOld | hOld := List.mem_append.1 hOld
    · rw [hMono _ (h.reversed old hOld)]
      exact h.reversed old hOld
    · rw [List.mem_singleton.1 hOld, hReversal, hDate, if_pos rfl]
      rfl
  · intro key hPeriod
    rw [hReporting]
    refine sumEntries_congr fun e he => ?_
    have hNe := hOther e.1 (List.mem_map.2 ⟨e, he, rfl⟩)
    have hTime : s'.transactionTimes.lookup e.1
        = s.transactionTimes.lookup e.1 := by
      rw [hTimes, AList.lookup_insert_ne hNe]
    have hSign : s'.transactionReportingSigns.lookup e.1
        = s.transactionReportingSigns.lookup e.1 := by rw [hSigns]
    by_cases hEq : e.1 = payload.reversesTransactionId
    · refine contribution_reversed hTime hSign ?_ ?_ hPeriod
      · rw [h.reversals, hEq, hOnce]
        rfl
      · rw [hReversals, hEq, AList.lookup_insert]
    · exact contribution_congr hTime hSign
        (by rw [hReversals, AList.lookup_insert_ne hEq])

/-- The months of a transaction in tables that moved on cover the months the
replay state knows. -/
private theorem contribution_unnamed {T : SyncTables} {tx : UUID}
    {periods : List Date} {key : TotalKey} (h : ReplayReading s t)
    (hLater : Extends t T) (hPeriods : reportingPeriods T tx = .ok periods)
    (hKey : key.period ∉ periods) (lines : List ReportingLine) :
    contribution s key tx lines = 0 := by
  obtain ⟨transaction, hTransaction, hOwn, hReversed⟩ :=
    reportingPeriods_mem hPeriods
  refine contribution_eq_zero ?_ ?_
  · rintro date hDate hPeriod
    rw [h.times] at hDate
    obtain ⟨row, hRow, rfl⟩ := Option.map_eq_some_iff.1 hDate
    obtain rfl : row = transaction :=
      Option.some.inj ((hLater.transaction? hRow).symm.trans hTransaction)
    exact hKey (hPeriod ▸ hOwn)
  · rintro date hDate hPeriod
    rw [h.reversals] at hDate
    obtain ⟨row, hRow, hDate⟩ := Option.bind_eq_some_iff.1 hDate
    obtain ⟨reversal, hReversal, rfl⟩ := Option.map_eq_some_iff.1 hDate
    exact hKey (hPeriod ▸ hReversed row (hLater.reversalOf? hRow) reversal
      (hLater.transaction? hReversal))

/-- An event outside the journal. -/
private theorem reading_frame (h : ReplayReading s t)
    (hFrame : JournalFrame t t')
    (hRows : t'.transactionReversals = t.transactionReversals) :
    ReplayReading s t' := by
  have hDate : ∀ tx, t'.dateOf? tx = t.dateOf? tx := dateOf?_frame hFrame
  refine ⟨?_, ?_, ?_, ?_⟩
  · intro tx
    rw [hDate]
    exact h.times tx
  · intro tx
    have hFind : t'.reversalOf? tx = t.reversalOf? tx := by
      unfold SyncTables.reversalOf?
      rw [hRows]
    rw [hFind]
    simp only [hDate]
    exact h.reversals tx
  · intro tx hTx
    rw [hDate]
    exact h.reporting tx hTx
  · intro row hRow
    rw [hRows] at hRow
    rw [hDate]
    exact h.reversed row hRow

/-- New lines, or none, for a transaction. -/
private theorem reading_reporting {tx : UUID} {reporting}
    (h : ReplayReading s t) (hFrame : JournalFrame t t')
    (hRows : t'.transactionReversals = t.transactionReversals)
    (hReporting : (∃ lines, (t.dateOf? tx).isSome
        ∧ reporting = s.reporting.insert tx lines)
      ∨ reporting = s.reporting.erase tx) :
    ReplayReading { s with reporting := reporting } t' ∧
      ∀ T periods, Extends t T → reportingPeriods T tx = .ok periods →
      ∀ key : TotalKey, key.period ∉ periods →
        sumEntries (contribution { s with reporting := reporting } key)
            reporting
          = sumEntries (contribution s key) s.reporting := by
  have hReported : ∀ tx' ∈ reporting, (t.dateOf? tx').isSome := by
    intro tx' hTx'
    obtain ⟨lines, hSome, rfl⟩ | rfl := hReporting
    · obtain rfl | hTx' := (AList.mem_insert _).1 hTx'
      · exact hSome
      · exact h.reporting tx' hTx'
    · exact h.reporting tx' (AList.mem_erase.1 hTx').2
  refine ⟨reading_frame ⟨h.times, h.reversals, hReported, h.reversed⟩ hFrame
    hRows, ?_⟩
  intro T periods hLater hPeriods key hKey
  have hZero := contribution_unnamed h hLater hPeriods hKey
  have hEntry : entryAt (contribution s key) s.reporting tx = 0 := by
    unfold entryAt
    cases s.reporting.lookup tx with
    | none => rfl
    | some lines => exact hZero lines
  show sumEntries (contribution s key) reporting = _
  obtain ⟨lines, -, rfl⟩ | rfl := hReporting
  · rw [sumEntries_insert, hEntry, hZero, sub_zero, add_zero]
  · rw [← sumEntries_erase _ s.reporting tx, hEntry, zero_add]

end Step

/-- One accepted event: the correspondence is kept, and every month that the
tables do not name, at whatever later point they are asked, keeps its
totals. -/
theorem replayStep_frame {ledger : List LedgerEventRecord} {bookId : UUID}
    {stored : LedgerEventRecord} {s s' : ReplayState} {t t' : SyncTables}
    (h : ReplayReading s t) (hStep : Projects ledger bookId t stored t')
    (hFresh : stored.eventId ∉ t.appliedEvents.map (·.eventId))
    (hReplay : replayStep s stored = .ok s') :
    ReplayReading s' t' ∧
      ∀ T periods, Extends t' T → affectedPeriods T stored = .ok periods →
      ∀ key : TotalKey, key.period ∉ periods →
        sumEntries (contribution s' key) s'.reporting
          = sumEntries (contribution s key) s.reporting := by
  have hExtends := Extends.of_projects hStep
  simp only [replayStep, bind_eq_ok, mapError_eq_ok] at hReplay
  obtain ⟨contract, hContract, hReplay⟩ := hReplay
  have hSome := LedgerEventRecord.contract?_eq_some.2 hContract
  obtain ⟨-, -, catalog, result, hApply⟩ := hStep
  obtain ⟨-, -, hVersion | hMarked⟩ | ⟨contract', hContract', -, hPayload⟩ :=
    applyStored_cases hApply
  · rw [LedgerEventRecord.contract?_eq_none hVersion] at hSome
    cases hSome
  · exact absurd hMarked hFresh
  obtain rfl : contract = contract' :=
    Except.ok.inj (hContract.symm.trans hContract')
  have hEffect := applyPayload_journalEffect hPayload
  have hMark : ReplayReading s (t.mark stored.eventId) :=
    ⟨h.times, h.reversals, h.reporting, h.reversed⟩
  have hRows := hEffect.reversals
  have hJournal := hEffect.journal
  have hNamed := fun T periods => @affectedPeriods_ok T stored periods contract
    hSome
  obtain ⟨payload, hValid⟩ := contract
  cases payload with
  | creditCardTransactionRecorded p =>
      obtain rfl := Except.ok.inj hReplay
      have hKept : t'.transactionReversals
          = (t.mark stored.eventId).transactionReversals := by
        simpa [EventPayload.reversalRow] using hRows
      exact And.imp_right (fun hSame _ _ _ _ key _ => hSame key)
        (reading_posted hMark hJournal hKept rfl rfl rfl rfl)
  | journalTransactionPosted p =>
      obtain rfl := Except.ok.inj hReplay
      have hKept : t'.transactionReversals
          = (t.mark stored.eventId).transactionReversals := by
        simpa [EventPayload.reversalRow] using hRows
      exact And.imp_right (fun hSame _ _ _ _ key _ => hSame key)
        (reading_posted hMark hJournal hKept rfl rfl rfl rfl)
  | journalTransactionReversed p =>
      obtain rfl := Except.ok.inj hReplay
      obtain ⟨target, source, contract, original, t₁, -, -, -, -, -, -, -, -,
        -, -, -, hOnce, -⟩ := applyJournalReversed_ok hPayload
      have hNone : (t.mark stored.eventId).reversalOf?
          p.reversesTransactionId = none := by
        unfold SyncTables.reversalOf?
        rw [List.find?_eq_none]
        intro row hRow hId
        exact hOnce (List.mem_map.2 ⟨row, hRow, by simpa using hId⟩)
      refine And.imp_right (fun hSame T periods _ hPeriods key hKey => ?_)
        (reading_reversed hMark hJournal hNone ⟨_, rfl, rfl, hRows⟩ rfl rfl rfl
          rfl)
      refine hSame key fun hPeriod => ?_
      have hOnly := hNamed T periods hPeriods
      simp only at hOnly
      subst hOnly
      exact hKey (List.mem_singleton.2 hPeriod)
  | reportingLinesAssigned p =>
      simp only [replayPayload, bind_eq_ok, pure_eq_ok] at hReplay
      obtain ⟨-, -, -, -, -, -, rfl⟩ := hReplay
      simp only [applyPayload, applyReportingLinesAssigned, bind_eq_ok] at hPayload
      obtain ⟨transaction, hSource, -⟩ := hPayload
      have hKnown : ((t.mark stored.eventId).dateOf? p.transactionId).isSome :=
        by
        unfold SyncTables.dateOf?
        rw [(validateReportingSource_ok hSource).1]
        rfl
      obtain ⟨hReading, hSame⟩ := reading_reporting hMark hJournal
        (by simpa [EventPayload.reversalRow] using hRows)
        (.inl ⟨p.lines, hKnown, rfl⟩)
      refine ⟨hReading, fun T periods hLater hPeriods key hKey => ?_⟩
      have hLater' := hExtends.trans hLater
      exact hSame T periods ⟨hLater'.transactions, hLater'.reversals⟩
        (hNamed T periods hPeriods) key hKey
  | reportingLinesCleared p =>
      obtain rfl := Except.ok.inj hReplay
      obtain ⟨hReading, hSame⟩ := reading_reporting hMark hJournal
        (by simpa [EventPayload.reversalRow] using hRows)
        (.inr (rfl : s.reporting.erase p.transactionId = _))
      refine ⟨hReading, fun T periods hLater hPeriods key hKey => ?_⟩
      have hLater' := hExtends.trans hLater
      exact hSame T periods ⟨hLater'.transactions, hLater'.reversals⟩
        (hNamed T periods hPeriods) key hKey
  | financialExternalReferenceCorrected p =>
      obtain rfl := Except.ok.inj hReplay
      exact ⟨reading_frame hMark hJournal
        (by simpa [EventPayload.reversalRow] using hRows),
        fun _ _ _ _ _ _ => rfl⟩
  | investmentLotAcquired p =>
      obtain rfl := Except.ok.inj hReplay
      exact ⟨reading_frame hMark hJournal
        (by simpa [EventPayload.reversalRow] using hRows),
        fun _ _ _ _ _ _ => rfl⟩
  | investmentLotDisposed p =>
      obtain rfl := Except.ok.inj hReplay
      exact ⟨reading_frame hMark hJournal
        (by simpa [EventPayload.reversalRow] using hRows),
        fun _ _ _ _ _ _ => rfl⟩

/-! ## A batch of events -/

/-- A batch of new events: the correspondence is kept, and a month that no
event of the batch names keeps its totals. -/
theorem replayEvents_frame {ledger batch : List LedgerEventRecord}
    {bookId : UUID} {s s' : ReplayState} {t t' : SyncTables}
    (h : ReplayReading s t) (hRun : Run (Projects ledger bookId) t batch t')
    (hDistinct : (batch.map (·.eventId)).Nodup)
    (hFresh : ∀ e ∈ batch, e.eventId ∉ t.appliedEvents.map (·.eventId))
    (hReplay : replayEvents s batch = .ok s') :
    ReplayReading s' t' ∧ ∀ T, Extends t' T → ∀ key : TotalKey,
      (∀ e ∈ batch, ∃ periods, affectedPeriods T e = .ok periods
        ∧ key.period ∉ periods) →
      valueAt id (replayTotals s') key = valueAt id (replayTotals s) key := by
  simp only [valueAt_replayTotals]
  induction hRun generalizing s with
  | nil t =>
      simp only [replayEvents, List.foldlM_nil, pure_eq_ok] at hReplay
      subst hReplay
      exact ⟨h, fun _ _ _ _ => rfl⟩
  | @cons t t₁ t' stored rest hStep hRest ih =>
      simp only [replayEvents, List.foldlM_cons, bind_eq_ok] at hReplay
      obtain ⟨s₁, hFirst, hReplay⟩ := hReplay
      rw [List.map_cons, List.nodup_cons] at hDistinct
      obtain ⟨hReading, hFrame⟩ := replayStep_frame h hStep
        (hFresh stored List.mem_cons_self) hFirst
      have hFresh₁ : ∀ e ∈ rest,
          e.eventId ∉ t₁.appliedEvents.map (·.eventId) := by
        intro e he hMem
        obtain hMem | hEq := appliedEvents_of_projects hStep hMem
        · exact hFresh e (List.mem_cons_of_mem _ he) hMem
        · exact hDistinct.1 (List.mem_map.2 ⟨e, he, hEq⟩)
      obtain ⟨hReading', hFrame'⟩ := ih hReading hDistinct.2 hFresh₁ hReplay
      refine ⟨hReading', fun T hLater key hNamed => ?_⟩
      obtain ⟨periods, hPeriods, hKey⟩ := hNamed stored List.mem_cons_self
      rw [hFrame' T hLater key
        fun e he => hNamed e (List.mem_cons_of_mem _ he)]
      exact hFrame T periods ((Extends.of_run hRest).trans hLater) hPeriods key
        hKey

end TrackAnywhere.Ports
