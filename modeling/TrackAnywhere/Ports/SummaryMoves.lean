import TrackAnywhere.Ports.SummaryReversals
import TrackAnywhere.Verified.Commuting

/-!
# Where a reversal stands in the replay

The replay keeps the reporting lines of a transaction and its reversal in
different maps, so an assignment of lines and a reversal commute.  A reversal
commutes with every other event of a valid log, and the monthly rows do not
depend on where in the log it stands.  Whichever comes first, the lines of a
reversed transaction add nothing over all months.
-/

namespace TrackAnywhere.Ports

open TrackAnywhere.Verified
open TrackAnywhere.Verified.Checked
open TrackAnywhere.Verified.Commuting
open TrackAnywhere.Verified.KeyedSum

/-! ## States that replay alike -/

/-- The maps have the same entries, and the lines the same order. -/
structure SameReplay (s s' : ReplayState) : Prop where
  times : ∀ tx, s.transactionTimes.lookup tx = s'.transactionTimes.lookup tx
  signs : ∀ tx, s.transactionReportingSigns.lookup tx
    = s'.transactionReportingSigns.lookup tx
  intents : ∀ tx, s.transactionCardIntents.lookup tx
    = s'.transactionCardIntents.lookup tx
  reporting : s.reporting = s'.reporting
  reversals : ∀ tx, s.reversals.lookup tx = s'.reversals.lookup tx
  ids : ∀ tx, tx ∈ s.reversalTransactionIds ↔ tx ∈ s'.reversalTransactionIds

theorem sameReplay_equivalence : Equivalence SameReplay where
  refl _ := ⟨fun _ => rfl, fun _ => rfl, fun _ => rfl, rfl, fun _ => rfl, fun _ => .rfl⟩
  symm h := ⟨fun tx => (h.times tx).symm, fun tx => (h.signs tx).symm,
    fun tx => (h.intents tx).symm, h.reporting.symm, fun tx => (h.reversals tx).symm,
    fun tx => (h.ids tx).symm⟩
  trans h h' := ⟨fun tx => (h.times tx).trans (h'.times tx),
    fun tx => (h.signs tx).trans (h'.signs tx),
    fun tx => (h.intents tx).trans (h'.intents tx), h.reporting.trans h'.reporting,
    fun tx => (h.reversals tx).trans (h'.reversals tx),
    fun tx => (h.ids tx).trans (h'.ids tx)⟩

/-- Inserting the same entry keeps the entries the same. -/
theorem lookup_insert_congr {κ ν : Type} [DecidableEq κ] {d d' : Dict κ ν}
    (h : ∀ k, d.lookup k = d'.lookup k) (key : κ) (value : ν) (k : κ) :
    (d.insert key value).lookup k = (d'.insert key value).lookup k := by
  by_cases hKey : k = key
  · rw [hKey, AList.lookup_insert, AList.lookup_insert]
  · rw [AList.lookup_insert_ne hKey, AList.lookup_insert_ne hKey, h]

/-- Two inserts under different keys, in either order. -/
theorem lookup_insert_comm {κ ν : Type} [DecidableEq κ] {d : Dict κ ν} {key key' : κ}
    (hNe : key ≠ key') (value value' : ν) (k : κ) :
    ((d.insert key value).insert key' value').lookup k
      = ((d.insert key' value').insert key value).lookup k := by
  by_cases hKey : k = key
  · rw [hKey, AList.lookup_insert_ne hNe, AList.lookup_insert, AList.lookup_insert]
  · rw [AList.lookup_insert_ne hKey]
    by_cases hKey' : k = key'
    · rw [hKey', AList.lookup_insert, AList.lookup_insert]
    · rw [AList.lookup_insert_ne hKey', AList.lookup_insert_ne hKey',
        AList.lookup_insert_ne hKey]

/-- States that replay alike have the same totals. -/
theorem replayTotals_congr {s s' : ReplayState} (h : SameReplay s s') :
    replayTotals s = replayTotals s' := by
  unfold replayTotals
  rw [h.reporting]
  congr 1
  funext totals e
  unfold addTransaction
  rw [h.times, h.signs, h.reversals]

/-- One event keeps states alike. -/
theorem replayPayload_congr {s s' : ReplayState} (h : SameReplay s s')
    (effectiveAt : Instant) (payload : EventPayload) :
    SameOutcome SameReplay (replayPayload s effectiveAt payload)
      (replayPayload s' effectiveAt payload) := by
  cases payload with
  | journalTransactionPosted p =>
      exact .ok ⟨lookup_insert_congr h.times _ _, lookup_insert_congr h.signs _ _,
        h.intents, h.reporting, h.reversals, h.ids⟩
  | creditCardTransactionRecorded p =>
      exact .ok ⟨lookup_insert_congr h.times _ _, lookup_insert_congr h.signs _ _,
        lookup_insert_congr h.intents _ _, h.reporting, h.reversals, h.ids⟩
  | journalTransactionReversed p =>
      refine .ok ⟨lookup_insert_congr h.times _ _, h.signs, h.intents, h.reporting,
        lookup_insert_congr h.reversals _ _, fun tx => ?_⟩
      rw [List.mem_cons, List.mem_cons, h.ids]
  | reportingLinesAssigned p =>
      simp only [replayPayload, h.ids, h.intents]
      refine .after _ fun _ => .after _ fun _ => .after _ fun _ => .ok ?_
      refine ⟨h.times, h.signs, h.intents, ?_, h.reversals, h.ids⟩
      rw [h.reporting]
  | reportingLinesCleared p =>
      refine .ok ⟨h.times, h.signs, h.intents, ?_, h.reversals, h.ids⟩
      rw [h.reporting]
  | _ => exact .ok h

theorem replayStep_congr {s s' : ReplayState} (h : SameReplay s s')
    (record : LedgerEventRecord) :
    SameOutcome SameReplay (replayStep s record) (replayStep s' record) :=
  .after _ fun payload => replayPayload_congr h record.effectiveAt payload.1

/-! ## A reversal and another event -/

/-- The payload is of another transaction than the reversal creates, and does
not reverse the same one. -/
def Independent (reversal : JournalTransactionReversed) : EventPayload → Prop
  | .journalTransactionPosted p => p.transactionId ≠ reversal.reversalTransactionId
  | .creditCardTransactionRecorded p => p.transactionId ≠ reversal.reversalTransactionId
  | .journalTransactionReversed p =>
      p.reversalTransactionId ≠ reversal.reversalTransactionId
        ∧ p.reversesTransactionId ≠ reversal.reversesTransactionId
  | .reportingLinesAssigned p => p.transactionId ≠ reversal.reversalTransactionId
  | _ => True

/-- A reversal commutes with a payload that is independent of it. -/
theorem replayPayload_commutes {reversal : JournalTransactionReversed}
    {payload : EventPayload} (h : Independent reversal payload)
    (reversedAt effectiveAt : Instant) (s : ReplayState) :
    SameOutcome SameReplay
      (replayPayload s reversedAt (.journalTransactionReversed reversal)
        >>= fun s => replayPayload s effectiveAt payload)
      (replayPayload s effectiveAt payload
        >>= fun s => replayPayload s reversedAt (.journalTransactionReversed reversal)) := by
  cases payload with
  | journalTransactionPosted p =>
      exact .ok ⟨lookup_insert_comm (Ne.symm h) _ _, fun _ => rfl, fun _ => rfl, rfl,
        fun _ => rfl, fun _ => .rfl⟩
  | creditCardTransactionRecorded p =>
      exact .ok ⟨lookup_insert_comm (Ne.symm h) _ _, fun _ => rfl, fun _ => rfl, rfl,
        fun _ => rfl, fun _ => .rfl⟩
  | journalTransactionReversed p =>
      refine .ok ⟨lookup_insert_comm (Ne.symm h.1) _ _, fun _ => rfl, fun _ => rfl, rfl,
        lookup_insert_comm (Ne.symm h.2) _ _, fun tx => ?_⟩
      simp only [List.mem_cons]
      exact or_left_comm
  | reportingLinesAssigned p =>
      -- the ids of reversals grow by one that is not the transaction's
      have hIds : p.transactionId ∉ reversal.reversalTransactionId
            :: s.reversalTransactionIds
          ↔ p.transactionId ∉ s.reversalTransactionIds := by
        rw [List.mem_cons, not_or]
        exact and_iff_right h
      show SameOutcome SameReplay (replayPayload _ effectiveAt (.reportingLinesAssigned p)) _
      simp only [replayPayload, require, hIds, bind_assoc, pure_bind]
      exact .after _ fun _ => .after _ fun _ => .after _ fun _ =>
        .refl sameReplay_equivalence _
  | reportingLinesCleared p => exact .refl sameReplay_equivalence _
  | _ => exact .refl sameReplay_equivalence _

/-- The event is a reversal, with this payload. -/
def LedgerEventRecord.Reverses (stored : LedgerEventRecord)
    (payload : JournalTransactionReversed) : Prop :=
  ∃ contract, stored.contract? = some contract
    ∧ contract.1 = .journalTransactionReversed payload

/-- A reversal commutes with an event that is independent of it, if that has a
contract at all. -/
theorem replayStep_commutes {reversal record : LedgerEventRecord}
    {payload : JournalTransactionReversed} (hReverses : reversal.Reverses payload)
    (h : ∀ other, record.contract? = some other → Independent payload other.1)
    (s : ReplayState) :
    SameOutcome SameReplay
      (replayStep s reversal >>= fun s => replayStep s record)
      (replayStep s record >>= fun s => replayStep s reversal) := by
  obtain ⟨contract, hContract, hPayload⟩ := hReverses
  have hReversal : ∀ s, replayStep s reversal
      = replayPayload s reversal.effectiveAt (.journalTransactionReversed payload) := by
    intro s
    unfold replayStep
    rw [LedgerEventRecord.contract?_eq_some.1 hContract, ← hPayload]
    rfl
  simp only [hReversal]
  cases hRecord : validateStored record.eventType record.eventSchemaVersion
      record.payload with
  | error e =>
      have hFails : ∀ s, replayStep s record = .error (.registry e) := by
        intro s
        unfold replayStep
        rw [hRecord]
        rfl
      simp only [hFails]
      exact .error _
  | ok other =>
      have hSteps : ∀ s, replayStep s record
          = replayPayload s record.effectiveAt other.1 := by
        intro s
        unfold replayStep
        rw [hRecord]
        rfl
      simp only [hSteps]
      exact replayPayload_commutes (h other (LedgerEventRecord.contract?_eq_some.2 hRecord))
        reversal.effectiveAt record.effectiveAt s

/-! ## The events of a valid log -/

section Runs

variable {ledger events : List LedgerEventRecord} {bookId : UUID} {t : SyncTables}
  {stored reversal : LedgerEventRecord} {other : EventContract}
  {payload : JournalTransactionReversed}

theorem LedgerEventRecord.Reverses.fact (h : reversal.Reverses payload) :
    reversal.financialFact?
      = some (payload.reversalTransactionId, payload.inversePostings) := by
  obtain ⟨contract, hContract, hPayload⟩ := h
  refine Option.bind_eq_some_iff.2 ⟨contract, hContract, ?_⟩
  rw [hPayload]
  rfl

/-- The row of a reversal, in the tables of a history that has it. -/
theorem LedgerEventRecord.Reverses.row (h : reversal.Reverses payload)
    (hHistory : JournalHistory events t) (hMem : reversal ∈ events) :
    ∃ row ∈ t.transactionReversals, row.sourceEventId = reversal.eventId
      ∧ row.reversalTransactionId = payload.reversalTransactionId
      ∧ row.originalTransactionId = payload.reversesTransactionId := by
  obtain ⟨contract, hContract, hPayload⟩ := h
  rw [hHistory.reversals]
  refine ⟨_, List.mem_filterMap.2 ⟨reversal, hMem, Option.bind_eq_some_iff.2
    ⟨contract, hContract, by rw [hPayload]; rfl⟩⟩, rfl, rfl, rfl⟩

/-- Lines are not assigned to the transaction of a reversal, before it or after
it. -/
theorem unassigned_of_run {lines : ReportingLinesAssigned}
    (hDistinct : (events.map (·.eventId)).Nodup)
    (hRun : Run (Projects ledger bookId) SyncTables.empty events t)
    (hReversal : reversal ∈ events) (hReverses : reversal.Reverses payload)
    (hMem : stored ∈ events) (hOther : stored.contract? = some other)
    (hLines : other.1 = .reportingLinesAssigned lines) :
    lines.transactionId ≠ payload.reversalTransactionId := by
  intro hSame
  have hHistory := journalHistory_run hDistinct hRun
  obtain ⟨before, after, rfl⟩ := List.append_of_mem hMem
  obtain ⟨t₁, hBefore, hRest⟩ := hRun.split
  obtain ⟨t₂, hStep, -⟩ := Run.cons_iff.1 hRest
  have hEarlier : (before.map (·.eventId)).Nodup := by
    rw [List.map_append, List.nodup_append] at hDistinct
    exact hDistinct.1
  have hPast := journalHistory_run hEarlier hBefore
  have hFresh : stored.eventId ∉ t₁.appliedEvents.map (·.eventId) := by
    intro hMarked
    obtain ⟨e, he, hId, -⟩ := (hPast.applied _).1 hMarked
    rw [List.map_append, List.map_cons, List.nodup_middle, List.nodup_cons] at hDistinct
    exact hDistinct.1 (List.mem_append_left _ (List.mem_map.2 ⟨e, he, hId⟩))
  rcases projects_cases hStep hFresh with
    ⟨hNone, -⟩ | ⟨catalog, found, hFound, hApply⟩
  · rw [hNone] at hOther
    exact nomatch hOther
  obtain rfl : other = found := Option.some.inj (hOther.symm.trans hFound)
  rw [hLines] at hApply
  simp only [applyPayload, applyReportingLinesAssigned, bind_eq_ok] at hApply
  obtain ⟨row, hSource, -⟩ := hApply
  obtain ⟨hRow, -, hNotReversal⟩ := validateReportingSource_ok hSource
  -- the transaction was created before, and only the reversal creates it
  obtain ⟨source, hSourceMem, hKey⟩ :=
    hPast.source_of_transaction (List.mem_of_find?_eq_some hRow)
  have hSourceCreates : source.Creates payload.reversalTransactionId := by
    have hId : row.transactionId = lines.transactionId := by
      simpa using List.find?_some hRow
    obtain ⟨fact, hFact, hOwn⟩ := Option.map_eq_some_iff.1 hKey
    unfold LedgerEventRecord.Creates
    rw [hFact, ← hSame, ← hId]
    exact congrArg some (congrArg TransactionKey.transactionId hOwn)
  have hIs : source = reversal := creates_unique hHistory hDistinct
    (List.mem_append_left _ hSourceMem) hReversal hSourceCreates
    (creates_of_fact hReverses.fact)
  obtain ⟨reversed, hReversed, -, hOwn, -⟩ := hReverses.row hPast (hIs ▸ hSourceMem)
  refine absurd hOwn ?_
  rw [← hSame]
  unfold SyncTables.reversal? at hNotReversal
  simpa using List.find?_eq_none.1 hNotReversal reversed hReversed

/-- The other events of a valid log are independent of a reversal in it. -/
theorem independent_of_run (hDistinct : (events.map (·.eventId)).Nodup)
    (hRun : Run (Projects ledger bookId) SyncTables.empty events t)
    (hReversal : reversal ∈ events) (hReverses : reversal.Reverses payload)
    (hMem : stored ∈ events) (hNe : stored ≠ reversal)
    (hOther : stored.contract? = some other) : Independent payload other.1 := by
  have hHistory := journalHistory_run hDistinct hRun
  have hApart : ∀ fact, other.1.financialFact = some fact →
      fact.1 ≠ payload.reversalTransactionId := by
    intro fact hFact hSame
    refine hNe (creates_unique hHistory hDistinct hMem hReversal ?_
      (creates_of_fact hReverses.fact))
    rw [← hSame]
    exact creates_of_contract hOther hFact
  obtain ⟨p, hValid⟩ := other
  cases p with
  | journalTransactionPosted p => exact hApart _ rfl
  | creditCardTransactionRecorded p => exact hApart _ rfl
  | journalTransactionReversed p =>
      refine ⟨hApart _ rfl, fun hSame => hNe ?_⟩
      obtain ⟨row, hRow, hSource, -, hOriginal⟩ := hReverses.row hHistory hReversal
      have hOwn : stored.Reverses p := ⟨_, hOther, rfl⟩
      obtain ⟨row', hRow', hSource', -, hOriginal'⟩ := hOwn.row hHistory hMem
      have hRows : row' = row := by
        refine List.inj_on_of_nodup_map (reversedOnce_run hRun) hRow' hRow ?_
        rw [hOriginal, hOriginal', hSame]
      refine List.inj_on_of_nodup_map hDistinct hMem hReversal ?_
      rw [← hSource, ← hSource', hRows]
  | reportingLinesAssigned p =>
      exact unassigned_of_run hDistinct hRun hReversal hReverses hMem hOther rfl
  | _ => exact trivial

/-- The replay reports on transactions that lines were assigned to. -/
theorem assigned_of_reporting {s : ReplayState}
    (hReplay : replayEvents ReplayState.empty events = .ok s) {tx : UUID}
    (hMem : tx ∈ s.reporting) :
    ∃ e ∈ events, ∃ contract, e.contract? = some contract
      ∧ ∃ lines, contract.1 = .reportingLinesAssigned lines ∧ lines.transactionId = tx := by
  induction events using List.reverseRecOn generalizing s with
  | nil =>
      obtain rfl := Except.ok.inj hReplay
      exact absurd hMem (AList.notMem_empty tx)
  | append_singleton events e ih =>
      rw [replayEvents_append] at hReplay
      simp only [bind_eq_ok, replayEvents, List.foldlM_cons, List.foldlM_nil, pure_eq_ok]
        at hReplay
      obtain ⟨s₁, hEvents, s₂, hLast, rfl⟩ := hReplay
      by_cases hEarlier : tx ∈ s₁.reporting
      · obtain ⟨e', he', hOwn⟩ := ih hEvents hEarlier
        exact ⟨e', List.mem_append_left _ he', hOwn⟩
      refine ⟨e, by simp, ?_⟩
      simp only [replayStep, bind_eq_ok, mapError_eq_ok] at hLast
      obtain ⟨contract, hContract, hLast⟩ := hLast
      refine ⟨contract, LedgerEventRecord.contract?_eq_some.2 hContract, ?_⟩
      obtain ⟨payload, hValid⟩ := contract
      cases payload with
      | reportingLinesAssigned p =>
          simp only [replayPayload, bind_eq_ok, require_eq_ok, pure_eq_ok,
            exists_const] at hLast
          obtain ⟨-, -, -, rfl⟩ := hLast
          obtain hOwn | hOld := (AList.mem_insert _).1 hMem
          · exact ⟨p, rfl, hOwn.symm⟩
          · exact absurd hOld hEarlier
      | reportingLinesCleared p =>
          obtain rfl := Except.ok.inj hLast
          exact absurd (AList.mem_erase.1 hMem).2 hEarlier
      | _ =>
          obtain rfl := Except.ok.inj hLast
          exact absurd hMem hEarlier

end Runs

/-! ## Logs of the same content -/

/-- What the replay reads of an event. -/
structure SameContent (stored other : LedgerEventRecord) : Prop where
  eventType : stored.eventType = other.eventType
  eventSchemaVersion : stored.eventSchemaVersion = other.eventSchemaVersion
  payload : stored.payload = other.payload
  effectiveAt : stored.effectiveAt = other.effectiveAt

theorem replayEvents_content {log log' : List LedgerEventRecord}
    (h : List.Forall₂ SameContent log log') (s : ReplayState) :
    replayEvents s log = replayEvents s log' := by
  induction h generalizing s with
  | nil => rfl
  | @cons stored other log log' hHead _ ih =>
      have hStep : replayStep s stored = replayStep s other := by
        unfold replayStep
        rw [hHead.eventType, hHead.eventSchemaVersion, hHead.payload, hHead.effectiveAt]
      unfold replayEvents at ih ⊢
      rw [List.foldlM_cons, List.foldlM_cons, hStep]
      congr 1
      funext s'
      exact ih s'

/-- Logs that replay alike have the same rows. -/
theorem coldReplay_of_sameOutcome {log log' : List LedgerEventRecord}
    (h : SameOutcome SameReplay (replayEvents ReplayState.empty log)
      (replayEvents ReplayState.empty log')) :
    coldReplayMonthlySummary log none = coldReplayMonthlySummary log' none := by
  unfold coldReplayMonthlySummary
  dsimp only
  generalize replayEvents ReplayState.empty log = x at h ⊢
  generalize replayEvents ReplayState.empty log' = y at h ⊢
  cases h with
  | ok hSame =>
      show Except.ok _ = Except.ok _
      rw [replayTotals_congr hSame]
  | error e => rfl

section Moves

variable {ledger events : List LedgerEventRecord} {bookId : UUID} {t : SyncTables}

/-- A reversal of a valid log is taken before a segment or after it. -/
theorem coldReplay_moved {before mid after : List LedgerEventRecord}
    {reversal : LedgerEventRecord} {payload : JournalTransactionReversed}
    (hReverses : reversal.Reverses payload)
    (hIndependent : ∀ e ∈ mid, ∀ other, e.contract? = some other →
      Independent payload other.1) :
    coldReplayMonthlySummary (before ++ reversal :: mid ++ after) none
      = coldReplayMonthlySummary (before ++ mid ++ reversal :: after) none := by
  apply coldReplay_of_sameOutcome
  have hMoved : ∀ s, SameOutcome SameReplay
      (replayEvents s (reversal :: mid)) (replayEvents s (mid ++ [reversal])) :=
    foldlM_moved sameReplay_equivalence (fun e _ _ h => replayStep_congr h e) reversal mid
      fun e he s => replayStep_commutes hReverses (hIndependent e he) s
  have hFirst : before ++ reversal :: mid ++ after
      = before ++ ((reversal :: mid) ++ after) := by simp
  have hSecond : before ++ mid ++ reversal :: after
      = before ++ ((mid ++ [reversal]) ++ after) := by simp
  rw [hFirst, hSecond, replayEvents_append, replayEvents_append]
  refine .after _ fun s => ?_
  rw [replayEvents_append, replayEvents_append]
  exact (hMoved s).bind (foldlM_congr (fun e _ _ h => replayStep_congr h e) after)

/-- The lines of a reversed transaction add nothing, and its reversal has no
lines. -/
theorem reversedUnits_of_run {s : ReplayState}
    (hDistinct : (events.map (·.eventId)).Nodup)
    (hRun : Run (Projects ledger bookId) SyncTables.empty events t)
    (hReplay : replayEvents ReplayState.empty events = .ok s)
    {row : TransactionReversalRecord} (hRow : row ∈ t.transactionReversals) :
    row.reversalTransactionId ∉ s.reporting
      ∧ ∀ lines, s.reporting.lookup row.originalTransactionId = some lines → ∀ q,
        ((lines.filter fun line => line.reportingClass = some q).map
          (lineUnits s row.originalTransactionId)).sum = 0 := by
  have hFresh : ∀ e ∈ events,
      e.eventId ∉ SyncTables.empty.appliedEvents.map (·.eventId) :=
    fun _ _ => List.not_mem_nil
  have hReading : ReplayReading s t :=
    (replayEvents_frame ReplayReading.empty hRun hDistinct hFresh hReplay).1
  constructor
  · intro hMem
    obtain ⟨e, he, contract, hContract, lines, hLines, hTx⟩ :=
      assigned_of_reporting hReplay hMem
    rw [(journalHistory_run hDistinct hRun).reversals] at hRow
    obtain ⟨reversal, hReversal, hOwn⟩ := List.mem_filterMap.1 hRow
    obtain ⟨other, hOther, hPayload⟩ := Option.bind_eq_some_iff.1 hOwn
    obtain ⟨payload, hValid⟩ := other
    cases payload with
    | journalTransactionReversed p =>
        obtain rfl := Option.some.inj hPayload
        exact unassigned_of_run hDistinct hRun hReversal ⟨_, hOther, rfl⟩ he hContract
          hLines hTx
    | _ => cases hPayload
  · intro lines hLines q
    have hMem : row.originalTransactionId ∈ s.reporting :=
      AList.lookup_isSome.1 (by rw [hLines]; rfl)
    have hTime : (s.transactionTimes.lookup row.originalTransactionId).isSome := by
      rw [hReading.times]
      exact hReading.reporting _ hMem
    have hReversed : (s.reversals.lookup row.originalTransactionId).isSome := by
      obtain ⟨found, hFound⟩ : ∃ found,
          t.reversalOf? row.originalTransactionId = some found := by
        rw [← Option.isSome_iff_exists]
        unfold SyncTables.reversalOf?
        rw [List.find?_isSome]
        exact ⟨row, hRow, by simp⟩
      rw [hReading.reversals, hFound]
      exact hReading.reversed found (List.mem_of_find?_eq_some hFound)
    refine List.sum_eq_zero fun units hUnits => ?_
    obtain ⟨line, hLine, rfl⟩ := List.mem_map.1 hUnits
    have hClass : line.reportingClass = some q := by
      simpa using (List.mem_filter.1 hLine).2
    rw [lineUnits_eq hTime (by rw [hClass]; rfl), if_pos hReversed]

/-- In a valid log the lines of every reversed transaction and of its reversal
add nothing to any class over all months; the rows are made of such sums.  The
rows do not depend on where a reversal stands: two logs with the content of a
valid one, its reversal before a segment or after it, have the same rows,
whatever lines the segment assigns or clears. -/
theorem monthlyRows_reversal_moves (hDistinct : (events.map (·.eventId)).Nodup)
    (hRun : Run (Projects ledger bookId) SyncTables.empty events t) :
    (∀ s, replayEvents ReplayState.empty events = .ok s →
      (∀ q, (summaryOf (replayTotals s)).netUnits q = sumEntries (fun tx lines =>
          ((lines.filter fun line => line.reportingClass = some q).map
            (lineUnits s tx)).sum) s.reporting)
      ∧ ∀ row ∈ t.transactionReversals, row.reversalTransactionId ∉ s.reporting
        ∧ ∀ lines, s.reporting.lookup row.originalTransactionId = some lines → ∀ q,
          ((lines.filter fun line => line.reportingClass = some q).map
            (lineUnits s row.originalTransactionId)).sum = 0)
    ∧ ∀ before mid after reversal payload, reversal.Reverses payload →
      (events = before ++ reversal :: mid ++ after
        ∨ events = before ++ mid ++ reversal :: after) →
      ∀ earlier later,
        List.Forall₂ SameContent (before ++ reversal :: mid ++ after) earlier →
        List.Forall₂ SameContent (before ++ mid ++ reversal :: after) later →
        coldReplayMonthlySummary earlier none = coldReplayMonthlySummary later none := by
  refine ⟨fun s hReplay => ⟨netUnits_replay s, fun row hRow =>
    reversedUnits_of_run hDistinct hRun hReplay hRow⟩, ?_⟩
  intro before mid after reversal payload hReverses hEvents earlier later hEarlier hLater
  have hPerm : events.Perm (reversal :: (before ++ mid ++ after)) := by
    obtain rfl | rfl := hEvents
    · simp only [List.append_assoc, List.cons_append]
      exact List.perm_middle
    · rw [List.append_assoc, List.append_assoc]
      simp only [← List.append_assoc]
      exact List.perm_middle
  have hApart : reversal ∉ before ++ mid ++ after := by
    intro hMem
    have hIds := (hPerm.map (·.eventId)).nodup_iff.1 hDistinct
    rw [List.map_cons, List.nodup_cons] at hIds
    exact hIds.1 (List.mem_map.2 ⟨reversal, hMem, rfl⟩)
  have hMoved := @coldReplay_moved before mid after reversal payload hReverses ?_
  · unfold coldReplayMonthlySummary at hMoved ⊢
    dsimp only at hMoved ⊢
    rw [← replayEvents_content hEarlier, ← replayEvents_content hLater]
    exact hMoved
  · intro e he other hOther
    have hOwn : e ∈ before ++ mid ++ after := by simp [he]
    refine independent_of_run hDistinct hRun (hPerm.mem_iff.2 List.mem_cons_self) hReverses
      (hPerm.mem_iff.2 (List.mem_cons_of_mem _ hOwn)) ?_ hOther
    rintro rfl
    exact hApart hOwn

end Moves

/-! ### One transaction, its lines and its reversal -/

def sampleReturnedLog : List LedgerEventRecord :=
  [samplePosted, sampleAssigned, sampleReturned]

theorem sampleReturned_run : Run (Projects sampleReturnedLog 1) SyncTables.empty
    sampleReturnedLog
    (sampleReturnedLog.foldl (projected sampleCatalog sampleReturnedLog)
      SyncTables.empty) :=
  .cons (projects_projected sampleCatalog (by decide) rfl (by decide))
    (.cons (projects_projected sampleCatalog (by decide) rfl (by decide))
      (.cons (projects_projected sampleCatalog (by decide) rfl (by decide)) (.nil _)))

theorem sampleReturned_reverses : ∃ payload, sampleReturned.Reverses payload :=
  ⟨_, _, rfl, rfl⟩

/-- The lines are assigned after the reversal, with the same rows in both
months. -/
theorem monthlyRows_reversal_moves_sample :
    coldReplayMonthlySummary [samplePosted, sampleReturned, sampleAssigned] none
        = coldReplayMonthlySummary sampleReturnedLog none
      ∧ ∃ summary, coldReplayMonthlySummary sampleReturnedLog none = .ok summary
        ∧ summary.length = 2 := by
  obtain ⟨-, hMoves⟩ := monthlyRows_reversal_moves (by decide) sampleReturned_run
  obtain ⟨payload, hReverses⟩ := sampleReturned_reverses
  have hSame : ∀ log, List.Forall₂ SameContent log log := fun log =>
    List.forall₂_same.2 fun _ _ => ⟨rfl, rfl, rfl, rfl⟩
  refine ⟨hMoves [samplePosted] [sampleAssigned] [] sampleReturned payload hReverses
    (.inr rfl) _ _ (hSame _) (hSame _), _, rfl, by decide⟩

end TrackAnywhere.Ports
