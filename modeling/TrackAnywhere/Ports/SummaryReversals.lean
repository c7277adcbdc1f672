import TrackAnywhere.Ports.ProjectionWorker
import TrackAnywhere.Ports.ReversalChains
import Mathlib

/-!
# Reversals in the monthly summary

The summary adds up, over the reported transactions, what each of their lines
contributes (`netUnits_summaryOf`).  A line of a transaction that nothing
reverses contributes its amount; from the first reversal on it contributes
nothing, in whatever month the reversal is dated (`lineUnits_of_chain`).

Balances go on alternating with every further reversal, so the two agree on
the chains that are empty or of odd length and on no others:
`lineUnits_follow_chain_iff`.
-/

namespace TrackAnywhere.Ports

open TrackAnywhere.Verified
open TrackAnywhere.Verified.Checked
open TrackAnywhere.Verified.KeyedSum

/-! ## Net units of the summary -/

/-- The columns of a summary row besides its month and its units. -/
structure ReportingClass where
  categoryId : UUID
  categoryVersionId : UUID
  assetCode : AssetCode
  lineKind : ReportingLineKind
deriving DecidableEq

def TotalKey.reportingClass (key : TotalKey) : ReportingClass :=
  ⟨key.categoryId, key.categoryVersionId, key.assetCode, key.lineKind⟩

def MonthlySummaryValue.reportingClass (v : MonthlySummaryValue) :
    ReportingClass :=
  ⟨v.categoryId, v.categoryVersionId, v.assetCode, v.lineKind⟩

/-- The class a line is counted in, `none` for a line that is skipped. -/
def ReportingLine.reportingClass (line : ReportingLine) :
    Option ReportingClass :=
  if line.dimension = .category then
    line.dimensionId.map fun categoryId =>
      ⟨categoryId, line.catalogId, line.assetCode, line.lineKind⟩
  else none

/-- The units of a class over all months. -/
def MonthlySummary.netUnits (summary : MonthlySummary) (q : ReportingClass) :
    Int :=
  (summary.map fun month =>
    ((month.2.filter fun v => v.reportingClass = q).map (·.units)).sum).sum

/-- The units a line of a transaction contributes, over all months. -/
def lineUnits (s : ReplayState) (tx : UUID) (line : ReportingLine) : Int :=
  ((transactionItems s tx [line]).map (·.2)).sum

/-- The amount a line reports: its units under the sign of its transaction. -/
def lineAmount (s : ReplayState) (tx : UUID) (line : ReportingLine) : Int :=
  (s.transactionReportingSigns.lookup tx).getD 1 * line.units.1

/-- The values of one month, by class. -/
private theorem sum_periodValues (totals : Dict TotalKey Int) (period : Date)
    (q : ReportingClass) :
    (((periodValues totals period).filter
        fun v => v.reportingClass = q).map (·.units)).sum
      = (totals.entries.map fun e => if e.1.period = period then
          (if e.1.reportingClass = q then e.2 else 0) else 0).sum := by
  have hPerm : (periodValues totals period).Perm
      ((totals.entries.filter fun e => e.1.period = period ∧ e.2 ≠ 0).map
        fun e => e.1.value e.2) := List.perm_insertionSort _ _
  rw [((hPerm.filter _).map _).sum_eq]
  induction totals.entries with
  | nil => rfl
  | cons e entries ih =>
      rw [List.map_cons, List.sum_cons, ← ih]
      by_cases hPeriod : e.1.period = period <;>
        by_cases hUnits : e.2 = 0 <;>
        by_cases hClass : e.1.reportingClass = q <;>
        simp_all [TotalKey.value, MonthlySummaryValue.reportingClass,
          TotalKey.reportingClass]

/-- The summary, read across the months, is the total of the class. -/
theorem netUnits_summaryOf (totals : Dict TotalKey Int) (q : ReportingClass) :
    (summaryOf totals).netUnits q
      = totalOn id (fun key => key.reportingClass = q) totals := by
  unfold MonthlySummary.netUnits
  have hMonths : (summaryOf totals).map (fun month =>
        ((month.2.filter fun v => v.reportingClass = q).map (·.units)).sum)
      = ((summaryOf totals).map (·.1)).map fun period =>
        (totals.entries.map fun e => if e.1.period = period then
          (if e.1.reportingClass = q then e.2 else 0) else 0).sum := by
    unfold summaryOf
    rw [List.map_map, List.map_map, List.map_map]
    refine List.map_congr_left fun period _ => ?_
    exact sum_periodValues totals period q
  rw [hMonths, sum_fibers (summaryOf_months_nodup totals)]
  · unfold totalOn sumEntries
    congr 1
    refine List.map_congr_left fun e _ => ?_
    simp
  · intro e he hNe
    have hUnits : e.2 ≠ 0 := by
      intro hZero
      simp [hZero] at hNe
    unfold summaryOf
    rw [List.map_map]
    simp only [Function.comp_def, List.map_id', List.mem_insertionSort,
      List.mem_dedup, List.mem_map, List.mem_filter, decide_eq_true_eq]
    exact ⟨e, ⟨he, hUnits⟩, rfl⟩

/-- The total of a set of keys: what the reported transactions add to it. -/
theorem totalOn_replayTotals (s : ReplayState) (p : TotalKey → Bool) :
    totalOn id p (replayTotals s)
      = sumEntries (fun tx lines =>
          (((transactionItems s tx lines).filter fun i => p i.1).map
            (·.2)).sum) s.reporting := by
  have hFold : ∀ (entries : List ((_ : UUID) × List ReportingLine))
      (totals : Dict TotalKey Int),
      entries.foldl (fun totals e => addTransaction s totals e.1 e.2) totals
        = accumulate (· + ·) totals
          (entries.flatMap fun e => transactionItems s e.1 e.2) := by
    intro entries
    induction entries with
    | nil => exact fun _ => rfl
    | cons e entries ih =>
        intro totals
        rw [List.foldl_cons, ih, addTransaction_eq, List.flatMap_cons]
        simp [accumulate, List.foldl_append]
  unfold replayTotals sumEntries
  rw [hFold, totalOn_accumulate_add, totalOn_empty, zero_add]
  induction s.reporting.entries with
  | nil => rfl
  | cons e entries ih =>
      rw [List.flatMap_cons, List.filter_append, List.map_append,
        List.sum_append, List.map_cons, List.sum_cons, ← ih]

/-! ## One line -/

private theorem lineKey_eq (period : Date) (line : ReportingLine) :
    lineKey period line = line.reportingClass.map fun q =>
      ⟨period, q.categoryId, q.categoryVersionId, q.assetCode, q.lineKind⟩ := by
  unfold lineKey ReportingLine.reportingClass
  split
  · cases line.dimensionId <;> rfl
  · rfl

/-- What the lines of a class add, in any month. -/
private theorem sum_lineItems (period : Date) (lines : List ReportingLine)
    (sign : Int) (q : ReportingClass) :
    (((lineItems period lines sign).filter
        fun i => i.1.reportingClass = q).map (·.2)).sum
      = ((lines.filter fun line => line.reportingClass = some q).map
          fun line => sign * line.units.1).sum := by
  unfold lineItems
  induction lines with
  | nil => rfl
  | cons line lines ih =>
      rw [List.filterMap_cons, lineKey_eq]
      cases hClass : line.reportingClass with
      | none => simpa [hClass] using ih
      | some c =>
          have hOwn : TotalKey.reportingClass ⟨period, c.categoryId,
              c.categoryVersionId, c.assetCode, c.lineKind⟩ = c := rfl
          by_cases hEq : c = q
          · subst hEq
            simp [hClass, hOwn, ih]
          · simpa [hClass, hOwn, hEq] using ih

/-- The one line that is not skipped. -/
private theorem sum_lineItems_singleton (period : Date)
    {line : ReportingLine} (hClass : line.reportingClass.isSome) (sign : Int) :
    ((lineItems period [line] sign).map (·.2)).sum = sign * line.units.1 := by
  obtain ⟨q, hq⟩ := Option.isSome_iff_exists.1 hClass
  simp [lineItems, lineKey_eq, hq]

/-- A counted line contributes its amount until the transaction is reversed,
and nothing from then on. -/
theorem lineUnits_eq {s : ReplayState} {tx : UUID} {line : ReportingLine}
    (hTime : (s.transactionTimes.lookup tx).isSome)
    (hClass : line.reportingClass.isSome) :
    lineUnits s tx line
      = if (s.reversals.lookup tx).isSome then 0 else lineAmount s tx line := by
  obtain ⟨date, hDate⟩ := Option.isSome_iff_exists.1 hTime
  unfold lineUnits lineAmount transactionItems
  rw [hDate]
  simp only []
  by_cases hSign : (s.transactionReportingSigns.lookup tx).getD 1 = 0
  · simp [hSign]
  · rw [if_neg hSign, List.map_append, List.sum_append,
      sum_lineItems_singleton _ hClass]
    cases s.reversals.lookup tx with
    | none => simp
    | some reversedAt =>
        simp only [Option.isSome_some, if_true]
        rw [sum_lineItems_singleton _ hClass, neg_mul, add_neg_cancel]

/-- A transaction without a date contributes nothing. -/
private theorem lineUnits_eq_zero {s : ReplayState} {tx : UUID}
    (hTime : s.transactionTimes.lookup tx = none) (line : ReportingLine) :
    lineUnits s tx line = 0 := by
  unfold lineUnits transactionItems
  rw [hTime]
  rfl

/-- What a transaction adds to a class, line by line. -/
private theorem sum_transactionItems (s : ReplayState) (tx : UUID)
    (lines : List ReportingLine) (q : ReportingClass) :
    (((transactionItems s tx lines).filter
        fun i => i.1.reportingClass = q).map (·.2)).sum
      = ((lines.filter fun line => line.reportingClass = some q).map
          (lineUnits s tx)).sum := by
  cases hTime : s.transactionTimes.lookup tx with
  | none =>
      rw [List.map_congr_left fun line _ => lineUnits_eq_zero hTime line]
      simp [transactionItems, hTime]
  | some date =>
      have hLines : ∀ line ∈ lines.filter
            (fun line => line.reportingClass = some q),
          lineUnits s tx line = if (s.reversals.lookup tx).isSome then 0
            else lineAmount s tx line := by
        intro line hLine
        have hClass : line.reportingClass = some q := by
          simpa using (List.mem_filter.1 hLine).2
        exact lineUnits_eq (by rw [hTime]; rfl) (by rw [hClass]; rfl)
      rw [List.map_congr_left hLines]
      unfold transactionItems lineAmount
      rw [hTime]
      simp only []
      by_cases hSign : (s.transactionReportingSigns.lookup tx).getD 1 = 0
      · simp [hSign]
      · rw [if_neg hSign, List.filter_append, List.map_append,
          List.sum_append, sum_lineItems]
        cases s.reversals.lookup tx with
        | none => simp
        | some reversedAt =>
            simp only [Option.isSome_some, if_true]
            rw [sum_lineItems, ← List.sum_map_add]
            simp

/-- The summary gives a class the contributions of the lines reported under
it. -/
theorem netUnits_replay (s : ReplayState) (q : ReportingClass) :
    (summaryOf (replayTotals s)).netUnits q
      = sumEntries (fun tx lines =>
          ((lines.filter fun line => line.reportingClass = some q).map
            (lineUnits s tx)).sum) s.reporting := by
  rw [netUnits_summaryOf, totalOn_replayTotals]
  exact sumEntries_congr fun e _ => sum_transactionItems s e.1 e.2 q

/-! ## The reported lines count -/

/-- Every reported line is of a class, and of a transaction with a sign. -/
structure ReportingCounted (s : ReplayState) : Prop where
  payments : ∀ tx, s.transactionReportingSigns.lookup tx = some 0 →
    s.transactionCardIntents.lookup tx = some .payment
  signs : ∀ tx ∈ s.reporting, s.transactionReportingSigns.lookup tx ≠ some 0
  classes : ∀ tx lines, s.reporting.lookup tx = some lines →
    ∀ line ∈ lines, line.reportingClass.isSome

namespace ReportingCounted

variable {s s' : ReplayState}

theorem empty : ReportingCounted ReplayState.empty where
  payments := by
    intro _ h
    cases h
  signs := fun tx h => absurd h (AList.notMem_empty tx)
  classes := by
    intro _ _ h
    cases h

/-- A new transaction: nothing is reported under it yet. -/
theorem posted (h : ReportingCounted s) {tx : UUID} {sign : Int}
    (hFresh : tx ∉ s.reporting)
    (hSigns : s'.transactionReportingSigns
      = s.transactionReportingSigns.insert tx sign)
    (hPayment : sign = 0 → s'.transactionCardIntents.lookup tx = some .payment)
    (hIntents : ∀ other, other ≠ tx → s'.transactionCardIntents.lookup other
      = s.transactionCardIntents.lookup other)
    (hReporting : s'.reporting = s.reporting) : ReportingCounted s' := by
  refine ⟨?_, ?_, ?_⟩
  · intro other hZero
    rw [hSigns] at hZero
    by_cases hTx : other = tx
    · subst hTx
      rw [AList.lookup_insert] at hZero
      exact hPayment (Option.some.inj hZero)
    · rw [AList.lookup_insert_ne hTx] at hZero
      rw [hIntents other hTx]
      exact h.payments other hZero
  · intro other hMem
    rw [hReporting] at hMem
    have hTx : other ≠ tx := fun hEq => hFresh (hEq ▸ hMem)
    rw [hSigns, AList.lookup_insert_ne hTx]
    exact h.signs other hMem
  · rw [hReporting]
    exact h.classes

/-- New lines for a transaction that is not a payment. -/
theorem assigned (h : ReportingCounted s) {tx : UUID}
    {lines : List ReportingLine}
    (hIntent : s.transactionCardIntents.lookup tx ≠ some .payment)
    (hClasses : ∀ line ∈ lines, line.reportingClass.isSome) :
    ReportingCounted { s with reporting := s.reporting.insert tx lines } := by
  refine ⟨h.payments, ?_, ?_⟩
  · intro other hMem
    rcases (AList.mem_insert _).1 hMem with rfl | hMem
    · exact fun hZero => hIntent (h.payments _ hZero)
    · exact h.signs other hMem
  · intro other found hFound
    by_cases hTx : other = tx
    · subst hTx
      rw [AList.lookup_insert] at hFound
      rw [← Option.some.inj hFound]
      exact hClasses
    · rw [AList.lookup_insert_ne hTx] at hFound
      exact h.classes other found hFound

theorem cleared (h : ReportingCounted s) (tx : UUID) :
    ReportingCounted { s with reporting := s.reporting.erase tx } := by
  refine ⟨h.payments, ?_, ?_⟩
  · intro other hMem
    exact h.signs other (AList.mem_erase.1 hMem).2
  · intro other found hFound
    by_cases hTx : other = tx
    · subst hTx
      rw [AList.lookup_erase] at hFound
      cases hFound
    · rw [AList.lookup_erase_ne hTx] at hFound
      exact h.classes other found hFound

/-- An event that changes neither signs, card intents nor lines. -/
theorem congr (h : ReportingCounted s)
    (hSigns : s'.transactionReportingSigns = s.transactionReportingSigns)
    (hIntents : s'.transactionCardIntents = s.transactionCardIntents)
    (hReporting : s'.reporting = s.reporting) : ReportingCounted s' := by
  refine ⟨?_, ?_, ?_⟩
  · rw [hSigns, hIntents]
    exact h.payments
  · rw [hSigns, hReporting]
    exact h.signs
  · rw [hReporting]
    exact h.classes

/-- One event that the tables accept. -/
theorem step {ledger : List LedgerEventRecord} {bookId : UUID}
    {stored : LedgerEventRecord} {t t' : SyncTables}
    (h : ReportingCounted s) (hReading : ReplayReading s t)
    (hStep : Projects ledger bookId t stored t')
    (hFresh : stored.eventId ∉ t.appliedEvents.map (·.eventId))
    (hReplay : replayStep s stored = .ok s') : ReportingCounted s' := by
  simp only [replayStep, bind_eq_ok, mapError_eq_ok] at hReplay
  obtain ⟨contract, hContract, hReplay⟩ := hReplay
  have hSome := LedgerEventRecord.contract?_eq_some.2 hContract
  rcases projects_cases hStep hFresh with
    ⟨hNone, -⟩ | ⟨catalog, contract', hContract', hPayload⟩
  · rw [hNone] at hSome
    cases hSome
  obtain rfl : contract = contract' :=
    Option.some.inj (hSome.symm.trans hContract')
  have hJournal := (applyPayload_journalEffect hPayload).journal
  -- a transaction that is new to the tables has no lines
  have hUnreported : ∀ fact, contract.1.financialFact = some fact →
      fact.1 ∉ s.reporting := by
    intro fact hFact hMem
    rw [hFact] at hJournal
    obtain ⟨row, hRow⟩ := Option.isSome_iff_exists.1 (hReading.reporting _ hMem)
    obtain ⟨transaction, hTransaction, -⟩ := Option.map_eq_some_iff.1 hRow
    have hId : transaction.transactionId = fact.1 := by
      simpa using List.find?_some hTransaction
    exact hJournal.fresh (List.mem_map.2
      ⟨transaction, List.mem_of_find?_eq_some hTransaction, hId⟩)
  obtain ⟨payload, hValid⟩ := contract
  cases payload with
  | journalTransactionPosted p =>
      obtain rfl := Except.ok.inj hReplay
      refine h.posted (hUnreported _ rfl) rfl ?_ (fun _ _ => rfl) rfl
      intro hZero
      unfold journalReportingSign at hZero
      split at hZero <;> exact absurd hZero (by decide)
  | creditCardTransactionRecorded p =>
      obtain rfl := Except.ok.inj hReplay
      refine h.posted (hUnreported _ rfl) rfl ?_
        (fun _ hNe => AList.lookup_insert_ne hNe) rfl
      intro hZero
      rw [AList.lookup_insert]
      cases hIntent : p.intent <;> rw [hIntent] at hZero <;>
        simp_all [creditCardReportingSign]
  | reportingLinesAssigned p =>
      simp only [replayPayload, bind_eq_ok, require_eq_ok, pure_eq_ok,
        exists_const] at hReplay
      obtain ⟨-, hIntent, -, rfl⟩ := hReplay
      refine h.assigned hIntent ?_
      simp only [applyPayload, applyReportingLinesAssigned,
        validateReportingLines, bind_eq_ok, require_eq_ok, forEach_eq_ok,
        exists_const] at hPayload
      obtain ⟨_, -, ⟨-, -, -, -, hLines, -⟩, -⟩ := hPayload
      intro line hLine
      obtain ⟨⟨hDimension, hId⟩, -⟩ := hLines line hLine
      unfold ReportingLine.reportingClass
      rw [if_pos hDimension, Option.isSome_map]
      exact Option.isSome_iff_ne_none.2 hId
  | reportingLinesCleared p =>
      obtain rfl := Except.ok.inj hReplay
      exact h.cleared p.transactionId
  | _ =>
      obtain rfl := Except.ok.inj hReplay
      exact h.congr rfl rfl rfl

/-- A whole run, replayed next to the tables it leaves. -/
theorem run {ledger events : List LedgerEventRecord} {bookId : UUID}
    {t t' : SyncTables} (h : ReportingCounted s) (hReading : ReplayReading s t)
    (hRun : Run (Projects ledger bookId) t events t')
    (hDistinct : (events.map (·.eventId)).Nodup)
    (hFresh : ∀ e ∈ events, e.eventId ∉ t.appliedEvents.map (·.eventId))
    (hReplay : replayEvents s events = .ok s') : ReportingCounted s' := by
  induction hRun generalizing s with
  | nil t =>
      simp only [replayEvents, List.foldlM_nil, pure_eq_ok] at hReplay
      subst hReplay
      exact h
  | @cons t t₁ t' stored rest hStep hRest ih =>
      simp only [replayEvents, List.foldlM_cons, bind_eq_ok] at hReplay
      obtain ⟨s₁, hFirst, hReplay⟩ := hReplay
      rw [List.map_cons, List.nodup_cons] at hDistinct
      have hNew := hFresh stored List.mem_cons_self
      refine ih (h.step hReading hStep hNew hFirst)
        (replayStep_frame hReading hStep hNew hFirst).1 hDistinct.2 ?_ hReplay
      intro e he hMem
      rcases appliedEvents_of_projects hStep hMem with hMem | hEq
      · exact hFresh e (List.mem_cons_of_mem _ he) hMem
      · exact hDistinct.1 (List.mem_map.2 ⟨e, he, hEq⟩)

/-- A reported line has an amount. -/
theorem lineAmount_ne_zero (h : ReportingCounted s) {tx : UUID}
    (hMem : tx ∈ s.reporting) (line : ReportingLine) :
    lineAmount s tx line ≠ 0 := by
  unfold lineAmount
  have hSign : (s.transactionReportingSigns.lookup tx).getD 1 ≠ 0 := by
    have hNe := h.signs tx hMem
    cases hLookup : s.transactionReportingSigns.lookup tx with
    | none => simp
    | some sign =>
        intro hZero
        rw [hLookup] at hNe
        exact hNe (congrArg some hZero)
  have hUnits : (line.units.1 : Int) ≠ 0 := by
    have := line.units.2.1
    omega
  exact mul_ne_zero hSign hUnits

end ReportingCounted

/-! ## Lines against chains -/

/-- The replay knows a reversal of a transaction exactly when its chain is not
empty. -/
theorem reversals_lookup_isSome {s : ReplayState} {t : SyncTables} {tx : UUID}
    {chain : List UUID} (h : ReplayReading s t)
    (hChain : ReversalChain t tx chain) :
    (s.reversals.lookup tx).isSome ↔ chain ≠ [] := by
  rw [h.reversals]
  cases hChain with
  | current hNone => simp [hNone]
  | reversed hSome =>
      rw [hSome]
      simpa using h.reversed _ (List.mem_of_find?_eq_some hSome)

/-- A reported line contributes its amount while nothing reverses its
transaction, and nothing under any chain of reversals. -/
theorem lineUnits_of_chain {s : ReplayState} {t : SyncTables} {tx : UUID}
    {lines : List ReportingLine} {line : ReportingLine} {chain : List UUID}
    (hReading : ReplayReading s t) (hCounted : ReportingCounted s)
    (hLines : s.reporting.lookup tx = some lines) (hLine : line ∈ lines)
    (hChain : ReversalChain t tx chain) :
    lineUnits s tx line = if chain = [] then lineAmount s tx line else 0 := by
  have hMem : tx ∈ s.reporting := AList.lookup_isSome.1 (by rw [hLines]; rfl)
  have hTime : (s.transactionTimes.lookup tx).isSome := by
    rw [hReading.times]
    exact hReading.reporting tx hMem
  rw [lineUnits_eq hTime (hCounted.classes tx lines hLines line hLine)]
  have hReversed := reversals_lookup_isSome hReading hChain
  by_cases hEmpty : chain = []
  · rw [if_neg (fun hSome => hReversed.1 hSome hEmpty), if_pos hEmpty]
  · rw [if_pos (hReversed.2 hEmpty), if_neg hEmpty]

/-- After any run, the summary is made of the contributions of the reported
lines; balances follow the parity of every chain of reversals; and a reported
line does so exactly under the chains that are empty or of odd length. -/
theorem lineUnits_follow_chain_iff {ledger events : List LedgerEventRecord}
    {bookId : UUID} {t : SyncTables} {summary : MonthlySummary}
    (hKeys : LedgerKeys ledger)
    (hDistinct : (events.map (·.eventId)).Nodup)
    (hRun : Run (Projects ledger bookId) SyncTables.empty events t)
    (hSummary : coldReplayMonthlySummary events none = .ok summary) :
    ∃ s, replayEvents ReplayState.empty events = .ok s
      ∧ (∀ q, summary.netUnits q = sumEntries (fun tx lines =>
          ((lines.filter fun line => line.reportingClass = some q).map
            (lineUnits s tx)).sum) s.reporting)
      ∧ ∀ tx lines, s.reporting.lookup tx = some lines → ∀ line ∈ lines,
        ∀ chain, ReversalChain t tx chain →
          (∀ key, chainUnits events tx chain key
            = if Even chain.length then transactionUnits events tx key else 0)
          ∧ (lineUnits s tx line
                = (if Even chain.length then lineAmount s tx line else 0)
              ↔ chain = [] ∨ Odd chain.length) := by
  simp only [coldReplayMonthlySummary, bind_eq_ok, pure_eq_ok] at hSummary
  obtain ⟨s, hReplay, rfl⟩ := hSummary
  have hFresh : ∀ e ∈ events,
      e.eventId ∉ SyncTables.empty.appliedEvents.map (·.eventId) :=
    fun _ _ => List.not_mem_nil
  have hReading : ReplayReading s t :=
    (replayEvents_frame ReplayReading.empty hRun hDistinct hFresh hReplay).1
  have hCounted : ReportingCounted s := ReportingCounted.empty.run
    ReplayReading.empty hRun hDistinct hFresh hReplay
  have hSound : ReversalsSound events t :=
    ReversalsSound.run hKeys hDistinct hRun
  refine ⟨s, hReplay, netUnits_replay s, ?_⟩
  intro tx lines hLines line hLine chain hChain
  refine ⟨chainUnits_parity hSound hChain, ?_⟩
  have hMem : tx ∈ s.reporting := AList.lookup_isSome.1 (by rw [hLines]; rfl)
  have hAmount := hCounted.lineAmount_ne_zero hMem line
  rw [lineUnits_of_chain hReading hCounted hLines hLine hChain]
  by_cases hEmpty : chain = []
  · simp [hEmpty]
  · rw [if_neg hEmpty]
    by_cases hEven : Even chain.length
    · simp [hEven, hEmpty, Ne.symm hAmount]
    · simp [hEven, Nat.not_even_iff_odd.1 hEven]

/-! ### A reversal that is reversed -/

/-- The third event reverses the transaction, the fourth the reversal. -/
def sampleRestored : LedgerEventRecord :=
  sampleEvent 4 "journal_transaction" 12 ⟨sampleNextMonth, 0⟩
    (.journalTransactionReversed
      ⟨12, 11, 3, 3, .userCorrection, samplePostings 24 25 .debit, none⟩)

def sampleChainLog : List LedgerEventRecord :=
  [samplePosted, sampleAssigned, sampleReturned, sampleRestored]

def sampleChainTables : SyncTables :=
  sampleChainLog.foldl (projected sampleCatalog sampleChainLog)
    SyncTables.empty

theorem sampleChain_run : Run (Projects sampleChainLog 1) SyncTables.empty
    sampleChainLog sampleChainTables :=
  .cons (projects_projected sampleCatalog (by decide) rfl (by decide))
    (.cons (projects_projected sampleCatalog (by decide) rfl (by decide))
      (.cons (projects_projected sampleCatalog (by decide) rfl (by decide))
        (.cons (projects_projected sampleCatalog (by decide) rfl (by decide))
          (.nil _))))

theorem sampleChain_chain : ReversalChain sampleChainTables 10 [11, 12] :=
  @ReversalChain.reversed _ _ ⟨11, 10, 3, 1, 1, .duplicate⟩ _ (by decide)
    (@ReversalChain.reversed _ _ ⟨12, 11, 4, 3, 3, .userCorrection⟩ _
      (by decide) (.current (by decide)))

/-- What the replay of the sample returns. -/
def sampleChainReplay : ReplayState :=
  match replayEvents ReplayState.empty sampleChainLog with
  | .ok s => s
  | .error _ => ReplayState.empty

/-- The account is back at 100 units, and the summary shows none. -/
theorem lineUnits_restored_mismatch :
    Run (Projects sampleChainLog 1) SyncTables.empty sampleChainLog
        sampleChainTables
      ∧ ReversalChain sampleChainTables 10 [11, 12]
      ∧ chainUnits sampleChainLog 10 [11, 12] (2, sampleAsset) = 100
      ∧ ∃ s lines line, replayEvents ReplayState.empty sampleChainLog = .ok s
        ∧ s.reporting.lookup 10 = some lines ∧ line ∈ lines
        ∧ lineAmount s 10 line = 100 ∧ lineUnits s 10 line = 0
        ∧ ∃ summary, coldReplayMonthlySummary sampleChainLog none = .ok summary
          ∧ summary.netUnits ⟨5, 6, sampleAsset, .expense⟩ = 0 := by
  refine ⟨sampleChain_run, sampleChain_chain, by decide, sampleChainReplay,
    _, _, rfl, rfl, List.mem_singleton.2 rfl, by decide, by decide, ?_⟩
  exact ⟨summaryOf (replayTotals sampleChainReplay), rfl, by decide⟩

theorem lineUnits_follow_sample :
    ∃ s, replayEvents ReplayState.empty sampleChainLog = .ok s
      ∧ ∀ lines, s.reporting.lookup 10 = some lines → ∀ line ∈ lines,
        (∀ key, chainUnits sampleChainLog 10 [11, 12] key
          = transactionUnits sampleChainLog 10 key)
        ∧ lineUnits s 10 line ≠ lineAmount s 10 line := by
  obtain ⟨s, hReplay, -, hFollow⟩ := lineUnits_follow_chain_iff
    (by constructor <;> decide) (by decide) sampleChain_run rfl
  refine ⟨s, hReplay, fun lines hLines line hLine => ?_⟩
  obtain ⟨hUnits, hIff⟩ := hFollow 10 lines hLines line hLine [11, 12]
    sampleChain_chain
  refine ⟨fun key => hUnits key, fun hEq => ?_⟩
  have hNot : ¬(([11, 12] : List UUID) = []
      ∨ Odd ([11, 12] : List UUID).length) := by decide
  exact hNot (hIff.1 hEq)

end TrackAnywhere.Ports
