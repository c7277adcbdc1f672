import TrackAnywhere.Ports.SyncTables
import TrackAnywhere.Verified.Checked
import Mathlib

/-!
# Cold replay of the monthly category summary

`cold_replay_monthly_summary` folds the Book's events into six dictionaries,
keyed by transaction, and then totals the reporting lines of every transaction
in the month of the transaction and, with the opposite sign, in the month of
its reversal.  The fold is `replayStep`, one event at a time; the totals are a
dictionary from month, category, category version, asset and line kind.
-/

namespace TrackAnywhere.Ports

open TrackAnywhere.Verified.Checked
open TrackAnywhere.Verified.KeyedSum

/-! ## Values -/

structure MonthlySummaryValue where
  categoryId : UUID
  categoryVersionId : UUID
  assetCode : AssetCode
  lineKind : ReportingLineKind
  units : Int
deriving DecidableEq

namespace MonthlySummaryValue

/-- The fields in order, by which values are compared. -/
def sortKey (v : MonthlySummaryValue) :
    UUID ×ₗ UUID ×ₗ AssetCode ×ₗ String ×ₗ Int :=
  toLex (v.categoryId, toLex (v.categoryVersionId,
    toLex (v.assetCode, toLex (v.lineKind.value, v.units))))

theorem sortKey_injective : Function.Injective sortKey := by
  rintro ⟨c, w, a, k, u⟩ ⟨c', w', a', k', u'⟩ h
  have hKind : Function.Injective ReportingLineKind.value := by
    intro x y
    cases x <;> cases y <;> simp [ReportingLineKind.value]
  simp only [sortKey, EmbeddingLike.apply_eq_iff_eq, Prod.mk.injEq] at h
  obtain ⟨rfl, rfl, rfl, hk, rfl⟩ := h
  rw [hKind hk]

instance : LinearOrder MonthlySummaryValue :=
  LinearOrder.lift' sortKey sortKey_injective

end MonthlySummaryValue

/-- The key of a total: month, category, category version, asset, kind. -/
structure TotalKey where
  period : Date
  categoryId : UUID
  categoryVersionId : UUID
  assetCode : AssetCode
  lineKind : ReportingLineKind
deriving DecidableEq

/-- The value of a total, its month taken away. -/
def TotalKey.value (key : TotalKey) (units : Int) : MonthlySummaryValue :=
  ⟨key.categoryId, key.categoryVersionId, key.assetCode, key.lineKind, units⟩

/-! ## The fold over the events -/

inductive ReplayError
  | registry (error : RegistryError)
  | value (message : String)
deriving DecidableEq

/-- The dictionaries of `cold_replay_monthly_summary`. -/
structure ReplayState where
  transactionTimes : Dict UUID Date
  transactionReportingSigns : Dict UUID Int
  transactionCardIntents : Dict UUID CreditCardIntent
  reporting : Dict UUID (List ReportingLine)
  reversals : Dict UUID Date
  reversalTransactionIds : List UUID

def ReplayState.empty : ReplayState where
  transactionTimes := ∅
  transactionReportingSigns := ∅
  transactionCardIntents := ∅
  reporting := ∅
  reversals := ∅
  reversalTransactionIds := []

/-- `_journal_reporting_sign`. -/
def journalReportingSign (transactionKind : TransactionKind) : Int :=
  if transactionKind = .refund then -1 else 1

/-- `_credit_card_reporting_sign`. -/
def creditCardReportingSign : CreditCardIntent → Int
  | .charge => 1
  | .fee => 1
  | .payment => 0
  | .refund => -1

/-- The body of the event loop, on a validated payload. -/
def replayPayload (s : ReplayState) (effectiveAt : Instant) :
    EventPayload → Except ReplayError ReplayState
  | .journalTransactionPosted p => .ok { s with
      transactionTimes :=
        s.transactionTimes.insert p.transactionId (utcDate effectiveAt)
      transactionReportingSigns := s.transactionReportingSigns.insert
        p.transactionId (journalReportingSign p.kind) }
  | .creditCardTransactionRecorded p => .ok { s with
      transactionTimes :=
        s.transactionTimes.insert p.transactionId (utcDate effectiveAt)
      transactionCardIntents :=
        s.transactionCardIntents.insert p.transactionId p.intent
      transactionReportingSigns := s.transactionReportingSigns.insert
        p.transactionId (creditCardReportingSign p.intent) }
  | .journalTransactionReversed p => .ok { s with
      transactionTimes :=
        s.transactionTimes.insert p.reversalTransactionId (utcDate effectiveAt)
      reversals :=
        s.reversals.insert p.reversesTransactionId (utcDate effectiveAt)
      reversalTransactionIds :=
        p.reversalTransactionId :: s.reversalTransactionIds }
  | .reportingLinesAssigned p => do
      require (p.transactionId ∉ s.reversalTransactionIds)
        (.value "reversal transactions cannot define independent reporting lines")
      let cardIntent := s.transactionCardIntents.lookup p.transactionId
      require (cardIntent ≠ some .payment)
        (.value "credit-card payments cannot have reporting lines")
      require ((cardIntent = some .charge ∨ cardIntent = some .fee
            ∨ cardIntent = some .refund) →
          ∀ line ∈ p.lines, line.lineKind = .expense)
        (.value "credit-card reporting lines must use expense semantics")
      return { s with reporting := s.reporting.insert p.transactionId p.lines }
  | .reportingLinesCleared p => .ok { s with
      reporting := s.reporting.erase p.transactionId }
  | .financialExternalReferenceCorrected _ => .ok s
  | .investmentLotAcquired _ => .ok s
  | .investmentLotDisposed _ => .ok s

/-- One iteration of the event loop. -/
def replayStep (s : ReplayState) (record : LedgerEventRecord) :
    Except ReplayError ReplayState := do
  let payload ← (validateStored record.eventType record.eventSchemaVersion
    record.payload).mapError ReplayError.registry
  replayPayload s record.effectiveAt payload.1

/-- The event loop. -/
def replayEvents (s : ReplayState) (records : List LedgerEventRecord) :
    Except ReplayError ReplayState :=
  records.foldlM replayStep s

/-- A replay of a concatenation replays the second part from the state of the
first. -/
theorem replayEvents_append (s : ReplayState)
    (before after : List LedgerEventRecord) :
    replayEvents s (before ++ after)
      = replayEvents s before >>= fun s' => replayEvents s' after := by
  simp [replayEvents]

/-! ## Totals -/

/-- The key a line adds to, `none` for a line that is skipped. -/
def lineKey (period : Date) (line : ReportingLine) : Option TotalKey :=
  if line.dimension = .category then
    line.dimensionId.map fun categoryId =>
      ⟨period, categoryId, line.catalogId, line.assetCode, line.lineKind⟩
  else none

/-- What `_add_lines` adds, line by line. -/
def lineItems (period : Date) (lines : List ReportingLine) (sign : Int) :
    List (TotalKey × Int) :=
  lines.filterMap fun line =>
    (lineKey period line).map fun key => (key, sign * line.units.1)

/-- `_add_lines`. -/
def addLines (totals : Dict TotalKey Int) (period : Date)
    (lines : List ReportingLine) (sign : Int) : Dict TotalKey Int :=
  accumulate (· + ·) totals (lineItems period lines sign)

/-- The body of the loop over `reporting`. -/
def addTransaction (s : ReplayState) (totals : Dict TotalKey Int)
    (transactionId : UUID) (lines : List ReportingLine) : Dict TotalKey Int :=
  match s.transactionTimes.lookup transactionId with
  | none => totals
  | some effectiveDate =>
      let reportingSign :=
        (s.transactionReportingSigns.lookup transactionId).getD 1
      if reportingSign = 0 then totals
      else
        let totals :=
          addLines totals (monthStart effectiveDate) lines reportingSign
        match s.reversals.lookup transactionId with
        | none => totals
        | some reversedAt =>
            addLines totals (monthStart reversedAt) lines (-reportingSign)

/-- The loop over `reporting`. -/
def replayTotals (s : ReplayState) : Dict TotalKey Int :=
  s.reporting.entries.foldl
    (fun totals e => addTransaction s totals e.1 e.2) ∅

/-- What the lines of a transaction add to the totals. -/
def transactionItems (s : ReplayState) (transactionId : UUID)
    (lines : List ReportingLine) : List (TotalKey × Int) :=
  match s.transactionTimes.lookup transactionId with
  | none => []
  | some effectiveDate =>
      let reportingSign :=
        (s.transactionReportingSigns.lookup transactionId).getD 1
      if reportingSign = 0 then []
      else
        lineItems (monthStart effectiveDate) lines reportingSign ++
          match s.reversals.lookup transactionId with
          | none => []
          | some reversedAt =>
              lineItems (monthStart reversedAt) lines (-reportingSign)

theorem addTransaction_eq (s : ReplayState) (totals : Dict TotalKey Int)
    (transactionId : UUID) (lines : List ReportingLine) :
    addTransaction s totals transactionId lines
      = accumulate (· + ·) totals (transactionItems s transactionId lines) := by
  unfold addTransaction transactionItems
  cases s.transactionTimes.lookup transactionId with
  | none => rfl
  | some effectiveDate =>
      simp only []
      split_ifs
      · rfl
      · cases s.reversals.lookup transactionId <;>
          simp [addLines, accumulate, List.foldl_append]

/-- What a transaction contributes to one key. -/
def contribution (s : ReplayState) (key : TotalKey) (transactionId : UUID)
    (lines : List ReportingLine) : Int :=
  sumAt (transactionItems s transactionId lines) key

/-- The total of a key: the contributions of all transactions with lines. -/
theorem valueAt_replayTotals (s : ReplayState) (key : TotalKey) :
    valueAt id (replayTotals s) key
      = sumEntries (contribution s key) s.reporting := by
  unfold replayTotals sumEntries contribution
  have hFold : ∀ (entries : List ((_ : UUID) × List ReportingLine))
      (totals : Dict TotalKey Int),
      valueAt id (entries.foldl
          (fun totals e => addTransaction s totals e.1 e.2) totals) key
        = valueAt id totals key
          + (entries.map fun e => sumAt (transactionItems s e.1 e.2) key).sum
      := by
    intro entries
    induction entries with
    | nil => simp
    | cons e entries ih =>
        intro totals
        rw [List.foldl_cons, ih, addTransaction_eq, valueAt_accumulate_add,
          List.map_cons, List.sum_cons, add_assoc]
  rw [hFold]
  simp

/-! ## The summary -/

/-- The nonzero totals of one month, sorted. -/
def periodValues (totals : Dict TotalKey Int) (period : Date) :
    List MonthlySummaryValue :=
  ((totals.entries.filter fun e => e.1.period = period ∧ e.2 ≠ 0).map
    fun e => e.1.value e.2).insertionSort (· ≤ ·)

/-- The summary, month by month. -/
abbrev MonthlySummary := List (Date × List MonthlySummaryValue)

/-- `replay.get(period, ())`. -/
def MonthlySummary.get (summary : MonthlySummary) (period : Date) :
    List MonthlySummaryValue :=
  ((summary.find? fun e => e.1 = period).map (·.2)).getD []

/-- A value of a month is a nonzero total of that month. -/
theorem mem_periodValues {totals : Dict TotalKey Int} {period : Date}
    {v : MonthlySummaryValue} :
    v ∈ periodValues totals period ↔ v.units ≠ 0 ∧
      valueAt id totals ⟨period, v.categoryId, v.categoryVersionId,
        v.assetCode, v.lineKind⟩ = v.units := by
  have hEntry : ∀ (key : TotalKey) (units : Int), units ≠ 0 →
      (⟨key, units⟩ ∈ totals.entries ↔ valueAt id totals key = units) := by
    intro key units hUnits
    rw [← AList.mem_lookup_iff, valueAt]
    cases totals.lookup key with
    | none => simp [Ne.symm hUnits]
    | some w => simp
  simp only [periodValues, List.mem_insertionSort, List.mem_map, List.mem_filter,
    decide_eq_true_eq]
  constructor
  · rintro ⟨⟨key, units⟩, ⟨hMem, rfl, hUnits⟩, rfl⟩
    exact ⟨hUnits, (hEntry key units hUnits).1 hMem⟩
  · rintro ⟨hUnits, hValue⟩
    refine ⟨⟨⟨period, v.categoryId, v.categoryVersionId, v.assetCode,
      v.lineKind⟩, v.units⟩, ⟨(hEntry _ _ hUnits).2 hValue, rfl, hUnits⟩, rfl⟩

theorem periodValues_nodup (totals : Dict TotalKey Int) (period : Date) :
    (periodValues totals period).Nodup := by
  unfold periodValues
  rw [(List.perm_insertionSort _ _).nodup_iff]
  have hEntries : totals.entries.Nodup := totals.nodupKeys.nodup
  refine (hEntries.filter _).map_on ?_
  rintro ⟨key, units⟩ h ⟨key', units'⟩ h' hEq
  simp only [List.mem_filter, decide_eq_true_eq] at h h'
  simp only [TotalKey.value, MonthlySummaryValue.mk.injEq] at hEq
  obtain ⟨hCategory, hVersion, hAsset, hKind, rfl⟩ := hEq
  have hKey : key = key' := by
    obtain ⟨p, c, w, a, k⟩ := key
    obtain ⟨p', c', w', a', k'⟩ := key'
    simp_all
  rw [hKey]

/-- Equal totals of a month give equal sorted values. -/
theorem periodValues_congr {totals totals' : Dict TotalKey Int}
    {period : Date}
    (h : ∀ key : TotalKey, key.period = period →
      valueAt id totals key = valueAt id totals' key) :
    periodValues totals period = periodValues totals' period := by
  have hPerm : (periodValues totals period).Perm
      (periodValues totals' period) := by
    rw [List.perm_ext_iff_of_nodup (periodValues_nodup totals period)
      (periodValues_nodup totals' period)]
    intro v
    rw [mem_periodValues, mem_periodValues, h _ rfl]
  exact hPerm.eq_of_pairwise' (r := (· ≤ ·))
    (List.pairwise_insertionSort (· ≤ ·) _) (List.pairwise_insertionSort (· ≤ ·) _)

/-- The months with a nonzero total, sorted, with their sorted values. -/
def summaryOf (totals : Dict TotalKey Int) : MonthlySummary :=
  ((((totals.entries.filter fun e => e.2 ≠ 0).map fun e => e.1.period).dedup
    ).insertionSort (· ≤ ·)).map fun period => (period, periodValues totals period)

/-- The summary read at a month. -/
theorem get_summaryOf (totals : Dict TotalKey Int) (period : Date) :
    (summaryOf totals).get period = periodValues totals period := by
  unfold MonthlySummary.get summaryOf
  rw [List.find?_map]
  cases hFind : List.find? _ _ with
  | some found =>
      have hPeriod : found = period := by simpa using List.find?_some hFind
      simp [hPeriod]
  | none =>
      have hEmpty : periodValues totals period = [] := by
        rw [List.eq_nil_iff_forall_not_mem]
        intro v hv
        unfold periodValues at hv
        simp only [List.mem_insertionSort, List.mem_map, List.mem_filter,
          decide_eq_true_eq] at hv
        obtain ⟨e, ⟨hMem, hPeriod, hUnits⟩, -⟩ := hv
        rw [List.find?_eq_none] at hFind
        refine hFind period ?_ (by simp)
        simp only [List.mem_insertionSort, List.mem_dedup, List.mem_map,
          List.mem_filter, decide_eq_true_eq]
        exact ⟨e, ⟨hMem, hUnits⟩, hPeriod⟩
      simp [hEmpty]

/-- Every month is listed once. -/
theorem summaryOf_months_nodup (totals : Dict TotalKey Int) :
    ((summaryOf totals).map (·.1)).Nodup := by
  unfold summaryOf
  rw [List.map_map]
  show (List.map id _).Nodup
  rw [List.map_id, (List.perm_insertionSort _ _).nodup_iff]
  exact List.nodup_dedup _

/-- `cold_replay_monthly_summary`, on the Book's events in the order of their
positions. -/
def coldReplayMonthlySummary (ledger : List LedgerEventRecord)
    (throughBookPosition : Option Nat) : Except ReplayError MonthlySummary := do
  let records := match throughBookPosition with
    | none => ledger
    | some position => ledger.filter fun e => e.bookPosition ≤ position
  let s ← replayEvents ReplayState.empty records
  return summaryOf (replayTotals s)

end TrackAnywhere.Ports
