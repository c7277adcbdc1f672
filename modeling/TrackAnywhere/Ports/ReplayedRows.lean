import TrackAnywhere.Ports.IncrementalReplay
import TrackAnywhere.Ports.JournalHistory
import TrackAnywhere.Ports.ProjectionTables
import TrackAnywhere.Verified.OrderedLog

/-!
# Rows that hold a cold replay

`RowsReplay log generation position t` says that the monthly rows of a
generation are, month by month, what a cold replay of the log through the
position gives.  A generation without rows replays position zero, a new part
of the log past the position changes nothing, and rewriting the months that a
batch marks takes the rows from one position to a later one:
`rowsReplay_writePeriods`.
-/

namespace TrackAnywhere.Ports

open TrackAnywhere.Verified
open TrackAnywhere.Verified.Checked
open TrackAnywhere.Verified.KeyedSum
open TrackAnywhere.Verified.OrderedLog

/-! ## The log of a Book -/

/-- The events of one Book: distinct, at increasing positions from one on. -/
structure BookLog (log : List LedgerEventRecord) : Prop where
  eventIds : (log.map (·.eventId)).Nodup
  order : Ordered (·.bookPosition) log
  positive : ∀ e ∈ log, 0 < e.bookPosition

namespace BookLog

variable {log short : List LedgerEventRecord}

theorem of_prefix (h : BookLog log) (hPrefix : short <+: log) :
    BookLog short where
  eventIds := h.eventIds.sublist (hPrefix.sublist.map _)
  order := h.order.of_prefix hPrefix
  positive := fun e he => h.positive e (hPrefix.subset he)

end BookLog

/-- The events of the log up to a position. -/
abbrev logThrough (log : List LedgerEventRecord) (q : Nat) :
    List LedgerEventRecord :=
  through (·.bookPosition) log q

/-- The events of the log past a position. -/
abbrev logAfter (log : List LedgerEventRecord) (p : Nat) :
    List LedgerEventRecord :=
  after (·.bookPosition) log p

/-- A cold replay through a position folds the log up to it. -/
theorem coldReplay_eq_ok {log : List LedgerEventRecord} {q : Nat}
    {summary : MonthlySummary} :
    coldReplayMonthlySummary log (some q) = .ok summary ↔
      ∃ s, replayEvents ReplayState.empty (logThrough log q) = .ok s
        ∧ summaryOf (replayTotals s) = summary := by
  simp only [coldReplayMonthlySummary, bind_eq_ok, pure_eq_ok]
  rfl

/-- Only the events up to the position are replayed. -/
theorem coldReplay_congr {log log' : List LedgerEventRecord} {q : Nat}
    (h : logThrough log q = logThrough log' q) :
    coldReplayMonthlySummary log (some q)
      = coldReplayMonthlySummary log' (some q) := by
  show (replayEvents ReplayState.empty (logThrough log q) >>= _)
    = (replayEvents ReplayState.empty (logThrough log' q) >>= _)
  rw [h]

/-- Nothing is replayed through position zero. -/
theorem coldReplay_zero {log : List LedgerEventRecord} (hLog : BookLog log) :
    coldReplayMonthlySummary log (some 0) = .ok [] := by
  have hNone : logThrough log 0 = [] := by
    unfold logThrough through
    rw [List.filter_eq_nil_iff]
    intro e he
    have := hLog.positive e he
    simp only [decide_eq_true_eq]
    omega
  rw [coldReplay_eq_ok, hNone]
  exact ⟨_, rfl, rfl⟩

/-! ## Months that no event of a stretch names -/

/-- Between two positions of the log, a month that no event names, asked of
tables that have reached the second, keeps its values. -/
theorem coldReplay_unmarked {ledger log synced : List LedgerEventRecord}
    {bookId : UUID} {sync : SyncTables} {p q : Nat}
    {before now : MonthlySummary} {period : Date} (hLog : BookLog log)
    (hSync : Run (Projects ledger bookId) SyncTables.empty synced sync)
    (hReached : logThrough log q <+: synced) (hLe : p ≤ q)
    (hBefore : coldReplayMonthlySummary log (some p) = .ok before)
    (hNow : coldReplayMonthlySummary log (some q) = .ok now)
    (hUnnamed : ∀ e ∈ logAfter (logThrough log q) p,
      ∃ periods, affectedPeriods sync e = .ok periods ∧ period ∉ periods) :
    now.get period = before.get period := by
  obtain ⟨s, hReplay, rfl⟩ := coldReplay_eq_ok.1 hBefore
  obtain ⟨s', hReplay', rfl⟩ := coldReplay_eq_ok.1 hNow
  have hCut : logThrough log p ++ logAfter (logThrough log q) p
      = logThrough log q := through_append_between hLog.order hLe
  have hDistinct : ((logThrough log q).map (·.eventId)).Nodup :=
    (hLog.of_prefix (prefix_through hLog.order q)).eventIds
  rw [← hCut, List.map_append, List.nodup_append] at hDistinct
  obtain ⟨hFirst, hStretch, hApart⟩ := hDistinct
  have hSplit : replayEvents s (logAfter (logThrough log q) p) = .ok s' := by
    rw [← hCut, replayEvents_append, bind_eq_ok] at hReplay'
    obtain ⟨s₁, hReplay₁, hRest⟩ := hReplay'
    rw [hReplay] at hReplay₁
    cases hReplay₁
    exact hRest
  obtain ⟨rest, rfl⟩ := hReached
  obtain ⟨tq, hRunQ, hRunRest⟩ := hSync.split
  have hRunCut := hRunQ
  rw [← hCut] at hRunCut
  obtain ⟨tp, hRunP, hRunStretch⟩ := hRunCut.split
  obtain ⟨hReading, -⟩ := replayEvents_frame ReplayReading.empty hRunP hFirst
    (fun _ _ => List.not_mem_nil) hReplay
  have hHistory := journalHistory_run hFirst hRunP
  have hNew : ∀ e ∈ logAfter (logThrough log q) p,
      e.eventId ∉ tp.appliedEvents.map (·.eventId) := by
    intro e he hMem
    obtain ⟨e', he', hId, -⟩ := (hHistory.applied _).1 hMem
    exact hApart _ (List.mem_map.2 ⟨e', he', rfl⟩) _
      (List.mem_map.2 ⟨e, he, rfl⟩) hId
  obtain ⟨-, hFrame⟩ :=
    replayEvents_frame hReading hRunStretch hStretch hNew hSplit
  rw [get_summaryOf, get_summaryOf]
  refine periodValues_congr fun key hKey => ?_
  refine hFrame sync (Extends.of_run hRunRest) key fun e he => ?_
  rw [hKey]
  exact hUnnamed e he

/-! ## Rows -/

/-- The rows of a generation are the cold replay of the log through a
position. -/
def RowsReplay (log : List LedgerEventRecord) (generation position : Nat)
    (t : ProjectionTables) : Prop :=
  ∃ summary, coldReplayMonthlySummary log (some position) = .ok summary
    ∧ ∀ period, t.periodRows generation period = summary.get period

variable {log : List LedgerEventRecord} {generation p q : Nat}
  {t t' : ProjectionTables}

/-- A generation without rows is the replay of nothing. -/
theorem rowsReplay_zero (hLog : BookLog log)
    (hNone : ∀ r ∈ t.monthlyRows, r.generation ≠ generation) :
    RowsReplay log generation 0 t := by
  refine ⟨[], coldReplay_zero hLog, fun period => ?_⟩
  unfold ProjectionTables.periodRows
  rw [List.filter_eq_nil_iff.2 fun r hr => by simp [hNone r hr]]
  rfl

/-- The replay is read off the rows of the generation. -/
theorem RowsReplay.congr (h : RowsReplay log generation p t)
    (hRows : ∀ period, t'.periodRows generation period
      = t.periodRows generation period) : RowsReplay log generation p t' := by
  obtain ⟨summary, hReplay, hSame⟩ := h
  exact ⟨summary, hReplay, fun period => (hRows period).trans (hSame period)⟩

/-- The months a batch marks, rewritten from the replay through a later
position, take the rows to that position. -/
theorem rowsReplay_writePeriods {ledger synced batch : List LedgerEventRecord}
    {bookId : UUID} {sync : SyncTables} {now : MonthlySummary}
    {dirty dirty' : Dict DirtyPeriodKey DirtyPeriodSource}
    {periods : List Date} (hLog : BookLog log)
    (hSync : Run (Projects ledger bookId) SyncTables.empty synced sync)
    (hReached : logThrough log q <+: synced) (hLe : p ≤ q)
    (hBatch : ∀ e ∈ logAfter (logThrough log q) p, e ∈ batch)
    (hMarked : markDirtyPeriods sync generation batch dirty
      = .ok (periods, dirty'))
    (hNow : coldReplayMonthlySummary log (some q) = .ok now)
    (h : RowsReplay log generation p t) :
    RowsReplay log generation q (t.writePeriods generation periods q now) := by
  obtain ⟨before, hBefore, hRows⟩ := h
  refine ⟨now, hNow, fun period => ?_⟩
  rw [periodRows_writePeriods]
  split_ifs with hCase
  · rfl
  · rw [hRows]
    symm
    refine coldReplay_unmarked hLog hSync hReached hLe hBefore hNow ?_
    intro e he
    obtain ⟨named, hNamed, hMem⟩ :=
      mem_markDirtyPeriods hMarked e (hBatch e he)
    exact ⟨named, hNamed, fun hPeriod => hCase ⟨rfl, hMem period hPeriod⟩⟩

end TrackAnywhere.Ports
