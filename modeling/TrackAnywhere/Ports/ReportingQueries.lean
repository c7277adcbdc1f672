import TrackAnywhere.Ports.AcceptedLogs

/-!
# Current reporting lines, replayed

`listCurrentReportingLines` reads no projection: it replays the assign and clear
events of a Book up to a position.  The synchronous projector keeps the same
lines in `reporting_lines`, by deleting and inserting rows.
-/

namespace TrackAnywhere.Ports

open TrackAnywhere.Verified
open TrackAnywhere.Verified.Checked
open TrackAnywhere.Verified.KeyedSum
open TrackAnywhere.Verified.ChainedLog

/-! ## The query -/

/-- `ReportingLine` of the query, without the description and the source event
of the row. -/
structure ReportingLineView where
  transactionId : UUID
  classificationRevision : Nat
  lineId : UUID
  lineVersionId : UUID
  catalogId : UUID
  linePosition : Nat
  assetCode : AssetCode
  units : Nat
  lineKind : ReportingLineKind
  dimension : ReportingDimension
  dimensionId : Option UUID
deriving DecidableEq

def ReportingLine.view (transactionId : UUID) (classificationRevision : Nat)
    (line : ReportingLine) : ReportingLineView where
  transactionId := transactionId
  classificationRevision := classificationRevision
  lineId := line.lineId
  lineVersionId := line.lineVersionId
  catalogId := line.catalogId
  linePosition := line.position
  assetCode := line.assetCode
  units := line.units.1
  lineKind := line.lineKind
  dimension := line.dimension
  dimensionId := line.dimensionId

/-- The columns of a row that the query returns. -/
def ReportingLineRecord.view (row : ReportingLineRecord) : ReportingLineView :=
  row.line.view row.transactionId row.classificationRevision

inductive QueryError
  | value (message : String)
  | lookup (message : String)
  | registry (error : RegistryError)
deriving DecidableEq

/-- What a payload does to `current_by_transaction`. -/
def EventPayload.replay (currentByTransaction : Dict UUID (List ReportingLineView)) :
    EventPayload → Dict UUID (List ReportingLineView)
  | .reportingLinesAssigned p => currentByTransaction.insert p.transactionId
      (p.lines.map (·.view p.transactionId p.classificationRevision))
  | .reportingLinesCleared p => currentByTransaction.erase p.transactionId
  | _ => currentByTransaction

/-- The body of the loop over the stored events. -/
def replayReporting (currentByTransaction : Dict UUID (List ReportingLineView))
    (stored : LedgerEventRecord) :
    Except QueryError (Dict UUID (List ReportingLineView)) := do
  let payload ← (validateStored stored.eventType stored.eventSchemaVersion
    stored.payload).mapError QueryError.registry
  return payload.1.replay currentByTransaction

/-- The event types that the query selects. -/
def isReportingEvent (stored : LedgerEventRecord) : Bool :=
  ["ReportingLinesAssigned", "ReportingLinesCleared"].contains stored.eventType

/-- `list_current_reporting_lines` -/
def listCurrentReportingLines (t : EventStoreTables) (bookId : UUID)
    (asOfBookPosition : Nat) : Except QueryError (List ReportingLineView) := do
  let head ← fetch (t.bookHead? bookId) (.lookup "Book not found")
  require (asOfBookPosition ≤ head.lastPosition)
    (.value "as_of_book_position is outside the Book head")
  let storedEvents := ((t.bookEvents bookId).filter fun e =>
    e.bookPosition ≤ asOfBookPosition ∧ isReportingEvent e).insertionSort
      (·.bookPosition ≤ ·.bookPosition)
  let currentByTransaction ← storedEvents.foldlM replayReporting ∅
  return (currentByTransaction.keys.insertionSort (· ≤ ·)).flatMap fun transactionId =>
    (currentByTransaction.lookup transactionId).getD []

/-! ## The rows of the projector -/

/-- The rows that an assignment or a clearing leaves for its source. -/
def EventPayload.reportingRows (stored : LedgerEventRecord) :
    EventPayload → Option (UUID × List ReportingLineRecord)
  | .reportingLinesAssigned p => some (p.transactionId, p.lines.map fun line =>
      { transactionId := p.transactionId
        classificationRevision := p.classificationRevision
        line := line
        sourceEventId := stored.eventId })
  | .reportingLinesCleared p => some (p.transactionId, [])
  | _ => none

/-- The source and revision of an assignment or a clearing. -/
def EventPayload.reportingRevision :
    EventPayload → Option (UUID × Nat)
  | .reportingLinesAssigned p => some (p.transactionId, p.classificationRevision)
  | .reportingLinesCleared p => some (p.transactionId, p.classificationRevision)
  | _ => none

/-- The rows of one source. -/
def SyncTables.reportingRowsOf (t : SyncTables) (transactionId : UUID) :
    List ReportingLineRecord :=
  t.reportingLines.filter fun r => r.transactionId = transactionId

section Applier

variable {catalog : Catalog} {ledger : List LedgerEventRecord}
  {stored : LedgerEventRecord} {t t' : SyncTables} {payload : EventPayload}

/-- An assignment replaces the rows of its source, a clearing deletes them, and
no other event reaches the table. -/
theorem applyPayload_reportingLines
    (h : applyPayload catalog ledger stored payload t = .ok t') :
    t'.reportingLines = match payload.reportingRows stored with
      | some (transactionId, rows) =>
          (t.reportingLines.filter fun r => r.transactionId ≠ transactionId) ++ rows
      | none => t.reportingLines := by
  cases payload with
  | creditCardTransactionRecorded p =>
      simp only [applyPayload, applyCreditCardRecorded, bind_eq_ok, fetch_eq_ok,
        pure_eq_ok] at h
      obtain ⟨t₁, hApply, t₂, hReferences, first, -, -, -, rfl⟩ := h
      obtain ⟨rows, rfl⟩ := addExternalReferences_ok hReferences
      exact (applyFinancialTransaction_ok hApply).2.2.2.1
  | journalTransactionPosted p =>
      simp only [applyPayload, applyJournalPosted, bind_eq_ok] at h
      obtain ⟨t₁, hApply, hReferences⟩ := h
      obtain ⟨rows, rfl⟩ := addExternalReferences_ok hReferences
      exact (applyFinancialTransaction_ok hApply).2.2.2.1
  | journalTransactionReversed p =>
      obtain ⟨target, source, contract, original, t₁, -, -, -, -, -, -, -, -, -,
        hApply, -, -, rfl⟩ := applyJournalReversed_ok h
      exact (applyFinancialTransaction_ok hApply).2.2.2.1
  | financialExternalReferenceCorrected p =>
      simp only [applyPayload, applyExternalReferenceCorrected, bind_eq_ok,
        require_eq_ok, fetch_eq_ok, exists_const] at h
      obtain ⟨-, transaction, -, -, -, h⟩ := h
      split at h <;> (rw [pure_eq_ok] at h; subst h; rfl)
  | reportingLinesAssigned p =>
      simp only [applyPayload, applyReportingLinesAssigned, bind_eq_ok,
        pure_eq_ok] at h
      obtain ⟨transaction, -, -, -, rfl⟩ := h
      rfl
  | reportingLinesCleared p =>
      simp only [applyPayload, applyReportingLinesCleared, bind_eq_ok,
        pure_eq_ok] at h
      obtain ⟨transaction, -, rfl⟩ := h
      exact (List.append_nil _).symm
  | investmentLotAcquired p =>
      simp only [applyPayload, applyInvestmentLotAcquired, bind_eq_ok,
        require_eq_ok, pure_eq_ok] at h
      obtain ⟨-, -, -, -, -, -, -, -, rfl⟩ := h
      rfl
  | investmentLotDisposed p =>
      obtain ⟨lots, allocations, rfl⟩ := applyInvestmentLotDisposed_frame h
      rfl

/-- An assignment or a clearing is in the stream of its source, at the version
that is its revision. -/
theorem applyPayload_reportingRevision {transactionId : UUID} {revision : Nat}
    (h : applyPayload catalog ledger stored payload t = .ok t')
    (hRevision : payload.reportingRevision = some (transactionId, revision)) :
    stored.streamKey = ("reporting_lines", transactionId)
      ∧ stored.streamVersion = revision := by
  have hSource : ∀ {row}, validateReportingSource stored transactionId revision t
      = .ok row → stored.streamKey = ("reporting_lines", transactionId)
        ∧ stored.streamVersion = revision := by
    intro row hRow
    simp only [validateReportingSource, bind_eq_ok, require_eq_ok, exists_const]
      at hRow
    obtain ⟨⟨hType, hId, hVersion⟩, -⟩ := hRow
    exact ⟨Prod.ext hType hId, hVersion⟩
  cases payload with
  | reportingLinesAssigned p =>
      cases hRevision
      simp only [applyPayload, applyReportingLinesAssigned, bind_eq_ok] at h
      obtain ⟨row, hRow, -⟩ := h
      exact hSource hRow
  | reportingLinesCleared p =>
      cases hRevision
      simp only [applyPayload, applyReportingLinesCleared, bind_eq_ok] at h
      obtain ⟨row, hRow, -⟩ := h
      exact hSource hRow
  | _ => cases hRevision

/-- The rows of each source after an event. -/
theorem reportingRowsOf_of_apply
    (h : applyPayload catalog ledger stored payload t = .ok t') (source : UUID) :
    t'.reportingRowsOf source = match payload.reportingRows stored with
      | some (transactionId, rows) =>
          if transactionId = source then rows else t.reportingRowsOf source
      | none => t.reportingRowsOf source := by
  have hRows : ∀ {transactionId rows},
      payload.reportingRows stored = some (transactionId, rows) →
      ∀ row ∈ rows, row.transactionId = transactionId := by
    intro transactionId rows hRows row hRow
    cases payload with
    | reportingLinesAssigned p =>
        cases hRows
        obtain ⟨line, -, rfl⟩ := List.mem_map.1 hRow
        rfl
    | reportingLinesCleared p =>
        cases hRows
        exact nomatch hRow
    | _ => exact nomatch hRows
  unfold SyncTables.reportingRowsOf
  rw [applyPayload_reportingLines h]
  cases hCase : payload.reportingRows stored with
  | none => rfl
  | some assigned =>
      obtain ⟨transactionId, rows⟩ := assigned
      simp only [List.filter_append, List.filter_filter]
      split_ifs with hSame
      · subst hSame
        have hNone : (t.reportingLines.filter fun r =>
            decide (r.transactionId = transactionId)
              && decide (r.transactionId ≠ transactionId)) = [] :=
          List.filter_eq_nil_iff.2 fun r _ => by simp
        rw [hNone, List.nil_append, List.filter_eq_self]
        exact fun row hRow => decide_eq_true (hRows hCase row hRow)
      · have hOther : rows.filter (fun r => r.transactionId = source) = [] :=
          List.filter_eq_nil_iff.2 fun row hRow => by
            simpa [hRows hCase row hRow] using hSame
        rw [hOther, List.append_nil]
        refine List.filter_congr fun r _ => ?_
        by_cases hRow : r.transactionId = source
        · simp [hRow, Ne.symm hSame]
        · simp [hRow]

end Applier

/-! ## The replay against the rows -/

/-- The replayed lines of every source are its rows. -/
def ReplayAgrees (current : Dict UUID (List ReportingLineView)) (t : SyncTables) :
    Prop :=
  ∀ source, (current.lookup source).getD [] = (t.reportingRowsOf source).map (·.view)

section Replay

variable {current : Dict UUID (List ReportingLineView)} {t t' : SyncTables}
  {stored : LedgerEventRecord} {contract : EventContract}

/-- What the replay makes of a valid event. -/
theorem replayReporting_eq (hContract : stored.contract? = some contract) :
    replayReporting current stored = .ok (contract.1.replay current) := by
  unfold replayReporting
  rw [LedgerEventRecord.contract?_eq_some.1 hContract]
  rfl

/-- The selected types are those of the two payloads. -/
theorem isReportingEvent_iff (hContract : stored.contract? = some contract) :
    isReportingEvent stored = contract.1.reportingRevision.isSome := by
  obtain ⟨-, hType, -⟩ := validateStored_eq_ok.1
    (LedgerEventRecord.contract?_eq_some.1 hContract)
  unfold isReportingEvent
  rw [hType]
  obtain ⟨payload, hValid⟩ := contract
  cases payload <;> simp [EventPayload.eventType, EventPayload.reportingRevision]

/-- One event, replayed where it is selected and projected in any case. -/
theorem replayReporting_agrees {catalog : Catalog} {ledger : List LedgerEventRecord}
    (hAgree : ReplayAgrees current t) (hContract : stored.contract? = some contract)
    (hApply : applyPayload catalog ledger stored contract.1 (t.mark stored.eventId)
      = .ok t') :
    ∃ current', ([stored].filter isReportingEvent).foldlM replayReporting current
        = .ok current'
      ∧ ReplayAgrees current' t' := by
  have hRows := reportingRowsOf_of_apply hApply
  have hSelected := isReportingEvent_iff hContract
  have hReplay := @replayReporting_eq current _ _ hContract
  obtain ⟨payload, hValid⟩ := contract
  cases payload with
  | reportingLinesAssigned p =>
      rw [List.filter_cons_of_pos hSelected, List.filter_nil, List.foldlM_cons, hReplay]
      refine ⟨_, rfl, fun source => ?_⟩
      rw [hRows source]
      dsimp only [EventPayload.reportingRows, EventPayload.replay]
      split_ifs with hSame
      · subst hSame
        rw [AList.lookup_insert, Option.getD_some, List.map_map]
        rfl
      · rw [AList.lookup_insert_ne (Ne.symm hSame)]
        exact hAgree source
  | reportingLinesCleared p =>
      rw [List.filter_cons_of_pos hSelected, List.filter_nil, List.foldlM_cons, hReplay]
      refine ⟨_, rfl, fun source => ?_⟩
      rw [hRows source]
      dsimp only [EventPayload.reportingRows, EventPayload.replay]
      split_ifs with hSame
      · subst hSame
        rw [AList.lookup_erase]
        rfl
      · rw [AList.lookup_erase_ne (Ne.symm hSame)]
        exact hAgree source
  | _ =>
      rw [List.filter_cons_of_neg (by rw [hSelected]; exact Bool.false_ne_true),
        List.filter_nil]
      exact ⟨current, rfl, fun source => (hAgree source).trans (by rw [hRows source]; rfl)⟩

/-- The replay of a projected log agrees with its tables. -/
theorem replayReporting_agrees_run {ledger events : List LedgerEventRecord}
    {bookId : UUID} (hDistinct : (events.map (·.eventId)).Nodup)
    (hValid : ∀ e ∈ events, e.contract?.isSome)
    (hRun : Run (Projects ledger bookId) SyncTables.empty events t) :
    ∃ current, (events.filter isReportingEvent).foldlM replayReporting ∅ = .ok current
      ∧ ReplayAgrees current t := by
  refine Run.traceInvariant
    (I := fun done t => done <+: events →
      ∃ current, (done.filter isReportingEvent).foldlM replayReporting ∅ = .ok current
        ∧ ReplayAgrees current t) (fun _ => ⟨∅, rfl, fun source => rfl⟩) ?_ hRun
      List.prefix_rfl
  intro done t₁ stored t₂ hDone hI hStep hPrefix
  obtain ⟨current, hReplay, hAgree⟩ := hI ((List.prefix_append _ _).trans hPrefix)
  have hMem : stored ∈ events := hPrefix.subset (by simp)
  obtain ⟨catalog, contract, hContract, hApply⟩ := projects_applies
    (hDistinct.sublist (hPrefix.sublist.map (·.eventId))) hDone (hValid stored hMem) hStep
  obtain ⟨current', hNext, hAgree'⟩ := replayReporting_agrees hAgree hContract hApply
  refine ⟨current', ?_, hAgree'⟩
  rw [List.filter_append, List.foldlM_append, hReplay]
  exact hNext

end Replay

/-! ## The lines of every source -/

/-- The replayed lines of a source carry its id. -/
theorem filter_flatMap_sources {β : Type} {lines : UUID → List β}
    {source : β → UUID} (hOwn : ∀ k, ∀ b ∈ lines k, source b = k) {keys : List UUID}
    (hKeys : keys.Nodup) (k : UUID) :
    (keys.flatMap lines).filter (fun b => source b = k)
      = if k ∈ keys then lines k else [] := by
  induction keys with
  | nil => rfl
  | cons key rest ih =>
      obtain ⟨hNew, hRest⟩ := List.nodup_cons.1 hKeys
      rw [List.flatMap_cons, List.filter_append, ih hRest]
      by_cases hKey : key = k
      · subst hKey
        rw [if_neg hNew, if_pos List.mem_cons_self, List.append_nil, List.filter_eq_self]
        exact fun b hb => decide_eq_true (hOwn key b hb)
      · have hNone : (lines key).filter (fun b => source b = k) = [] :=
          List.filter_eq_nil_iff.2 fun b hb => by simpa [hOwn key b hb] using hKey
        rw [hNone, List.nil_append]
        simp only [List.mem_cons, Ne.symm hKey, false_or]

/-- Lists with the same entries under every key have the same entries. -/
private theorem perm_of_sources {β : Type} [DecidableEq β] (source : β → UUID)
    {xs ys : List β} (h : ∀ k, xs.filter (fun b => source b = k)
      = ys.filter (fun b => source b = k)) : xs.Perm ys := by
  refine List.perm_iff_count.2 fun b => ?_
  have hCount := congrArg (List.count b) (h (source b))
  rwa [List.count_filter (by simp), List.count_filter (by simp)] at hCount

/-! ## Revisions -/

/-- The revisions of the assignments and clearings of a source, in the order of
the log. -/
def revisionsOf (source : UUID) (events : List LedgerEventRecord) : List Nat :=
  events.filterMap fun e => e.contract?.bind fun contract =>
    contract.1.reportingRevision.bind fun assigned =>
      if assigned.1 = source then some assigned.2 else none

/-- An event that is no posting is in a stream of its own type. -/
theorem reportingRevision_of_stream {catalog : Catalog}
    {ledger : List LedgerEventRecord} {stored : LedgerEventRecord}
    {payload : EventPayload} {t t' : SyncTables}
    (h : applyPayload catalog ledger stored payload t = .ok t')
    (hFact : payload.financialFact = none)
    (hStream : stored.streamType = "reporting_lines") :
    payload.reportingRevision.isSome := by
  cases payload with
  | reportingLinesAssigned p => rfl
  | reportingLinesCleared p => rfl
  | financialExternalReferenceCorrected p =>
      simp only [applyPayload, applyExternalReferenceCorrected, bind_eq_ok,
        require_eq_ok, exists_const] at h
      exact absurd (hStream.symm.trans h.1.1) (by decide)
  | investmentLotAcquired p =>
      simp only [applyPayload, applyInvestmentLotAcquired, bind_eq_ok,
        require_eq_ok, exists_const] at h
      exact absurd (hStream.symm.trans h.1.1) (by decide)
  | investmentLotDisposed p =>
      simp only [applyPayload, applyInvestmentLotDisposed, bind_eq_ok,
        require_eq_ok, exists_const] at h
      exact absurd (hStream.symm.trans h.1.1) (by decide)
  | _ => cases hFact

private theorem map_filter_eq_filterMap {α β : Type} {p : α → Prop} [DecidablePred p]
    {f : α → β} (xs : List α) :
    (xs.filter p).map f = xs.filterMap fun a => if p a then some (f a) else none := by
  induction xs with
  | nil => rfl
  | cons x xs ih =>
      by_cases hx : p x <;> simp [hx, ih]

variable {store : EventStoreTables} {bookId : UUID} {t : SyncTables}

/-- The revisions of a source are the versions of its reporting stream. -/
theorem revisionsOf_eq (hLog : AcceptedLog store bookId)
    (hStreams : JournalStreams (store.bookEvents bookId))
    (hRun : Run (Projects store.events bookId) SyncTables.empty
      (store.bookEvents bookId) t) (source : UUID) :
    revisionsOf source (store.bookEvents bookId)
      = (ofStream ("reporting_lines", source) (store.bookEvents bookId)).map
          (·.streamVersion) := by
  unfold revisionsOf ofStream
  rw [map_filter_eq_filterMap]
  refine List.filterMap_congr fun e he => ?_
  obtain ⟨catalog, t₁, t₂, contract, hContract, hApply⟩ :=
    applied_of_run hLog.distinct hLog.validated hRun e he
  rw [hContract, Option.bind_some]
  cases hCase : contract.1.reportingRevision with
  | some assigned =>
      obtain ⟨hKey, hVersion⟩ := applyPayload_reportingRevision hApply hCase
      rw [hKey, hVersion]
      by_cases hSource : assigned.1 = source
      · simp [hSource]
      · simp [hSource]
  | none =>
      rw [Option.bind_none, if_neg]
      intro hKey
      have hType : e.streamType = "reporting_lines" := congrArg Prod.fst hKey
      have hFact : contract.1.financialFact = none := by
        by_contra hSome
        have hJournal := hStreams e he (by
          simpa [LedgerEventRecord.financialFact?, hContract, Option.isSome_iff_ne_none]
            using hSome)
        exact absurd (hType.symm.trans hJournal) (by decide)
      have hRevision := reportingRevision_of_stream hApply hFact hType
      rw [hCase] at hRevision
      cases hRevision

/-! ## Over whole logs -/

/-- At the head of a Book whose log is projected, the query returns the current
rows, source by source and as a whole; an assignment replaces all rows of its
source and a clearing leaves none, while the other sources keep theirs; and the
revisions of a source count from one. -/
theorem reportingLines_replayed_over_run (hLog : AcceptedLog store bookId)
    (hStreams : JournalStreams (store.bookEvents bookId)) {head : BookEventHeadRecord}
    (hHead : store.bookHead? bookId = some head)
    (hRun : Run (Projects store.events bookId) SyncTables.empty
      (store.bookEvents bookId) t) :
    (∃ lines, listCurrentReportingLines store bookId head.lastPosition = .ok lines
      ∧ (∀ source, lines.filter (·.transactionId = source)
        = (t.reportingRowsOf source).map (·.view))
      ∧ lines.Perm (t.reportingLines.map (·.view)))
    ∧ (∀ done stored rest t₁ t₂, store.bookEvents bookId = done ++ stored :: rest →
        Run (Projects store.events bookId) SyncTables.empty done t₁ →
        Projects store.events bookId t₁ stored t₂ →
        ∀ contract source rows, stored.contract? = some contract →
        contract.1.reportingRows stored = some (source, rows) →
        t₂.reportingRowsOf source = rows
          ∧ ∀ other ≠ source, t₂.reportingRowsOf other = t₁.reportingRowsOf other)
    ∧ ∀ source, revisionsOf source (store.bookEvents bookId)
        = List.range' 1 (revisionsOf source (store.bookEvents bookId)).length := by
  refine ⟨?_, ?_, ?_⟩
  · obtain ⟨current, hReplay, hAgree⟩ :=
      replayReporting_agrees_run hLog.distinct hLog.validated hRun
    have hSelected : ((store.bookEvents bookId).filter fun e =>
        e.bookPosition ≤ head.lastPosition ∧ isReportingEvent e)
        = (store.bookEvents bookId).filter isReportingEvent := by
      refine List.filter_congr fun e he => ?_
      simp [hLog.position_le hHead e he]
    have hSources : ∀ source, ((current.keys.insertionSort (· ≤ ·)).flatMap
          fun source => (current.lookup source).getD []).filter (·.transactionId = source)
        = (t.reportingRowsOf source).map (·.view) := by
      intro source
      have hOwn : ∀ k, ∀ line ∈ (current.lookup k).getD [], line.transactionId = k := by
        intro k line hLine
        rw [hAgree k] at hLine
        obtain ⟨row, hRow, rfl⟩ := List.mem_map.1 hLine
        exact of_decide_eq_true (List.mem_filter.1 hRow).2
      have hNodup : (current.keys.insertionSort (· ≤ ·)).Nodup :=
        (List.perm_insertionSort _ _).nodup_iff.2 current.keys_nodup
      rw [filter_flatMap_sources hOwn hNodup]
      split_ifs with hKey
      · exact hAgree source
      · rw [List.mem_insertionSort, ← AList.mem_keys] at hKey
        rw [← hAgree source, AList.lookup_eq_none.2 hKey]
        rfl
    refine ⟨_, ?_, hSources, ?_⟩
    · simp only [listCurrentReportingLines, bind_eq_ok, fetch_eq_ok, require_eq_ok,
        pure_eq_ok, exists_const]
      refine ⟨head, hHead, le_rfl, current, ?_, rfl⟩
      rw [hSelected, hLog.sorted List.filter_sublist]
      exact hReplay
    · refine perm_of_sources (·.transactionId) fun source => ?_
      rw [hSources source, List.filter_map]
      rfl
  · intro done stored rest t₁ t₂ hSplit hDone hStep contract source rows hContract hRows
    have hDistinct := hLog.distinct
    have hPrefix : done ++ [stored] <+: store.bookEvents bookId :=
      hSplit ▸ (List.prefix_append_right_inj done).2 (List.prefix_append [stored] rest)
    obtain ⟨catalog, contract', hSome, hApply⟩ := projects_applies
      (hDistinct.sublist (hPrefix.sublist.map _)) hDone
      (by rw [hContract]; rfl) hStep
    obtain rfl : contract = contract' := by
      rw [hContract] at hSome
      exact Option.some.inj hSome
    have hAfter := reportingRowsOf_of_apply hApply
    rw [hRows] at hAfter
    refine ⟨(hAfter source).trans (if_pos rfl), fun other hOther => ?_⟩
    exact (hAfter other).trans (if_neg (Ne.symm hOther))
  · intro source
    rw [revisionsOf_eq hLog hStreams hRun]
    cases hStream : ofStream ("reporting_lines", source) (store.bookEvents bookId) with
    | nil => rfl
    | cons e rest =>
        have hMem : e ∈ ofStream ("reporting_lines", source) (store.bookEvents bookId) :=
          hStream ▸ List.mem_cons_self
        obtain ⟨he, hKey⟩ := List.mem_filter.1 hMem
        have hVersions := hLog.versions e he
        rw [of_decide_eq_true hKey, hStream] at hVersions
        unfold Numbered at hVersions
        rw [hVersions, List.length_range']

/-! ### A source that is classified, cleared and classified again -/

/-- The lines of transaction 10: one for all of its 100 units. -/
def sampleLines (revision : Nat) (hRevision : 0 < revision) : EventPayload :=
  .reportingLinesAssigned ⟨10, revision, hRevision,
    [⟨Fin.ofNat _ (30 + revision), Fin.ofNat _ (40 + revision), 6, 0, sampleAsset,
      ⟨100, sample_hundred⟩, .expense, .category, some 5, none⟩]⟩

/-- An event of the reporting stream of transaction 10. -/
def sampleReportingEvent (position revision : Nat) (payload : EventPayload) :
    LedgerEventRecord :=
  { sampleEvent position "reporting_lines" 10 ⟨sampleDate, 0⟩ payload with
    streamVersion := revision }

theorem sample_three : 0 < 3 :=
  Nat.zero_lt_succ 2

def sampleReportingLog : List LedgerEventRecord :=
  [samplePosted, sampleReportingEvent 2 1 (sampleLines 1 Nat.one_pos),
    sampleReportingEvent 3 2 (.reportingLinesCleared ⟨10, 2, Nat.two_pos⟩),
    sampleReportingEvent 4 3 (sampleLines 3 sample_three)]

def sampleReportingStore : EventStoreTables := ⟨[⟨1, 4, 4⟩], [], sampleReportingLog⟩

theorem sampleReporting_run : Run (Projects sampleReportingLog 1) SyncTables.empty
    sampleReportingLog
    (sampleReportingLog.foldl (projected sampleCatalog sampleReportingLog)
      SyncTables.empty) :=
  .cons (projects_projected sampleCatalog (by decide) rfl (by decide))
    (.cons (projects_projected sampleCatalog (by decide) rfl (by decide))
      (.cons (projects_projected sampleCatalog (by decide) rfl (by decide))
        (.cons (projects_projected sampleCatalog (by decide) rfl (by decide)) (.nil _))))

theorem reportingLines_replayed_over_sample :
    (∃ lines, listCurrentReportingLines sampleReportingStore 1 4 = .ok lines
      ∧ lines.map (·.classificationRevision) = [3])
      ∧ revisionsOf 10 sampleReportingLog = [1, 2, 3] := by
  have hLog : AcceptedLog sampleReportingStore 1 := by
    refine ⟨by decide, rfl, by decide, by decide, ?_⟩
    rintro head ⟨⟩
    rfl
  have hHead : sampleReportingStore.bookHead? 1 = some ⟨1, 4, 4⟩ := rfl
  obtain ⟨⟨lines, hLines, -, hPerm⟩, -, hRevisions⟩ :=
    reportingLines_replayed_over_run hLog (by decide) hHead sampleReporting_run
  refine ⟨⟨lines, hLines, ?_⟩, hRevisions 10⟩
  exact List.perm_singleton.1 (hPerm.map (·.classificationRevision))

end TrackAnywhere.Ports
