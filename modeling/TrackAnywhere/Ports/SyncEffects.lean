import TrackAnywhere.Ports.SynchronousProjector
import TrackAnywhere.Verified.Run

/-!
# What one projected event does

Every fact about a run of the projector is read off one step, and one step is
described here once and for all: `applyStored_cases` says when an event is
skipped, `applyPayload_journal` what an applied event does to the transaction,
posting and balance tables, `applyPayload_reversals` what it does to the
reversal table, and `applyPayload_appliedEvents` that it leaves the markers
alone.  No later module unfolds an applier for these tables.
-/

namespace TrackAnywhere.Ports

open TrackAnywhere.Verified
open TrackAnywhere.Verified.Checked
open TrackAnywhere.Verified.KeyedSum

/-- The columns of a transaction row that the source event determines. -/
structure TransactionKey where
  transactionId : UUID
  sourceEventId : UUID
  sourcePosition : Nat
  effectiveAt : Instant
deriving DecidableEq

def JournalTransactionRecord.key (r : JournalTransactionRecord) :
    TransactionKey :=
  ⟨r.transactionId, r.sourceEventId, r.sourcePosition, r.effectiveAt⟩

/-- The tables grew by one transaction, its postings and its balance
upserts. -/
structure FinancialStep (stored : LedgerEventRecord)
    (fact : UUID × List JournalPostingFact) (t t' : SyncTables) : Prop where
  fresh : fact.1 ∉ t.journalTransactions.map (·.transactionId)
  transactions : ∃ row : JournalTransactionRecord,
    row.key = ⟨fact.1, stored.eventId, stored.bookPosition,
      stored.effectiveAt⟩
    ∧ t'.journalTransactions = t.journalTransactions ++ [row]
  postings : t'.journalPostings = t.journalPostings ++
    fact.2.map (·.record fact.1)
  balances : t'.accountBalances = accumulate mergeBalance t.accountBalances
    (fact.2.map (·.balanceInsert stored.bookPosition))

/-- The transaction, posting and balance tables are as they were. -/
structure JournalFrame (t t' : SyncTables) : Prop where
  transactions : t'.journalTransactions = t.journalTransactions
  postings : t'.journalPostings = t.journalPostings
  balances : t'.accountBalances = t.accountBalances

/-! ## The appliers -/

section Appliers

variable {catalog : Catalog} {ledger : List LedgerEventRecord}
  {stored : LedgerEventRecord} {t t' : SyncTables}

/-- An accepted financial transaction is fresh, its accounts exist, and only
three tables grow. -/
theorem applyFinancialTransaction_ok {transactionId : UUID}
    {transactionKind : RecordedKind} {descriptionRef : Option UUID}
    {postings : List JournalPostingFact}
    (h : applyFinancialTransaction catalog stored transactionId
      transactionKind descriptionRef postings t = .ok t') :
    FinancialStep stored (transactionId, postings) t t'
      ∧ t'.appliedEvents = t.appliedEvents
      ∧ t'.transactionReversals = t.transactionReversals
      ∧ t'.reportingLines = t.reportingLines
      ∧ t'.creditCardTransactions = t.creditCardTransactions := by
  simp only [applyFinancialTransaction, bind_eq_ok, require_eq_ok, pure_eq_ok,
    exists_const] at h
  obtain ⟨-, hFresh, -, -, -, -, rfl⟩ := h
  exact ⟨⟨hFresh, ⟨_, rfl, rfl⟩, rfl, rfl⟩, rfl, rfl, rfl, rfl⟩

/-- Recording references touches the reference table only. -/
theorem addExternalReferences_ok {transactionId : UUID}
    {references : List FinancialExternalReference}
    (h : addExternalReferences stored transactionId references t = .ok t') :
    ∃ rows, t' = { t with externalReferences := rows } := by
  simp only [addExternalReferences, bind_eq_ok, require_eq_ok, pure_eq_ok,
    exists_const] at h
  obtain ⟨-, rfl⟩ := h
  exact ⟨_, rfl⟩

/-- The guards of a reversal: its target is an earlier projected transaction
whose source event is the named one, that event posted the inverse of what the
reversal posts, and no other reversal names the same target. -/
theorem applyJournalReversed_ok {payload : JournalTransactionReversed}
    (h : applyJournalReversed catalog ledger stored payload t = .ok t') :
    ∃ target source contract original t₁,
      t.transaction? payload.reversesTransactionId = some target
        ∧ target.sourceEventId = payload.originalEventId
        ∧ target.sourcePosition < stored.bookPosition
        ∧ ledgerEvent? ledger payload.originalEventId = some source
        ∧ source.bookId = stored.bookId
        ∧ validateStored source.eventType source.eventSchemaVersion
            source.payload = .ok contract
        ∧ contract.1.financialFact = some original
        ∧ original.1 = payload.reversesTransactionId
        ∧ validateExactInverse original.2 payload.inversePostings = .ok ()
        ∧ applyFinancialTransaction catalog stored
            payload.reversalTransactionId target.transactionKind
            payload.descriptionRef payload.inversePostings t = .ok t₁
        ∧ validateCreditCardReversal catalog stored target contract.1 t₁
            = .ok ()
        ∧ payload.reversesTransactionId
            ∉ t.transactionReversals.map (·.originalTransactionId)
        ∧ t' = { t₁ with
            transactionReversals := t.transactionReversals ++
              [{ reversalTransactionId := payload.reversalTransactionId
                 originalTransactionId := payload.reversesTransactionId
                 sourceEventId := stored.eventId
                 originalEventId := payload.originalEventId
                 originalEventHash := payload.originalEventHash
                 reasonCode := payload.reasonCode }] } := by
  simp only [applyJournalReversed, bind_eq_ok, require_eq_ok, fetch_eq_ok,
    mapError_eq_ok, pure_eq_ok, exists_const] at h
  obtain ⟨target, hTarget, ⟨hSource, hBefore⟩, source, hLedger, ⟨hBook, -⟩,
    contract, hContract, original, hFact, hIdentity, ⟨⟩, hInverse, t₁, hApply,
    ⟨⟩, hCard, hOnce, rfl⟩ := h
  have hRows := (applyFinancialTransaction_ok hApply).2.2.1
  rw [hRows] at hOnce ⊢
  exact ⟨target, source, contract, original, t₁, hTarget, hSource, hBefore,
    hLedger, hBook, hContract, hFact, hIdentity, hInverse, hApply, hCard,
    hOnce, rfl⟩

/-- The reporting guards: the transaction is projected earlier and is not a
reversal. -/
theorem validateReportingSource_ok {transactionId : UUID} {revision : Nat}
    {transaction : JournalTransactionRecord}
    (h : validateReportingSource stored transactionId revision t
      = .ok transaction) :
    t.transaction? transactionId = some transaction
      ∧ transaction.sourcePosition < stored.bookPosition
      ∧ t.reversal? transactionId = none := by
  simp only [validateReportingSource, bind_eq_ok, require_eq_ok, fetch_eq_ok,
    pure_eq_ok, exists_const] at h
  obtain ⟨-, found, hFound, hBefore, hReversal, rfl⟩ := h
  exact ⟨hFound, hBefore, hReversal⟩

/-- A disposal touches the lot tables only. -/
theorem applyInvestmentLotDisposed_frame {payload : InvestmentLotDisposed}
    (h : applyInvestmentLotDisposed stored payload t = .ok t') :
    ∃ lots allocations, t' = { t with
      investmentLots := lots, investmentLotAllocations := allocations } := by
  simp only [applyInvestmentLotDisposed, bind_eq_ok, require_eq_ok,
    exists_const] at h
  obtain ⟨-, -, -, hFold⟩ := h
  revert hFold
  generalize payload.allocations = allocations
  induction allocations generalizing t with
  | nil =>
      intro hFold
      simp only [List.foldlM_nil, pure_eq_ok] at hFold
      subst hFold
      exact ⟨_, _, rfl⟩
  | cons allocation rest ih =>
      intro hFold
      simp only [List.foldlM_cons, bind_eq_ok] at hFold
      obtain ⟨t₁, hFirst, hRest⟩ := hFold
      simp only [applyAllocation, bind_eq_ok, require_eq_ok, fetch_eq_ok,
        pure_eq_ok, exists_const] at hFirst
      obtain ⟨lot, -, -, -, -, -, -, -, -, -, -, rfl⟩ := hFirst
      obtain ⟨lots, rows, rfl⟩ := ih hRest
      exact ⟨lots, rows, rfl⟩

/-! ## The projector, table by table -/

/-- The reversal row a payload adds, if it is a reversal. -/
def EventPayload.reversalRow (stored : LedgerEventRecord) :
    EventPayload → Option TransactionReversalRecord
  | .journalTransactionReversed p => some
      { reversalTransactionId := p.reversalTransactionId
        originalTransactionId := p.reversesTransactionId
        sourceEventId := stored.eventId
        originalEventId := p.originalEventId
        originalEventHash := p.originalEventHash
        reasonCode := p.reasonCode }
  | _ => none

/-- What a payload does to the tables the journal is read from. -/
structure JournalEffect (stored : LedgerEventRecord) (payload : EventPayload)
    (t t' : SyncTables) : Prop where
  journal : match payload.financialFact with
    | some fact => FinancialStep stored fact t t'
    | none => JournalFrame t t'
  reversals : t'.transactionReversals =
    t.transactionReversals ++ (payload.reversalRow stored).toList
  appliedEvents : t'.appliedEvents = t.appliedEvents

/-- A table update that reaches none of the journal's tables. -/
private theorem journalEffect_frame {payload : EventPayload}
    (hFact : payload.financialFact = none)
    (hRow : payload.reversalRow stored = none)
    (hTransactions : t'.journalTransactions = t.journalTransactions)
    (hPostings : t'.journalPostings = t.journalPostings)
    (hBalances : t'.accountBalances = t.accountBalances)
    (hReversals : t'.transactionReversals = t.transactionReversals)
    (hApplied : t'.appliedEvents = t.appliedEvents) :
    JournalEffect stored payload t t' := by
  refine ⟨?_, ?_, hApplied⟩
  · rw [hFact]
    exact ⟨hTransactions, hPostings, hBalances⟩
  · rw [hRow, hReversals]
    simp

/-- Each applier adds its transaction, its postings and its balance upserts,
and its reversal row; the others leave these tables alone. -/
theorem applyPayload_journalEffect {payload : EventPayload}
    (h : applyPayload catalog ledger stored payload t = .ok t') :
    JournalEffect stored payload t t' := by
  cases payload with
  | creditCardTransactionRecorded p =>
      simp only [applyPayload, applyCreditCardRecorded, bind_eq_ok,
        fetch_eq_ok, pure_eq_ok] at h
      obtain ⟨t₁, hApply, t₂, hReferences, first, -, -, -, rfl⟩ := h
      obtain ⟨rows, rfl⟩ := addExternalReferences_ok hReferences
      obtain ⟨hStep, hApplied, hReversals, -, -⟩ :=
        applyFinancialTransaction_ok hApply
      exact ⟨⟨hStep.fresh, hStep.transactions, hStep.postings,
        hStep.balances⟩, by simpa [EventPayload.reversalRow] using hReversals,
        hApplied⟩
  | journalTransactionPosted p =>
      simp only [applyPayload, applyJournalPosted, bind_eq_ok] at h
      obtain ⟨t₁, hApply, hReferences⟩ := h
      obtain ⟨rows, rfl⟩ := addExternalReferences_ok hReferences
      obtain ⟨hStep, hApplied, hReversals, -, -⟩ :=
        applyFinancialTransaction_ok hApply
      exact ⟨⟨hStep.fresh, hStep.transactions, hStep.postings,
        hStep.balances⟩, by simpa [EventPayload.reversalRow] using hReversals,
        hApplied⟩
  | journalTransactionReversed p =>
      obtain ⟨target, source, contract, original, t₁, -, -, -, -, -, -, -, -,
        -, hApply, -, -, rfl⟩ := applyJournalReversed_ok h
      obtain ⟨hStep, hApplied, -, -, -⟩ := applyFinancialTransaction_ok hApply
      exact ⟨⟨hStep.fresh, hStep.transactions, hStep.postings,
        hStep.balances⟩, rfl, hApplied⟩
  | financialExternalReferenceCorrected p =>
      simp only [applyPayload, applyExternalReferenceCorrected, bind_eq_ok,
        require_eq_ok, fetch_eq_ok, exists_const] at h
      obtain ⟨-, transaction, -, -, -, h⟩ := h
      split at h <;> (rw [pure_eq_ok] at h; subst h) <;>
        exact journalEffect_frame rfl rfl rfl rfl rfl rfl rfl
  | reportingLinesAssigned p =>
      simp only [applyPayload, applyReportingLinesAssigned, bind_eq_ok,
        pure_eq_ok] at h
      obtain ⟨transaction, -, -, -, rfl⟩ := h
      exact journalEffect_frame rfl rfl rfl rfl rfl rfl rfl
  | reportingLinesCleared p =>
      simp only [applyPayload, applyReportingLinesCleared, bind_eq_ok,
        pure_eq_ok] at h
      obtain ⟨transaction, -, rfl⟩ := h
      exact journalEffect_frame rfl rfl rfl rfl rfl rfl rfl
  | investmentLotAcquired p =>
      simp only [applyPayload, applyInvestmentLotAcquired, bind_eq_ok,
        require_eq_ok, pure_eq_ok] at h
      obtain ⟨-, -, -, -, -, -, -, -, rfl⟩ := h
      exact journalEffect_frame rfl rfl rfl rfl rfl rfl rfl
  | investmentLotDisposed p =>
      obtain ⟨lots, allocations, rfl⟩ := applyInvestmentLotDisposed_frame h
      exact journalEffect_frame rfl rfl rfl rfl rfl rfl rfl

/-- The event leaves its marker before its applier runs. -/
def SyncTables.mark (t : SyncTables) (eventId : UUID) : SyncTables :=
  { t with
    appliedEvents := t.appliedEvents ++
      [{ eventId := eventId, projectionVersion := 1 }] }

/-- An event with a marker changes nothing, and neither does one of a type no
projection requires; any other accepted event was valid and is applied. -/
theorem applyStored_cases {result : ProjectionApplyResult}
    (h : applyStored catalog ledger stored t = .ok (result, t')) :
    (t' = t ∧ result.applied = false
        ∧ (requiredProjectionVersion stored.eventType
            stored.eventSchemaVersion = none
          ∨ stored.eventId ∈ t.appliedEvents.map (·.eventId)))
      ∨ ∃ contract, validateStored stored.eventType stored.eventSchemaVersion
            stored.payload = .ok contract
          ∧ stored.eventId ∉ t.appliedEvents.map (·.eventId)
          ∧ applyPayload catalog ledger stored contract.1
              (t.mark stored.eventId) = .ok t' := by
  unfold applyStored at h
  split at h
  · rename_i hVersion
    obtain ⟨rfl, rfl⟩ := Prod.mk.inj (pure_eq_ok.1 h)
    exact .inl ⟨rfl, rfl, .inl hVersion⟩
  · rename_i version hVersion
    have hOne : version = 1 := by
      unfold requiredProjectionVersion at hVersion
      split at hVersion <;> simp_all
    subst hOne
    simp only [bind_eq_ok, mapError_eq_ok] at h
    obtain ⟨contract, hContract, h⟩ := h
    split at h
    · rename_i hMarked
      obtain ⟨rfl, rfl⟩ := Prod.mk.inj (pure_eq_ok.1 h)
      exact .inl ⟨rfl, rfl, .inr hMarked⟩
    · rename_i hMarked
      simp only [bind_eq_ok, pure_eq_ok, Prod.mk.injEq] at h
      obtain ⟨t₁, hApply, -, rfl⟩ := h
      exact .inr ⟨contract, hContract, hMarked, hApply⟩

end Appliers

/-! ## Runs of the projector -/

/-- One event of the Book is projected, against the catalog of that moment. -/
def Projects (ledger : List LedgerEventRecord) (bookId : UUID)
    (t : SyncTables) (stored : LedgerEventRecord) (t' : SyncTables) : Prop :=
  stored ∈ ledger ∧ stored.bookId = bookId ∧
    ∃ catalog result, applyStored catalog ledger stored t = .ok (result, t')

/-- An accepted event adds at most its own marker. -/
theorem appliedEvents_of_projects {ledger : List LedgerEventRecord}
    {bookId : UUID} {t t' : SyncTables} {stored : LedgerEventRecord}
    (h : Projects ledger bookId t stored t') {eventId : UUID}
    (hMem : eventId ∈ t'.appliedEvents.map (·.eventId)) :
    eventId ∈ t.appliedEvents.map (·.eventId) ∨ eventId = stored.eventId := by
  obtain ⟨-, -, catalog, result, hApply⟩ := h
  obtain ⟨rfl, -, -⟩ | ⟨contract, -, -, hPayload⟩ := applyStored_cases hApply
  · exact .inl hMem
  · rw [(applyPayload_journalEffect hPayload).appliedEvents] at hMem
    simpa [SyncTables.mark] using hMem

/-- The tables after an event, as they were when it is refused. -/
def projected (catalog : Catalog) (ledger : List LedgerEventRecord)
    (t : SyncTables) (stored : LedgerEventRecord) : SyncTables :=
  match applyStored catalog ledger stored t with
  | .ok (_, t') => t'
  | .error _ => t

/-- An event that is not refused is a step to its projected tables. -/
theorem projects_projected {ledger : List LedgerEventRecord} {bookId : UUID}
    {t : SyncTables} {stored : LedgerEventRecord} (catalog : Catalog)
    (hMem : stored ∈ ledger) (hBook : stored.bookId = bookId)
    (hOk : (applyStored catalog ledger stored t).isOk = true) :
    Projects ledger bookId t stored (projected catalog ledger t stored) := by
  refine ⟨hMem, hBook, catalog, ?_⟩
  unfold projected
  cases hApply : applyStored catalog ledger stored t with
  | error e =>
      rw [hApply] at hOk
      exact nomatch hOk
  | ok accepted => exact ⟨accepted.1, rfl⟩

/-- The keys of `ledger_events` that the projector relies on. -/
structure LedgerKeys (ledger : List LedgerEventRecord) : Prop where
  eventId : (ledger.map (·.eventId)).Nodup
  bookPosition : (ledger.map fun e => (e.bookId, e.bookPosition)).Nodup

/-- The payload of an event of a required type, once validated. -/
def LedgerEventRecord.contract? (stored : LedgerEventRecord) :
    Option EventContract :=
  (validateStored stored.eventType stored.eventSchemaVersion
    stored.payload).toOption

theorem LedgerEventRecord.contract?_eq_some {stored : LedgerEventRecord}
    {contract : EventContract} :
    stored.contract? = some contract ↔
      validateStored stored.eventType stored.eventSchemaVersion stored.payload
        = .ok contract := by
  unfold LedgerEventRecord.contract?
  cases validateStored stored.eventType stored.eventSchemaVersion
    stored.payload <;> simp [Except.toOption]

/-- An event of a type no projection requires has no valid payload. -/
theorem LedgerEventRecord.contract?_eq_none {stored : LedgerEventRecord}
    (h : requiredProjectionVersion stored.eventType
      stored.eventSchemaVersion = none) : stored.contract? = none := by
  have hKey : ¬(stored.eventType ∈ registeredEventTypes
      ∧ stored.eventSchemaVersion = 1) := by
    intro hKey
    rw [requiredProjectionVersion, if_pos hKey] at h
    exact nomatch h
  unfold LedgerEventRecord.contract? validateStored
  rw [if_neg hKey]
  rfl

/-- An event with a new identity either has no contract and changes nothing,
or its applier accepted it. -/
theorem projects_cases {ledger : List LedgerEventRecord} {bookId : UUID}
    {t t' : SyncTables} {stored : LedgerEventRecord}
    (h : Projects ledger bookId t stored t')
    (hFresh : stored.eventId ∉ t.appliedEvents.map (·.eventId)) :
    (stored.contract? = none ∧ t' = t)
      ∨ ∃ catalog contract, stored.contract? = some contract
        ∧ applyPayload catalog ledger stored contract.1
            (t.mark stored.eventId) = .ok t' := by
  obtain ⟨-, -, catalog, result, hApply⟩ := h
  rcases applyStored_cases hApply with
    ⟨hSame, -, hVersion | hMarked⟩ | ⟨contract, hContract, -, hPayload⟩
  · exact .inl ⟨LedgerEventRecord.contract?_eq_none hVersion, hSame⟩
  · exact absurd hMarked hFresh
  · exact .inr ⟨catalog, contract,
      LedgerEventRecord.contract?_eq_some.2 hContract, hPayload⟩

/-- The transaction an event creates, with its postings. -/
def LedgerEventRecord.financialFact? (stored : LedgerEventRecord) :
    Option (UUID × List JournalPostingFact) :=
  stored.contract?.bind (·.1.financialFact)

/-! ### A sample Book -/

/-- The first day of the sample Book. -/
theorem sample_year : 1 ≤ 2026 ∧ 2026 ≤ 9999 := by
  decide

def sampleDate : Date := ⟨2026, 7, 1, sample_year, by decide, by decide⟩

def sampleAsset : AssetCode := ⟨"EUR", by decide⟩

/-- Two accounts, 1 and 2, in one asset. -/
def sampleCatalog : Catalog where
  accounts :=
    [⟨1, sampleAsset, .asset, none⟩, ⟨2, sampleAsset, .expense, none⟩]
  categoryVersions := [(5, 6)]
  assetCodes := [sampleAsset]

/-- An event of Book 1 whose envelope ids are all `position`. -/
def sampleEvent (position : Nat) (streamType : String) (streamId : UUID)
    (effectiveAt : Instant) (payload : EventPayload) : LedgerEventRecord where
  eventId := Fin.ofNat _ position
  globalSequence := position
  bookId := 1
  bookPosition := position
  streamType := streamType
  streamId := streamId
  streamVersion := 1
  eventType := payload.eventType
  eventSchemaVersion := 1
  commandId := Fin.ofNat _ position
  actorSubjectId := "actor"
  correlationId := 1
  causationEventId := none
  effectiveAt := effectiveAt
  recordedAt := effectiveAt
  payload := .registered payload
  previousHash := Fin.ofNat _ (position - 1)
  eventHash := Fin.ofNat _ position

theorem sample_hundred : 0 < 100 ∧ 100 < 10 ^ 38 := by
  decide

theorem sample_five : 0 < 5 ∧ 5 < 10 ^ 38 := by
  decide

theorem sample_two : 0 < 2 ∧ 2 < 10 ^ 38 := by
  decide

/-- 100 units from account 1 to account 2, with the given posting ids. -/
def samplePostings (first second : UUID) (side : PostingSide) :
    List JournalPostingFact :=
  [⟨first, 0, 2, sampleAsset, side, ⟨100, by decide⟩⟩,
    ⟨second, 1, 1, sampleAsset, side.opposite, ⟨100, by decide⟩⟩]

def samplePosted : LedgerEventRecord :=
  sampleEvent 1 "journal_transaction" 10 ⟨sampleDate, 0⟩
    (.journalTransactionPosted
      ⟨10, .standard, none, samplePostings 20 21 .debit, none, []⟩)

def sampleReversed : LedgerEventRecord :=
  sampleEvent 2 "journal_transaction" 11 ⟨sampleDate, 0⟩
    (.journalTransactionReversed
      ⟨11, 10, 1, 1, .duplicate, samplePostings 22 23 .credit, none⟩)

end TrackAnywhere.Ports
