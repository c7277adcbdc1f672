import TrackAnywhere.Ports.EntryCommits
import TrackAnywhere.Ports.PlannedStreams

/-!
# What holds between the statements of an entry commit

A session knows what its checks have found, and the Book lock and the row lock
keep it true while others commit: `StageOk`.  A posted entry leaves its row
consumed, its transaction in the ledger and its evidence in the tables:
`PostedOk`.
-/

namespace TrackAnywhere.Ports

open TrackAnywhere.Verified
open TrackAnywhere.Verified.Checked

/-! ## Phases -/

namespace Phase

/-- The plan a process has made. -/
def plan? : Phase → Option LedgerWritePlan
  | .planned _ _ plan => some plan
  | .appended _ plan _ _ _ => some plan
  | .finalized _ plan _ _ => some plan
  | .completed writes => some writes.plan
  | .committing _ _ (some writes) => some writes.plan
  | _ => none

/-- The finalizer has run. -/
def isFinal : Phase → Bool
  | .finalized _ _ _ _ => true
  | .completed _ => true
  | .committing _ _ (some _) => true
  | _ => false

/-- The process is in its handler. -/
def isBookLocked : Phase → Bool
  | .bookLocked _ _ => true
  | _ => false

end Phase

section Statements

variable {sha256 : ByteArray → EventHash} {t : CommandTables}
  {answers : Answers} {p : CommandProcess} {phase : Phase}

/-- A statement of the command bus itself leaves plan and finalizer alone. -/
theorem next_keeps (hAsks : p.phase.asks = false)
    (h : p.next sha256 t answers = .ok phase) :
    phase.plan? = p.phase.plan? ∧ phase.isFinal = p.phase.isFinal := by
  obtain ⟨call, keyHash, attempt, current⟩ := p
  unfold CommandProcess.next at h
  cases current with
  | begun =>
      simp only [bind_eq_ok, pure_eq_ok] at h
      obtain ⟨_, -, _, -, _, -, _, -, rfl⟩ := h
      exact ⟨rfl, rfl⟩
  | authorized requestHash =>
      simp only [bind_eq_ok, pure_eq_ok] at h
      obtain ⟨_, -, rfl⟩ := h
      exact ⟨rfl, rfl⟩
  | inserted requestHash row =>
      simp only [bind_eq_ok, pure_eq_ok] at h
      obtain ⟨_, -, rfl⟩ := h
      exact ⟨rfl, rfl⟩
  | reserved requestHash reservation =>
      dsimp only at h
      split_ifs at h
      · simp only [bind_eq_ok, pure_eq_ok] at h
        obtain ⟨_, -, rfl⟩ := h
        exact ⟨rfl, rfl⟩
      · simp only [bind_eq_ok, pure_eq_ok] at h
        obtain ⟨_, -, rfl⟩ := h
        exact ⟨rfl, rfl⟩
  | headLocked receipt head =>
      simp only [bind_eq_ok, pure_eq_ok] at h
      obtain ⟨_, -, rfl⟩ := h
      exact ⟨rfl, rfl⟩
  | bookLocked receipt head => cases hAsks
  | planned receipt head plan =>
      simp only [bind_eq_ok, pure_eq_ok] at h
      obtain ⟨_, -, rfl⟩ := h
      exact ⟨rfl, rfl⟩
  | appended receipt plan batch ledger unprojected =>
      cases unprojected with
      | nil => cases hAsks
      | cons stored rest =>
          simp only [bind_eq_ok, pure_eq_ok] at h
          obtain ⟨_, -, rfl⟩ := h
          exact ⟨rfl, rfl⟩
  | finalized receipt plan batch ledger =>
      simp only [bind_eq_ok, pure_eq_ok] at h
      obtain ⟨_, -, _, -, rfl⟩ := h
      exact ⟨rfl, rfl⟩
  | completed writes =>
      simp only [bind_eq_ok, pure_eq_ok] at h
      obtain ⟨_, -, rfl⟩ := h
      exact ⟨rfl, rfl⟩
  | committing requestHash result writes =>
      cases h
      exact ⟨rfl, rfl⟩
  | returned requestHash outcome =>
      cases h
      exact ⟨rfl, rfl⟩
  | raised error =>
      cases h
      exact ⟨rfl, rfl⟩

/-- The handler's plan is what the process goes on with. -/
theorem next_bookLocked {receipt : CommandReceiptRecord} {head : LockedBookHead}
    {plan : LedgerWritePlan} (hPhase : p.phase = .bookLocked receipt head)
    (hPlan : answers.plan = .ok plan)
    (h : p.next sha256 t answers = .ok phase) :
    phase = .planned receipt head plan := by
  obtain ⟨call, keyHash, attempt, current⟩ := p
  cases hPhase
  unfold CommandProcess.next at h
  simp only [hPlan, bind_eq_ok, pure_eq_ok] at h
  obtain ⟨_, hSame, _, -, rfl⟩ := h
  cases hSame
  rfl

theorem next_appended {receipt : CommandReceiptRecord} {plan : LedgerWritePlan}
    {batch : AppendBatchResult} {ledger : BookLedger}
    (hPhase : p.phase = .appended receipt plan batch ledger [])
    (h : p.next sha256 t answers = .ok phase) :
    phase = .finalized receipt plan batch ledger := by
  obtain ⟨call, keyHash, attempt, current⟩ := p
  cases hPhase
  unfold CommandProcess.next at h
  simp only [bind_eq_ok, pure_eq_ok] at h
  obtain ⟨_, -, rfl⟩ := h
  rfl

/-- A failed attempt has no plan. -/
theorem plan?_fail (p : CommandProcess) (error : CommandError) :
    (p.fail error).phase.plan? = none ∧ (p.fail error).call = p.call := by
  unfold CommandProcess.fail
  split_ifs <;> exact ⟨rfl, rfl⟩

/-- In the handler and after it, a process holds the lock of its Book. -/
theorem bookHead_mem_locks (h : p.phase.isBookLocked = true ∨ p.phase.plan? ≠ none) :
    CommandLock.bookHead p.call.command.bookId ∈ p.locks := by
  obtain ⟨call, keyHash, attempt, current⟩ := p
  cases current with
  | committing requestHash result writes =>
      cases writes <;> simp_all [CommandProcess.locks, Phase.plan?,
        Phase.isBookLocked]
  | _ => simp_all [CommandProcess.locks, Phase.plan?, Phase.isBookLocked]

end Statements

/-! ## Sessions -/

/-- The intent that was read is in the tables. -/
def SnapshotOk (t : EntryTables) (command : CommitPreparedEntryCommand)
    (snapshot : PreparedEntryIntentRecord) : Prop :=
  snapshot.key = (command.bookId, command.intentId)
    ∧ ∃ row ∈ t.intents, row.bindings = snapshot.bindings

/-- What was found in the fingerprints that the window admits. -/
def WindowChecked (t : EntryTables) (command : CommitPreparedEntryCommand)
    (payload : EntryPayload) : Prop :=
  ∃ occurredAt fingerprint, payload.occurredAt = some occurredAt
    ∧ payload.fingerprintHmac = some fingerprint
    ∧ ∀ row ∈ t.fingerprints, row.bookId = command.bookId →
      row.fingerprintHmac = fingerprint →
      occurredAt - CommitPreparedEntryCommand.sevenDays ≤ row.createdAt →
      row.transactionId = payload.transactionId

/-- A consumed row, and the command that consumed it. -/
structure ConsumedBy (command : CommitPreparedEntryCommand) (actorId : String)
    (claimed : PreparedEntryIntentRecord) : Prop where
  key : claimed.key = (command.bookId, command.intentId)
  actor : claimed.bindings.actorId = actorId
  token : claimed.bindings.commitTokenHash = some command.commitTokenHash
  ready : claimed.bindings.preparedStatus = .ready
  consumed : ∃ consumedAt, claimed.lifecycleStatus = .consumed consumedAt
      command.commandId claimed.bindings.canonicalPayload.transactionId
    ∧ consumedAt < claimed.bindings.expiresAt

/-- A claim that is not visible yet. -/
structure ClaimOk (t : EntryTables) (command : CommitPreparedEntryCommand)
    (actorId : String) (snapshot claimed : PreparedEntryIntentRecord) : Prop where
  bindings : claimed.bindings = snapshot.bindings
  old : ∃ old ∈ t.intents, old.bindings = claimed.bindings
    ∧ old.lifecycleStatus = .created
  consumed : ConsumedBy command actorId claimed

/-- The evidence of a commit, in the tables or among its writes. -/
structure EvidenceOk (t : EntryTables) (command : CommitPreparedEntryCommand)
    (payload : EntryPayload) (writes : EntryWrites) : Prop where
  reference : ∀ external, payload.sourceReferenceDigest = some external →
    ∃ row, (row ∈ t.references ∨ row ∈ writes.reference)
      ∧ row.bookId = command.bookId ∧ row.reference = external
      ∧ row.transactionId = payload.transactionId
  newReference : ∀ row ∈ writes.reference, row.bookId = command.bookId
    ∧ (row.bookId, row.reference)
      ∉ t.references.map fun r => (r.bookId, r.reference)
  fingerprint : ∀ fingerprint, payload.fingerprintHmac = some fingerprint →
    ∃ row, (row ∈ t.fingerprints ∨ row ∈ writes.fingerprint)
      ∧ row.bookId = command.bookId ∧ row.fingerprintHmac = fingerprint
      ∧ row.transactionId = payload.transactionId
  newFingerprint : ∀ row ∈ writes.fingerprint, row.bookId = command.bookId

/-- What a session knows. -/
def StageOk (t : EntryTables) (p : CommandProcess)
    (command : CommitPreparedEntryCommand) (stage : EntryStage) : Prop :=
  match stage with
  | .started => p.phase.plan? = none
  | .loaded snapshot =>
      p.phase.isBookLocked = true ∧ SnapshotOk t command snapshot
  | .compiled snapshot _ =>
      p.phase.isBookLocked = true ∧ SnapshotOk t command snapshot
  | .referenceChecked snapshot _ =>
      p.phase.isBookLocked = true ∧ SnapshotOk t command snapshot
  | .fingerprintChecked snapshot _ =>
      p.phase.isBookLocked = true ∧ SnapshotOk t command snapshot
        ∧ WindowChecked t command snapshot.bindings.canonicalPayload
  | .claimed snapshot plan claimed =>
      p.phase.plan? = some plan.plan ∧ p.phase.isFinal = false
        ∧ ClaimOk t command p.call.actor.subjectId snapshot claimed
        ∧ WindowChecked t command snapshot.bindings.canonicalPayload
  | .finalized snapshot plan writes =>
      p.phase.plan? = some plan.plan ∧ p.phase.isFinal = true
        ∧ ClaimOk t command p.call.actor.subjectId snapshot writes.claimed
        ∧ WindowChecked t command snapshot.bindings.canonicalPayload
        ∧ EvidenceOk t command snapshot.bindings.canonicalPayload writes

/-! ## What the statements establish -/

section Stages

variable {t t' : EntryTables} {p : CommandProcess}
  {command : CommitPreparedEntryCommand} {actorId : String}
  {answers : EntryAnswers}

theorem snapshotOk_load {committedAt : Moment}
    {snapshot : PreparedEntryIntentRecord}
    (h : command.loadIntent t actorId committedAt = .ok snapshot) :
    SnapshotOk t command snapshot := by
  simp only [CommitPreparedEntryCommand.loadIntent, bind_eq_ok, fetch_eq_ok,
    pure_eq_ok] at h
  obtain ⟨row, hRead, _, -, _, -, _, -, _, -, rfl⟩ := h
  have hFound := List.find?_some hRead
  simp only [decide_eq_true_eq] at hFound
  obtain ⟨hBook, -, hIntent⟩ := hFound
  exact ⟨Prod.ext hBook hIntent, row, List.mem_of_find?_eq_some hRead, rfl⟩

theorem windowChecked_recheck {payload : EntryPayload} {u : Unit}
    (h : command.recheckFingerprint t payload = .ok u) :
    WindowChecked t command payload := by
  simp only [CommitPreparedEntryCommand.recheckFingerprint, bind_eq_ok,
    fetch_eq_ok, require_eq_ok] at h
  obtain ⟨occurredAt, hOccurred, fingerprint, hFingerprint, hRecent⟩ := h
  refine ⟨occurredAt, fingerprint, hOccurred, hFingerprint, ?_⟩
  intro row hRow hBook hSame hWindow
  refine hRecent row (List.mem_filter.2 ⟨hRow, ?_⟩)
  exact decide_eq_true ⟨hBook, hSame, hWindow⟩

/-- The checks of the handler. -/
theorem stageOk_check {receipt : CommandReceiptRecord} {head : LockedBookHead}
    {stage stage' : EntryStage} (hPhase : p.phase = .bookLocked receipt head)
    (h : StageOk t p command stage)
    (hNext : command.next t actorId answers stage = .ok stage')
    (hStage : stage'.isPlanned = false) : StageOk t p command stage' := by
  have hLocked : p.phase.isBookLocked = true := by
    rw [hPhase]
    rfl
  cases stage with
  | started =>
      simp only [CommitPreparedEntryCommand.next, bind_eq_ok, pure_eq_ok] at hNext
      obtain ⟨snapshot, hLoad, rfl⟩ := hNext
      exact ⟨hLocked, snapshotOk_load hLoad⟩
  | loaded snapshot =>
      simp only [CommitPreparedEntryCommand.next, bind_eq_ok, pure_eq_ok] at hNext
      obtain ⟨plan, -, rfl⟩ := hNext
      exact h
  | compiled snapshot plan =>
      simp only [CommitPreparedEntryCommand.next, bind_eq_ok, pure_eq_ok] at hNext
      obtain ⟨_, -, rfl⟩ := hNext
      exact h
  | referenceChecked snapshot plan =>
      simp only [CommitPreparedEntryCommand.next, bind_eq_ok, pure_eq_ok] at hNext
      obtain ⟨_, hRecheck, rfl⟩ := hNext
      exact ⟨h.1, h.2, windowChecked_recheck hRecheck⟩
  | fingerprintChecked snapshot plan =>
      simp only [CommitPreparedEntryCommand.next, bind_eq_ok, pure_eq_ok] at hNext
      obtain ⟨_, -, rfl⟩ := hNext
      cases hStage
  | claimed snapshot plan claimed =>
      simp only [CommitPreparedEntryCommand.next, bind_eq_ok, pure_eq_ok] at hNext
      obtain ⟨_, -, rfl⟩ := hNext
      cases hStage
  | finalized snapshot plan writes =>
      cases hNext
      cases hStage

/-- A claim consumes the intent of the command, for its actor and token, while
it is ready, created and unexpired. -/
theorem claimOk_claim {snapshot : PreparedEntryIntentRecord}
    {clock : ClockReadings}
    {rows : PreparedEntryIntentRecord × PreparedEntryIntentRecord}
    (hKeys : (t.intents.map (·.key)).Nodup) (hSnapshot : SnapshotOk t command snapshot)
    (h : command.claimIntent t actorId
      snapshot.bindings.canonicalPayload.transactionId clock = .ok rows) :
    ClaimOk t command actorId snapshot rows.2 := by
  simp only [CommitPreparedEntryCommand.claimIntent, bind_eq_ok, fetch_eq_ok,
    pure_eq_ok] at h
  obtain ⟨old, hRead, _, hGuard, rfl⟩ := h
  have hFound := List.find?_some hRead
  simp only [decide_eq_true_eq] at hFound
  obtain ⟨hBook, hActor, hIntent, hReady, hCreated, hToken, hCondition⟩ := hFound
  have hMem := List.mem_of_find?_eq_some hRead
  obtain ⟨hKey, row, hRow, hBindings⟩ := hSnapshot
  have hOldKey : old.key = (command.bookId, command.intentId) :=
    Prod.ext hBook hIntent
  have hRowKey : row.key = snapshot.key := by
    unfold PreparedEntryIntentRecord.key
    rw [hBindings]
  have hSame : old = row := List.inj_on_of_nodup_map hKeys hMem hRow
    (hOldKey.trans (hRowKey.trans hKey).symm)
  subst hSame
  simp only [guardPreparedEntryIntent, bind_eq_ok, require_eq_ok] at hGuard
  obtain ⟨_, -, _, -, hExpiry⟩ := hGuard
  refine ⟨hBindings, ⟨old, hMem, rfl, hCreated⟩, hOldKey, hActor, hToken, hReady,
    clock.value, ?_, Int.lt_of_le_of_lt clock.hOrder.2 hExpiry⟩
  rw [← hBindings]

theorem reference_insert {payload : EntryPayload}
    {claimed : PreparedEntryIntentRecord} {createdAt : Moment}
    {row? : Option ExternalReferenceRecord}
    (h : command.insertReference t payload claimed createdAt = .ok row?) :
    (∀ external, payload.sourceReferenceDigest = some external →
      ∃ row, (row ∈ t.references ∨ row ∈ row?) ∧ row.bookId = command.bookId
        ∧ row.reference = external ∧ row.transactionId = payload.transactionId)
    ∧ ∀ row ∈ row?, row.bookId = command.bookId
      ∧ (row.bookId, row.reference)
        ∉ t.references.map fun r => (r.bookId, r.reference) := by
  unfold CommitPreparedEntryCommand.insertReference at h
  cases hDigest : payload.sourceReferenceDigest with
  | none =>
      rw [hDigest] at h
      cases h
      exact ⟨(fun _ h => nomatch h), fun _ h => nomatch h⟩
  | some external =>
      rw [hDigest] at h
      obtain ⟨_, -, h⟩ := bind_eq_ok.1 h
      split at h
      · next existing hRead =>
          simp only [bind_eq_ok, require_eq_ok, pure_eq_ok] at h
          obtain ⟨_, hSame, rfl⟩ := h
          have hFound := List.find?_some hRead
          simp only [decide_eq_true_eq] at hFound
          refine ⟨?_, (fun _ h => nomatch h)⟩
          rintro _ ⟨⟩
          exact ⟨existing, .inl (List.mem_of_find?_eq_some hRead), hFound.1,
            hFound.2, hSame⟩
      · next hRead =>
          simp only [bind_eq_ok, pure_eq_ok] at h
          obtain ⟨_, -, rfl⟩ := h
          refine ⟨?_, ?_⟩
          · rintro _ ⟨⟩
            exact ⟨_, .inr rfl, rfl, rfl, rfl⟩
          · rintro _ ⟨⟩
            refine ⟨rfl, fun hMem => ?_⟩
            obtain ⟨row, hRow, hKey⟩ := List.mem_map.1 hMem
            have hNot := List.find?_eq_none.1 hRead row hRow
            exact hNot (decide_eq_true (Prod.ext_iff.1 hKey))

theorem fingerprint_insert {payload : EntryPayload}
    {claimed : PreparedEntryIntentRecord} {createdAt : Moment}
    {row? : Option SourceFingerprintRecord}
    (h : command.insertFingerprint t payload claimed createdAt = .ok row?) :
    (∀ fingerprint, payload.fingerprintHmac = some fingerprint →
      ∃ row, (row ∈ t.fingerprints ∨ row ∈ row?) ∧ row.bookId = command.bookId
        ∧ row.fingerprintHmac = fingerprint
        ∧ row.transactionId = payload.transactionId)
    ∧ ∀ row ∈ row?, row.bookId = command.bookId := by
  simp only [CommitPreparedEntryCommand.insertFingerprint, bind_eq_ok,
    fetch_eq_ok, pure_eq_ok] at h
  obtain ⟨fingerprint, hFingerprint, _, -, h⟩ := h
  split_ifs at h with hAny
  · subst h
    refine ⟨?_, (fun _ h => by cases h)⟩
    intro other hOther
    rw [hFingerprint] at hOther
    cases hOther
    obtain ⟨row, hRow, hKey⟩ := List.any_eq_true.1 hAny
    obtain ⟨hBook, hTransaction, hHmac⟩ := of_decide_eq_true hKey
    exact ⟨row, .inl hRow, hBook, hHmac, hTransaction⟩
  · subst h
    refine ⟨?_, ?_⟩
    · intro other hOther
      rw [hFingerprint] at hOther
      cases hOther
      exact ⟨_, .inr rfl, rfl, rfl, rfl⟩
    · rintro _ ⟨⟩
      rfl

/-- The finalizer leaves the evidence of the payload. -/
theorem evidenceOk_finalize {payload : EntryPayload}
    {claimed : PreparedEntryIntentRecord} {writes : EntryWrites}
    (h : command.entryFinalizer t payload claimed answers = .ok writes) :
    writes.claimed = claimed ∧ EvidenceOk t command payload writes := by
  simp only [CommitPreparedEntryCommand.entryFinalizer, bind_eq_ok,
    pure_eq_ok] at h
  obtain ⟨reference, hReference, fingerprint, hFingerprint, _, -, rfl⟩ := h
  obtain ⟨hOld, hNew⟩ := reference_insert hReference
  obtain ⟨hOldPrint, hNewPrint⟩ := fingerprint_insert hFingerprint
  exact ⟨rfl, hOld, hNew, hOldPrint, hNewPrint⟩

/-! ## What others leave alone -/

/-- The tables after a commit of another transaction, as a session of this Book
with this row lock sees them. -/
structure Keeps (t t' : EntryTables) (bookId : UUID)
    (lock : Option (UUID × UUID)) : Prop where
  rows : ∀ row ∈ t.intents, ∃ row' ∈ t'.intents, row'.bindings = row.bindings
    ∧ (lock = some row.key → row' = row)
  references : ∀ row ∈ t.references, row ∈ t'.references
  newReferences : ∀ row ∈ t'.references, row ∈ t.references ∨ row.bookId ≠ bookId
  fingerprints : ∀ row ∈ t.fingerprints, row ∈ t'.fingerprints
  newFingerprints : ∀ row ∈ t'.fingerprints,
    row ∈ t.fingerprints ∨ row.bookId ≠ bookId

theorem SnapshotOk.frame {snapshot : PreparedEntryIntentRecord}
    {lock : Option (UUID × UUID)} (h : SnapshotOk t command snapshot)
    (hKeeps : Keeps t t' command.bookId lock) : SnapshotOk t' command snapshot := by
  obtain ⟨hKey, row, hRow, hBindings⟩ := h
  obtain ⟨row', hRow', hSame, -⟩ := hKeeps.rows row hRow
  exact ⟨hKey, row', hRow', hSame.trans hBindings⟩

theorem WindowChecked.frame {payload : EntryPayload}
    {lock : Option (UUID × UUID)} (h : WindowChecked t command payload)
    (hKeeps : Keeps t t' command.bookId lock) :
    WindowChecked t' command payload := by
  obtain ⟨occurredAt, fingerprint, hOccurred, hFingerprint, hRows⟩ := h
  refine ⟨occurredAt, fingerprint, hOccurred, hFingerprint, ?_⟩
  intro row hRow hBook
  rcases hKeeps.newFingerprints row hRow with hOld | hOther
  · exact hRows row hOld hBook
  · exact absurd hBook hOther

theorem ClaimOk.frame {snapshot claimed : PreparedEntryIntentRecord}
    (h : ClaimOk t command actorId snapshot claimed)
    (hKeeps : Keeps t t' command.bookId (some claimed.key)) :
    ClaimOk t' command actorId snapshot claimed := by
  obtain ⟨old, hOld, hBindings, hCreated⟩ := h.old
  obtain ⟨row', hRow', -, hSame⟩ := hKeeps.rows old hOld
  have hKey : old.key = claimed.key := by
    unfold PreparedEntryIntentRecord.key
    rw [hBindings]
  have hKept : row' = old := hSame (congrArg some hKey.symm)
  subst hKept
  exact ⟨h.bindings, ⟨row', hRow', hBindings, hCreated⟩, h.consumed⟩

theorem EvidenceOk.frame {payload : EntryPayload} {writes : EntryWrites}
    {lock : Option (UUID × UUID)} (h : EvidenceOk t command payload writes)
    (hKeeps : Keeps t t' command.bookId lock) :
    EvidenceOk t' command payload writes where
  reference := by
    intro external hExternal
    obtain ⟨row, hRow, hRest⟩ := h.reference external hExternal
    exact ⟨row, hRow.imp_left (hKeeps.references row), hRest⟩
  newReference := by
    intro row hRow
    obtain ⟨hBook, hNew⟩ := h.newReference row hRow
    refine ⟨hBook, fun hMem => hNew ?_⟩
    obtain ⟨other, hOther, hKey⟩ := List.mem_map.1 hMem
    rcases hKeeps.newReferences other hOther with hOld | hElse
    · exact List.mem_map.2 ⟨other, hOld, hKey⟩
    · exact absurd ((congrArg Prod.fst hKey).trans hBook) hElse
  fingerprint := by
    intro fingerprint hFingerprint
    obtain ⟨row, hRow, hRest⟩ := h.fingerprint fingerprint hFingerprint
    exact ⟨row, hRow.imp_left (hKeeps.fingerprints row), hRest⟩
  newFingerprint := h.newFingerprint

/-- The commits of others keep what a session knows. -/
theorem StageOk.frame {stage : EntryStage} (h : StageOk t p command stage)
    (hKeeps : stage ≠ .started → Keeps t t' command.bookId stage.lock) :
    StageOk t' p command stage := by
  cases stage with
  | started => exact h
  | loaded snapshot => exact ⟨h.1, h.2.frame (hKeeps (by simp))⟩
  | compiled snapshot plan => exact ⟨h.1, h.2.frame (hKeeps (by simp))⟩
  | referenceChecked snapshot plan => exact ⟨h.1, h.2.frame (hKeeps (by simp))⟩
  | fingerprintChecked snapshot plan =>
      exact ⟨h.1, h.2.1.frame (hKeeps (by simp)), h.2.2.frame (hKeeps (by simp))⟩
  | claimed snapshot plan claimed =>
      have hFrame := hKeeps (by simp)
      exact ⟨h.1, h.2.1, h.2.2.1.frame hFrame, h.2.2.2.frame hFrame⟩
  | finalized snapshot plan writes =>
      have hFrame := hKeeps (by simp)
      exact ⟨h.1, h.2.1, h.2.2.1.frame hFrame, h.2.2.2.1.frame hFrame,
        h.2.2.2.2.frame hFrame⟩

/-- A session past its start holds the lock of its Book. -/
theorem StageOk.bookHead {stage : EntryStage} (h : StageOk t p command stage)
    (hBook : p.call.command.bookId = command.bookId) (hStage : stage ≠ .started) :
    CommandLock.bookHead command.bookId ∈ p.locks := by
  rw [← hBook]
  refine bookHead_mem_locks ?_
  cases stage with
  | started => exact absurd rfl hStage
  | loaded snapshot => exact .inl h.1
  | compiled snapshot plan => exact .inl h.1
  | referenceChecked snapshot plan => exact .inl h.1
  | fingerprintChecked snapshot plan => exact .inl h.1
  | claimed snapshot plan claimed =>
      right
      rw [h.1]
      exact Option.some_ne_none _
  | finalized snapshot plan writes =>
      right
      rw [h.1]
      exact Option.some_ne_none _

end Stages

end TrackAnywhere.Ports
