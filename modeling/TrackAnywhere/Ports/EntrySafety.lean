import TrackAnywhere.Ports.EntryInvariant

/-!
# Posted entries and their intents

The invariant of the entry system: every session knows what `StageOk` says,
row locks are exclusive, an intent is consumed exactly when an entry is posted
from it, and every posted entry has its transaction and its evidence.
-/

namespace TrackAnywhere.Ports

open TrackAnywhere.Verified
open TrackAnywhere.Verified.Checked
open TrackAnywhere.Verified.ExactlyOnce

/-! ## Updates of an intent row -/

section Rows

variable {t : EntryTables} {old new row : PreparedEntryIntentRecord}

theorem keys_setIntent (t : EntryTables) (new : PreparedEntryIntentRecord) :
    (t.setIntent new).intents.map (·.key) = t.intents.map (·.key) := by
  unfold EntryTables.setIntent
  rw [List.map_map]
  refine List.map_congr_left fun record _ => ?_
  show (if record.key = new.key then new else record).key = record.key
  split_ifs with hKey
  · exact hKey.symm
  · rfl

theorem mem_setIntent_self (hOld : old ∈ t.intents) (hKey : old.key = new.key) :
    new ∈ (t.setIntent new).intents :=
  List.mem_map.2 ⟨old, hOld, if_pos hKey⟩

theorem mem_setIntent_of_ne (hRow : row ∈ t.intents) (hKey : row.key ≠ new.key) :
    row ∈ (t.setIntent new).intents :=
  List.mem_map.2 ⟨row, hRow, if_neg hKey⟩

theorem eq_or_mem_of_setIntent (h : row ∈ (t.setIntent new).intents) :
    row = new ∨ row ∈ t.intents ∧ row.key ≠ new.key := by
  obtain ⟨record, hRecord, rfl⟩ := List.mem_map.1 h
  split_ifs with hKey
  · exact .inl rfl
  · exact .inr ⟨hRecord, hKey⟩

theorem key_eq_of_bindings (h : old.bindings = new.bindings) : old.key = new.key := by
  unfold PreparedEntryIntentRecord.key
  rw [h]

/-- The rows of an update that keeps the bindings. -/
theorem rows_setIntent (hKeys : (t.intents.map (·.key)).Nodup)
    (hOld : old ∈ t.intents) (hBindings : old.bindings = new.bindings)
    (hRow : row ∈ t.intents) : ∃ row' ∈ (t.setIntent new).intents,
      row'.bindings = row.bindings ∧ (row.key ≠ new.key → row' = row) := by
  by_cases hKey : row.key = new.key
  · have hSame : row = old := List.inj_on_of_nodup_map hKeys hRow hOld
      (hKey.trans (key_eq_of_bindings hBindings).symm)
    subst hSame
    exact ⟨new, mem_setIntent_self hOld hKey, hBindings.symm,
      fun hNe => absurd hKey hNe⟩
  · exact ⟨row, mem_setIntent_of_ne hRow hKey, rfl, fun _ => rfl⟩

theorem insertIntent_ok {proposed : IntentBindings} {t' : EntryTables}
    (h : t.insertIntent proposed = .ok t') :
    t' = t ∨ (proposed.bookId, proposed.intentId) ∉ t.intents.map (·.key)
      ∧ t' = { t with intents := t.intents ++ [⟨proposed, .created⟩] } := by
  simp only [EntryTables.insertIntent, bind_eq_ok, pure_eq_ok] at h
  obtain ⟨_, -, _, -, h⟩ := h
  split_ifs at h with hMem
  · exact .inl h.symm
  · exact .inr ⟨hMem, h.symm⟩

end Rows

/-! ## Posted entries -/

namespace PostedEntry

def payload (e : PostedEntry) : EntryPayload :=
  e.claimed.bindings.canonicalPayload

/-- The application is the plan of the entry, under the receipt of its
command. -/
structure Applied (e : PostedEntry) : Prop where
  bookId : e.application.key.bookId = e.command.bookId
  actor : e.application.key.actorSubjectId = e.actorId
  operation : e.application.key.operation = commitOperation
  commandId : e.application.plan.commandId = e.command.commandId
  plan : ∃ plan : EntryPlan e.transactionId, e.application.plan.plan = plan.plan

end PostedEntry

/-- What a posted entry leaves. -/
structure PostedOk (t : EntryTables) (commands : CommandSystem) (e : PostedEntry) :
    Prop where
  row : e.claimed ∈ t.intents
  consumed : ConsumedBy e.command e.actorId e.claimed
  application : e.Applied
  applied : e.application ∈ commands.applied
  stream : (commands.tables.ledgers e.command.bookId).store.streamEvents
    e.command.bookId ("journal_transaction", e.transactionId) ≠ []
  reference : ∀ external, e.payload.sourceReferenceDigest = some external →
    ∃ row ∈ t.references, row.bookId = e.command.bookId
      ∧ row.reference = external ∧ row.transactionId = e.transactionId
  fingerprint : ∀ fingerprint, e.payload.fingerprintHmac = some fingerprint →
    ∃ row ∈ t.fingerprints, row.bookId = e.command.bookId
      ∧ row.fingerprintHmac = fingerprint ∧ row.transactionId = e.transactionId

theorem PostedOk.mono {t t' : EntryTables} {commands commands' : CommandSystem}
    {e : PostedEntry} (h : PostedOk t commands e)
    (hGrow : LedgersGrow commands commands')
    (hRow : e.claimed ∈ t.intents → e.claimed ∈ t'.intents)
    (hReferences : ∀ row ∈ t.references, row ∈ t'.references)
    (hFingerprints : ∀ row ∈ t.fingerprints, row ∈ t'.fingerprints) :
    PostedOk t' commands' e where
  row := hRow h.row
  consumed := h.consumed
  application := h.application
  applied := hGrow.applied _ h.applied
  stream := by
    obtain ⟨x, hx⟩ := List.exists_mem_of_ne_nil _ h.stream
    obtain ⟨hMem, hKey⟩ := List.mem_filter.1 hx
    exact List.ne_nil_of_mem
      (List.mem_filter.2 ⟨hGrow.events _ x hMem, hKey⟩)
  reference := by
    intro external hExternal
    obtain ⟨row, hRow, hRest⟩ := h.reference external hExternal
    exact ⟨row, hReferences row hRow, hRest⟩
  fingerprint := by
    intro fingerprint hFingerprint
    obtain ⟨row, hRow, hRest⟩ := h.fingerprint fingerprint hFingerprint
    exact ⟨row, hFingerprints row hRow, hRest⟩

/-- The later entry has the fingerprint of the earlier one, and its window
begins after the evidence was created. -/
def OutsideWindow (t : EntryTables) (e e' : PostedEntry) : Prop :=
  e.command.bookId = e'.command.bookId → ∀ fingerprint,
    e.payload.fingerprintHmac = some fingerprint →
    e'.payload.fingerprintHmac = some fingerprint →
    ∃ row ∈ t.fingerprints, row.bookId = e.command.bookId
      ∧ row.fingerprintHmac = fingerprint ∧ row.transactionId = e.transactionId
      ∧ ∃ occurredAt, e'.payload.occurredAt = some occurredAt
        ∧ row.createdAt < occurredAt - CommitPreparedEntryCommand.sevenDays

/-! ## The invariant -/

structure EntryInvariant (sha256 : ByteArray → EventHash) (s : EntrySystem) :
    Prop where
  commands : CommandInvariant sha256 s.commands
  stores : StoresOk sha256 s.commands
  keys : (s.entries.intents.map (·.key)).Nodup
  references : (s.entries.references.map fun r => (r.bookId, r.reference)).Nodup
  sessions : ∀ i session, s.sessions i = some session →
    ∃ p, s.commands.processes i = some p
      ∧ p.call = session.command.financialCall p.call.actor p.call.maxAttempts
      ∧ StageOk s.entries p session.command session.stage
  strangers : ∀ i p, s.commands.processes i = some p → s.sessions i = none →
    p.call.command.operation ≠ commitOperation
  locks : ∀ a b key, a ≠ b → s.rowLock a = some key → s.rowLock b ≠ some key
  cancels : ∀ j row, s.cancels j = some row →
    (∃ cancelledAt, row.lifecycleStatus = .cancelled cancelledAt)
      ∧ ∃ old ∈ s.entries.intents, old.bindings = row.bindings
        ∧ old.lifecycleStatus = .created
  posted : ∀ e ∈ s.posted, PostedOk s.entries s.commands e
  postedKeys : (s.posted.map (·.claimed.key)).Nodup
  postedTransactions :
    (s.posted.map fun e => (e.command.bookId, e.transactionId)).Nodup
  consumed : ∀ row ∈ s.entries.intents, ∀ consumedAt requestId transactionId,
    row.lifecycleStatus = .consumed consumedAt requestId transactionId →
    ∃ e ∈ s.posted, e.claimed = row
  complete : ∀ a ∈ s.commands.applied, a.key.operation = commitOperation →
    ∃ e ∈ s.posted, e.application = a
  windows : s.posted.Pairwise (OutsideWindow s.entries)

theorem entryInvariant_initial (sha256 : ByteArray → EventHash)
    (writeState : UUID → Option BookWriteState) (catalog : UUID → Catalog)
    (clock : Moment) :
    EntryInvariant sha256 (.initial writeState catalog clock) where
  commands := commandInvariant_initial sha256 writeState catalog _
  stores := fun bookId =>
    storeInvariant_opened sha256 (List.nodup_singleton bookId)
  keys := List.nodup_nil
  references := List.nodup_nil
  sessions := fun _ _ h => nomatch h
  strangers := fun _ _ h => nomatch h
  locks := by
    intro a b key _ h
    cases a <;> cases h
  cancels := fun _ _ h => nomatch h
  posted := fun _ h => absurd h List.not_mem_nil
  postedKeys := List.nodup_nil
  postedTransactions := List.nodup_nil
  consumed := fun _ h => absurd h List.not_mem_nil
  complete := fun _ h => absurd h List.not_mem_nil
  windows := .nil

section Steps

variable {sha256 : ByteArray → EventHash} {s s' : EntrySystem} {i : Nat}
  {session : EntrySession} {p q : CommandProcess}

theorem rowLock_setSession (s : EntrySystem) (i : Nat) (session : EntrySession)
    (holder : Nat ⊕ Nat) : (s.setSession i session).rowLock holder
      = if holder = .inl i then session.stage.lock else s.rowLock holder := by
  cases holder with
  | inl j =>
      by_cases hSame : j = i
      · subst hSame
        simp [EntrySystem.rowLock, EntrySystem.setSession]
      · simp [EntrySystem.rowLock, EntrySystem.setSession, hSame]
  | inr j => simp [EntrySystem.rowLock, EntrySystem.setSession]

/-- The process of a session, with what the session knows. -/
theorem EntryInvariant.ownStage (h : EntryInvariant sha256 s)
    (hSession : s.sessions i = some session)
    (hProcess : s.commands.processes i = some p) :
    p.call = session.command.financialCall p.call.actor p.call.maxAttempts
      ∧ StageOk s.entries p session.command session.stage := by
  obtain ⟨own, hOwn, hCall, hStage⟩ := h.sessions i session hSession
  rw [hProcess] at hOwn
  cases hOwn
  exact ⟨hCall, hStage⟩

/-- A step of one session that commits nothing. -/
theorem EntryInvariant.local (h : EntryInvariant sha256 s) (stage : EntryStage)
    (hSession : s.sessions i = some session)
    (hProcess : s.commands.processes i = some p)
    (hCommands : CommandInvariant sha256 (s.commands.setProcess i q))
    (hCall : q.call = p.call)
    (hStage : StageOk s.entries q session.command stage)
    (hLock : ∀ key, stage.lock = some key →
      session.stage.lock = some key ∨ s.RowFree key) (clock : Moment) :
    EntryInvariant sha256 { (s.setProcess i q).setSession i
      { session with stage := stage } with clock := clock } where
  commands := hCommands
  stores := h.stores
  keys := h.keys
  references := h.references
  sessions := by
    intro j other hOther
    change Function.update s.sessions i _ j = some other at hOther
    by_cases hSame : j = i
    · subst hSame
      rw [Function.update_self] at hOther
      cases hOther
      refine ⟨q, CommandSystem.setProcess_self s.commands j q, ?_, hStage⟩
      rw [hCall]
      exact (h.ownStage hSession hProcess).1
    · rw [Function.update_of_ne hSame] at hOther
      obtain ⟨own, hOwn, hRest⟩ := h.sessions j other hOther
      exact ⟨own, (CommandSystem.setProcess_ne s.commands q hSame).trans hOwn, hRest⟩
  strangers := by
    intro j other hOther hNone
    change Function.update s.sessions i _ j = none at hNone
    by_cases hSame : j = i
    · subst hSame
      rw [Function.update_self] at hNone
      cases hNone
    · rw [Function.update_of_ne hSame] at hNone
      exact h.strangers j other
        ((CommandSystem.setProcess_ne s.commands q hSame).symm.trans hOther) hNone
  locks := by
    have hOwn : s.rowLock (.inl i) = session.stage.lock := by
      simp [EntrySystem.rowLock, hSession]
    intro a b key hNe hA
    change ((s.setProcess i q).setSession i _).rowLock a = some key at hA
    change ((s.setProcess i q).setSession i _).rowLock b ≠ some key
    rw [rowLock_setSession] at hA ⊢
    change (if a = .inl i then stage.lock else s.rowLock a) = some key at hA
    change (if b = .inl i then stage.lock else s.rowLock b) ≠ some key
    by_cases hAI : a = .inl i
    · subst hAI
      rw [if_pos rfl] at hA
      rw [if_neg (Ne.symm hNe)]
      rcases hLock key hA with hHeld | hFree
      · exact h.locks _ b key hNe (hOwn.trans hHeld)
      · exact hFree b
    · rw [if_neg hAI] at hA
      by_cases hBI : b = .inl i
      · subst hBI
        rw [if_pos rfl]
        intro hB
        rcases hLock key hB with hHeld | hFree
        · exact h.locks a _ key hNe hA (hOwn.trans hHeld)
        · exact hFree a hA
      · rw [if_neg hBI]
        exact h.locks a b key hNe hA
  cancels := h.cancels
  posted := fun e he => (h.posted e he).mono ⟨fun _ _ h => h, fun _ h => h⟩
    id (fun _ h => h) fun _ h => h
  postedKeys := h.postedKeys
  postedTransactions := h.postedTransactions
  consumed := h.consumed
  complete := h.complete
  windows := h.windows

/-- The lock of a session that has claimed its row. -/
theorem EntryInvariant.locks_ne (h : EntryInvariant sha256 s)
    (hSession : s.sessions i = some session) {key : UUID × UUID}
    (hLock : session.stage.lock = some key) (holder : Nat ⊕ Nat)
    (hOther : holder ≠ .inl i) : s.rowLock holder ≠ some key := by
  refine h.locks (.inl i) holder key (Ne.symm hOther) ?_
  simpa [EntrySystem.rowLock, hSession] using hLock

/-- Sessions past their start are in different Books. -/
theorem EntryInvariant.books_ne (h : EntryInvariant sha256 s) {j : Nat}
    {other : EntrySession} {r : CommandProcess} (hNe : i ≠ j)
    (hSession : s.sessions i = some session)
    (hProcess : s.commands.processes i = some p)
    (hStage : session.stage ≠ .started) (hOther : s.sessions j = some other)
    (hR : s.commands.processes j = some r) (hOtherStage : other.stage ≠ .started) :
    session.command.bookId ≠ other.command.bookId := by
  obtain ⟨hCall, hOwn⟩ := h.ownStage hSession hProcess
  obtain ⟨hOtherCall, hOtherOwn⟩ := h.ownStage hOther hR
  have hHead := hOwn.bookHead (by rw [hCall]; rfl) hStage
  have hOtherHead := hOtherOwn.bookHead (by rw [hOtherCall]; rfl) hOtherStage
  intro hBook
  rw [← hBook] at hOtherHead
  exact h.commands.exclusive i j p r hNe hProcess hR _ hHead hOtherHead

/-- What the plan of a session does to its Book: it opens the stream of its
transaction. -/
theorem EntryInvariant.opens (h : EntryInvariant sha256 s)
    (hProcess : s.commands.processes i = some p) {requestHash : EventHash}
    {result : CommandResult} {pending : PendingWrites} {transactionId : UUID}
    {plan : EntryPlan transactionId}
    (hPhase : p.phase = .committing requestHash result (some pending))
    (hPlan : pending.plan = plan.plan) :
    pending.application.key = p.scope
      ∧ pending.application.plan.commandId = p.call.command.commandId
      ∧ (s.commands.tables.ledgers p.call.command.bookId).store.streamEvents
        p.call.command.bookId ("journal_transaction", transactionId) = []
      ∧ ((s.commands.commit (some pending)).tables.ledgers
        p.call.command.bookId).store.streamEvents p.call.command.bookId
          ("journal_transaction", transactionId) ≠ [] := by
  have hOwn := h.commands.phases i p hProcess
  unfold PhaseOk at hOwn
  rw [hPhase] at hOwn
  obtain ⟨⟨⟨firstHash, hReceipt⟩, -, -, hApplies⟩, -, -⟩ := hOwn
  have hScope : pending.receipt.scope = p.scope := by
    rw [hReceipt]
    rfl
  have hLedger : (s.commands.commit (some pending)).tables.ledgers
      p.call.command.bookId = pending.ledger := by
    show Function.update s.commands.tables.ledgers pending.receipt.scope.bookId
      pending.ledger p.call.command.bookId = pending.ledger
    rw [hScope]
    exact Function.update_self ..
  have hKey : ("journal_transaction", transactionId)
      ∈ pending.plan.events.map (·.streamKey) := by
    rw [hPlan, plan.hEvents, List.map_cons, plan.hFinancial]
    exact List.mem_cons_self
  obtain ⟨hEmpty, hOpened⟩ := planApplies_opens (h.stores _) hApplies hKey
    (by rw [hPlan]; exact plan.hNew)
  refine ⟨hScope, ?_, hEmpty, ?_⟩
  · show pending.receipt.commandId = _
    rw [hReceipt]
    rfl
  · rw [hLedger]
    exact hOpened

/-- The commit of a session. -/
theorem EntryInvariant.publish (h : EntryInvariant sha256 s)
    {requestHash : EventHash} {result : CommandResult} {pending : PendingWrites}
    {snapshot : PreparedEntryIntentRecord} {action : CommandAction}
    {plan : EntryPlan snapshot.bindings.canonicalPayload.transactionId}
    {writes : EntryWrites} (hSession : s.sessions i = some session)
    (hProcess : s.commands.processes i = some p)
    (hPhase : p.phase = .committing requestHash result (some pending))
    (hStage : session.stage = .finalized snapshot plan writes)
    (hCall : q.call = p.call) (hPlan : q.phase.plan? = none)
    (hStep : Executes sha256 s.commands action
      ((s.commands.commit (some pending)).setProcess i q)) :
    EntryInvariant sha256
      (((s.publish session.command p.call.actor.subjectId writes pending
        ).setProcess i q).setSession i session.restart) := by
  obtain ⟨hOwnCall, hOwn⟩ := h.ownStage hSession hProcess
  rw [hStage] at hOwn
  obtain ⟨hPlanned, -, hClaim, hWindow, hEvidence⟩ := hOwn
  have hPending : pending.plan = plan.plan := by
    rw [hPhase] at hPlanned
    exact Option.some.inj hPlanned
  have hBook : p.call.command.bookId = session.command.bookId := by
    rw [hOwnCall]
    rfl
  have hCommand : p.call.command.commandId = session.command.commandId := by
    rw [hOwnCall]
    rfl
  have hOperation : p.call.command.operation = commitOperation := by
    rw [hOwnCall]
    rfl
  obtain ⟨hScope, hCommandId, hEmpty, hOpened⟩ :=
    h.opens hProcess hPhase hPending
  rw [hBook] at hEmpty hOpened
  obtain ⟨hStores, hGrow⟩ :=
    ledgersGrow_of_executes h.commands h.stores hStep
  have hLock : session.stage.lock = some writes.claimed.key := by
    rw [hStage]
    rfl
  obtain ⟨old, hOld, hOldBindings, hCreated⟩ := hClaim.old
  have hOldKey := key_eq_of_bindings hOldBindings
  have hTransaction : writes.claimed.bindings.canonicalPayload
      = snapshot.bindings.canonicalPayload := by
    rw [hClaim.bindings]
  -- rows of other keys stay as they are
  have hRows : ∀ row ∈ s.entries.intents, row.key ≠ writes.claimed.key →
      row ∈ (s.entries.setIntent writes.claimed).intents :=
    fun row hRow hKey => mem_setIntent_of_ne hRow hKey
  have hPostedKey : ∀ e ∈ s.posted, e.claimed.key ≠ writes.claimed.key := by
    intro e he hKey
    have hSame : e.claimed = old := List.inj_on_of_nodup_map h.keys
      (h.posted e he).row hOld (hKey.trans hOldKey.symm)
    obtain ⟨_, hConsumed, -⟩ := (h.posted e he).consumed.consumed
    rw [hSame, hCreated] at hConsumed
    cases hConsumed
  have hPostedTransaction : ∀ e ∈ s.posted,
      e.command.bookId = session.command.bookId →
      e.transactionId ≠ snapshot.bindings.canonicalPayload.transactionId := by
    intro e he hSame hId
    have hStream := (h.posted e he).stream
    rw [hSame, hId] at hStream
    exact hStream hEmpty
  have hPosted : ∀ e ∈ s.posted, PostedOk (s.entries.publish writes)
      ((s.commands.commit (some pending)).setProcess i q) e := by
    intro e he
    exact (h.posted e he).mono hGrow
      (fun hRow => hRows _ hRow (hPostedKey e he))
      (fun row hRow => List.mem_append_left _ hRow)
      fun row hRow => List.mem_append_left _ hRow
  have hNew : PostedOk (s.entries.publish writes)
      ((s.commands.commit (some pending)).setProcess i q)
      ⟨session.command, p.call.actor.subjectId, writes.claimed,
        pending.application⟩ := by
    have hId : (⟨session.command, p.call.actor.subjectId, writes.claimed,
        pending.application⟩ : PostedEntry).transactionId
        = snapshot.bindings.canonicalPayload.transactionId := by
      unfold PostedEntry.transactionId
      rw [hTransaction]
    refine ⟨mem_setIntent_self hOld hOldKey, hClaim.consumed, ⟨?_, ?_, ?_, ?_, ?_⟩,
      List.mem_append_right _ List.mem_cons_self, ?_, ?_, ?_⟩
    · show pending.application.key.bookId = _
      rw [hScope]
      exact hBook
    · show pending.application.key.actorSubjectId = _
      rw [hScope]
      rfl
    · show pending.application.key.operation = _
      rw [hScope]
      exact hOperation
    · exact hCommandId.trans hCommand
    · rw [hId]
      exact ⟨plan, hPending⟩
    · rw [hId]
      exact hOpened
    · intro external hExternal
      rw [hId]
      unfold PostedEntry.payload at hExternal
      rw [hTransaction] at hExternal
      obtain ⟨row, hRow, hRest⟩ := hEvidence.reference external hExternal
      refine ⟨row, ?_, hRest⟩
      rcases hRow with hRow | hRow
      · exact List.mem_append_left _ hRow
      · exact List.mem_append_right _ (Option.mem_toList.2 hRow)
    · intro fingerprint hFingerprint
      rw [hId]
      unfold PostedEntry.payload at hFingerprint
      rw [hTransaction] at hFingerprint
      obtain ⟨row, hRow, hRest⟩ := hEvidence.fingerprint fingerprint hFingerprint
      refine ⟨row, ?_, hRest⟩
      rcases hRow with hRow | hRow
      · exact List.mem_append_left _ hRow
      · exact List.mem_append_right _ (Option.mem_toList.2 hRow)
  constructor
  case commands => exact commandInvariant_step h.commands hStep
  case stores => exact hStores
  case keys =>
    show ((s.entries.setIntent writes.claimed).intents.map _).Nodup
    rw [keys_setIntent]
    exact h.keys
  case references =>
    show ((s.entries.references ++ writes.reference.toList).map _).Nodup
    rw [List.map_append]
    cases hReference : writes.reference with
    | none => simpa using h.references
    | some row =>
        refine List.Nodup.append h.references (List.nodup_singleton _) ?_
        exact List.disjoint_singleton.2
          (hEvidence.newReference row hReference).2
  case sessions =>
    intro j other hOther
    change Function.update s.sessions i _ j = some other at hOther
    by_cases hSame : j = i
    · subst hSame
      rw [Function.update_self] at hOther
      cases hOther
      refine ⟨q, CommandSystem.setProcess_self _ j q, ?_, hPlan⟩
      rw [hCall]
      exact hOwnCall
    · rw [Function.update_of_ne hSame] at hOther
      obtain ⟨own, hOwnProcess, hOtherCall, hOtherStage⟩ :=
        h.sessions j other hOther
      refine ⟨own, (CommandSystem.setProcess_ne _ q hSame).trans hOwnProcess,
        hOtherCall, hOtherStage.frame fun hStarted => ?_⟩
      have hBooks : session.command.bookId ≠ other.command.bookId :=
        h.books_ne (Ne.symm hSame) hSession hProcess
          (by rw [hStage]; exact fun h => nomatch h) hOther hOwnProcess hStarted
      have hOtherLock : other.stage.lock ≠ some writes.claimed.key := by
        have := h.locks_ne hSession hLock (.inl j)
          (fun hBoth => hSame (Sum.inl.inj hBoth))
        simpa [EntrySystem.rowLock, hOther] using this
      refine ⟨?_, fun row hRow => List.mem_append_left _ hRow, ?_,
        fun row hRow => List.mem_append_left _ hRow, ?_⟩
      · intro row hRow
        obtain ⟨row', hRow', hBindings, hKept⟩ :=
          rows_setIntent h.keys hOld hOldBindings hRow
        refine ⟨row', hRow', hBindings, fun hHeld => hKept fun hKey => ?_⟩
        rw [hKey] at hHeld
        exact hOtherLock hHeld
      · intro row hRow
        rcases List.mem_append.1 hRow with hRow | hRow
        · exact .inl hRow
        · right
          rw [(hEvidence.newReference row (Option.mem_toList.1 hRow)).1]
          exact hBooks
      · intro row hRow
        rcases List.mem_append.1 hRow with hRow | hRow
        · exact .inl hRow
        · right
          rw [hEvidence.newFingerprint row (Option.mem_toList.1 hRow)]
          exact hBooks
  case strangers =>
    intro j other hOther hNone
    change Function.update s.sessions i _ j = none at hNone
    by_cases hSame : j = i
    · subst hSame
      rw [Function.update_self] at hNone
      cases hNone
    · rw [Function.update_of_ne hSame] at hNone
      exact h.strangers j other
        ((CommandSystem.setProcess_ne _ q hSame).symm.trans hOther) hNone
  case locks =>
    have hNone : ∀ holder key, (((s.publish session.command
        p.call.actor.subjectId writes pending).setProcess i q).setSession i
          session.restart).rowLock holder = some key →
        s.rowLock holder = some key := by
      intro holder key hHeld
      rw [rowLock_setSession] at hHeld
      split_ifs at hHeld
      · cases hHeld
      · exact hHeld
    intro a b key hNe hA hB
    exact h.locks a b key hNe (hNone a key hA) (hNone b key hB)
  case cancels =>
    intro j row hRow
    obtain ⟨hCancelled, old', hOld', hBindings, hOldCreated⟩ := h.cancels j row hRow
    refine ⟨hCancelled, old', hRows old' hOld' ?_, hBindings, hOldCreated⟩
    have hHeld := h.locks_ne hSession hLock (.inr j)
      (fun hBoth => nomatch hBoth)
    rw [key_eq_of_bindings hBindings]
    intro hKey
    refine hHeld ?_
    rw [← hKey]
    change (s.cancels j).map (·.key) = _
    change s.cancels j = some row at hRow
    rw [hRow]
    rfl
  case posted =>
    intro e he
    rcases List.mem_append.1 he with he | he
    · exact hPosted e he
    · rw [List.mem_singleton.1 he]
      exact hNew
  case postedKeys =>
    show ((s.posted ++ [_]).map _).Nodup
    rw [List.map_append]
    refine List.Nodup.append h.postedKeys (List.nodup_singleton _)
      (List.disjoint_singleton.2 fun hMem => ?_)
    obtain ⟨e, he, hKey⟩ := List.mem_map.1 hMem
    exact hPostedKey e he hKey
  case postedTransactions =>
    show ((s.posted ++ [_]).map _).Nodup
    rw [List.map_append]
    refine List.Nodup.append h.postedTransactions (List.nodup_singleton _)
      (List.disjoint_singleton.2 fun hMem => ?_)
    obtain ⟨e, he, hKey⟩ := List.mem_map.1 hMem
    obtain ⟨hSame, hId⟩ := Prod.ext_iff.1 hKey
    exact hPostedTransaction e he hSame
      (hId.trans (congrArg EntryPayload.transactionId hTransaction))
  case consumed =>
    intro row hRow consumedAt requestId transactionId hConsumed
    rcases eq_or_mem_of_setIntent hRow with hClaimed | ⟨hMem, -⟩
    · exact ⟨_, List.mem_append_right _ List.mem_cons_self, hClaimed.symm⟩
    · obtain ⟨e, he, hSame⟩ := h.consumed row hMem _ _ _ hConsumed
      exact ⟨e, List.mem_append_left _ he, hSame⟩
  case complete =>
    intro a ha hCommit
    rcases List.mem_append.1 ha with ha | ha
    · obtain ⟨e, he, hSame⟩ := h.complete a ha hCommit
      exact ⟨e, List.mem_append_left _ he, hSame⟩
    · rw [List.mem_singleton.1 ha]
      exact ⟨_, List.mem_append_right _ List.mem_cons_self, rfl⟩
  case windows =>
    refine List.pairwise_append.2 ⟨?_, List.pairwise_singleton _ _, ?_⟩
    · refine h.windows.imp fun hOutside hSame fingerprint hE hE' => ?_
      obtain ⟨row, hRow, hRest⟩ := hOutside hSame fingerprint hE hE'
      exact ⟨row, List.mem_append_left _ hRow, hRest⟩
    · intro e he e' he' hSame fingerprint hE hE'
      obtain rfl := List.mem_singleton.1 he'
      obtain ⟨row, hRow, hRowBook, hHmac, hId⟩ :=
        (h.posted e he).fingerprint fingerprint hE
      obtain ⟨occurredAt, own, hOccurred, hOwn, hRecent⟩ := hWindow
      unfold PostedEntry.payload at hE'
      rw [hTransaction, hOwn] at hE'
      cases hE'
      refine ⟨row, List.mem_append_left _ hRow, hRowBook, hHmac, hId, occurredAt,
        ?_, Int.lt_of_not_ge fun hInside => ?_⟩
      · unfold PostedEntry.payload
        rw [hTransaction]
        exact hOccurred
      · have hFound := hRecent row hRow (hRowBook.trans hSame) hHmac hInside
        exact hPostedTransaction e he hSame (hId.symm.trans hFound)

/-- A step moves its own process only. -/
theorem executes_processes {c c' : CommandSystem} {action : CommandAction}
    (hStep : Executes sha256 c action c') {j : Nat} :
    (j ∉ action.process? → c'.processes j = c.processes j)
      ∧ ∀ r', c'.processes j = some r' →
        (∃ r, c.processes j = some r ∧ r'.call = r.call)
          ∨ ∃ call, action = .call j call ∧ r'.call = call := by
  have hSet : ∀ {i : Nat} {c₁ : CommandSystem} {p q : CommandProcess},
      c₁.processes = c.processes → c.processes i = some p → q.call = p.call →
      (j ∉ (some i) → (c₁.setProcess i q).processes j = c.processes j)
        ∧ ∀ r', (c₁.setProcess i q).processes j = some r' →
          (∃ r, c.processes j = some r ∧ r'.call = r.call)
            ∨ ∃ call, action = .call j call ∧ r'.call = call := by
    intro i c₁ p q hProcesses hProcess hCall
    by_cases hSame : j = i
    · subst hSame
      refine ⟨fun hNot => absurd rfl hNot, fun r' hR' => ?_⟩
      rw [CommandSystem.setProcess_self] at hR'
      cases hR'
      exact .inl ⟨p, hProcess, hCall⟩
    · rw [CommandSystem.setProcess_ne c₁ q hSame, hProcesses]
      exact ⟨fun _ => rfl, fun r' hR' => .inl ⟨r', hR', rfl⟩⟩
  have hCommit : ∀ writes, (c.commit writes).processes = c.processes := by
    intro writes
    cases writes <;> rfl
  cases hStep with
  | @call i call keyHash hIdle hStart =>
      by_cases hSame : j = i
      · subst hSame
        refine ⟨fun hNot => absurd rfl hNot, fun r' hR' => ?_⟩
        rw [CommandSystem.setProcess_self] at hR'
        cases hR'
        exact .inr ⟨call, rfl, rfl⟩
      · rw [CommandSystem.setProcess_ne c _ hSame]
        exact ⟨fun _ => rfl, fun r' hR' => .inl ⟨r', hR', rfl⟩⟩
  | statement hProcess hNext hFree => exact hSet rfl hProcess rfl
  | raise hProcess hNext => exact hSet rfl hProcess (plan?_fail _ _).2
  | fault hProcess hRunning => exact hSet rfl hProcess (plan?_fail _ _).2
  | commit hProcess hPhase => exact hSet (hCommit _) hProcess rfl
  | commitLost hProcess hPhase =>
      exact hSet (hCommit _) hProcess (plan?_fail _ _).2
  | catalog => exact ⟨fun _ => rfl, fun r' hR' => .inl ⟨r', hR', rfl⟩⟩

/-- A step of another command. -/
theorem EntryInvariant.other (h : EntryInvariant sha256 s) {action : CommandAction}
    {commands : CommandSystem}
    (hOther : ∀ i ∈ action.process?, s.sessions i = none)
    (hCall : ∀ i call, action = .call i call →
      call.command.operation ≠ commitOperation)
    (hStep : Executes sha256 s.commands action commands) :
    EntryInvariant sha256 { s with commands := commands } := by
  obtain ⟨hStores, hGrow⟩ := ledgersGrow_of_executes h.commands h.stores hStep
  constructor
  case commands => exact commandInvariant_step h.commands hStep
  case stores => exact hStores
  case keys => exact h.keys
  case references => exact h.references
  case sessions =>
    intro j session hSession
    obtain ⟨own, hOwn, hRest⟩ := h.sessions j session hSession
    refine ⟨own, ?_, hRest⟩
    rw [← hOwn]
    refine (executes_processes hStep).1 fun hMem => ?_
    rw [hOther j hMem] at hSession
    cases hSession
  case strangers =>
    intro j r hR hNone
    rcases (executes_processes hStep).2 r hR with ⟨own, hOwn, hSame⟩ | ⟨call, hAction, hSame⟩
    · rw [hSame]
      exact h.strangers j own hOwn hNone
    · rw [hSame]
      exact hCall j call hAction
  case locks => exact h.locks
  case cancels => exact h.cancels
  case posted =>
    exact fun e he => (h.posted e he).mono hGrow id (fun _ h => h) fun _ h => h
  case postedKeys => exact h.postedKeys
  case postedTransactions => exact h.postedTransactions
  case consumed => exact h.consumed
  case complete =>
    intro a ha hCommit
    rcases unchanged_or_commitsNew h.commands hStep with ⟨-, -, hSame⟩ | hNew
    · change a ∈ commands.applied at ha
      rw [hSame] at ha
      exact h.complete a ha hCommit
    · obtain ⟨i, p, _, writes, hAction, hProcess, -, hKey, -, hApplied⟩ := hNew
      change a ∈ commands.applied at ha
      rw [hApplied] at ha
      rcases List.mem_append.1 ha with ha | ha
      · exact h.complete a ha hCommit
      · -- a stranger does not commit intents
        rw [List.mem_singleton.1 ha, hKey] at hCommit
        have hNone : s.sessions i = none :=
          hOther i (by rcases hAction with rfl | rfl <;> rfl)
        exact absurd hCommit (h.strangers i p hProcess hNone)
  case windows => exact h.windows

/-- A commit begins. -/
theorem EntryInvariant.call (h : EntryInvariant sha256 s)
    {command : CommitPreparedEntryCommand} {actor : CommandActor}
    {maxAttempts : Nat} {keyHash : EventHash}
    (hIdle : s.commands.processes i = none)
    (hStart : startFinancial sha256 (command.financialCall actor maxAttempts)
      = .ok keyHash) :
    EntryInvariant sha256 ((s.setProcess i
      ⟨command.financialCall actor maxAttempts, keyHash, 0, .begun⟩).setSession i
        ⟨command, .started⟩) := by
  have hStep : Executes sha256 s.commands (.call i _) _ := .call hIdle hStart
  have hNone : s.sessions i = none := by
    cases hSession : s.sessions i with
    | none => rfl
    | some session =>
        obtain ⟨_, hProcess, -⟩ := h.sessions i session hSession
        rw [hIdle] at hProcess
        cases hProcess
  constructor
  case commands => exact commandInvariant_step h.commands hStep
  case stores => exact h.stores
  case keys => exact h.keys
  case references => exact h.references
  case sessions =>
    intro j session hSession
    change Function.update s.sessions i _ j = some session at hSession
    by_cases hSame : j = i
    · subst hSame
      rw [Function.update_self] at hSession
      cases hSession
      exact ⟨_, CommandSystem.setProcess_self s.commands j _, rfl, rfl⟩
    · rw [Function.update_of_ne hSame] at hSession
      obtain ⟨own, hOwn, hRest⟩ := h.sessions j session hSession
      exact ⟨own, (CommandSystem.setProcess_ne s.commands _ hSame).trans hOwn, hRest⟩
  case strangers =>
    intro j r hR hFree
    change Function.update s.sessions i _ j = none at hFree
    by_cases hSame : j = i
    · subst hSame
      rw [Function.update_self] at hFree
      cases hFree
    · rw [Function.update_of_ne hSame] at hFree
      exact h.strangers j r
        ((CommandSystem.setProcess_ne s.commands _ hSame).symm.trans hR) hFree
  case locks =>
    have hHeld : ∀ holder key, ((s.setProcess i ⟨command.financialCall actor
        maxAttempts, keyHash, 0, .begun⟩).setSession i ⟨command, .started⟩).rowLock
          holder = some key → s.rowLock holder = some key := by
      intro holder key hHeld
      rw [rowLock_setSession] at hHeld
      split_ifs at hHeld
      · cases hHeld
      · exact hHeld
    intro a b key hNe hA hB
    exact h.locks a b key hNe (hHeld a key hA) (hHeld b key hB)
  case cancels => exact h.cancels
  case posted =>
    exact fun e he => (h.posted e he).mono ⟨fun _ _ h => h, fun _ h => h⟩ id
      (fun _ h => h) fun _ h => h
  case postedKeys => exact h.postedKeys
  case postedTransactions => exact h.postedTransactions
  case consumed => exact h.consumed
  case complete => exact h.complete
  case windows => exact h.windows

/-- An intent is inserted, or its row is updated by a cancellation: no row of
another state than `created` changes. -/
theorem EntryInvariant.intents (h : EntryInvariant sha256 s)
    {entries : EntryTables} {cancels : Nat → Option PreparedEntryIntentRecord}
    (hReferences : entries.references = s.entries.references)
    (hFingerprints : entries.fingerprints = s.entries.fingerprints)
    (hKeys : (entries.intents.map (·.key)).Nodup)
    (hRows : ∀ row ∈ s.entries.intents, ∃ row' ∈ entries.intents,
      row'.bindings = row.bindings ∧ (row.lifecycleStatus = .created ∨ row' = row)
        ∧ ∀ holder, ({ s with cancels := cancels } : EntrySystem).rowLock holder
          = some row.key → row' = row)
    (hConsumed : ∀ row ∈ entries.intents, row ∈ s.entries.intents
      ∨ ∀ consumedAt requestId transactionId,
        row.lifecycleStatus ≠ .consumed consumedAt requestId transactionId)
    (hCancels : ∀ j row, cancels j = some row → s.cancels j = some row) :
    EntryInvariant sha256 { s with entries := entries, cancels := cancels } := by
  have hKept : ∀ row ∈ s.entries.intents, row.lifecycleStatus ≠ .created →
      row ∈ entries.intents := by
    intro row hRow hStatus
    obtain ⟨row', hRow', -, hSame, -⟩ := hRows row hRow
    rcases hSame with hCreated | rfl
    · exact absurd hCreated hStatus
    · exact hRow'
  constructor
  case commands => exact h.commands
  case stores => exact h.stores
  case keys => exact hKeys
  case references =>
    show (entries.references.map _).Nodup
    rw [hReferences]
    exact h.references
  case sessions =>
    intro j session hSession
    obtain ⟨own, hOwn, hCall, hStage⟩ := h.sessions j session hSession
    refine ⟨own, hOwn, hCall, hStage.frame fun _ => ⟨?_, ?_, ?_, ?_, ?_⟩⟩
    · intro row hRow
      obtain ⟨row', hRow', hBindings, -, hHeld⟩ := hRows row hRow
      refine ⟨row', hRow', hBindings, fun hLock => hHeld (.inl j) ?_⟩
      change (s.sessions j).bind _ = _
      change s.sessions j = some session at hSession
      rw [hSession]
      exact hLock
    · rw [hReferences]
      exact fun _ h => h
    · rw [hReferences]
      exact fun _ h => .inl h
    · rw [hFingerprints]
      exact fun _ h => h
    · rw [hFingerprints]
      exact fun _ h => .inl h
  case strangers => exact h.strangers
  case locks =>
    have hLess : ∀ holder key,
        ({ s with entries := entries, cancels := cancels } : EntrySystem).rowLock
          holder = some key → s.rowLock holder = some key := by
      intro holder key hHeld
      cases holder with
      | inl i => exact hHeld
      | inr j =>
          obtain ⟨row, hRow, hKey⟩ := Option.map_eq_some_iff.1 hHeld
          exact Option.map_eq_some_iff.2 ⟨row, hCancels j row hRow, hKey⟩
    intro a b key hNe hA hB
    exact h.locks a b key hNe (hLess a key hA) (hLess b key hB)
  case cancels =>
    intro j row hRow
    obtain ⟨hCancelled, old, hOld, hBindings, hCreated⟩ :=
      h.cancels j row (hCancels j row hRow)
    obtain ⟨row', hRow', -, -, hHeld⟩ := hRows old hOld
    have hSame : row' = old := by
      refine hHeld (.inr j) ?_
      rw [key_eq_of_bindings hBindings]
      exact Option.map_eq_some_iff.2 ⟨row, hRow, rfl⟩
    subst hSame
    exact ⟨hCancelled, row', hRow', hBindings, hCreated⟩
  case posted =>
    intro e he
    refine (h.posted e he).mono (LedgersGrow.refl _) (fun hRow => ?_) ?_ ?_
    · obtain ⟨_, hStatus, -⟩ := (h.posted e he).consumed.consumed
      refine hKept _ hRow ?_
      rw [hStatus]
      exact fun h => nomatch h
    · rw [hReferences]
      exact fun _ h => h
    · rw [hFingerprints]
      exact fun _ h => h
  case postedKeys => exact h.postedKeys
  case postedTransactions => exact h.postedTransactions
  case consumed =>
    intro row hRow consumedAt requestId transactionId hStatus
    rcases hConsumed row hRow with hMem | hNot
    · exact h.consumed row hMem _ _ _ hStatus
    · exact absurd hStatus (hNot _ _ _)
  case complete => exact h.complete
  case windows =>
    refine h.windows.imp fun hOutside => ?_
    unfold OutsideWindow
    rw [hFingerprints]
    exact hOutside

/-- An intent is prepared. -/
theorem EntryInvariant.prepare (h : EntryInvariant sha256 s)
    {proposed : IntentBindings} {entries : EntryTables}
    (hInsert : s.entries.insertIntent proposed = .ok entries) :
    EntryInvariant sha256 { s with entries := entries } := by
  rcases insertIntent_ok hInsert with rfl | ⟨hNew, rfl⟩
  · exact h
  refine h.intents rfl rfl ?_ ?_ ?_ fun _ _ hRow => hRow
  · rw [List.map_append]
    exact List.Nodup.append h.keys (List.nodup_singleton _)
      (List.disjoint_singleton.2 hNew)
  · intro row hRow
    exact ⟨row, List.mem_append_left _ hRow, rfl, .inr rfl, fun _ _ => rfl⟩
  · intro row hRow
    rcases List.mem_append.1 hRow with hRow | hRow
    · exact .inl hRow
    · right
      rw [List.mem_singleton.1 hRow]
      exact fun _ _ _ h => nomatch h

/-- A cancellation updates its row. -/
theorem EntryInvariant.cancel (h : EntryInvariant sha256 s) {j : Nat}
    {bookId intentId : UUID} {actorId : String} {old : PreparedEntryIntentRecord}
    {cancelledAt clock : Moment}
    (hRead : s.entries.cancellableIntent bookId actorId intentId = some old)
    (hRow : s.RowFree old.key) :
    EntryInvariant sha256 { s with
      cancels := Function.update s.cancels j
        (some { old with lifecycleStatus := .cancelled cancelledAt })
      clock := clock } := by
  have hFound := List.find?_some hRead
  simp only [decide_eq_true_eq] at hFound
  have hLock : ∀ holder key,
      ({ s with
        cancels := Function.update s.cancels j
          (some { old with lifecycleStatus := .cancelled cancelledAt })
        clock := clock } : EntrySystem).rowLock holder = some key →
      (holder = .inr j ∧ key = old.key) ∨ s.rowLock holder = some key := by
    intro holder key hHeld
    cases holder with
    | inl i => exact .inr hHeld
    | inr k =>
        change (Function.update s.cancels j _ k).map _ = some key at hHeld
        by_cases hSame : k = j
        · subst hSame
          rw [Function.update_self] at hHeld
          exact .inl ⟨rfl, (Option.some.inj hHeld).symm⟩
        · rw [Function.update_of_ne hSame] at hHeld
          exact .inr hHeld
  refine ⟨h.commands, h.stores, h.keys, h.references, h.sessions, h.strangers,
    ?_, ?_, ?_, h.postedKeys, h.postedTransactions, h.consumed, h.complete,
    h.windows⟩
  · intro a b key hNe hA hB
    rcases hLock a key hA with ⟨rfl, rfl⟩ | hA
    · rcases hLock b _ hB with ⟨rfl, -⟩ | hB
      · exact hNe rfl
      · exact hRow b hB
    · rcases hLock b key hB with ⟨rfl, rfl⟩ | hB
      · exact hRow a hA
      · exact h.locks a b key hNe hA hB
  · intro k row hCancel
    change Function.update s.cancels j _ k = some row at hCancel
    by_cases hSame : k = j
    · subst hSame
      rw [Function.update_self] at hCancel
      cases hCancel
      exact ⟨⟨cancelledAt, rfl⟩, old, List.mem_of_find?_eq_some hRead, rfl,
        hFound.2.2.2⟩
    · rw [Function.update_of_ne hSame] at hCancel
      exact h.cancels k row hCancel
  · exact fun e he => (h.posted e he).mono (LedgersGrow.refl _) id
      (fun _ h => h) fun _ h => h

theorem cancels_update {j k : Nat} {row : PreparedEntryIntentRecord}
    (h : Function.update s.cancels j none k = some row) :
    k ≠ j ∧ s.cancels k = some row := by
  by_cases hSame : k = j
  · subst hSame
    rw [Function.update_self] at h
    cases h
  · rw [Function.update_of_ne hSame] at h
    exact ⟨hSame, h⟩

/-- A cancellation is committed. -/
theorem EntryInvariant.cancelCommit (h : EntryInvariant sha256 s) {j : Nat}
    {row : PreparedEntryIntentRecord} (hRow : s.cancels j = some row) :
    EntryInvariant sha256 { s with
      entries := s.entries.setIntent row
      cancels := Function.update s.cancels j none } := by
  obtain ⟨⟨cancelledAt, hCancelled⟩, old, hOld, hBindings, hCreated⟩ :=
    h.cancels j row hRow
  have hHeld : s.rowLock (.inr j) = some row.key :=
    Option.map_eq_some_iff.2 ⟨row, hRow, rfl⟩
  refine h.intents rfl rfl ?_ ?_ ?_ fun _ _ hOther => (cancels_update hOther).2
  · rw [keys_setIntent]
    exact h.keys
  · intro other hOther
    obtain ⟨row', hRow', hSame, hKept⟩ :=
      rows_setIntent h.keys hOld hBindings hOther
    refine ⟨row', hRow', hSame, ?_, fun holder hLock => hKept fun hKey => ?_⟩
    · by_cases hKey : other.key = row.key
      · left
        rw [List.inj_on_of_nodup_map h.keys hOther hOld
          (hKey.trans (key_eq_of_bindings hBindings).symm)]
        exact hCreated
      · exact .inr (hKept hKey)
    · -- the row is locked by the cancellation alone
      rw [hKey] at hLock
      cases holder with
      | inl i => exact h.locks (.inr j) (.inl i) row.key (by simp) hHeld hLock
      | inr k =>
          obtain ⟨other, hUpdate, hOtherKey⟩ := Option.map_eq_some_iff.1 hLock
          obtain ⟨hNe, hCancel⟩ := cancels_update hUpdate
          refine h.locks (.inr j) (.inr k) row.key
            (fun hBoth => hNe (Sum.inr.inj hBoth).symm) hHeld ?_
          exact Option.map_eq_some_iff.2 ⟨other, hCancel, hOtherKey⟩
  · intro other hOther
    rcases eq_or_mem_of_setIntent hOther with rfl | ⟨hMem, -⟩
    · right
      rw [hCancelled]
      exact fun _ _ _ h => nomatch h
    · exact .inl hMem

/-- A cancellation is rolled back. -/
theorem EntryInvariant.cancelRollback (h : EntryInvariant sha256 s) {j : Nat} :
    EntryInvariant sha256
      { s with cancels := Function.update s.cancels j none } := by
  refine @EntryInvariant.intents sha256 s h s.entries _ rfl rfl h.keys ?_
    (fun _ => .inl) fun _ _ hOther => (cancels_update hOther).2
  exact fun row hRow => ⟨row, hRow, rfl, .inr rfl, fun _ _ => rfl⟩

theorem EntryInvariant.tick (h : EntryInvariant sha256 s) (clock : Moment) :
    EntryInvariant sha256 { s with clock := clock } :=
  ⟨h.commands, h.stores, h.keys, h.references, h.sessions, h.strangers, h.locks,
    h.cancels, h.posted, h.postedKeys, h.postedTransactions, h.consumed, h.complete,
    h.windows⟩

/-- An attempt that raises starts over, or ends the call. -/
theorem EntryInvariant.fails (h : EntryInvariant sha256 s)
    (hSession : s.sessions i = some session)
    (hProcess : s.commands.processes i = some p) (error : CommandError) :
    EntryInvariant sha256
      ((s.setProcess i (p.fail error)).setSession i session.restart) :=
  h.local .started hSession hProcess (h.commands.fail error) (plan?_fail p error).2
    (plan?_fail p error).1 (fun _ hLock => nomatch hLock) s.clock

/-- A step of one session that keeps its stage. -/
theorem EntryInvariant.moves (h : EntryInvariant sha256 s)
    (hSession : s.sessions i = some session)
    (hProcess : s.commands.processes i = some p)
    (hCommands : CommandInvariant sha256 (s.commands.setProcess i q))
    (hCall : q.call = p.call)
    (hStage : StageOk s.entries q session.command session.stage) :
    EntryInvariant sha256 (s.setProcess i q) := by
  have hMoved := h.local _ hSession hProcess hCommands hCall hStage
    (fun _ hLock => .inl hLock) s.clock
  have hSame : Function.update s.sessions i (some session) = s.sessions := by
    rw [← hSession, Function.update_eq_self]
  change EntryInvariant sha256 { s.setProcess i q with
    sessions := Function.update s.sessions i (some session) } at hMoved
  rw [hSame] at hMoved
  exact hMoved

theorem lock_eq_none {stage : EntryStage} (h : stage.isPlanned = false) :
    stage.lock = none := by
  cases stage <;> first | rfl | cases h

/-- A process without a plan, outside of its handler, is at its start. -/
theorem StageOk.started {t : EntryTables} {command : CommitPreparedEntryCommand}
    {stage : EntryStage} (h : StageOk t p command stage)
    (hPlan : p.phase.plan? = none) (hLocked : p.phase.isBookLocked = false) :
    stage = .started := by
  cases stage with
  | started => rfl
  | claimed snapshot plan claimed => exact nomatch hPlan.symm.trans h.1
  | finalized snapshot plan writes => exact nomatch hPlan.symm.trans h.1
  | loaded snapshot => exact nomatch hLocked.symm.trans h.1
  | compiled snapshot plan => exact nomatch hLocked.symm.trans h.1
  | referenceChecked snapshot plan => exact nomatch hLocked.symm.trans h.1
  | fingerprintChecked snapshot plan => exact nomatch hLocked.symm.trans h.1

/-- What a session knows, when its process moves on within the command bus. -/
theorem StageOk.next {t : EntryTables} {command : CommitPreparedEntryCommand}
    {stage : EntryStage} (h : StageOk t p command stage)
    (hPlan : q.phase.plan? = p.phase.plan?) (hFinal : q.phase.isFinal = p.phase.isFinal)
    (hCall : q.call = p.call) (hAsks : p.phase.isBookLocked = false) :
    StageOk t q command stage := by
  cases stage with
  | started => exact hPlan.trans h
  | claimed snapshot plan claimed =>
      refine ⟨hPlan.trans h.1, hFinal.trans h.2.1, ?_, h.2.2.2⟩
      rw [hCall]
      exact h.2.2.1
  | finalized snapshot plan writes =>
      refine ⟨hPlan.trans h.1, hFinal.trans h.2.1, ?_, h.2.2.2⟩
      rw [hCall]
      exact h.2.2.1
  | loaded snapshot => exact nomatch hAsks.symm.trans h.1
  | compiled snapshot plan => exact nomatch hAsks.symm.trans h.1
  | referenceChecked snapshot plan => exact nomatch hAsks.symm.trans h.1
  | fingerprintChecked snapshot plan => exact nomatch hAsks.symm.trans h.1

theorem isBookLocked_of_asks {phase : Phase} (h : phase.asks = false) :
    phase.isBookLocked = false := by
  cases phase with
  | bookLocked receipt head => cases h
  | _ => rfl

/-- Every step keeps the invariant. -/
theorem entryInvariant_step {action : EntryAction} (h : EntryInvariant sha256 s)
    (hStep : EntryStep sha256 s action s') : EntryInvariant sha256 s' := by
  cases hStep with
  | prepare hInsert => exact h.prepare hInsert
  | call hIdle hStart => exact h.call hIdle hStart
  | statement hSession hProcess hPhase hNext hFree =>
      obtain ⟨hPlan, hFinal⟩ := next_keeps hPhase hNext
      exact h.moves hSession hProcess
        (commandInvariant_step h.commands (.statement hProcess hNext hFree)) rfl
        ((h.ownStage hSession hProcess).2.next hPlan hFinal rfl
          (isBookLocked_of_asks hPhase))
  | raise hSession hProcess hPhase hNext => exact h.fails hSession hProcess _
  | @check i session p receipt head answers stage hSession hProcess hPhase hNext hStage =>
      have hKept : s.commands.setProcess i p = s.commands := by
        unfold CommandSystem.setProcess
        rw [← hProcess, Function.update_eq_self]
      have hMoved := h.local (q := p) _ hSession hProcess
        (by rw [hKept]; exact h.commands) rfl
        (stageOk_check hPhase (h.ownStage hSession hProcess).2 hNext hStage)
        (fun key hLock => by rw [lock_eq_none hStage] at hLock; cases hLock) s.clock
      have hSame : s.setProcess i p = s := by
        unfold EntrySystem.setProcess
        rw [hKept]
      rw [hSame] at hMoved
      exact hMoved
  | @claim i session p receipt head answers snapshot claimed plan asked phase
      hSession hProcess hPhase hStage hClock hClaim hRow hPlan hNext hFree =>
      have hOwn := (h.ownStage hSession hProcess).2
      rw [hStage] at hOwn hClaim
      simp only [CommitPreparedEntryCommand.next, bind_eq_ok, pure_eq_ok] at hClaim
      obtain ⟨rows, hRows, hStages⟩ := hClaim
      obtain rfl : rows.2 = claimed := by
        injection hStages
      obtain rfl := next_bookLocked hPhase hPlan hNext
      have hClaimed : StageOk s.entries
          { p with phase := .planned receipt head plan.plan } session.command
          (.claimed snapshot plan rows.2) :=
        ⟨rfl, rfl, claimOk_claim h.keys hOwn.2.1 hRows, hOwn.2.2⟩
      exact h.local _ hSession hProcess
        (commandInvariant_step h.commands (.statement hProcess hNext hFree)) rfl
        hClaimed (fun key hLock => .inr (Option.some.inj hLock ▸ hRow)) _
  | @finalize i session p receipt posting batch ledger answers snapshot claimed plan
      writes asked phase hSession hProcess hPhase hStage hClock hFinalize hAsked
      hNext hFree =>
      have hOwn := (h.ownStage hSession hProcess).2
      rw [hStage] at hOwn hFinalize
      simp only [CommitPreparedEntryCommand.next, bind_eq_ok, pure_eq_ok] at hFinalize
      obtain ⟨made, hMade, hStages⟩ := hFinalize
      obtain rfl : made = writes := by
        injection hStages
      obtain ⟨rfl, hEvidence⟩ := evidenceOk_finalize hMade
      obtain rfl := next_appended hPhase hNext
      have hPlan : posting = plan.plan := by
        have hPlanned := hOwn.1
        rw [hPhase] at hPlanned
        exact Option.some.inj hPlanned
      have hFinalized : StageOk s.entries
          { p with phase := .finalized receipt posting batch ledger }
          session.command (.finalized snapshot plan made) :=
        ⟨congrArg some hPlan, rfl, hOwn.2.2.1, hOwn.2.2.2, hEvidence⟩
      exact h.local _ hSession hProcess
        (commandInvariant_step h.commands (.statement hProcess hNext hFree)) rfl
        hFinalized (fun key hLock => .inl (by rw [hStage]; exact hLock)) _
  | refuse hSession hProcess hPhase hRaises => exact h.fails hSession hProcess _
  | fault hSession hProcess hRunning => exact h.fails hSession hProcess _
  | replay hSession hProcess hPhase =>
      have hOwn := (h.ownStage hSession hProcess).2
      have hStarted := hOwn.started (by rw [hPhase]; rfl) (by rw [hPhase]; rfl)
      refine h.moves hSession hProcess
        (commandInvariant_step h.commands (.commit hProcess hPhase)) rfl ?_
      rw [hStarted]
      rfl
  | replayLost hSession hProcess hPhase =>
      have hOwn := (h.ownStage hSession hProcess).2
      have hStarted := hOwn.started (by rw [hPhase]; rfl) (by rw [hPhase]; rfl)
      refine h.moves hSession hProcess (h.commands.fail _) (plan?_fail _ _).2 ?_
      rw [hStarted]
      exact (plan?_fail _ _).1
  | commit hSession hProcess hPhase hStage =>
      exact h.publish hSession hProcess hPhase hStage rfl rfl
        (.commit hProcess hPhase)
  | commitLost hSession hProcess hPhase hStage =>
      exact h.publish hSession hProcess hPhase hStage (plan?_fail _ _).2
        (plan?_fail _ _).1 (.commitLost hProcess hPhase)
  | other hOther hCall hStep => exact h.other hOther hCall hStep
  | cancel hIdle hClock hRead hGuard hRow => exact h.cancel hRead hRow
  | cancelCommit hRow => exact h.cancelCommit hRow
  | cancelRollback hRow => exact h.cancelRollback
  | tick hLater => exact h.tick _

end Steps

end TrackAnywhere.Ports
