import TrackAnywhere.Ports.EntrySafety
import TrackAnywhere.Ports.HashPreimage

/-!
# Prepared intents are consumed once

Over every interleaving of prepares, commits, cancellations and other commands,
an intent is consumed by at most one commit, each commit that goes through posts
one transaction, and an external reference is posted once.  Source fingerprints
are looked up in a window of creation times that begins seven days before the
date of the entry: an entry of a later date is not compared with what was
committed before its window.
-/

namespace TrackAnywhere.Ports

open TrackAnywhere.Verified
open TrackAnywhere.Verified.Checked
open TrackAnywhere.Verified.ExactlyOnce
open TrackAnywhere.Verified.KeyedSum

/-! ## What a step does -/

/-- Ledgers, receipts and the tables of the gateway stay as they are. -/
structure Quiet (s s' : EntrySystem) : Prop where
  ledgers : s'.commands.tables.ledgers = s.commands.tables.ledgers
  receipts : s'.commands.tables.receipts = s.commands.tables.receipts
  applied : s'.commands.applied = s.commands.applied
  entries : s'.entries = s.entries
  posted : s'.posted = s.posted

/-- The step posts the entry of a session, whose intent it consumes. -/
structure Posts (s s' : EntrySystem) (session : EntrySession) (e : PostedEntry) :
    Prop where
  command : e.command = session.command
  finalized : ∃ snapshot plan writes,
    session.stage = .finalized snapshot plan writes ∧ writes.claimed = e.claimed
  created : ∃ old ∈ s.entries.intents, old.bindings = e.claimed.bindings
    ∧ old.lifecycleStatus = .created
  intents : s'.entries.intents = (s.entries.setIntent e.claimed).intents
  posted : s'.posted = s.posted ++ [e]
  applied : s'.commands.applied = s.commands.applied ++ [e.application]
  otherLedgers : ∀ bookId, bookId ≠ e.command.bookId →
    s'.commands.tables.ledgers bookId = s.commands.tables.ledgers bookId

/-- What each kind of step may change. -/
def StepEffect (s : EntrySystem) (action : EntryAction) (s' : EntrySystem) : Prop :=
  match action with
  | .call _ _ => Quiet s s'
  | .statement _ => Quiet s s'
  | .fault _ => Quiet s s'
  | .commit i => Quiet s s'
      ∨ ∃ session e, s.sessions i = some session ∧ Posts s s' session e
  | .commitLost i => Quiet s s'
      ∨ ∃ session e, s.sessions i = some session ∧ Posts s s' session e
  | .prepare proposed => s'.commands = s.commands ∧ s'.posted = s.posted
      ∧ (s'.entries = s.entries ∨ s'.entries = { s.entries with
          intents := s.entries.intents ++ [⟨proposed, .created⟩] })
  | .cancel _ => Quiet s s'
  | .cancelCommit _ => s'.commands = s.commands ∧ s'.posted = s.posted
      ∧ ∃ old ∈ s.entries.intents, old.lifecycleStatus = .created
        ∧ ∃ cancelledAt, s'.entries = s.entries.setIntent
          { old with lifecycleStatus := .cancelled cancelledAt }
  | .cancelRollback _ => Quiet s s'
  | .other _ => s'.entries = s.entries ∧ s'.posted = s.posted
  | .tick => Quiet s s'

section Effects

variable {sha256 : ByteArray → EventHash} {s s' : EntrySystem}

theorem EntryInvariant.posts (h : EntryInvariant sha256 s) {i : Nat}
    {session : EntrySession} {p q : CommandProcess} {requestHash : EventHash}
    {result : CommandResult} {pending : PendingWrites}
    {snapshot : PreparedEntryIntentRecord}
    {plan : EntryPlan snapshot.bindings.canonicalPayload.transactionId}
    {writes : EntryWrites} (hSession : s.sessions i = some session)
    (hProcess : s.commands.processes i = some p)
    (hPhase : p.phase = .committing requestHash result (some pending))
    (hStage : session.stage = .finalized snapshot plan writes) :
    Posts s (((s.publish session.command p.call.actor.subjectId writes pending
        ).setProcess i q).setSession i session.restart) session
      ⟨session.command, p.call.actor.subjectId, writes.claimed,
        pending.application⟩ := by
  obtain ⟨hCall, hOwn⟩ := h.ownStage hSession hProcess
  rw [hStage] at hOwn
  obtain ⟨hPlanned, -, hClaim, -, -⟩ := hOwn
  rw [hPhase] at hPlanned
  have hScope := (h.opens hProcess hPhase (Option.some.inj hPlanned)).1
  have hBook : p.call.command.bookId = session.command.bookId := by
    rw [hCall]
    rfl
  refine ⟨rfl, ⟨snapshot, plan, writes, hStage, rfl⟩, hClaim.old, rfl, rfl, rfl,
    fun bookId hNe => ?_⟩
  refine Function.update_of_ne (fun hSame => hNe ?_) _ _
  rw [hSame, ← hBook]
  exact congrArg ReceiptScope.bookId hScope

theorem stepEffect_of_step {action : EntryAction} (h : EntryInvariant sha256 s)
    (hStep : EntryStep sha256 s action s') : StepEffect s action s' := by
  cases hStep with
  | prepare hInsert =>
      refine ⟨rfl, rfl, ?_⟩
      rcases insertIntent_ok hInsert with rfl | ⟨-, rfl⟩
      · exact .inl rfl
      · exact .inr rfl
  | commit hSession hProcess hPhase hStage =>
      exact .inr ⟨_, _, hSession, h.posts hSession hProcess hPhase hStage⟩
  | commitLost hSession hProcess hPhase hStage =>
      exact .inr ⟨_, _, hSession, h.posts hSession hProcess hPhase hStage⟩
  | replay hSession hProcess hPhase => exact .inl ⟨rfl, rfl, rfl, rfl, rfl⟩
  | replayLost hSession hProcess hPhase => exact .inl ⟨rfl, rfl, rfl, rfl, rfl⟩
  | other hOther hCall hStep => exact ⟨rfl, rfl⟩
  | cancelCommit hRow =>
      obtain ⟨⟨cancelledAt, hCancelled⟩, old, hOld, hBindings, hCreated⟩ :=
        h.cancels _ _ hRow
      refine ⟨rfl, rfl, old, hOld, hCreated, cancelledAt, ?_⟩
      rw [hBindings, ← hCancelled]
  | _ => exact ⟨rfl, rfl, rfl, rfl, rfl⟩

/-- The rows of an intent before and after: the same, or no longer created. -/
def IntentsMove (t t' : EntryTables) : Prop :=
  ∀ row ∈ t.intents, ∃ row' ∈ t'.intents, row'.bindings = row.bindings
    ∧ (row' = row ∨ row.lifecycleStatus = .created
      ∧ row'.lifecycleStatus ≠ .created)

theorem intentsMove_setIntent {t : EntryTables} {old new : PreparedEntryIntentRecord}
    (hKeys : (t.intents.map (·.key)).Nodup) (hOld : old ∈ t.intents)
    (hBindings : old.bindings = new.bindings) (hCreated : old.lifecycleStatus = .created)
    (hNew : new.lifecycleStatus ≠ .created) : IntentsMove t (t.setIntent new) := by
  intro row hRow
  by_cases hKey : row.key = new.key
  · have hSame : row = old := List.inj_on_of_nodup_map hKeys hRow hOld
      (hKey.trans (key_eq_of_bindings hBindings).symm)
    subst hSame
    exact ⟨new, mem_setIntent_self hRow hKey, hBindings.symm, .inr ⟨hCreated, hNew⟩⟩
  · exact ⟨row, mem_setIntent_of_ne hRow hKey, rfl, .inl rfl⟩

theorem intentsMove_refl (t : EntryTables) : IntentsMove t t :=
  fun row hRow => ⟨row, hRow, rfl, .inl rfl⟩

theorem IntentsMove.trans {t t' t'' : EntryTables} (h : IntentsMove t t')
    (h' : IntentsMove t' t'') : IntentsMove t t'' := by
  intro row hRow
  obtain ⟨row', hRow', hBindings, hMoved⟩ := h row hRow
  obtain ⟨row'', hRow'', hBindings', hMoved'⟩ := h' row' hRow'
  refine ⟨row'', hRow'', hBindings'.trans hBindings, ?_⟩
  rcases hMoved with rfl | ⟨hCreated, hTerminal⟩
  · exact hMoved'
  · rcases hMoved' with rfl | ⟨hStill, -⟩
    · exact .inr ⟨hCreated, hTerminal⟩
    · exact absurd hStill hTerminal

/-- An intent is created, and moves at most once. -/
theorem intentsMove_of_step {action : EntryAction} (h : EntryInvariant sha256 s)
    (hStep : EntryStep sha256 s action s') : IntentsMove s.entries s'.entries := by
  have hPosts : ∀ {session e}, EntryInvariant sha256 s' → Posts s s' session e →
      IntentsMove s.entries s'.entries := by
    intro session e h' hPosts
    obtain ⟨old, hOld, hBindings, hCreated⟩ := hPosts.created
    have hMem : e ∈ s'.posted := by
      rw [hPosts.posted]
      exact List.mem_append_right _ List.mem_cons_self
    obtain ⟨_, hConsumed, -⟩ := (h'.posted e hMem).consumed.consumed
    have hMoves := intentsMove_setIntent h.keys hOld hBindings hCreated
      (by rw [hConsumed]; exact fun h => nomatch h)
    unfold IntentsMove
    rw [hPosts.intents]
    exact hMoves
  have hQuiet : Quiet s s' → IntentsMove s.entries s'.entries := by
    intro hQuiet
    rw [hQuiet.entries]
    exact intentsMove_refl _
  have h' := entryInvariant_step h hStep
  have hEffect := stepEffect_of_step h hStep
  cases action with
  | prepare proposed =>
      obtain ⟨-, -, hSame | hNew⟩ := hEffect
      · rw [hSame]
        exact intentsMove_refl _
      · rw [hNew]
        exact fun row hRow =>
          ⟨row, List.mem_append_left _ hRow, rfl, .inl rfl⟩
  | commit i =>
      rcases hEffect with hSame | ⟨session, e, -, hPost⟩
      · exact hQuiet hSame
      · exact hPosts h' hPost
  | commitLost i =>
      rcases hEffect with hSame | ⟨session, e, -, hPost⟩
      · exact hQuiet hSame
      · exact hPosts h' hPost
  | cancelCommit j =>
      obtain ⟨-, -, old, hOld, hCreated, cancelledAt, hSet⟩ := hEffect
      rw [hSet]
      exact intentsMove_setIntent h.keys hOld rfl hCreated (fun h => nomatch h)
  | other action =>
      rw [hEffect.1]
      exact intentsMove_refl _
  | call i command => exact hQuiet hEffect
  | statement i => exact hQuiet hEffect
  | fault i => exact hQuiet hEffect
  | cancel j => exact hQuiet hEffect
  | cancelRollback j => exact hQuiet hEffect
  | tick => exact hQuiet hEffect

theorem entryInvariant_run {actions : List EntryAction} (h : EntryInvariant sha256 s)
    (hRun : Run (EntryStep sha256) s actions s') : EntryInvariant sha256 s' :=
  hRun.invariant h fun _ _ _ hI hStep => entryInvariant_step hI hStep

theorem intentsMove_of_run {actions : List EntryAction} (h : EntryInvariant sha256 s)
    (hRun : Run (EntryStep sha256) s actions s') :
    IntentsMove s.entries s'.entries := by
  have hBoth := hRun.invariant
    (I := fun s₁ => EntryInvariant sha256 s₁ ∧ IntentsMove s.entries s₁.entries)
    ⟨h, intentsMove_refl _⟩ fun s₁ _ s₂ hI hStep =>
      ⟨entryInvariant_step hI.1 hStep,
        hI.2.trans (intentsMove_of_step hI.1 hStep)⟩
  exact hBoth.2

end Effects

/-! ## The life of an intent -/

section Runs

variable {sha256 : ByteArray → EventHash} {s : EntrySystem}
  {writeState : UUID → Option BookWriteState} {catalog : UUID → Catalog}
  {clock : Moment} {actions : List EntryAction}

/-- For every interleaving of prepares, commits, cancellations, other commands
and the passing of time: an intent has one row, which moves at most once, from
`created`; it is consumed exactly when a commit has posted it, which at most one
commit does, with the actor and the token of the intent and before its expiry;
and what a commit does before that, or a commit that fails, changes neither
ledger nor intents. -/
theorem intents_consumedOnce_over_interleavings
    (hRun : Run (EntryStep sha256) (.initial writeState catalog clock) actions s) :
    (s.entries.intents.map (·.key)).Nodup
      ∧ (s.posted.map (·.claimed.key)).Nodup
      ∧ (∀ e ∈ s.posted, PostedOk s.entries s.commands e)
      ∧ (∀ row ∈ s.entries.intents, (∃ consumedAt requestId transactionId,
          row.lifecycleStatus = .consumed consumedAt requestId transactionId)
          ↔ ∃ e ∈ s.posted, e.claimed = row)
      ∧ (∀ a ∈ s.commands.applied, a.key.operation = commitOperation →
          ∃ e ∈ s.posted, e.application = a)
      ∧ (∀ action s', EntryStep sha256 s action s' → StepEffect s action s')
      ∧ ∀ later s', Run (EntryStep sha256) s later s' →
        IntentsMove s.entries s'.entries := by
  have h := entryInvariant_run
    (entryInvariant_initial sha256 writeState catalog clock) hRun
  refine ⟨h.keys, h.postedKeys, h.posted, fun row hRow => ⟨?_, ?_⟩, h.complete,
    fun _ _ hStep => stepEffect_of_step h hStep,
    fun _ _ hLater => intentsMove_of_run h hLater⟩
  · rintro ⟨consumedAt, requestId, transactionId, hConsumed⟩
    exact h.consumed row hRow _ _ _ hConsumed
  · rintro ⟨e, he, rfl⟩
    obtain ⟨consumedAt, hConsumed, -⟩ := (h.posted e he).consumed.consumed
    exact ⟨_, _, _, hConsumed⟩

/-! ## External references -/

/-- For every interleaving: of the intents of a Book that carry one external
reference, at most one is posted, and at most one is consumed; a step that posts
none changes neither ledger nor intents for a commit. -/
theorem externalReference_postedOnce_over_interleavings
    (hRun : Run (EntryStep sha256) (.initial writeState catalog clock) actions s) :
    (∀ e ∈ s.posted, ∀ e' ∈ s.posted, e.command.bookId = e'.command.bookId →
        ∀ external, e.payload.sourceReferenceDigest = some external →
          e'.payload.sourceReferenceDigest = some external → e = e')
      ∧ (∀ row ∈ s.entries.intents, ∀ row' ∈ s.entries.intents,
        row.bindings.bookId = row'.bindings.bookId →
        ∀ external,
          row.bindings.canonicalPayload.sourceReferenceDigest = some external →
          row'.bindings.canonicalPayload.sourceReferenceDigest = some external →
          (∃ consumedAt requestId transactionId, row.lifecycleStatus
            = .consumed consumedAt requestId transactionId) →
          (∃ consumedAt requestId transactionId, row'.lifecycleStatus
            = .consumed consumedAt requestId transactionId) → row = row')
      ∧ ∀ action s', EntryStep sha256 s action s' → StepEffect s action s' := by
  have h := entryInvariant_run
    (entryInvariant_initial sha256 writeState catalog clock) hRun
  have hPosted : ∀ e ∈ s.posted, ∀ e' ∈ s.posted,
      e.command.bookId = e'.command.bookId →
      ∀ external, e.payload.sourceReferenceDigest = some external →
        e'.payload.sourceReferenceDigest = some external → e = e' := by
    intro e he e' he' hBook external hE hE'
    obtain ⟨row, hRow, hRowBook, hRowReference, hId⟩ :=
      (h.posted e he).reference external hE
    obtain ⟨row', hRow', hRowBook', hRowReference', hId'⟩ :=
      (h.posted e' he').reference external hE'
    -- the primary key of the evidence
    have hSame : row = row' := List.inj_on_of_nodup_map h.references hRow hRow'
      (Prod.ext (hRowBook.trans (hBook.trans hRowBook'.symm))
        (hRowReference.trans hRowReference'.symm))
    refine List.inj_on_of_nodup_map h.postedTransactions he he'
      (Prod.ext hBook ?_)
    rw [← hSame] at hId'
    exact hId.symm.trans hId'
  refine ⟨hPosted, ?_, fun _ _ hStep => stepEffect_of_step h hStep⟩
  rintro row hRow row' hRow' hBook external hE hE' ⟨_, _, _, hC⟩ ⟨_, _, _, hC'⟩
  obtain ⟨e, he, rfl⟩ := h.consumed row hRow _ _ _ hC
  obtain ⟨e', he', rfl⟩ := h.consumed row' hRow' _ _ _ hC'
  have hBooks : e.command.bookId = e'.command.bookId := by
    have hKey := congrArg Prod.fst (h.posted e he).consumed.key
    have hKey' := congrArg Prod.fst (h.posted e' he').consumed.key
    exact hKey.symm.trans (hBook.trans hKey')
  rw [hPosted e he e' he' hBooks external hE hE']

/-! ## Source fingerprints -/

/-- When the step commits a session, what the Book has posted under the
fingerprint of its entry was created no earlier than seven days before the date
of the entry. -/
def WindowReaches (s : EntrySystem) (action : EntryAction) : Prop :=
  ∀ i session snapshot plan writes, (action = .commit i ∨ action = .commitLost i) →
    s.sessions i = some session → session.stage = .finalized snapshot plan writes →
    ∀ occurredAt fingerprint,
      snapshot.bindings.canonicalPayload.occurredAt = some occurredAt →
      snapshot.bindings.canonicalPayload.fingerprintHmac = some fingerprint →
      ∀ row ∈ s.entries.fingerprints, row.bookId = session.command.bookId →
        row.fingerprintHmac = fingerprint →
        occurredAt - CommitPreparedEntryCommand.sevenDays ≤ row.createdAt

/-- Of one Book, the two entries have no fingerprint in common. -/
def FingerprintsDiffer (e e' : PostedEntry) : Prop :=
  e.command.bookId = e'.command.bookId → ∀ fingerprint,
    e.payload.fingerprintHmac = some fingerprint →
    e'.payload.fingerprintHmac ≠ some fingerprint

/-- A commit that the window reaches finds what was posted before. -/
theorem EntryInvariant.fingerprintsDiffer {s' : EntrySystem}
    (h : EntryInvariant sha256 s) (h' : EntryInvariant sha256 s') {i : Nat}
    {action : EntryAction} {session : EntrySession} {e' : PostedEntry}
    (hAction : action = .commit i ∨ action = .commitLost i)
    (hSession : s.sessions i = some session) (hPosts : Posts s s' session e')
    (hWindow : WindowReaches s action) :
    ∀ e ∈ s.posted, FingerprintsDiffer e e' := by
  intro e he hBook fingerprint hE hE'
  obtain ⟨snapshot, plan, writes, hStage, hClaimed⟩ := hPosts.finalized
  obtain ⟨p, -, -, hOwn⟩ := h.sessions i session hSession
  rw [hStage] at hOwn
  obtain ⟨-, -, hClaim, hChecked, -⟩ := hOwn
  have hPayload : e'.payload = snapshot.bindings.canonicalPayload := by
    unfold PostedEntry.payload
    rw [← hClaimed, hClaim.bindings]
  obtain ⟨row, hRow, hRowBook, hHmac, hId⟩ :=
    (h.posted e he).fingerprint fingerprint hE
  obtain ⟨occurredAt, own, hOccurred, hPrint, hRecent⟩ := hChecked
  rw [hPayload, hPrint] at hE'
  cases hE'
  have hSame : row.bookId = session.command.bookId := by
    rw [hRowBook, hBook, hPosts.command]
  have hFound := hRecent row hRow hSame hHmac
    (hWindow i session snapshot plan writes hAction hSession hStage occurredAt _
      hOccurred hPrint row hRow hSame hHmac)
  -- one Book posts a transaction once
  have hNodup := h'.postedTransactions
  rw [hPosts.posted, List.map_append] at hNodup
  refine (List.nodup_append.1 hNodup).2.2 _ (List.mem_map.2 ⟨e, he, rfl⟩) _
    List.mem_cons_self (Prod.ext hBook ?_)
  show e.transactionId = e'.payload.transactionId
  rw [hPayload, ← hFound, hId]

/-- In every run whose commits have a window that reaches back to the evidence
of their fingerprint, no two entries of a Book with one fingerprint are both
posted; a commit that fails changes neither ledger nor intents. -/
theorem sourceFingerprint_postedOnce_in_window
    (hRun : Run (fun s action s' => EntryStep sha256 s action s'
      ∧ WindowReaches s action) (.initial writeState catalog clock) actions s) :
    s.posted.Pairwise FingerprintsDiffer
      ∧ ∀ action s', EntryStep sha256 s action s' → StepEffect s action s' := by
  have hBoth := hRun.invariant
    (I := fun s => EntryInvariant sha256 s ∧ s.posted.Pairwise FingerprintsDiffer)
    ⟨entryInvariant_initial sha256 writeState catalog clock, .nil⟩ ?_
  · exact ⟨hBoth.2, fun _ _ hStep => stepEffect_of_step hBoth.1 hStep⟩
  rintro s₁ action s₂ ⟨h, hPairs⟩ ⟨hStep, hWindow⟩
  have h' := entryInvariant_step h hStep
  refine ⟨h', ?_⟩
  have hEffect := stepEffect_of_step h hStep
  have hSame : s₂.posted = s₁.posted → s₂.posted.Pairwise FingerprintsDiffer := by
    intro hSame
    rw [hSame]
    exact hPairs
  have hPosts : ∀ i, action = .commit i ∨ action = .commitLost i →
      Quiet s₁ s₂ ∨ (∃ session e, s₁.sessions i = some session
        ∧ Posts s₁ s₂ session e) → s₂.posted.Pairwise FingerprintsDiffer := by
    rintro i hAction (hQuiet | ⟨session, e, hSession, hPost⟩)
    · exact hSame hQuiet.posted
    · rw [hPost.posted]
      refine List.pairwise_append.2 ⟨hPairs, List.pairwise_singleton _ _, ?_⟩
      intro e₁ he₁ e₂ he₂
      rw [List.mem_singleton.1 he₂]
      exact h.fingerprintsDiffer h' hAction hSession hPost hWindow e₁ he₁
  cases action with
  | commit i => exact hPosts i (.inl rfl) hEffect
  | commitLost i => exact hPosts i (.inr rfl) hEffect
  | prepare proposed => exact hSame hEffect.2.1
  | cancelCommit j => exact hSame hEffect.2.1
  | other action => exact hSame hEffect.2
  | call i command => exact hSame hEffect.posted
  | statement i => exact hSame hEffect.posted
  | fault i => exact hSame hEffect.posted
  | cancel j => exact hSame hEffect.posted
  | cancelRollback j => exact hSame hEffect.posted
  | tick => exact hSame hEffect.posted

end Runs

/-! ## A commit that nobody disturbs -/

/-- The statement hashes events. -/
def Phase.appends : Phase → Bool
  | .planned _ _ _ => true
  | _ => false

/-- Some statements of the command bus that neither ask the callbacks nor hash
events. -/
def CommandProcess.advances (sha256 : ByteArray → EventHash) (t : CommandTables)
    (answers : Answers) : Nat → CommandProcess → Except CommandError CommandProcess
  | 0, p => return p
  | n + 1, p => do
      require (p.phase.asks = false ∧ p.phase.appends = false)
        (.other "the statement asks a callback, or hashes")
      let phase ← p.next sha256 t answers
      CommandProcess.advances sha256 t answers n { p with phase := phase }

/-- The receipt and the head of a process in its handler. -/
def Phase.bookLocked? : Phase → Option (CommandReceiptRecord × LockedBookHead)
  | .bookLocked receipt head => some (receipt, head)
  | _ => none

/-- A process in its finalizer. -/
def Phase.projected? : Phase →
    Option (CommandReceiptRecord × LedgerWritePlan × AppendBatchResult × BookLedger)
  | .appended receipt plan batch ledger [] => some (receipt, plan, batch, ledger)
  | _ => none

/-- What a process commits besides its outcome. -/
def Phase.writes? : Phase → Option (EventHash × CommandResult × PendingWrites)
  | .committing requestHash result (some writes) =>
      some (requestHash, result, writes)
  | _ => none

namespace EntrySystem

/-- The system with one process in this phase and stage. -/
def placed (s : EntrySystem) (i : Nat) (command : CommitPreparedEntryCommand)
    (p : CommandProcess) (stage : EntryStage) (clock : Moment) : EntrySystem :=
  { (s.setProcess i p).setSession i ⟨command, stage⟩ with clock := clock }

/-- The system after a commit that runs from its call to its end while no other
process moves: one attempt, with one event to project.  `digest` answers for the
hash of that event, and one for every other hash. -/
def commitAlone (s : EntrySystem) (i : Nat) (command : CommitPreparedEntryCommand)
    (actor : CommandActor) (digest : EventHash) (answers : Answers)
    (entry : EntryAnswers) : Except CommandError EntrySystem := do
  let t := s.commands.tables
  let call := command.financialCall actor 1
  let keyHash ← startFinancial (fun _ => 1) call
  let p ← CommandProcess.advances (fun _ => 1) t answers 5 ⟨call, keyHash, 0, .begun⟩
  let _ ← fetch p.phase.bookLocked? (.other "the Book is not locked")
  let snapshot ← command.loadIntent s.entries actor.subjectId entry.committedAt
  let payload := snapshot.bindings.canonicalPayload
  let plan ← entry.recompiled payload.transactionId
  command.recheckReference s.entries payload
  command.recheckFingerprint s.entries payload
  require (s.clock ≤ entry.claimClock.condition
      ∧ entry.claimClock.trigger ≤ entry.evidenceAt)
    (.other "the clock goes back")
  let rows ← command.claimIntent s.entries actor.subjectId payload.transactionId
    entry.claimClock
  let planned ← CommandProcess.next (fun _ => 1) t { answers with plan := .ok plan.plan } p
  let appended ← CommandProcess.next (fun _ => digest) t answers { p with phase := planned }
  let q ← CommandProcess.advances (fun _ => 1) t answers 1 { p with phase := appended }
  let projected ← fetch q.phase.projected? (.other "the batch is not projected")
  let writes ← command.entryFinalizer s.entries payload rows.2 entry
  let r ← CommandProcess.advances (fun _ => 1) t answers 2
    { q with phase := .finalized projected.1 projected.2.1 projected.2.2.1 projected.2.2.2 }
  let pending ← fetch r.phase.writes? (.other "the process does not commit")
  return (s.publish command actor.subjectId writes pending.2.2).placed i command
    { r with phase := .returned pending.1 ⟨pending.2.1, false⟩ } .started
    entry.evidenceAt

end EntrySystem

namespace EntrySystem

/-- No process and no transaction holds a lock. -/
structure Idle (s : EntrySystem) : Prop where
  processes : ∀ j p, s.commands.processes j = some p → p.locks = []
  rows : ∀ holder key, s.rowLock holder ≠ some key

variable {s : EntrySystem} {i : Nat} {command : CommitPreparedEntryCommand}
  {p q : CommandProcess} {stage stage' : EntryStage} {clock clock' : Moment}

theorem placed_process : (s.placed i command p stage clock).commands.processes i
    = some p :=
  CommandSystem.setProcess_self s.commands i p

theorem placed_session : (s.placed i command p stage clock).sessions i
    = some ⟨command, stage⟩ :=
  Function.update_self ..

theorem placed_twice (s : EntrySystem) (i : Nat) (command : CommitPreparedEntryCommand)
    (p q : CommandProcess) (stage stage' : EntryStage) (clock clock' : Moment) :
    (s.placed i command p stage clock).placed i command q stage' clock'
      = s.placed i command q stage' clock' := by
  unfold placed setProcess setSession CommandSystem.setProcess
  simp only [Function.update_idem]

theorem Idle.free (h : s.Idle) :
    (s.placed i command p stage clock).commands.Free i q := by
  intro j other hNe hOther lock _
  have hSame : (s.placed i command p stage clock).commands.processes j
      = s.commands.processes j := CommandSystem.setProcess_ne s.commands p hNe
  rw [hSame] at hOther
  rw [h.processes j other hOther]
  exact List.not_mem_nil

theorem Idle.rowFree (h : s.Idle) {key : UUID × UUID} (hStage : stage.lock = none) :
    (s.placed i command p stage clock).RowFree key := by
  intro holder hHeld
  change ((s.setProcess i p).setSession i ⟨command, stage⟩).rowLock holder
    = some key at hHeld
  rw [rowLock_setSession] at hHeld
  split_ifs at hHeld with hOwn
  · rw [hStage] at hHeld
    cases hHeld
  · exact h.rows holder key hHeld

theorem Idle.placed (h : s.Idle) (hLocks : p.locks = []) (hStage : stage.lock = none) :
    (s.placed i command p stage clock).Idle where
  processes := by
    intro j other hOther
    by_cases hSame : j = i
    · subst hSame
      rw [placed_process] at hOther
      cases hOther
      exact hLocks
    · refine h.processes j other ?_
      rw [← hOther]
      exact (CommandSystem.setProcess_ne s.commands p hSame).symm
  rows := fun holder key => h.rowFree hStage holder

end EntrySystem

section Alone

variable {sha256 : ByteArray → EventHash} {s s' : EntrySystem} {i : Nat}
  {command : CommitPreparedEntryCommand} {p q : CommandProcess}
  {stage stage' : EntryStage} {clock clock' : Moment} {answers : Answers}
  {entry : EntryAnswers}

/-- A statement of the command bus. -/
theorem placed_statement (hIdle : s.Idle) {phase : Phase} {digest : EventHash}
    (hAsks : p.phase.asks = false)
    (hDigest : p.next sha256 s.commands.tables answers
      = p.next (fun _ => digest) s.commands.tables answers)
    (hNext : p.next (fun _ => digest) s.commands.tables answers = .ok phase) :
    EntryStep sha256 (s.placed i command p stage clock) (.statement i)
      (s.placed i command { p with phase := phase } stage clock) := by
  have hStep : EntryStep sha256 (s.placed i command p stage clock) (.statement i)
      ((s.placed i command p stage clock).setProcess i { p with phase := phase }) :=
    .statement EntrySystem.placed_session EntrySystem.placed_process hAsks
      (hDigest.trans hNext) hIdle.free
  have hSame : (s.placed i command p stage clock).setProcess i
      { p with phase := phase }
      = s.placed i command { p with phase := phase } stage clock := by
    unfold EntrySystem.placed EntrySystem.setProcess EntrySystem.setSession
      CommandSystem.setProcess
    simp only [Function.update_idem]
  rwa [hSame] at hStep

theorem run_advances (hIdle : s.Idle)
    (hBus : ∀ p : CommandProcess, p.phase.appends = false →
      p.next sha256 s.commands.tables answers
        = p.next (fun _ => 1) s.commands.tables answers) {n : Nat}
    (h : p.advances (fun _ => 1) s.commands.tables answers n = .ok q) :
    Run (EntryStep sha256) (s.placed i command p stage clock)
      (List.replicate n (.statement i)) (s.placed i command q stage clock) := by
  induction n generalizing p with
  | zero =>
      cases h
      exact .nil _
  | succ n ih =>
      simp only [CommandProcess.advances, bind_eq_ok, require_eq_ok] at h
      obtain ⟨_, ⟨hAsks, hAppends⟩, phase, hNext, hRest⟩ := h
      exact .cons (placed_statement hIdle hAsks (hBus p hAppends) hNext) (ih hRest)

theorem advances_call {n : Nat}
    (h : p.advances sha256 s.commands.tables answers n = .ok q) : q.call = p.call := by
  induction n generalizing p with
  | zero =>
      cases h
      rfl
  | succ n ih =>
      simp only [CommandProcess.advances, bind_eq_ok] at h
      obtain ⟨_, -, phase, -, hRest⟩ := h
      have hKept := ih hRest
      exact hKept

/-- A check of the handler. -/
theorem placed_check (entry : EntryAnswers) {receipt : CommandReceiptRecord}
    {head : LockedBookHead}
    (hPhase : p.phase = .bookLocked receipt head)
    (hNext : command.next s.entries p.call.actor.subjectId entry stage = .ok stage')
    (hStage : stage'.isPlanned = false) :
    EntryStep sha256 (s.placed i command p stage clock) (.statement i)
      (s.placed i command p stage' clock) := by
  have hStep : EntryStep sha256 (s.placed i command p stage clock) (.statement i)
      ((s.placed i command p stage clock).setSession i ⟨command, stage'⟩) :=
    .check EntrySystem.placed_session EntrySystem.placed_process hPhase hNext hStage
  have hSame : (s.placed i command p stage clock).setSession i ⟨command, stage'⟩
      = s.placed i command p stage' clock := by
    unfold EntrySystem.placed EntrySystem.setProcess EntrySystem.setSession
      CommandSystem.setProcess
    simp only [Function.update_idem]
  rwa [hSame] at hStep

/-- The claim of the intent, with which the handler returns its plan. -/
theorem placed_claim (hIdle : s.Idle) {receipt : CommandReceiptRecord}
    {head : LockedBookHead} {snapshot claimed : PreparedEntryIntentRecord}
    {plan : EntryPlan snapshot.bindings.canonicalPayload.transactionId}
    (hPhase : p.phase = .bookLocked receipt head)
    (hClock : s.clock ≤ entry.claimClock.condition)
    (hClaim : command.next s.entries p.call.actor.subjectId entry
      (.fingerprintChecked snapshot plan) = .ok (.claimed snapshot plan claimed))
    (hNext : p.next sha256 s.commands.tables { answers with plan := .ok plan.plan }
      = .ok (.planned receipt head plan.plan)) :
    EntryStep sha256
      (s.placed i command p (.fingerprintChecked snapshot plan) s.clock) (.statement i)
      (s.placed i command { p with phase := .planned receipt head plan.plan }
        (.claimed snapshot plan claimed) entry.claimClock.trigger) := by
  have hStep : EntryStep sha256
      (s.placed i command p (.fingerprintChecked snapshot plan) s.clock) (.statement i)
      ((s.placed i command p (.fingerprintChecked snapshot plan) s.clock).placed i
        command { p with phase := .planned receipt head plan.plan }
        (.claimed snapshot plan claimed) entry.claimClock.trigger) :=
    .claim EntrySystem.placed_session EntrySystem.placed_process hPhase rfl hClock
      hClaim (hIdle.rowFree rfl) rfl hNext hIdle.free
  rwa [EntrySystem.placed_twice] at hStep

/-- The evidence of the finalizer. -/
theorem placed_finalize (hIdle : s.Idle) (answers : Answers) {receipt : CommandReceiptRecord}
    {posting : LedgerWritePlan} {batch : AppendBatchResult} {ledger : BookLedger}
    {snapshot claimed : PreparedEntryIntentRecord}
    {plan : EntryPlan snapshot.bindings.canonicalPayload.transactionId}
    {writes : EntryWrites} (hPhase : p.phase = .appended receipt posting batch ledger [])
    (hClock : clock ≤ entry.evidenceAt)
    (hFinalize : command.next s.entries p.call.actor.subjectId entry
      (.claimed snapshot plan claimed) = .ok (.finalized snapshot plan writes))
    (hNext : p.next sha256 s.commands.tables { answers with finalizer := .ok () }
      = .ok (.finalized receipt posting batch ledger)) :
    EntryStep sha256 (s.placed i command p (.claimed snapshot plan claimed) clock)
      (.statement i)
      (s.placed i command
        { p with phase := .finalized receipt posting batch ledger }
        (.finalized snapshot plan writes) entry.evidenceAt) := by
  have hStep : EntryStep sha256
      (s.placed i command p (.claimed snapshot plan claimed) clock) (.statement i)
      ((s.placed i command p (.claimed snapshot plan claimed) clock).placed i command
        { p with phase := .finalized receipt posting batch ledger }
        (.finalized snapshot plan writes) entry.evidenceAt) :=
    .finalize EntrySystem.placed_session EntrySystem.placed_process hPhase rfl hClock
      hFinalize rfl hNext hIdle.free
  rwa [EntrySystem.placed_twice] at hStep

/-- The commit of the database transaction. -/
theorem placed_commit {requestHash : EventHash} {result : CommandResult}
    {pending : PendingWrites} {snapshot : PreparedEntryIntentRecord}
    {plan : EntryPlan snapshot.bindings.canonicalPayload.transactionId}
    {writes : EntryWrites}
    (hPhase : p.phase = .committing requestHash result (some pending)) :
    EntryStep sha256
      (s.placed i command p (.finalized snapshot plan writes) clock) (.commit i)
      ((s.publish command p.call.actor.subjectId writes pending).placed i command
        { p with phase := .returned requestHash ⟨result, false⟩ } .started clock) := by
  have hStep : EntryStep sha256
      (s.placed i command p (.finalized snapshot plan writes) clock) (.commit i)
      (((s.publish command p.call.actor.subjectId writes pending).placed i command p
        (.finalized snapshot plan writes) clock).placed i command
        { p with phase := .returned requestHash ⟨result, false⟩ } .started clock) :=
    .commit EntrySystem.placed_session EntrySystem.placed_process hPhase rfl
  rwa [EntrySystem.placed_twice] at hStep

/-- A commit that nobody disturbs goes through, as computed. -/
theorem run_commitAlone {actor : CommandActor} {digest : EventHash}
    (hIdle : s.Idle) (hNone : s.commands.processes i = none)
    (hStart : startFinancial sha256 (command.financialCall actor 1)
      = startFinancial (fun _ => 1) (command.financialCall actor 1))
    (hBus : ∀ (asked : Answers) (p : CommandProcess), p.phase.appends = false →
      p.next sha256 s.commands.tables asked
        = p.next (fun _ => 1) s.commands.tables asked)
    (hAppend : ∀ transactionId (plan : EntryPlan transactionId),
      entry.recompiled transactionId = .ok plan →
      ∀ (p : CommandProcess) receipt head, p.call = command.financialCall actor 1 →
        p.phase = .planned receipt head plan.plan →
        p.next sha256 s.commands.tables answers
          = p.next (fun _ => digest) s.commands.tables answers)
    (h : s.commitAlone i command actor digest answers entry = .ok s') :
    ∃ before, (∀ action ∈ before, action = .call i command ∨ action = .statement i)
      ∧ Run (EntryStep sha256) s (before ++ [.commit i]) s' ∧ s'.Idle := by
  simp only [EntrySystem.commitAlone, bind_eq_ok, fetch_eq_ok, require_eq_ok,
    pure_eq_ok] at h
  obtain ⟨keyHash, hKey, p, hBegin, locked, hLocked, snapshot, hLoad, plan, hPlan, _,
    hReference, _, hFingerprint, _, ⟨hClock, hLater⟩, rows, hRows, planned, hPlanned,
    appended, hAppended, q, hProjects, projected, hProjected, writes, hWrites, r,
    hCompletes, pending, hPending, rfl⟩ := h
  have hCallStep : EntryStep sha256 s (.call i command)
      (s.placed i command ⟨command.financialCall actor 1, keyHash, 0, .begun⟩ .started
        s.clock) :=
    .call hNone (hStart.trans hKey)
  have hBegun : Run (EntryStep sha256) (s.placed i command _ .started s.clock) _
      (s.placed i command p .started s.clock) :=
    run_advances hIdle (hBus answers) hBegin
  have hPhase : p.phase = .bookLocked locked.1 locked.2 := by
    unfold Phase.bookLocked? at hLocked
    split at hLocked
    · next hSame =>
        cases hLocked
        exact hSame
    · cases hLocked
  have hActor : p.call.actor.subjectId = actor.subjectId := by
    rw [advances_call hBegin]
    rfl
  have hChecks : Run (EntryStep sha256) (s.placed i command p .started s.clock)
      (List.replicate 4 (.statement i))
      (s.placed i command p (.fingerprintChecked snapshot plan) s.clock) := by
    have hLoaded : EntryStep sha256 (s.placed i command p .started s.clock)
        (.statement i) (s.placed i command p (.loaded snapshot) s.clock) := by
      refine placed_check entry hPhase ?_ rfl
      rw [hActor, CommitPreparedEntryCommand.next, hLoad]
      rfl
    have hCompiled : EntryStep sha256 (s.placed i command p (.loaded snapshot) s.clock)
        (.statement i) (s.placed i command p (.compiled snapshot plan) s.clock) := by
      refine placed_check entry hPhase ?_ rfl
      rw [CommitPreparedEntryCommand.next, hPlan]
      rfl
    have hReferenced : EntryStep sha256
        (s.placed i command p (.compiled snapshot plan) s.clock) (.statement i)
        (s.placed i command p (.referenceChecked snapshot plan) s.clock) := by
      refine placed_check entry hPhase ?_ rfl
      rw [CommitPreparedEntryCommand.next, hReference]
      rfl
    have hPrinted : EntryStep sha256
        (s.placed i command p (.referenceChecked snapshot plan) s.clock) (.statement i)
        (s.placed i command p (.fingerprintChecked snapshot plan) s.clock) := by
      refine placed_check entry hPhase ?_ rfl
      rw [CommitPreparedEntryCommand.next, hFingerprint]
      rfl
    exact .cons hLoaded (.cons hCompiled (.cons hReferenced (.cons hPrinted (.nil _))))
  have hNotAppends : p.phase.appends = false := by
    rw [hPhase]
    rfl
  obtain rfl := next_bookLocked hPhase rfl hPlanned
  have hClaim : EntryStep sha256
      (s.placed i command p (.fingerprintChecked snapshot plan) s.clock) (.statement i)
      (s.placed i command { p with phase := .planned locked.1 locked.2 plan.plan }
        (.claimed snapshot plan rows.2) entry.claimClock.trigger) := by
    refine placed_claim hIdle hPhase hClock ?_ ((hBus _ p hNotAppends).trans hPlanned)
    rw [hActor, CommitPreparedEntryCommand.next, hRows]
    rfl
  have hAppendStep : EntryStep sha256
      (s.placed i command { p with phase := .planned locked.1 locked.2 plan.plan }
        (.claimed snapshot plan rows.2) entry.claimClock.trigger) (.statement i)
      (s.placed i command { p with phase := appended }
        (.claimed snapshot plan rows.2) entry.claimClock.trigger) :=
    placed_statement hIdle rfl (hAppend _ plan hPlan _ _ _ (advances_call hBegin) rfl)
      hAppended
  have hProjectRun : Run (EntryStep sha256) (s.placed i command
        { p with phase := appended } (.claimed snapshot plan rows.2)
        entry.claimClock.trigger) _
      (s.placed i command q (.claimed snapshot plan rows.2) entry.claimClock.trigger) :=
    run_advances hIdle (hBus answers) hProjects
  have hLast : q.phase = .appended projected.1 projected.2.1 projected.2.2.1
      projected.2.2.2 [] := by
    unfold Phase.projected? at hProjected
    split at hProjected
    · next hSame =>
        cases hProjected
        exact hSame
    · cases hProjected
  have hFinalize : EntryStep sha256
      (s.placed i command q (.claimed snapshot plan rows.2) entry.claimClock.trigger)
      (.statement i)
      (s.placed i command
        { q with
          phase := .finalized projected.1 projected.2.1 projected.2.2.1
            projected.2.2.2 }
        (.finalized snapshot plan writes) entry.evidenceAt) := by
    refine placed_finalize hIdle answers hLast hLater ?_ ?_
    · rw [CommitPreparedEntryCommand.next, hWrites]
      rfl
    · unfold CommandProcess.next
      rw [hLast]
      rfl
  have hCompleteRun : Run (EntryStep sha256) (s.placed i command
        { q with
          phase := .finalized projected.1 projected.2.1 projected.2.2.1
            projected.2.2.2 }
        (.finalized snapshot plan writes) entry.evidenceAt) _
      (s.placed i command r (.finalized snapshot plan writes) entry.evidenceAt) :=
    run_advances hIdle (hBus answers) hCompletes
  have hCommitting : r.phase = .committing pending.1 pending.2.1
      (some pending.2.2) := by
    unfold Phase.writes? at hPending
    split at hPending
    · next hSame =>
        cases hPending
        exact hSame
    · cases hPending
  have hOwner : r.call.actor.subjectId = actor.subjectId := by
    rw [advances_call hCompletes]
    show q.call.actor.subjectId = _
    rw [advances_call hProjects]
    exact hActor
  have hCommit : EntryStep sha256
      (s.placed i command r (.finalized snapshot plan writes) entry.evidenceAt)
      (.commit i)
      ((s.publish command actor.subjectId writes pending.2.2).placed i command
        { r with phase := .returned pending.1 ⟨pending.2.1, false⟩ } .started
        entry.evidenceAt) := by
    rw [← hOwner]
    exact placed_commit hCommitting
  have hBefore := Run.cons hCallStep (hBegun.append (hChecks.append (.cons hClaim
    (.cons hAppendStep (hProjectRun.append (.cons hFinalize hCompleteRun))))))
  refine ⟨_, ?_, hBefore.append (.cons hCommit (.nil _)), ?_⟩
  · intro action hAction
    simp only [List.mem_cons, List.mem_append, List.mem_replicate] at hAction
    grind
  have hPublished : (s.publish command actor.subjectId writes pending.2.2).Idle :=
    ⟨hIdle.processes, hIdle.rows⟩
  exact hPublished.placed rfl rfl

end Alone

/-! ### Two entries dated in the future -/

/-- A digest that is two on the events at position two, and one elsewhere. -/
noncomputable def positionDigest (bytes : ByteArray) : EventHash :=
  open Classical in
  if ∃ envelope payload x y,
      canonicalJsonBytes (canonicalEnvelopeValue envelope) = .ok x
        ∧ canonicalJsonBytes payload = .ok y ∧ envelope.bookPosition = 2
        ∧ bytes = hashPreimage (x, y) then 2 else 1

theorem positionDigest_event {envelope : EventHashEnvelope} {payload : JSONValue}
    {x y : ByteArray}
    (hX : canonicalJsonBytes (canonicalEnvelopeValue envelope) = .ok x)
    (hY : canonicalJsonBytes payload = .ok y) :
    positionDigest (hashPreimage (x, y))
      = if envelope.bookPosition = 2 then 2 else 1 := by
  unfold positionDigest
  by_cases hTwo : envelope.bookPosition = 2
  · rw [if_pos hTwo]
    exact if_pos ⟨envelope, payload, x, y, hX, hY, hTwo, rfl⟩
  · rw [if_neg hTwo]
    refine if_neg ?_
    rintro ⟨other, otherPayload, x', y', hX', hY', hOther, hSame⟩
    have hHashed := (hashPreimage_injective hX hY hX' hY' hSame).1
    rw [hHashed] at hOther
    exact hTwo hOther

theorem positionDigest_text {text : String}
    (h : text.toList.take 19 ≠ hashDomainV1.toList.take 19) :
    positionDigest text.toUTF8 = 1 := by
  unfold positionDigest
  refine if_neg ?_
  rintro ⟨envelope, payload, x, y, hX, hY, -, hSame⟩
  rw [canonicalJsonBytes_ok hX, canonicalJsonBytes_ok hY, hashPreimage_text] at hSame
  have hText := congrArg String.toList (String.toByteArray_inj.1 hSame)
  rw [String.toList_ofList] at hText
  refine h ?_
  rw [hText]
  exact List.take_append_of_le_length (by decide)

theorem eventHash_positionDigest (envelope : EventHashEnvelope)
    (payload : EventPayload) :
    eventHash positionDigest envelope (.registered payload)
      = eventHash (fun _ => if envelope.bookPosition = 2 then 2 else 1) envelope
        (.registered payload) := by
  unfold eventHash canonicalHashParts
  cases hX : canonicalJsonBytes (canonicalEnvelopeValue envelope) with
  | error e => rfl
  | ok x =>
      cases hY : canonicalJsonBytes payload.dump with
      | error e =>
          have hBytes : (StoredPayload.registered payload).canonicalBytes
            = .error e := hY
          rw [hBytes]
          rfl
      | ok y =>
          have hBytes : (StoredPayload.registered payload).canonicalBytes
            = .ok y := hY
          rw [hBytes]
          cases envelope.postInit with
          | error e => rfl
          | ok u => exact congrArg Except.ok (positionDigest_event hX hY)

theorem hashCommandRequest_positionDigest (command : IdempotencyCommand)
    (scope : AuthorizationScope) : hashCommandRequest positionDigest command scope
      = hashCommandRequest (fun _ => 1) command scope := by
  unfold hashCommandRequest
  generalize (JSONValue.dict _) = value
  cases hBytes : canonicalJsonBytes value with
  | error e => rfl
  | ok x =>
      have hDigest : positionDigest (requestHashDomain ++ x) = 1 := by
        have hNul : (⟨#[0]⟩ : ByteArray) = (String.ofList [Char.ofNat 0]).toUTF8 := by
          decide
        rw [canonicalJsonBytes_ok hBytes]
        refine Eq.trans (congrArg positionDigest (?_ : _ = String.toUTF8
          ("track-anywhere:v2:command-request:sha256:v1" ++ String.ofList [Char.ofNat 0]
            ++ String.ofList (render value)))) (positionDigest_text ?_)
        · rw [requestHashDomain, hNul]
          rfl
        · rw [String.toList_append, String.toList_append, List.append_assoc,
            List.take_append_of_le_length (by decide)]
          decide
      show (do
        require _ _
        require _ _
        return positionDigest (requestHashDomain ++ x)) = _
      rw [hDigest]
      rfl

theorem next_positionDigest (t : CommandTables) (asked : Answers)
    (p : CommandProcess) (h : p.phase.appends = false) :
    p.next positionDigest t asked = p.next (fun _ => 1) t asked := by
  obtain ⟨call, keyHash, attempt, current⟩ := p
  cases current with
  | begun =>
      unfold CommandProcess.next
      simp only [hashCommandRequest_positionDigest]
  | planned receipt head plan => cases h
  | appended receipt plan batch ledger unprojected => cases unprojected <;> rfl
  | _ => rfl

/-- A batch of one event is the same under digests that agree on its position. -/
theorem appendBatch_congr {f g : ByteArray → EventHash} {t : EventStoreTables}
    {bookId : UUID} {expected : Dict StreamKey Int} {pending : PendingEvent}
    {generated : UUID → Nat × Instant}
    (h : ∀ head, t.bookHead? bookId = some head →
      ∀ (envelope : EventHashEnvelope) payload,
        envelope.bookPosition = head.lastPosition + 1 →
        eventHash f envelope (.registered payload)
          = eventHash g envelope (.registered payload)) :
    appendBatch f bookId expected [pending] generated t
      = appendBatch g bookId expected [pending] generated t := by
  have hPrepare : prepareBatch f t bookId expected [pending] generated
      = prepareBatch g t bookId expected [pending] generated := by
    unfold prepareBatch
    cases hHead : t.bookHead? bookId with
    | none => rfl
    | some head =>
        have hEvent : ∀ state : BatchState, state.nextPosition = head.lastPosition →
            appendPending f bookId generated state pending
              = appendPending g bookId generated state pending := by
          intro state hPosition
          unfold appendPending
          cases hDump : dumpRegistered pending.payload with
          | error e => rfl
          | ok stored =>
              have hStored : stored = .registered pending.payload.1 := by
                unfold dumpRegistered at hDump
                obtain ⟨_, -, hDump⟩ := bind_eq_ok.1 hDump
                exact (pure_eq_ok.1 hDump).symm
              subst hStored
              have hHash := h head hHead
                { eventId := pending.eventId
                  bookId := bookId
                  bookPosition := state.nextPosition + 1
                  globalSequence := 1
                  streamType := pending.streamType
                  streamId := pending.streamId
                  streamVersion := state.nextVersions pending.streamKey + 1
                  eventType := pending.payload.1.eventType
                  eventSchemaVersion := pending.payload.1.schemaVersion
                  commandId := pending.commandId
                  actorSubjectId := pending.actorSubjectId
                  correlationId := pending.correlationId
                  causationEventId := pending.causationEventId
                  effectiveAt := pending.effectiveAt
                  recordedAt := hashPlaceholderRecordedAt
                  previousHash := state.previousHash } pending.payload.1
                (by rw [hPosition])
              show (do
                let hashed ← (eventHash f _ _).mapError AppendError.value
                _) = _
              rw [hHash]
              rfl
        simp only [List.foldlM_cons, List.foldlM_nil, fetch, bind, Except.bind]
        rw [hEvent _ rfl]
  show (Transaction.check (prepareBatch f t bookId expected [pending] generated) >>= _) t = _
  rw [hPrepare]
  rfl

/-- 100 units, posted once and once again. -/
def sampleFirstContract : EventContract :=
  ⟨.journalTransactionPosted ⟨11, .standard, none, samplePostings 22 23 .debit,
    none, []⟩, rfl⟩

def sampleSecondContract : EventContract :=
  ⟨.journalTransactionPosted ⟨12, .standard, none, samplePostings 24 25 .debit,
    none, []⟩, rfl⟩

/-- The event of the plan of a sample intent. -/
def sampleEntryPending (number : UUID) (payload : EventContract)
    (actorSubjectId : String) : PendingEvent :=
  { samplePending number (10 + number) with
    payload := payload
    commandId := 40 + number
    actorSubjectId := actorSubjectId
    correlationId := 40 + number }

def sampleEntryPlan (number : UUID) (payload : EventContract)
    (actorSubjectId : String) :
    EntryPlan (10 + number) where
  plan := { samplePlan with
    expectedStreamVersions :=
      (∅ : Dict StreamKey Int).insert ("journal_transaction", 10 + number) 0
    events := [sampleEntryPending number payload actorSubjectId]
    hEvents := List.cons_ne_nil _ _ }
  financial := sampleEntryPending number payload actorSubjectId
  reporting := none
  hEvents := rfl
  hFinancial := rfl
  hReporting := fun _ h => nomatch h
  hNew := AList.lookup_insert _

/-- The date of the sample entries: a day after the window of what is committed
at time zero. -/
def sampleOccurredAt : Moment := 8 * 86400000000

/-- A ready intent of Book 1, with fingerprint 5 and a reference of its own. -/
def sampleIntent (number : UUID) (actorId : String) : IntentBindings where
  bookId := 1
  intentId := 50 + number
  actorId := actorId
  preparedStatus := .ready
  commitTokenHash := some 9
  canonicalPayload := ⟨10 + number, some sampleOccurredAt, some 5,
    some ⟨"bank", .providerTransaction, if number = 1 then 61 else 62⟩⟩
  expiresAt := 600
  createdAt := 0

def sampleCommit (number : UUID) : CommitPreparedEntryCommand where
  bookId := 1
  commandId := 40 + number
  intentId := 50 + number
  commitTokenHash := 9

/-- The answers to the commit of a sample intent, at time `now`. -/
def sampleEntryAnswers (number : UUID) (payload : EventContract)
    (actorSubjectId : String) (now : Moment) : EntryAnswers where
  committedAt := now
  recompiled := fun transactionId =>
    if h : 10 + number = transactionId then
      .ok (h ▸ sampleEntryPlan number payload actorSubjectId)
    else .error (.other "no plan")
  claimClock := ⟨now, now, now, le_refl _, le_refl _⟩
  evidenceAt := now
  finalizer := .ok ()

theorem sample_owner : "owner" ≠ "" := by
  decide

theorem sample_ledgerWrite : ∀ scope ∈ ["ledger:write"], scope ≠ "" := by
  decide

def sampleBusAnswers (actorSubjectId : String)
    (hBound : actorSubjectId ≠ "" ∧ actorSubjectId.length ≤ 128) : Answers :=
  { sampleAnswers with
    authorization := .ok ⟨1, actorSubjectId, "owner", ["ledger:write"], hBound,
      sample_owner, sample_ledgerWrite⟩ }

def sampleOpened : EntrySystem :=
  .initial (fun _ => some .active) (fun _ => sampleCatalog) 0

/-- Two actors have prepared the same entry. -/
def sampleEntrySystem : EntrySystem :=
  { sampleOpened with
    entries := ⟨[⟨sampleIntent 1 "actor", .created⟩,
      ⟨sampleIntent 2 "other", .created⟩], [], []⟩ }

theorem sample_actor : "actor" ≠ "" ∧ "actor".length ≤ 128 := by
  decide

def sampleFirstPosted : Except CommandError EntrySystem :=
  sampleEntrySystem.commitAlone 0 (sampleCommit 1) ⟨"actor", sample_actor⟩ 1
    (sampleBusAnswers "actor" sample_actor) (sampleEntryAnswers 1 sampleFirstContract "actor" 10)

def sampleBothPosted : Except CommandError EntrySystem := do
  let s ← sampleFirstPosted
  s.commitAlone 1 (sampleCommit 2) ⟨"other", by decide⟩ 2
    (sampleBusAnswers "other" (by decide)) (sampleEntryAnswers 2 sampleSecondContract "other" 20)

theorem appendLocked_congr {f g : ByteArray → EventHash} {ledger : BookLedger}
    {head : LockedBookHead} {plan : LedgerWritePlan} {pending : PendingEvent}
    {generated : UUID → Nat × Instant} (hPlan : plan.events = [pending])
    (h : ∀ current ∈ ledger.store.bookHeads,
      ∀ (envelope : EventHashEnvelope) payload,
        envelope.bookPosition = current.lastPosition + 1 →
        eventHash f envelope (.registered payload)
          = eventHash g envelope (.registered payload)) :
    appendLocked f head plan generated ledger
      = appendLocked g head plan generated ledger := by
  have hBatch : appendBatch f head.bookId plan.expectedStreamVersions plan.events
        generated ledger.store
      = appendBatch g head.bookId plan.expectedStreamVersions plan.events generated
        ledger.store := by
    rw [hPlan]
    exact appendBatch_congr fun current hCurrent =>
      h current (List.mem_of_find?_eq_some hCurrent)
  unfold appendLocked Transaction.atomically
  simp only [hBatch]

/-- A sample commit under `positionDigest`, where the Book has `position`
events. -/
theorem run_samplePosted {s s' : EntrySystem} {i : Nat} {number : UUID}
    {contract : EventContract} {actorId : String} {actor : CommandActor}
    {answers : Answers} {now : Moment} (position : Nat)
    (hIdle : s.Idle) (hNone : s.commands.processes i = none)
    (hKey : (sampleCommit number).commandId.text.toList.take 19
      ≠ hashDomainV1.toList.take 19)
    (hHeads : (s.commands.tables.ledgers 1).store.bookHeads.map (·.lastPosition)
      = [position])
    (h : s.commitAlone i (sampleCommit number) actor
      (if position + 1 = 2 then 2 else 1) answers
      (sampleEntryAnswers number contract actorId now) = .ok s') :
    ∃ before, (∀ action ∈ before,
        action = .call i (sampleCommit number) ∨ action = .statement i)
      ∧ Run (EntryStep positionDigest) s (before ++ [.commit i]) s' ∧ s'.Idle := by
  refine run_commitAlone hIdle hNone ?_
    (fun asked p hAppends => next_positionDigest _ asked p hAppends) ?_ h
  · unfold startFinancial hashIdempotencyKey
    have hDigest : positionDigest
        ((sampleCommit number).financialCall actor 1).rawKey.toUTF8 = 1 :=
      positionDigest_text hKey
    rw [hDigest]
  · intro transactionId plan hPlan p receipt head hCall hPhase
    simp only [sampleEntryAnswers] at hPlan
    split_ifs at hPlan with hSame
    subst hSame
    cases hPlan
    have hLocked : appendLocked positionDigest head
        (sampleEntryPlan number contract actorId).plan answers.generated
        (s.commands.tables.ledgers 1)
      = appendLocked (fun _ => if position + 1 = 2 then 2 else 1) head
        (sampleEntryPlan number contract actorId).plan answers.generated
        (s.commands.tables.ledgers 1) := by
      refine appendLocked_congr rfl ?_
      intro current hCurrent envelope payload hPosition
      have hLast : current.lastPosition = position := by
        have hMem : current.lastPosition
            ∈ (s.commands.tables.ledgers 1).store.bookHeads.map (·.lastPosition) :=
          List.mem_map.2 ⟨current, hCurrent, rfl⟩
        rw [hHeads] at hMem
        exact List.mem_singleton.1 hMem
      rw [eventHash_positionDigest, hPosition, hLast]
    obtain ⟨call, keyHash, attempt, phase⟩ := p
    cases hCall
    cases hPhase
    unfold CommandProcess.next
    change (appendLocked positionDigest head
      (sampleEntryPlan number contract actorId).plan answers.generated
      (s.commands.tables.ledgers 1) >>= _) = _
    rw [hLocked]
    rfl

theorem sampleFirstPosted_ok : (sampleFirstPosted.toOption.any fun s =>
    (s.commands.processes 1).isNone
      && ((s.commands.tables.ledgers 1).store.bookHeads.map (·.lastPosition) = [1])
      && s.posted.any fun e => e.command.bookId = 1 ∧ e.payload.sourceReferenceDigest
        = some ⟨"bank", .providerTransaction, 61⟩) = true := by
  decide +kernel

/-- Both are posted, with one fingerprint. -/
theorem sampleBothPosted_ok : (sampleBothPosted.toOption.any fun s =>
    s.posted.map (fun e => (e.command.bookId, e.command.intentId,
      e.payload.fingerprintHmac)) = [(1, 51, some 5), (1, 52, some 5)]) = true := by
  decide +kernel

theorem toOption_ok {α : Type} {x : Except CommandError α} {f : α → Bool}
    (h : x.toOption.any f = true) : ∃ a, x = .ok a ∧ f a = true := by
  cases x with
  | ok a => exact ⟨a, rfl, h⟩
  | error e => cases h

theorem insertIntent_sampleFirst : sampleOpened.entries.insertIntent
    (sampleIntent 1 "actor")
      = .ok ⟨[⟨sampleIntent 1 "actor", .created⟩], [], []⟩ :=
  rfl

theorem run_samplePrepared : Run (EntryStep positionDigest) sampleOpened
    [.prepare (sampleIntent 1 "actor"), .prepare (sampleIntent 2 "other")]
    sampleEntrySystem :=
  .cons (.prepare insertIntent_sampleFirst) (.cons (.prepare rfl) (.nil _))

theorem run_sampleFirstPosted {first : EntrySystem}
    (hFirst : sampleFirstPosted = .ok first) : ∃ before, (∀ action ∈ before,
        action = .call 0 (sampleCommit 1) ∨ action = .statement 0)
      ∧ Run (EntryStep positionDigest) sampleEntrySystem (before ++ [.commit 0]) first
      ∧ first.Idle := by
  have hIdle : sampleEntrySystem.Idle := by
    refine ⟨?_, ?_⟩
    · rintro j p ⟨⟩
    · intro holder key h
      cases holder <;> cases h
  exact run_samplePosted 0 hIdle rfl (by decide) rfl hFirst

/-- The two intents of the sample are prepared, and both are posted. -/
theorem run_sampleBothPosted : ∃ actions s,
    Run (EntryStep positionDigest) sampleOpened actions s
      ∧ s.posted.map (fun e => (e.command.bookId, e.command.intentId,
        e.payload.fingerprintHmac)) = [(1, 51, some 5), (1, 52, some 5)] := by
  obtain ⟨first, hFirst, hFacts⟩ := toOption_ok sampleFirstPosted_ok
  obtain ⟨both, hBoth, hPosted⟩ := toOption_ok sampleBothPosted_ok
  simp only [Bool.and_eq_true, decide_eq_true_eq, Option.isNone_iff_eq_none] at hFacts
  have hSecond : first.commitAlone 1 (sampleCommit 2) ⟨"other", by decide⟩ 2
      (sampleBusAnswers "other" (by decide))
      (sampleEntryAnswers 2 sampleSecondContract "other" 20) = .ok both := by
    unfold sampleBothPosted at hBoth
    rw [hFirst] at hBoth
    exact hBoth
  obtain ⟨firstBefore, -, hFirstRun, hFirstIdle⟩ := run_sampleFirstPosted hFirst
  obtain ⟨bothBefore, -, hBothRun, -⟩ := run_samplePosted 1 hFirstIdle
    hFacts.1.1 (by decide) hFacts.1.2 hSecond
  exact ⟨_, both, run_samplePrepared.append (hFirstRun.append hBothRun),
    of_decide_eq_true hPosted⟩

/-- Both intents of the sample are consumed, each once. -/
theorem intents_consumedOnce_over_sample : ∃ actions s,
    Run (EntryStep positionDigest) sampleOpened actions s ∧ s.posted.length = 2
      ∧ (s.posted.map (·.claimed.key)).Nodup
      ∧ ∀ e ∈ s.posted, PostedOk s.entries s.commands e := by
  obtain ⟨actions, s, hRun, hPosted⟩ := run_sampleBothPosted
  have hConsumed := intents_consumedOnce_over_interleavings hRun
  refine ⟨actions, s, hRun, ?_, hConsumed.2.1, hConsumed.2.2.1⟩
  have hLength := congrArg List.length hPosted
  rwa [List.length_map] at hLength

/-- The first of the sample has posted its reference, for it alone. -/
theorem externalReference_postedOnce_over_sample : ∃ actions s,
    Run (EntryStep positionDigest) sampleOpened actions s
      ∧ (∃ e ∈ s.posted, e.command.bookId = 1 ∧ e.payload.sourceReferenceDigest
        = some ⟨"bank", .providerTransaction, 61⟩)
      ∧ ∀ e ∈ s.posted, ∀ e' ∈ s.posted, e.command.bookId = e'.command.bookId →
        e.payload.sourceReferenceDigest = some ⟨"bank", .providerTransaction, 61⟩ →
        e'.payload.sourceReferenceDigest = some ⟨"bank", .providerTransaction, 61⟩ →
        e = e' := by
  obtain ⟨first, hFirst, hFacts⟩ := toOption_ok sampleFirstPosted_ok
  obtain ⟨before, -, hFirstRun, -⟩ := run_sampleFirstPosted hFirst
  have hRun := run_samplePrepared.append hFirstRun
  have hOnce := externalReference_postedOnce_over_interleavings hRun
  refine ⟨_, first, hRun, ?_, fun e he e' he' hBook => hOnce.1 e he e' he' hBook _⟩
  simp only [Bool.and_eq_true, decide_eq_true_eq, List.any_eq_true] at hFacts
  exact hFacts.2

/-- Two entries of one fingerprint are both posted: the second is dated after the
window of the first. -/
theorem sourceFingerprint_postedTwice :
    ¬ ∀ (sha256 : ByteArray → EventHash) actions s,
      Run (EntryStep sha256) sampleOpened actions s →
        s.posted.Pairwise FingerprintsDiffer := by
  intro hDiffer
  obtain ⟨actions, s, hRun, hPosted⟩ := run_sampleBothPosted
  have hPairs := hDiffer positionDigest actions s hRun
  obtain ⟨e, rest, hList, hFirst, hRest⟩ := List.map_eq_cons_iff.1 hPosted
  obtain ⟨e', rest', rfl, hSecond, -⟩ := List.map_eq_cons_iff.1 hRest
  rw [hList] at hPairs
  simp only [Prod.mk.injEq] at hFirst hSecond
  exact List.rel_of_pairwise_cons hPairs List.mem_cons_self
    (hFirst.1.trans hSecond.1.symm) 5 hFirst.2.2 hSecond.2.2

/-- Steps before a commit, and a commit that finds no evidence, are in the
window. -/
theorem run_windowReaches {sha256 : ByteArray → EventHash} {s s' : EntrySystem}
    {before : List EntryAction} {i : Nat} {command : CommitPreparedEntryCommand}
    (hBefore : ∀ action ∈ before, action = .call i command ∨ action = .statement i)
    (hNone : s.entries.fingerprints = []) (h : EntryInvariant sha256 s)
    (hRun : Run (EntryStep sha256) s (before ++ [.commit i]) s') :
    Run (fun s action s' => EntryStep sha256 s action s' ∧ WindowReaches s action) s
      (before ++ [.commit i]) s' := by
  induction before generalizing s with
  | nil =>
      cases hRun with
      | cons hStep hRest =>
          refine .cons ⟨hStep, ?_⟩ ?_
          · intro j session snapshot plan writes _ _ _ _ _ _ _ row hRow
            rw [hNone] at hRow
            cases hRow
          · cases hRest
            exact .nil _
  | cons action rest ih =>
      cases hRun with
      | @cons _ s₁ _ _ _ hStep hRest =>
          have hQuiet : Quiet s s₁ := by
            have hEffect := stepEffect_of_step h hStep
            rcases hBefore action List.mem_cons_self with rfl | rfl <;> exact hEffect
          refine .cons ⟨hStep, ?_⟩ (ih
            (fun other hOther => hBefore other (List.mem_cons_of_mem _ hOther))
            (by rw [hQuiet.entries, hNone]) (entryInvariant_step h hStep) hRest)
          rintro j session snapshot plan writes (rfl | rfl)
          · rcases hBefore _ List.mem_cons_self with hOwn | hOwn <;> cases hOwn
          · rcases hBefore _ List.mem_cons_self with hOwn | hOwn <;> cases hOwn

/-- The first commit of the sample has nothing to find. -/
theorem sourceFingerprint_postedOnce_of_sample : ∃ actions s,
    Run (EntryStep positionDigest) sampleOpened actions s ∧ s.posted ≠ []
      ∧ s.posted.Pairwise FingerprintsDiffer := by
  obtain ⟨first, hFirst, hFacts⟩ := toOption_ok sampleFirstPosted_ok
  obtain ⟨before, hBefore, hFirstRun, -⟩ := run_sampleFirstPosted hFirst
  have hPrepared : Run (fun s action s' => EntryStep positionDigest s action s'
      ∧ WindowReaches s action) sampleOpened
      [.prepare (sampleIntent 1 "actor"), .prepare (sampleIntent 2 "other")]
      sampleEntrySystem :=
    .cons ⟨.prepare insertIntent_sampleFirst,
      by rintro j _ _ _ _ (h | h) <;> cases h⟩
      (.cons ⟨.prepare rfl, by rintro j _ _ _ _ (h | h) <;> cases h⟩ (.nil _))
  have hWindow := run_windowReaches hBefore rfl
    (entryInvariant_run (entryInvariant_initial positionDigest _ _ _)
      run_samplePrepared) hFirstRun
  have hOnce := sourceFingerprint_postedOnce_in_window (hPrepared.append hWindow)
  refine ⟨_, first, run_samplePrepared.append hFirstRun, ?_, hOnce.1⟩
  intro hNil
  simp only [hNil, List.any_nil, Bool.and_false, Bool.false_eq_true] at hFacts

end TrackAnywhere.Ports
