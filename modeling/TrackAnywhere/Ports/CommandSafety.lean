import TrackAnywhere.Ports.CommandBus
import TrackAnywhere.Ports.EventStoreVerified

/-!
# Commands take effect once

The interleaved system is a service that applies every receipt scope once: a
step of a process either leaves ledgers and receipts alone, or commits the
application of one plan under a scope that had none.  What a process knows in
each phase is `PhaseOk`; the locks keep it true while other processes commit.
-/

namespace TrackAnywhere.Ports

open TrackAnywhere.Verified
open TrackAnywhere.Verified.Checked
open TrackAnywhere.Verified.ExactlyOnce
open TrackAnywhere.Verified.Transaction

/-! ## The service behind the system -/

/-- The events of a plan carry the identity of its command. -/
def Owned (commandId : UUID) (actorSubjectId : String) (plan : LedgerWritePlan) :
    Prop :=
  ∀ event ∈ plan.events,
    event.commandId = commandId ∧ event.actorSubjectId = actorSubjectId

/-- An application changes the ledger of its Book as its plan does, and no
other. -/
def LedgersApply (sha256 : ByteArray → EventHash) (ledgers : UUID → BookLedger)
    (a : CommandApplication) (ledgers' : UUID → BookLedger) : Prop :=
  ∃ ledger, PlanApplies sha256 a.key.bookId a.plan.plan (ledgers a.key.bookId)
      a.result ledger
    ∧ Owned a.plan.commandId a.key.actorSubjectId a.plan.plan
    ∧ ledgers' = Function.update ledgers a.key.bookId ledger

/-- The ledgers, and the applications made. -/
def CommandSystem.service (s : CommandSystem) :
    Service (UUID → BookLedger) ReceiptScope EventHash CommandPlan
      CommandResult :=
  ⟨s.tables.ledgers, s.applied⟩

/-- The completed receipt of an application. -/
def receiptOf (a : CommandApplication) : CommandReceiptRecord :=
  (processingReceipt a.key a.request a.plan.commandId).completed a.result

/-! ## What a phase knows -/

/-- A batch that is appended, and partly projected. -/
def PartlyApplied (sha256 : ByteArray → EventHash) (bookId : UUID)
    (plan : LedgerWritePlan) (start : BookLedger) (batch : AppendBatchResult)
    (ledger : BookLedger) (unprojected : List LedgerEventRecord) : Prop :=
  ∃ generated projected,
    atomically (appendBatch sha256 bookId plan.expectedStreamVersions plan.events
        generated) start.store = (.ok batch, ledger.store)
    ∧ reloadBatch ledger.store bookId batch.eventIds = projected ++ unprojected
    ∧ Run (Projects ledger.store.events bookId) start.sync projected ledger.sync

/-- The process is the first of its scope, with this row. -/
def FirstOfScope (applied : List CommandApplication) (p : CommandProcess)
    (receipt : CommandReceiptRecord) : Prop :=
  (∃ requestHash, receipt = p.newReceipt requestHash)
    ∧ p.scope ∉ applied.map (·.key)

/-- What a process is about to commit. -/
structure WritesOk (sha256 : ByteArray → EventHash)
    (applied : List CommandApplication) (start : BookLedger)
    (p : CommandProcess) (writes : PendingWrites) : Prop where
  receipt : ∃ requestHash,
    writes.receipt = (p.newReceipt requestHash).completed writes.result
  first : p.scope ∉ applied.map (·.key)
  owned : Owned p.call.command.commandId p.call.actor.subjectId writes.plan
  applies : PlanApplies sha256 p.call.command.bookId writes.plan start
    writes.result writes.ledger

/-- The call is answered by an application of its scope. -/
def AnsweredBy (applied : List CommandApplication) (p : CommandProcess)
    (requestHash : EventHash) (result : CommandResult) : Prop :=
  ∃ a ∈ applied, a.key = p.scope ∧ a.request = requestHash ∧ a.result = result

/-- What a process knows, `start` being the committed ledger of its Book. -/
def PhaseOk (sha256 : ByteArray → EventHash) (applied : List CommandApplication)
    (start : BookLedger) (p : CommandProcess) : Prop :=
  match p.phase with
  | .begun => True
  | .authorized _ => True
  | .inserted _ none => True
  | .inserted requestHash (some row) =>
      row = p.newReceipt requestHash ∧ p.scope ∉ applied.map (·.key)
  | .reserved requestHash reservation =>
      (reservation.created = true →
        reservation.receipt = p.newReceipt requestHash
          ∧ p.scope ∉ applied.map (·.key))
      ∧ (reservation.created = false →
        ∃ a ∈ applied, a.key = p.scope ∧ reservation.receipt = receiptOf a)
  | .headLocked receipt head =>
      FirstOfScope applied p receipt ∧ head.bookId = p.call.command.bookId
  | .bookLocked receipt head =>
      FirstOfScope applied p receipt ∧ head.bookId = p.call.command.bookId
  | .planned receipt head plan =>
      FirstOfScope applied p receipt ∧ head.bookId = p.call.command.bookId
        ∧ Owned p.call.command.commandId p.call.actor.subjectId plan
  | .appended receipt plan batch ledger unprojected =>
      FirstOfScope applied p receipt
        ∧ Owned p.call.command.commandId p.call.actor.subjectId plan
        ∧ PartlyApplied sha256 p.call.command.bookId plan start batch ledger
          unprojected
  | .finalized receipt plan batch ledger =>
      FirstOfScope applied p receipt
        ∧ Owned p.call.command.commandId p.call.actor.subjectId plan
        ∧ PartlyApplied sha256 p.call.command.bookId plan start batch ledger []
  | .completed writes => WritesOk sha256 applied start p writes
  | .committing requestHash result none =>
      AnsweredBy applied p requestHash result
  | .committing requestHash result (some writes) =>
      WritesOk sha256 applied start p writes
        ∧ requestHash = writes.receipt.requestHash ∧ result = writes.result
  | .returned requestHash outcome =>
      AnsweredBy applied p requestHash outcome.result
  | .raised _ => True

section Statements

variable {sha256 : ByteArray → EventHash} {t : CommandTables}
  {applied : List CommandApplication} {answers : Answers} {p : CommandProcess}
  {phase : Phase}

theorem scope_of_receipts (hReceipts : t.receipts = applied.map receiptOf)
    {scope : ReceiptScope} :
    scope ∈ t.receipts.map (·.scope) ↔ scope ∈ applied.map (·.key) := by
  rw [hReceipts, List.map_map]
  rfl

/-- The row that is locked: the inserted one, or that of an application. -/
theorem lockReceipt_inserted (hReceipts : t.receipts = applied.map receiptOf)
    {row : CommandReceiptRecord} (hRow : row.scope = p.scope)
    (hFirst : p.scope ∉ applied.map (·.key)) :
    lockReceipt t.receipts (some row) p.scope = some row := by
  have hNone : t.receipts.find? (fun r => r.scope = p.scope) = none := by
    refine List.find?_eq_none.2 fun r hr hScope => hFirst ?_
    rw [← scope_of_receipts hReceipts]
    exact List.mem_map.2 ⟨r, hr, by simpa using hScope⟩
  unfold lockReceipt
  rw [List.find?_append, hNone, Option.none_or]
  simp [hRow]

theorem lockReceipt_found (hReceipts : t.receipts = applied.map receiptOf)
    {row : CommandReceiptRecord}
    (h : lockReceipt t.receipts none p.scope = some row) :
    ∃ a ∈ applied, a.key = p.scope ∧ row = receiptOf a := by
  unfold lockReceipt at h
  rw [Option.toList_none, List.append_nil] at h
  have hScope : row.scope = p.scope := by simpa using List.find?_some h
  have hMem := List.mem_of_find?_eq_some h
  rw [hReceipts] at hMem
  obtain ⟨a, ha, rfl⟩ := List.mem_map.1 hMem
  exact ⟨a, ha, hScope, rfl⟩

/-- A statement establishes what the next phase knows. -/
theorem phaseOk_next (hReceipts : t.receipts = applied.map receiptOf)
    (hResults : ∀ a ∈ applied, a.result.postInit = .ok ())
    (h : PhaseOk sha256 applied (t.ledgers p.call.command.bookId) p)
    (hNext : p.next sha256 t answers = .ok phase) :
    PhaseOk sha256 applied (t.ledgers p.call.command.bookId)
      { p with phase := phase } := by
  obtain ⟨call, keyHash, attempt, current⟩ := p
  unfold CommandProcess.next at hNext
  cases current with
  | begun =>
      simp only [bind_eq_ok, pure_eq_ok] at hNext
      obtain ⟨_, -, _, -, _, -, _, -, rfl⟩ := hNext
      trivial
  | authorized requestHash =>
      simp only [bind_eq_ok, pure_eq_ok] at hNext
      obtain ⟨row, hInsert, rfl⟩ := hNext
      unfold insertReceipt at hInsert
      simp only [bind_eq_ok, pure_eq_ok] at hInsert
      obtain ⟨_, -, _, -, hRow⟩ := hInsert
      split_ifs at hRow with hCollides
      · rw [← hRow]
        trivial
      · rw [← hRow]
        refine ⟨rfl, fun hMem => hCollides ?_⟩
        rw [← scope_of_receipts hReceipts] at hMem
        obtain ⟨other, hOther, hScope⟩ := List.mem_map.1 hMem
        exact List.any_eq_true.2 ⟨other, hOther, decide_eq_true (.inl hScope.symm)⟩
  | inserted requestHash row =>
      simp only [bind_eq_ok, pure_eq_ok] at hNext
      obtain ⟨reservation, hReserve, rfl⟩ := hNext
      unfold reserve at hReserve
      simp only [bind_eq_ok, fetch_eq_ok, pure_eq_ok] at hReserve
      obtain ⟨record, hLock, _, -, _, -, rfl⟩ := hReserve
      cases row with
      | none =>
          refine ⟨(fun hCreated => by cases hCreated), fun _ => ?_⟩
          exact lockReceipt_found hReceipts hLock
      | some row =>
          obtain ⟨hRow, hFirst⟩ := h
          rw [lockReceipt_inserted hReceipts (by rw [hRow]; rfl) hFirst] at hLock
          refine ⟨fun _ => ?_, fun hCreated => by cases hCreated⟩
          exact ⟨(Option.some.inj hLock).symm.trans hRow, hFirst⟩
  | reserved requestHash reservation =>
      dsimp only at hNext
      split_ifs at hNext with hCreated
      · simp only [bind_eq_ok, pure_eq_ok] at hNext
        obtain ⟨result, hReplay, rfl⟩ := hNext
        obtain ⟨a, ha, hKey, hReceipt⟩ := h.2 hCreated
        have hReservation : reservation = ⟨false, receiptOf a⟩ := by
          rw [← hCreated, ← hReceipt]
        rw [hReservation, receiptOf,
          replayOrConflict_completed (hResults a ha)] at hReplay
        split_ifs at hReplay with hSame
        exact ⟨a, ha, hKey, hSame.symm, Except.ok.inj hReplay⟩
      · simp only [bind_eq_ok, pure_eq_ok] at hNext
        obtain ⟨head, hHead, rfl⟩ := hNext
        obtain ⟨hReceipt, hFirst⟩ := h.1 (by simpa using hCreated)
        refine ⟨⟨⟨requestHash, hReceipt⟩, hFirst⟩, ?_⟩
        unfold lockBookHead at hHead
        simp only [bind_eq_ok, fetch_eq_ok, pure_eq_ok] at hHead
        obtain ⟨row, hRow, rfl⟩ := hHead
        simpa using List.find?_some hRow
  | headLocked receipt head =>
      simp only [bind_eq_ok, pure_eq_ok] at hNext
      obtain ⟨_, -, rfl⟩ := hNext
      exact h
  | bookLocked receipt head =>
      simp only [bind_eq_ok, require_eq_ok, pure_eq_ok] at hNext
      obtain ⟨plan, -, _, hOwned, rfl⟩ := hNext
      exact ⟨h.1, h.2, hOwned⟩
  | planned receipt head plan =>
      simp only [bind_eq_ok, pure_eq_ok] at hNext
      obtain ⟨⟨batch, store, storedEvents⟩, hAppend, rfl⟩ := hNext
      obtain ⟨hFirst, hHead, hOwned⟩ := h
      obtain ⟨hBatch, hStored⟩ := appendLocked_ok hAppend
      rw [hHead] at hBatch hStored
      exact ⟨hFirst, hOwned, answers.generated, [], hBatch, hStored.symm,
        .nil _⟩
  | appended receipt plan batch ledger unprojected =>
      obtain ⟨hFirst, hOwned, generated, projected, hBatch, hReload, hRun⟩ := h
      cases unprojected with
      | nil =>
          simp only [bind_eq_ok, pure_eq_ok] at hNext
          obtain ⟨_, -, rfl⟩ := hNext
          exact ⟨hFirst, hOwned, generated, projected, hBatch, hReload, hRun⟩
      | cons stored unprojected =>
          simp only [bind_eq_ok, pure_eq_ok] at hNext
          obtain ⟨ledger', hProject, rfl⟩ := hNext
          obtain ⟨hMem, hBook⟩ := mem_reloadBatch (e := stored) (by
            rw [hReload]
            exact List.mem_append_right _ List.mem_cons_self)
          obtain ⟨hStore, hStep⟩ := projectLocked_ok hMem hBook hProject
          refine ⟨hFirst, hOwned, generated, projected ++ [stored], ?_, ?_, ?_⟩
          · rw [hStore]
            exact hBatch
          · rw [hStore, hReload, List.append_assoc]
            rfl
          · rw [hStore]
            exact hRun.snoc hStep
  | finalized receipt plan batch ledger =>
      simp only [bind_eq_ok, pure_eq_ok] at hNext
      obtain ⟨result, hResult, completed, hComplete, rfl⟩ := hNext
      obtain ⟨⟨⟨requestHash, hReceipt⟩, hFirst⟩, hOwned, generated, projected,
        hBatch, hReload, hRun⟩ := h
      unfold completeReceipt at hComplete
      simp only [bind_eq_ok, pure_eq_ok] at hComplete
      obtain ⟨_, -, _, -, _, -, rfl⟩ := hComplete
      rw [List.append_nil] at hReload
      refine ⟨⟨requestHash, by rw [hReceipt]; rfl⟩, hFirst, hOwned, ?_⟩
      exact ⟨generated, batch, hBatch, hReload.symm ▸ hRun, hResult⟩
  | completed writes =>
      simp only [bind_eq_ok, pure_eq_ok] at hNext
      obtain ⟨_, -, rfl⟩ := hNext
      have hWrites : WritesOk sha256 applied _ _ writes := h
      exact ⟨⟨hWrites.receipt, hWrites.first, hWrites.owned, hWrites.applies⟩,
        rfl, rfl⟩
  | committing requestHash result writes =>
      cases pure_eq_ok.1 hNext
      exact h
  | returned requestHash outcome =>
      cases pure_eq_ok.1 hNext
      exact h
  | raised error =>
      cases pure_eq_ok.1 hNext
      trivial

end Statements

/-! ## The commits of others -/

section Commits

variable {sha256 : ByteArray → EventHash} {applied : List CommandApplication}
  {a : CommandApplication} {start start' : BookLedger} {p : CommandProcess}

theorem notMem_keys_snoc (hFirst : p.scope ∉ applied.map (·.key))
    (hNe : a.key ≠ p.scope) : p.scope ∉ (applied ++ [a]).map (·.key) := by
  rw [List.map_append, List.mem_append, not_or]
  exact ⟨hFirst, by simpa using Ne.symm hNe⟩

theorem FirstOfScope.snoc {receipt : CommandReceiptRecord}
    (h : FirstOfScope applied p receipt) (hNe : a.key ≠ p.scope) :
    FirstOfScope (applied ++ [a]) p receipt :=
  ⟨h.1, notMem_keys_snoc h.2 hNe⟩

theorem WritesOk.snoc {writes : PendingWrites}
    (h : WritesOk sha256 applied start p writes) (hNe : a.key ≠ p.scope) :
    WritesOk sha256 (applied ++ [a]) start p writes :=
  ⟨h.receipt, notMem_keys_snoc h.first hNe, h.owned, h.applies⟩

theorem AnsweredBy.snoc {requestHash : EventHash} {result : CommandResult}
    (h : AnsweredBy applied p requestHash result) :
    AnsweredBy (applied ++ [a]) p requestHash result := by
  obtain ⟨b, hb, hAnswer⟩ := h
  exact ⟨b, List.mem_append_left _ hb, hAnswer⟩

/-- Under its locks a process sees nothing of an application made by another
one: neither its scope nor its Book is touched. -/
theorem phaseOk_commit (h : PhaseOk sha256 applied start p)
    (hScope : CommandLock.receipt p.scope ∈ p.locks → a.key ≠ p.scope)
    (hBook : CommandLock.bookHead p.call.command.bookId ∈ p.locks →
      start' = start) : PhaseOk sha256 (applied ++ [a]) start' p := by
  obtain ⟨call, keyHash, attempt, phase⟩ := p
  cases phase with
  | begun => trivial
  | authorized requestHash => trivial
  | raised error => trivial
  | inserted requestHash row =>
      cases row with
      | none => trivial
      | some row => exact ⟨h.1, notMem_keys_snoc h.2 (hScope List.mem_cons_self)⟩
  | reserved requestHash reservation =>
      refine ⟨fun hCreated => ⟨(h.1 hCreated).1, notMem_keys_snoc (h.1 hCreated).2
        (hScope ?_)⟩, fun hCreated => ?_⟩
      · simp [CommandProcess.locks, hCreated]
      · obtain ⟨b, hb, hAnswer⟩ := h.2 hCreated
        exact ⟨b, List.mem_append_left _ hb, hAnswer⟩
  | headLocked receipt head =>
      exact ⟨h.1.snoc (hScope (by simp [CommandProcess.locks])), h.2⟩
  | bookLocked receipt head =>
      exact ⟨h.1.snoc (hScope (by simp [CommandProcess.locks])), h.2⟩
  | planned receipt head plan =>
      exact ⟨h.1.snoc (hScope (by simp [CommandProcess.locks])), h.2⟩
  | appended receipt plan batch ledger unprojected =>
      cases hBook (by simp [CommandProcess.locks])
      exact ⟨h.1.snoc (hScope (by simp [CommandProcess.locks])), h.2⟩
  | finalized receipt plan batch ledger =>
      cases hBook (by simp [CommandProcess.locks])
      exact ⟨h.1.snoc (hScope (by simp [CommandProcess.locks])), h.2⟩
  | completed writes =>
      cases hBook (by simp [CommandProcess.locks])
      exact WritesOk.snoc h (hScope (by simp [CommandProcess.locks]))
  | committing requestHash result writes =>
      cases writes with
      | none => exact AnsweredBy.snoc h
      | some writes =>
          cases hBook (by simp [CommandProcess.locks])
          exact ⟨h.1.snoc (hScope (by simp [CommandProcess.locks])), h.2⟩
  | returned requestHash outcome => exact AnsweredBy.snoc h

/-- A failed attempt holds nothing. -/
theorem locks_fail (p : CommandProcess) (error : CommandError) :
    (p.fail error).locks = [] := by
  unfold CommandProcess.fail
  split_ifs <;> rfl

/-- A failed attempt knows nothing. -/
theorem phaseOk_fail (error : CommandError) :
    PhaseOk sha256 applied start (p.fail error) := by
  unfold CommandProcess.fail
  split_ifs <;> exact trivial

end Commits

/-! ## The invariant -/

structure CommandInvariant (sha256 : ByteArray → EventHash) (s : CommandSystem) :
    Prop where
  receipts : s.tables.receipts = s.applied.map receiptOf
  results : ∀ a ∈ s.applied, a.result.postInit = .ok ()
  phases : ∀ i p, s.processes i = some p →
    PhaseOk sha256 s.applied (s.tables.ledgers p.call.command.bookId) p
  exclusive : ∀ i j p q, i ≠ j → s.processes i = some p →
    s.processes j = some q → ∀ lock ∈ p.locks, lock ∉ q.locks

theorem commandInvariant_initial (sha256 : ByteArray → EventHash)
    (writeState : UUID → Option BookWriteState) (catalog : UUID → Catalog)
    (ledgers : UUID → BookLedger) :
    CommandInvariant sha256 (.initial writeState catalog ledgers) where
  receipts := rfl
  results := fun _ h => nomatch h
  phases := fun _ _ h => nomatch h
  exclusive := fun _ _ _ _ _ h => nomatch h

section Invariant

variable {sha256 : ByteArray → EventHash} {s s' : CommandSystem} {i : Nat}
  {p q : CommandProcess}

/-- A process that moves on, with locks nobody else holds. -/
theorem CommandInvariant.setProcess (h : CommandInvariant sha256 s)
    (hPhase : PhaseOk sha256 s.applied
      (s.tables.ledgers q.call.command.bookId) q)
    (hFree : s.Free i q) : CommandInvariant sha256 (s.setProcess i q) where
  receipts := h.receipts
  results := h.results
  phases := by
    intro j p hProcess
    by_cases hSame : j = i
    · subst hSame
      rw [CommandSystem.setProcess_self] at hProcess
      cases hProcess
      exact hPhase
    · rw [CommandSystem.setProcess_ne s q hSame] at hProcess
      exact h.phases j p hProcess
  exclusive := by
    intro j k p r hNe hJ hK lock hLock
    by_cases hI : j = i
    · subst hI
      rw [CommandSystem.setProcess_self] at hJ
      rw [CommandSystem.setProcess_ne s q (Ne.symm hNe)] at hK
      cases hJ
      exact hFree k r (Ne.symm hNe) hK lock hLock
    · rw [CommandSystem.setProcess_ne s q hI] at hJ
      by_cases hKI : k = i
      · subst hKI
        rw [CommandSystem.setProcess_self] at hK
        cases hK
        exact fun hBoth => hFree j p hI hJ lock hBoth hLock
      · rw [CommandSystem.setProcess_ne s q hKI] at hK
        exact h.exclusive j k p r hNe hJ hK lock hLock

/-- A failed attempt is rolled back. -/
theorem CommandInvariant.fail (h : CommandInvariant sha256 s)
    (error : CommandError) :
    CommandInvariant sha256 (s.setProcess i (p.fail error)) := by
  refine h.setProcess (phaseOk_fail error) fun _ _ _ _ lock hLock => ?_
  have hLocks := locks_fail p error
  rw [hLocks] at hLock
  exact absurd hLock List.not_mem_nil

/-- The receipt that is committed is that of the application. -/
theorem receiptOf_application {writes : PendingWrites} {requestHash : EventHash}
    (h : writes.receipt = (p.newReceipt requestHash).completed writes.result) :
    receiptOf writes.application = writes.receipt := by
  unfold receiptOf PendingWrites.application
  rw [h]
  rfl

/-- A commit with writes is one application under a new scope. -/
theorem CommandInvariant.commit (h : CommandInvariant sha256 s)
    (hProcess : s.processes i = some p) {requestHash : EventHash}
    {result : CommandResult} {writes : PendingWrites}
    (hPhase : p.phase = .committing requestHash result (some writes))
    (hCall : q.call = p.call) (hLocks : q.locks = [])
    (hNext : PhaseOk sha256 (s.applied ++ [writes.application]) writes.ledger q) :
    CommandInvariant sha256 ((s.commit (some writes)).setProcess i q) := by
  have hOwn := h.phases i p hProcess
  unfold PhaseOk at hOwn
  rw [hPhase] at hOwn
  obtain ⟨⟨⟨firstHash, hReceipt⟩, hFirst, hOwned, hApplies⟩, -, -⟩ := hOwn
  have hKey : writes.application.key = p.scope := by
    rw [PendingWrites.application, hReceipt]
    rfl
  have hBook : writes.receipt.scope.bookId = p.call.command.bookId := by
    rw [hReceipt]
    rfl
  have hHeld : CommandLock.receipt p.scope ∈ p.locks
      ∧ CommandLock.bookHead p.call.command.bookId ∈ p.locks := by
    unfold CommandProcess.locks
    rw [hPhase]
    simp
  -- the committed system with the process taken out of it
  have hCommitted : CommandInvariant sha256 { s.commit (some writes) with
      processes := Function.update s.processes i none } := by
    refine ⟨?_, ?_, ?_, ?_⟩
    · show s.tables.receipts ++ [writes.receipt]
        = (s.applied ++ [writes.application]).map receiptOf
      rw [List.map_append, List.map_singleton, receiptOf_application hReceipt,
        h.receipts]
    · intro a ha
      obtain ha | ha := List.mem_append.1 ha
      · exact h.results a ha
      · rw [List.mem_singleton.1 ha]
        obtain ⟨_, _, -, -, hResult⟩ := hApplies
        exact postInit_of_toResult hResult
    · intro j r hJ
      have hNe : j ≠ i := by
        rintro rfl
        exact nomatch (Function.update_self j none s.processes).symm.trans hJ
      have hR : s.processes j = some r :=
        (Function.update_of_ne hNe none s.processes).symm.trans hJ
      refine phaseOk_commit (h.phases j r hR) ?_ ?_
      · intro hLock hEq
        rw [hKey] at hEq
        exact h.exclusive j i r p hNe hR hProcess _ hLock (hEq ▸ hHeld.1)
      · intro hLock
        refine Function.update_of_ne ?_ _ _
        intro hEq
        rw [hBook] at hEq
        exact h.exclusive j i r p hNe hR hProcess _ hLock (hEq.symm ▸ hHeld.2)
    · intro j k r r' hNe hJ hK
      have hOther : ∀ {j r}, Function.update s.processes i none j = some r →
          s.processes j = some r := by
        intro j r hJ
        by_cases hSame : j = i
        · subst hSame
          exact nomatch (Function.update_self j none s.processes).symm.trans hJ
        · exact (Function.update_of_ne hSame none s.processes).symm.trans hJ
      exact h.exclusive j k r r' hNe (hOther hJ) (hOther hK)
  have hSet := hCommitted.setProcess (i := i) (q := q) (by
      show PhaseOk sha256 (s.applied ++ [writes.application])
        (Function.update s.tables.ledgers writes.receipt.scope.bookId
          writes.ledger q.call.command.bookId) q
      rw [hCall, hBook, Function.update_self]
      exact hNext)
    (fun _ _ _ _ lock hLock => by
      rw [hLocks] at hLock
      exact absurd hLock List.not_mem_nil)
  unfold CommandSystem.setProcess at hSet ⊢
  rw [Function.update_idem] at hSet
  exact hSet

/-- Every step of the system keeps the invariant. -/
theorem commandInvariant_step {action : CommandAction}
    (h : CommandInvariant sha256 s) (hStep : Executes sha256 s action s') :
    CommandInvariant sha256 s' := by
  cases hStep with
  | call hIdle hStart =>
      exact h.setProcess trivial fun _ _ _ _ lock hLock =>
        absurd hLock List.not_mem_nil
  | statement hProcess hNext hFree =>
      have hPhase := phaseOk_next h.receipts h.results (h.phases _ _ hProcess)
        hNext
      exact h.setProcess hPhase hFree
  | raise hProcess hNext => exact h.fail _
  | fault hProcess hRunning => exact h.fail _
  | @commit i p requestHash result writes hProcess hPhase =>
      have hOwn := h.phases _ _ hProcess
      unfold PhaseOk at hOwn
      rw [hPhase] at hOwn
      cases writes with
      | none =>
          exact h.setProcess hOwn fun _ _ _ _ lock hLock =>
            absurd hLock List.not_mem_nil
      | some writes =>
          obtain ⟨⟨⟨firstHash, hReceipt⟩, -, -, -⟩, hHash, hResult⟩ := hOwn
          refine h.commit hProcess hPhase rfl rfl ?_
          refine ⟨writes.application, by simp, ?_, hHash.symm, hResult.symm⟩
          rw [PendingWrites.application, hReceipt]
          rfl
  | @commitLost i p requestHash result writes hProcess hPhase =>
      cases writes with
      | none => exact h.fail _
      | some writes =>
          refine h.commit hProcess hPhase ?_ ?_ ?_
          · unfold CommandProcess.fail
            split_ifs <;> rfl
          · exact locks_fail p _
          · exact phaseOk_fail _
  | catalog => exact ⟨h.receipts, h.results, h.phases, h.exclusive⟩

end Invariant

/-! ## Exactly once -/

/-- The phases of a call whose scope has an application. -/
inductive Replays (a : CommandApplication) : Phase → Prop
  | begun : Replays a .begun
  | authorized (requestHash : EventHash) : Replays a (.authorized requestHash)
  | inserted (requestHash : EventHash) : Replays a (.inserted requestHash none)
  | reserved (requestHash : EventHash) :
      Replays a (.reserved requestHash ⟨false, receiptOf a⟩)
  | committing : Replays a (.committing a.request a.result none)
  | returned (replayed : Bool) :
      Replays a (.returned a.request ⟨a.result, replayed⟩)
  | raised (error : CommandError) : Replays a (.raised error)

/-- What the statements of such a call do: no receipt is inserted, the receipt
of the application is found, and the call is answered from it, or refused when
its request is another one. -/
def AnswersLater (sha256 : ByteArray → EventHash) (t : CommandTables)
    (a : CommandApplication) (p : CommandProcess) (answers : Answers) : Prop :=
  ∀ requestHash,
    (∀ phase, p.phase = .authorized requestHash →
      p.next sha256 t answers = .ok phase → phase = .inserted requestHash none)
    ∧ (p.phase = .inserted requestHash none →
      p.next sha256 t answers = .ok (.reserved requestHash ⟨false, receiptOf a⟩))
    ∧ (p.phase = .reserved requestHash ⟨false, receiptOf a⟩ →
      p.next sha256 t answers = if requestHash = a.request then
        .ok (.committing requestHash a.result none)
        else .error .idempotencyConflict)

/-- The step commits an application under a new scope. -/
def CommitsNew (s : CommandSystem) (action : CommandAction)
    (s' : CommandSystem) : Prop :=
  ∃ i p requestHash writes, (action = .commit i ∨ action = .commitLost i)
    ∧ s.processes i = some p
    ∧ p.phase = .committing requestHash writes.result (some writes)
    ∧ writes.application.key = p.scope
    ∧ p.scope ∉ s.service.keys
    ∧ s'.applied = s.applied ++ [writes.application]

section ExactlyOnce

variable {sha256 : ByteArray → EventHash} {s s' : CommandSystem} {i : Nat}
  {p : CommandProcess} {a : CommandApplication}

/-- A step is a step of the service. -/
theorem serves_of_executes {action : CommandAction}
    (h : CommandInvariant sha256 s) (hStep : Executes sha256 s action s') :
    ∃ served, Serves (LedgersApply sha256) s.service served s'.service := by
  -- a commit with writes is the application of its plan
  have hApplied : ∀ {i p requestHash result writes},
      s.processes i = some p →
      p.phase = .committing requestHash result (some writes) →
      Serves (LedgersApply sha256) s.service (some writes.application)
        (s.commit (some writes)).service := by
    intro i p requestHash result writes hProcess hPhase
    have hOwn := h.phases i p hProcess
    unfold PhaseOk at hOwn
    rw [hPhase] at hOwn
    obtain ⟨⟨⟨firstHash, hReceipt⟩, hFirst, hOwned, hApplies⟩, -, -⟩ := hOwn
    have hScope : writes.receipt.scope = p.scope := by rw [hReceipt]; rfl
    have hCommand : writes.receipt.commandId = p.call.command.commandId := by
      rw [hReceipt]
      rfl
    refine .applied ?_ ⟨writes.ledger, ?_, ?_, rfl⟩
    · show writes.receipt.scope ∉ _
      rw [hScope]
      exact hFirst
    · show PlanApplies sha256 writes.receipt.scope.bookId writes.plan
        (s.tables.ledgers writes.receipt.scope.bookId) writes.result writes.ledger
      rw [hScope]
      exact hApplies
    · show Owned writes.receipt.commandId writes.receipt.scope.actorSubjectId _
      rw [hScope, hCommand]
      exact hOwned
  cases hStep with
  | @commit i p requestHash result writes hProcess hPhase =>
      cases writes with
      | none => exact ⟨none, .unchanged⟩
      | some writes => exact ⟨_, hApplied hProcess hPhase⟩
  | @commitLost i p requestHash result writes hProcess hPhase =>
      cases writes with
      | none => exact ⟨none, .unchanged⟩
      | some writes => exact ⟨_, hApplied hProcess hPhase⟩
  | _ => exact ⟨none, .unchanged⟩

/-- A call whose scope has an application only replays. -/
theorem replays_of_applied (h : CommandInvariant sha256 s)
    (hKeys : s.service.keys.Nodup) (hProcess : s.processes i = some p)
    (ha : a ∈ s.applied) (hKey : a.key = p.scope) : Replays a p.phase := by
  have hMem : p.scope ∈ s.applied.map (·.key) :=
    List.mem_map.2 ⟨a, ha, hKey⟩
  have hSame : ∀ b ∈ s.applied, b.key = p.scope → b = a := fun b hb hScope =>
    List.inj_on_of_nodup_map hKeys hb ha (hScope.trans hKey.symm)
  have hOwn := h.phases i p hProcess
  unfold PhaseOk at hOwn
  cases hPhase : p.phase with
  | begun => exact .begun
  | authorized requestHash => exact .authorized requestHash
  | inserted requestHash row =>
      rw [hPhase] at hOwn
      cases row with
      | none => exact .inserted requestHash
      | some row => exact absurd hMem hOwn.2
  | reserved requestHash reservation =>
      rw [hPhase] at hOwn
      obtain ⟨created, receipt⟩ := reservation
      cases created with
      | true => exact absurd hMem (hOwn.1 rfl).2
      | false =>
          obtain ⟨b, hb, hScope, hReceipt⟩ := hOwn.2 rfl
          simp only at hReceipt
          rw [hReceipt, hSame b hb hScope]
          exact .reserved requestHash
  | headLocked receipt head =>
      rw [hPhase] at hOwn
      exact absurd hMem hOwn.1.2
  | bookLocked receipt head =>
      rw [hPhase] at hOwn
      exact absurd hMem hOwn.1.2
  | planned receipt head plan =>
      rw [hPhase] at hOwn
      exact absurd hMem hOwn.1.2
  | appended receipt plan batch ledger unprojected =>
      rw [hPhase] at hOwn
      exact absurd hMem hOwn.1.2
  | finalized receipt plan batch ledger =>
      rw [hPhase] at hOwn
      exact absurd hMem hOwn.1.2
  | completed writes =>
      rw [hPhase] at hOwn
      exact absurd hMem hOwn.first
  | committing requestHash result writes =>
      rw [hPhase] at hOwn
      cases writes with
      | some writes => exact absurd hMem hOwn.1.first
      | none =>
          obtain ⟨b, hb, hScope, rfl, rfl⟩ := hOwn
          rw [hSame b hb hScope]
          exact .committing
  | returned requestHash outcome =>
      rw [hPhase] at hOwn
      obtain ⟨result, replayed⟩ := outcome
      obtain ⟨b, hb, hScope, rfl, hResult⟩ := hOwn
      simp only at hResult
      rw [← hResult, hSame b hb hScope]
      exact .returned replayed
  | raised error => exact .raised error

/-- What the statements of a later call do. -/
theorem answersLater_of_applied (h : CommandInvariant sha256 s)
    (hKeys : s.service.keys.Nodup) (ha : a ∈ s.applied) (hKey : a.key = p.scope)
    (answers : Answers) : AnswersLater sha256 s.tables a p answers := by
  obtain ⟨call, keyHash, attempt, phase⟩ := p
  refine fun requestHash => ⟨?_, ?_, ?_⟩
  · rintro next rfl hNext
    unfold CommandProcess.next insertReceipt at hNext
    simp only [bind_eq_ok, pure_eq_ok] at hNext
    obtain ⟨row, ⟨_, -, _, -, hRow⟩, rfl⟩ := hNext
    split_ifs at hRow with hCollides
    · rw [← hRow]
    · refine absurd (List.any_eq_true.2 ⟨receiptOf a, ?_, decide_eq_true ?_⟩)
        hCollides
      · rw [h.receipts]
        exact List.mem_map.2 ⟨a, ha, rfl⟩
      · exact .inl hKey.symm
  · rintro rfl
    have hFind : lockReceipt s.tables.receipts none
        (CommandProcess.scope ⟨call, keyHash, attempt, .inserted requestHash none⟩)
        = some (receiptOf a) := by
      cases hLock : lockReceipt s.tables.receipts none (CommandProcess.scope
          ⟨call, keyHash, attempt, .inserted requestHash none⟩) with
      | none =>
          unfold lockReceipt at hLock
          rw [Option.toList_none, List.append_nil, h.receipts] at hLock
          have hNot := List.find?_eq_none.1 hLock (receiptOf a)
            (List.mem_map.2 ⟨a, ha, rfl⟩)
          exact absurd (decide_eq_true hKey) hNot
      | some row =>
          obtain ⟨b, hb, hScope, rfl⟩ := lockReceipt_found h.receipts hLock
          rw [List.inj_on_of_nodup_map hKeys hb ha (hScope.trans hKey.symm)]
    unfold CommandProcess.next
    simp only [hFind]
    rfl
  · rintro rfl
    have hReplay : ReceiptReservation.replayOrConflict ⟨false, receiptOf a⟩
          requestHash
        = if requestHash = a.request then .ok a.result
          else .error .idempotencyConflict :=
      replayOrConflict_completed (h.results a ha) requestHash
    unfold CommandProcess.next
    simp only [if_true]
    rw [hReplay]
    split_ifs <;> rfl

/-- A step changes the ledgers and the receipts only when it commits an
application under a new scope. -/
theorem unchanged_or_commitsNew {action : CommandAction}
    (h : CommandInvariant sha256 s) (hStep : Executes sha256 s action s') :
    (s'.tables.ledgers = s.tables.ledgers
        ∧ s'.tables.receipts = s.tables.receipts ∧ s'.applied = s.applied)
      ∨ CommitsNew s action s' := by
  have hNew : ∀ {i p requestHash result writes},
      s.processes i = some p →
      p.phase = .committing requestHash result (some writes) →
      writes.application.key = p.scope ∧ p.scope ∉ s.service.keys
        ∧ result = writes.result := by
    intro i p requestHash result writes hProcess hPhase
    have hOwn := h.phases i p hProcess
    unfold PhaseOk at hOwn
    rw [hPhase] at hOwn
    obtain ⟨⟨⟨firstHash, hReceipt⟩, hFirst, -, -⟩, -, hResult⟩ := hOwn
    refine ⟨?_, hFirst, hResult⟩
    rw [PendingWrites.application, hReceipt]
    rfl
  cases hStep with
  | @commit i p requestHash result writes hProcess hPhase =>
      cases writes with
      | none => exact .inl ⟨rfl, rfl, rfl⟩
      | some writes =>
          obtain ⟨hKey, hFirst, rfl⟩ := hNew hProcess hPhase
          exact .inr ⟨i, p, requestHash, writes, .inl rfl, hProcess, hPhase, hKey,
            hFirst, rfl⟩
  | @commitLost i p requestHash result writes hProcess hPhase =>
      cases writes with
      | none => exact .inl ⟨rfl, rfl, rfl⟩
      | some writes =>
          obtain ⟨hKey, hFirst, rfl⟩ := hNew hProcess hPhase
          exact .inr ⟨i, p, requestHash, writes, .inr rfl, hProcess, hPhase, hKey,
            hFirst, rfl⟩
  | _ => exact .inl ⟨rfl, rfl, rfl⟩

/-- For every interleaving: each receipt scope has at most one application, the
ledgers are those of the applied plans, each once and in their order, and the
receipts store their results; a call in a scope that has an application is
answered with its result, or refused when its request is another one; and no
step but the commit of a new application changes ledgers or receipts. -/
theorem commands_exactlyOnce_over_interleavings
    {writeState : UUID → Option BookWriteState} {catalog : UUID → Catalog}
    {ledgers : UUID → BookLedger} {actions : List CommandAction}
    (hRun : Run (Executes sha256) (.initial writeState catalog ledgers) actions s) :
    (s.applied.map (·.key)).Nodup
      ∧ Run (LedgersApply sha256) ledgers s.applied s.tables.ledgers
      ∧ s.tables.receipts = s.applied.map receiptOf
      ∧ (∀ i p requestHash outcome, s.processes i = some p →
        p.phase = .returned requestHash outcome →
          AnsweredBy s.applied p requestHash outcome.result)
      ∧ (∀ i p, s.processes i = some p → ∀ a ∈ s.applied, a.key = p.scope →
        Replays a p.phase ∧ ∀ answers, AnswersLater sha256 s.tables a p answers)
      ∧ ∀ action s', Executes sha256 s action s' →
        (s'.tables.ledgers = s.tables.ledgers
            ∧ s'.tables.receipts = s.tables.receipts ∧ s'.applied = s.applied)
          ∨ CommitsNew s action s' := by
  have hBoth : CommandInvariant sha256 s
      ∧ Sound (LedgersApply sha256) ledgers s.service := by
    refine hRun.invariant (I := fun s => CommandInvariant sha256 s
      ∧ Sound (LedgersApply sha256) ledgers s.service)
      ⟨commandInvariant_initial sha256 writeState catalog ledgers,
        sound_opened ledgers⟩ ?_
    intro s₁ _ s₂ hI hStep
    obtain ⟨_, hServes⟩ := serves_of_executes hI.1 hStep
    exact ⟨commandInvariant_step hI.1 hStep, hI.2.serves hServes⟩
  obtain ⟨h, hSound⟩ := hBoth
  refine ⟨hSound.keys, hSound.state, h.receipts, ?_, ?_,
    fun _ _ hStep => unchanged_or_commitsNew h hStep⟩
  · intro i p requestHash outcome hProcess hPhase
    have hOwn := h.phases i p hProcess
    unfold PhaseOk at hOwn
    rw [hPhase] at hOwn
    exact hOwn
  · intro i p hProcess a ha hKey
    exact ⟨replays_of_applied h hSound.keys hProcess ha hKey,
      fun answers => answersLater_of_applied h hSound.keys ha hKey answers⟩

end ExactlyOnce

/-! ### A lost response, a retry and a conflict -/

/-- The process after its next statement. -/
def CommandProcess.advance (sha256 : ByteArray → EventHash) (t : CommandTables)
    (answers : Answers) (p : CommandProcess) : CommandProcess :=
  match p.next sha256 t answers with
  | .ok phase => { p with phase := phase }
  | .error error => p.fail error

/-- A process runs on while nobody else holds a lock. -/
theorem run_advance (sha256 : ByteArray → EventHash) {s : CommandSystem}
    {i : Nat} {p : CommandProcess} (answers : Answers)
    (hOthers : ∀ j q, j ≠ i → s.processes j = some q → q.locks = [])
    (hProcess : s.processes i = some p) (n : Nat) :
    Run (Executes sha256) s (List.replicate n (.statement i))
      (s.setProcess i ((·.advance sha256 s.tables answers)^[n] p)) := by
  induction n generalizing s p with
  | zero =>
      have hSame : s.setProcess i p = s := by
        unfold CommandSystem.setProcess
        rw [← hProcess, Function.update_eq_self]
      rw [Function.iterate_zero, id, hSame]
      exact .nil s
  | succ n ih =>
      have hStep : Executes sha256 s (.statement i)
          (s.setProcess i (p.advance sha256 s.tables answers)) := by
        unfold CommandProcess.advance
        cases hNext : p.next sha256 s.tables answers with
        | error error => exact .raise hProcess hNext
        | ok phase =>
            refine .statement hProcess hNext fun j q hNe hOther lock _ => ?_
            rw [hOthers j q hNe hOther]
            exact List.not_mem_nil
      have hRest := @ih (s.setProcess i (p.advance sha256 s.tables answers)) _
        (fun j q hNe hOther => hOthers j q hNe (by
          rwa [CommandSystem.setProcess_ne s _ hNe] at hOther))
        (CommandSystem.setProcess_self s i _)
      refine .cons hStep ?_
      rw [Function.iterate_succ, Function.comp]
      have hTwice : ∀ q, (s.setProcess i (p.advance sha256 s.tables answers)
          ).setProcess i q = s.setProcess i q := by
        intro q
        unfold CommandSystem.setProcess
        rw [Function.update_idem]
      rw [hTwice] at hRest
      exact hRest

/-- 100 units posted, as a plan. -/
def samplePlan : LedgerWritePlan where
  expectedStreamVersions := (sampleCall 1 1 10).expectedStreamVersions
  events := (sampleCall 1 1 10).events
  responseSchemaVersion := 1
  statusCode := 201
  body := .dict []
  hEvents := List.cons_ne_nil _ _
  hResult := rfl

def sampleAnswers : Answers where
  authorization := .ok ⟨1, "actor", "owner", ["ledger:write"], by decide,
    by decide, by decide⟩
  plan := .ok samplePlan
  generated := fun id => (id.val, ⟨sampleDate, 0⟩)
  finalizer := .ok ()

/-- A call under the key `"k"`. -/
def sampleFinancialCall (payload : List (String × JSONValue)) :
    FinancialCall where
  command := ⟨1, 40, "journal.post", payload⟩
  rawKey := "k"
  actor := ⟨"actor", by decide⟩
  maxAttempts := 3

def sampleSystem : CommandSystem :=
  .initial (fun _ => some .active) (fun _ => sampleCatalog)
    (fun bookId => ⟨.opened [bookId], SyncTables.empty⟩)

theorem CommandSystem.setProcess_twice (s : CommandSystem) (i : Nat)
    (p q : CommandProcess) : (s.setProcess i p).setProcess i q = s.setProcess i q := by
  unfold setProcess
  rw [Function.update_idem]

/-- A call alone: its first commit goes through and the response is lost, the
next attempt finds the receipt. -/
theorem run_lostAndReplayed {sha256 : ByteArray → EventHash} {s : CommandSystem}
    {call : FinancialCall} {keyHash : EventHash} {answers : Answers}
    (hAlone : s.processes = fun _ => none)
    (hStart : startFinancial sha256 call = .ok keyHash) {n m : Nat}
    {first second : CommandProcess} {requestHash requestHash' : EventHash}
    {result result' : CommandResult} {writes : PendingWrites}
    (hAdvance : (·.advance sha256 s.tables answers)^[n] ⟨call, keyHash, 0, .begun⟩
      = first)
    (hFirst : first.phase = .committing requestHash result (some writes))
    (hRetry : (·.advance sha256 (s.commit (some writes)).tables answers)^[m]
      (first.fail (.database true none)) = second)
    (hSecond : second.phase = .committing requestHash' result' none) :
    Run (Executes sha256) s
      (.call 0 call :: (List.replicate n (.statement 0)
        ++ .commitLost 0 :: (List.replicate m (.statement 0) ++ [.commit 0])))
      ((s.commit (some writes)).setProcess 0
        { second with phase := .returned requestHash' ⟨result', true⟩ }) := by
  have hOthers : ∀ (s : CommandSystem) p, s.processes = (fun _ => none) →
      ∀ j q, j ≠ 0 → (s.setProcess 0 p).processes j = some q → q.locks = [] := by
    intro s p hEmpty j q hNe hOther
    rw [CommandSystem.setProcess_ne s p hNe, hEmpty] at hOther
    cases hOther
  have hRun₁ := run_advance sha256 answers
    (hOthers s ⟨call, keyHash, 0, .begun⟩ hAlone)
    (CommandSystem.setProcess_self s 0 _) n
  have hRun₂ := run_advance sha256 answers
    (hOthers (s.commit (some writes)) (first.fail (.database true none)) hAlone)
    (CommandSystem.setProcess_self _ 0 _) m
  rw [CommandSystem.setProcess_twice] at hRun₁ hRun₂
  change Run (Executes sha256) _ _ (s.setProcess 0
    ((·.advance sha256 s.tables answers)^[n] _)) at hRun₁
  change Run (Executes sha256) _ _ ((s.commit (some writes)).setProcess 0
    ((·.advance sha256 (s.commit (some writes)).tables answers)^[m] _)) at hRun₂
  rw [hAdvance] at hRun₁
  rw [hRetry] at hRun₂
  have hLost : Executes sha256 (s.setProcess 0 first) (.commitLost 0)
      ((s.commit (some writes)).setProcess 0 (first.fail (.database true none))) := by
    have hStep : Executes sha256 (s.setProcess 0 first) (.commitLost 0) _ :=
      .commitLost (CommandSystem.setProcess_self s 0 first) hFirst
    exact CommandSystem.setProcess_twice (s.commit (some writes)) 0 first _ ▸ hStep
  have hCommit : Executes sha256 ((s.commit (some writes)).setProcess 0 second)
      (.commit 0) ((s.commit (some writes)).setProcess 0
        { second with phase := .returned requestHash' ⟨result', true⟩ }) := by
    have hStep : Executes sha256 ((s.commit (some writes)).setProcess 0 second)
        (.commit 0) _ :=
      .commit (CommandSystem.setProcess_self (s.commit (some writes)) 0 second) hSecond
    have hTwice := CommandSystem.setProcess_twice (s.commit (some writes)) 0 second
      { second with phase := .returned requestHash' ⟨result', true⟩ }
    exact hTwice.subst (motive := Executes sha256 _ _) hStep
  exact .cons (.call (congrFun hAlone 0) hStart)
    (hRun₁.append (.cons hLost (hRun₂.append (.cons hCommit (.nil _)))))

/-- What a phase is about to commit. -/
def Phase.pending : Phase →
    Option (EventHash × CommandResult × Option PendingWrites)
  | .committing requestHash result writes => some (requestHash, result, writes)
  | _ => none

theorem Phase.committing_of_some {phase : Phase}
    (h : (phase.pending.any fun pending => pending.2.2.isSome) = true) :
    ∃ requestHash result writes,
      phase = .committing requestHash result (some writes) := by
  cases phase <;> simp_all [Phase.pending, Option.isSome_iff_exists]

theorem Phase.committing_of_none {phase : Phase}
    (h : (phase.pending.any fun pending => pending.2.2.isNone) = true) :
    ∃ requestHash result, phase = .committing requestHash result none := by
  cases phase <;> simp_all [Phase.pending]

/-- The first attempt of the call, when it is about to commit. -/
@[irreducible] def sampleFirstAttempt : CommandProcess :=
  (·.advance sampleDigest sampleSystem.tables sampleAnswers)^[11]
    ⟨sampleFinancialCall [], 7, 0, .begun⟩

/-- The tables that the first attempt leaves. -/
@[irreducible] def sampleCommitted : CommandTables :=
  match sampleFirstAttempt.phase with
  | .committing _ _ writes => (sampleSystem.commit writes).tables
  | _ => sampleSystem.tables

/-- The attempt after the lost response, when it is about to return. -/
@[irreducible] def sampleSecondAttempt : CommandProcess :=
  (·.advance sampleDigest sampleCommitted sampleAnswers)^[4]
    (sampleFirstAttempt.fail (.database true none))

/-- The response of the first attempt is lost, and the second one replays. -/
def sampleActions : List CommandAction :=
  .call 0 (sampleFinancialCall []) :: (List.replicate 11 (.statement 0)
    ++ .commitLost 0 :: (List.replicate 4 (.statement 0) ++ [.commit 0]))

theorem sampleFirstAttempt_commits :
    (sampleFirstAttempt.phase.pending.any
      fun pending => pending.2.2.isSome) = true := by
  decide +kernel

theorem sampleSecondAttempt_replays :
    (sampleSecondAttempt.phase.pending.any
      fun pending => pending.2.2.isNone) = true := by
  decide +kernel

theorem sampleRun : ∃ requestHash result writes,
    Run (Executes sampleDigest) sampleSystem sampleActions
      ((sampleSystem.commit (some writes)).setProcess 0 { sampleSecondAttempt with
        phase := .returned requestHash ⟨result, true⟩ }) := by
  obtain ⟨_, _, writes, hFirst⟩ :=
    Phase.committing_of_some sampleFirstAttempt_commits
  obtain ⟨requestHash, result, hSecond⟩ :=
    Phase.committing_of_none sampleSecondAttempt_replays
  have hTables : (sampleSystem.commit (some writes)).tables = sampleCommitted := by
    unfold sampleCommitted
    rw [hFirst]
  have hStart : startFinancial sampleDigest (sampleFinancialCall [])
      = .ok 7 := by
    decide
  have hRetry : (·.advance sampleDigest
      (sampleSystem.commit (some writes)).tables sampleAnswers)^[4]
      (sampleFirstAttempt.fail (.database true none)) = sampleSecondAttempt := by
    rw [hTables, sampleSecondAttempt]
  have hAdvance : (·.advance sampleDigest sampleSystem.tables
      sampleAnswers)^[11] ⟨sampleFinancialCall [], 7, 0, .begun⟩
      = sampleFirstAttempt := by
    rw [sampleFirstAttempt]
  exact ⟨requestHash, result, writes,
    run_lostAndReplayed rfl hStart hAdvance hFirst hRetry hSecond⟩

/-- A lost response and a retry commit once, and the retry is told so. -/
theorem commands_exactlyOnce_over_sample :
    ∃ s, Run (Executes sampleDigest) sampleSystem sampleActions s
      ∧ s.applied.length = 1 ∧ (s.applied.map (·.key)).Nodup
      ∧ ∃ p requestHash outcome, s.processes 0 = some p
        ∧ p.phase = .returned requestHash outcome ∧ outcome.replayed = true
        ∧ AnsweredBy s.applied p requestHash outcome.result := by
  obtain ⟨requestHash, result, writes, hRun⟩ := sampleRun
  obtain ⟨hKeys, -, -, hAnswered, -⟩ := commands_exactlyOnce_over_interleavings hRun
  have hProcess := CommandSystem.setProcess_self
    (sampleSystem.commit (some writes)) 0 { sampleSecondAttempt with
      phase := .returned requestHash ⟨result, true⟩ }
  exact ⟨_, hRun, rfl, hKeys, _, requestHash, ⟨result, true⟩, hProcess, rfl, rfl,
    hAnswered 0 _ requestHash ⟨result, true⟩ hProcess rfl⟩

end TrackAnywhere.Ports
