import TrackAnywhere.Ports.MembershipLocks

/-!
# Writes by active members

Over every run of financial commands, catalog writes and changes of
memberships: a transaction past its authorization holds its membership for
share, so that a revocation waits for it, and what begins once the revocation
has committed is refused.
-/

namespace TrackAnywhere.Ports

open TrackAnywhere.Verified
open TrackAnywhere.Verified.Checked

section Access

variable {sha256 : ByteArray → EventHash} {s s' : AccessSystem}
  {action : AccessAction}

/-! ## The invariant -/

structure AccessInvariant (sha256 : ByteArray → EventHash) (s : AccessSystem) :
    Prop where
  commands : CommandInvariant sha256 s.commands
  follows : LockedRows.Follows StaysRevoked s.members
  relied : ∀ owner key scope, s.relies owner = some (key, scope) →
    s.members.Holds owner key ∧ ActiveMember s.memberships key scope

theorem accessInvariant_initial (sha256 : ByteArray → EventHash)
    (writeState : UUID → Option BookWriteState) (catalog : UUID → Catalog)
    (ledgers : UUID → BookLedger)
    (memberships : MembershipKey → Option BookMemberRecord) :
    AccessInvariant sha256 (.initial writeState catalog ledgers memberships) where
  commands := commandInvariant_initial sha256 writeState catalog ledgers
  follows := LockedRows.follows_unlocked memberships
  relied := by
    intro owner key scope hRelies
    cases owner with
    | command i => exact nomatch hRelies
    | writer i => exact nomatch hRelies
    | administrator i => exact nomatch hRelies

theorem staysRevoked_refl (record : BookMemberRecord) : StaysRevoked record record :=
  fun hRevoked => hRevoked

theorem StaysRevoked.trans (a b c : BookMemberRecord) (hFirst : StaysRevoked a b)
    (hSecond : StaysRevoked b c) : StaysRevoked a c :=
  fun hRevoked => hSecond (hFirst hRevoked)

theorem ActiveMember.of_eq {before after : MembershipKey → Option BookMemberRecord}
    {key : MembershipKey} {scope : String} (h : ActiveMember before key scope)
    (hSame : after key = before key) : ActiveMember after key scope := by
  unfold ActiveMember
  rw [hSame]
  exact h

/-- The lock a transaction holds keeps its authorization valid. -/
theorem Takes.relied {owner : LockOwner} (h : Takes s s' owner)
    (hRelied : ∀ other key scope, s.relies other = some (key, scope) →
      s.members.Holds other key ∧ ActiveMember s.memberships key scope)
    {other : LockOwner} {key : MembershipKey} {scope : String}
    (hRelies : s'.relies other = some (key, scope)) :
    s'.members.Holds other key ∧ ActiveMember s'.memberships key scope := by
  by_cases hOwn : other = owner
  · subst hOwn
    rcases h.own with ⟨hMembers, hSame⟩ | ⟨-, hNone⟩ | ⟨key', scope', hFree, hRows,
      hNew, hActive⟩
    · unfold AccessSystem.memberships
      rw [hMembers]
      exact hRelied other key scope (hSame.symm.trans hRelies)
    · exact nomatch hNone.symm.trans hRelies
    · obtain ⟨rfl, rfl⟩ : key' = key ∧ scope' = scope := by
        simpa using hNew.symm.trans hRelies
      unfold AccessSystem.memberships
      rw [hRows]
      exact ⟨LockedRows.holds_acquire hFree, hActive⟩
  · obtain ⟨hHolds, hActive⟩ :=
      hRelied other key scope ((h.others other hOwn).symm.trans hRelies)
    -- whatever the other transaction does, it does not touch a held row
    have hMoved : ∀ {members},
        LockedRows.Moves StaysRevoked owner s.members members →
        s'.members = members →
        s'.members.Holds other key ∧ ActiveMember s'.memberships key scope := by
      rintro members hMoves rfl
      exact ⟨hMoves.holds hHolds (Ne.symm hOwn),
        hActive.of_eq (hMoves.committed_of_holds hHolds (Ne.symm hOwn))⟩
    rcases h.own with ⟨hMembers, -⟩ | ⟨hMoves, -⟩ | ⟨_, _, hFree, hRows, -⟩
    · unfold AccessSystem.memberships
      rw [hMembers]
      exact ⟨hHolds, hActive⟩
    · exact hMoved hMoves rfl
    · exact hMoved (.acquire hFree) hRows

/-- The memberships of a step move as its transaction does. -/
theorem Takes.moves {owner : LockOwner} (h : Takes s s' owner) :
    s'.members = s.members
      ∨ LockedRows.Moves StaysRevoked owner s.members s'.members := by
  rcases h.own with ⟨hMembers, -⟩ | ⟨hMoves, -⟩ | ⟨_, _, hFree, hRows, -⟩
  · exact .inl hMembers
  · exact .inr hMoves
  · rw [hRows]
    exact .inr (.acquire hFree)

theorem accessInvariant_step (h : AccessInvariant sha256 s)
    (hStep : MemberStep sha256 s action s') : AccessInvariant sha256 s' := by
  obtain ⟨owner, hTakes⟩ := hStep.takes
  refine ⟨commandInvariant_memberStep h.commands hStep, ?_,
    fun _ _ _ hRelies => hTakes.relied h.relied hRelies⟩
  rcases hTakes.moves with hMembers | hMoves
  · rw [hMembers]
    exact h.follows
  · exact hMoves.follows h.follows staysRevoked_refl StaysRevoked.trans

/-- A revoked membership stays revoked. -/
theorem revoked_step {key : MembershipKey} (h : AccessInvariant sha256 s)
    (hRevoked : Revoked s.memberships key)
    (hStep : MemberStep sha256 s action s') : Revoked s'.memberships key := by
  obtain ⟨owner, hTakes⟩ := hStep.takes
  obtain ⟨record, hRow, hStatus⟩ := hRevoked
  rcases hTakes.moves with hMembers | hMoves
  · unfold Revoked AccessSystem.memberships
    rw [hMembers]
    exact ⟨record, hRow, hStatus⟩
  · obtain ⟨record', hRow', hStays⟩ :=
      hMoves.follows_committed h.follows staysRevoked_refl hRow
    exact ⟨record', hRow', hStays hStatus⟩

/-- Nobody is past the authorization of a revoked membership. -/
theorem AccessInvariant.not_authorized (h : AccessInvariant sha256 s) {i : Nat}
    {p : CommandProcess} (hRevoked : Revoked s.memberships p.memberKey)
    (hProcess : s.commands.processes i = some p) : p.phase.isAuthorized = false := by
  by_contra hAuthorized
  have hRelies : s.relies (.command i) = some (p.memberKey, "ledger:write") := by
    rw [relies_of_process hProcess]
    unfold CommandProcess.relies
    rw [if_pos (Bool.not_eq_false _ ▸ hAuthorized)]
  exact hRevoked.not_active _ (h.relied _ _ _ hRelies).2

theorem AccessInvariant.writer_not_authorized (h : AccessInvariant sha256 s)
    {i : Nat} {w : CatalogWriter} (hRevoked : Revoked s.memberships w.memberKey)
    (hWriter : s.writers i = some w) : w.phase.isAuthorized = false := by
  by_contra hAuthorized
  have hRelies : s.relies (.writer i) = some (w.memberKey, "book:write") := by
    rw [relies_of_writer hWriter]
    unfold CatalogWriter.relies
    rw [if_pos (Bool.not_eq_false _ ▸ hAuthorized)]
  exact hRevoked.not_active _ (h.relied _ _ _ hRelies).2

/-! ## Answers -/

/-- A call that has ended stays as it is. -/
theorem CommandProcess.next_ended {t : CommandTables} {answers : Answers}
    {p : CommandProcess} {phase : Phase} (hBegun : p.phase ≠ .begun)
    (hEnded : p.phase.isAuthorized = false)
    (hNext : p.next sha256 t answers = .ok phase) : phase = p.phase := by
  obtain ⟨call, keyHash, attempt, current⟩ := p
  unfold CommandProcess.next at hNext
  cases current with
  | begun => exact absurd rfl hBegun
  | returned requestHash outcome => exact (pure_eq_ok.1 hNext).symm
  | raised error => exact (pure_eq_ok.1 hNext).symm
  | authorized requestHash => exact nomatch hEnded
  | inserted requestHash row => exact nomatch hEnded
  | reserved requestHash reservation => exact nomatch hEnded
  | headLocked receipt head => exact nomatch hEnded
  | bookLocked receipt head => exact nomatch hEnded
  | planned receipt head plan => exact nomatch hEnded
  | appended receipt plan batch ledger unprojected => exact nomatch hEnded
  | finalized receipt plan batch ledger => exact nomatch hEnded
  | completed writes => exact nomatch hEnded
  | committing requestHash result writes => exact nomatch hEnded

theorem CommandSystem.processes_setProcess {commands : CommandSystem} {i j : Nat}
    {p q : CommandProcess} (h : (commands.setProcess j q).processes i = some p) :
    (i = j ∧ p = q) ∨ commands.processes i = some p := by
  by_cases hIndex : i = j
  · subst hIndex
    rw [CommandSystem.setProcess_self] at h
    exact .inl ⟨rfl, (Option.some.inj h).symm⟩
  · rw [CommandSystem.setProcess_ne _ _ hIndex] at h
    exact .inr h

theorem CommandProcess.fail_ne_returned {p : CommandProcess} {error : CommandError}
    {requestHash : EventHash} {outcome : CommandOutcome} :
    (p.fail error).phase ≠ .returned requestHash outcome := by
  unfold CommandProcess.fail
  split_ifs
  · exact nofun
  · exact nofun

/-- An outcome is returned by the commit of an authorized transaction. -/
theorem MemberStep.returned (h : MemberStep sha256 s action s') {i : Nat}
    {p' : CommandProcess} {requestHash : EventHash} {outcome : CommandOutcome}
    (hProcess' : s'.commands.processes i = some p')
    (hReturned : p'.phase = .returned requestHash outcome) :
    s.commands.processes i = some p'
      ∨ (s'.memberships = s.memberships
        ∧ ∃ p, s.commands.processes i = some p ∧ p.phase.isAuthorized = true
          ∧ p'.memberKey = p.memberKey) := by
  cases h with
  | call hIdle hStart =>
      rcases CommandSystem.processes_setProcess hProcess' with ⟨-, rfl⟩ | hOld
      · exact nomatch hReturned
      · exact .inl hOld
  | @authorize j p answers phase hProcess hPhase hAnswer hNext hLocks hFree =>
      rcases CommandSystem.processes_setProcess hProcess' with ⟨-, rfl⟩ | hOld
      · have hAuthorized := (p.next_begun hPhase hNext).2
        have hPhase' : phase = .returned requestHash outcome := hReturned
        rw [hPhase'] at hAuthorized
        exact nomatch hAuthorized
      · exact .inl hOld
  | @statement j p answers phase hProcess hPhase hNext hLocks =>
      rcases CommandSystem.processes_setProcess hProcess' with ⟨rfl, rfl⟩ | hOld
      · have hPhase' : phase = .returned requestHash outcome := hReturned
        have hEnded := p.next_isAuthorized hPhase hNext
        rw [hPhase'] at hEnded
        rw [p.next_ended hPhase hEnded.symm hNext]
        exact .inl hProcess
      · exact .inl hOld
  | raise hProcess hNext =>
      rcases CommandSystem.processes_setProcess hProcess' with ⟨-, rfl⟩ | hOld
      · exact absurd hReturned CommandProcess.fail_ne_returned
      · exact .inl hOld
  | fault hProcess hRunning =>
      rcases CommandSystem.processes_setProcess hProcess' with ⟨-, rfl⟩ | hOld
      · exact absurd hReturned CommandProcess.fail_ne_returned
      · exact .inl hOld
  | @commit j p _ result writes hProcess hPhase =>
      rcases CommandSystem.processes_setProcess hProcess' with ⟨rfl, rfl⟩ | hOld
      · exact .inr ⟨rfl, p, hProcess, by rw [hPhase]; rfl, rfl⟩
      · rw [CommandSystem.processes_commit] at hOld
        exact .inl hOld
  | commitLost hProcess hPhase =>
      rcases CommandSystem.processes_setProcess hProcess' with ⟨-, rfl⟩ | hOld
      · exact absurd hReturned CommandProcess.fail_ne_returned
      · rw [CommandSystem.processes_commit] at hOld
        exact .inl hOld
  | opened hIdle => exact .inl hProcess'
  | admitted hWriter hPhase hAuthorized hFree => exact .inl hProcess'
  | changed hWriter hPhase => exact .inl hProcess'
  | found hWriter hPhase => exact .inl hProcess'
  | stored hWriter hPhase => exact .inl hProcess'
  | answered hWriter hPhase => exact .inl hProcess'
  | failed hWriter hRunning hPhase => exact .inl hProcess'
  | locked hFree => exact .inl hProcess'
  | updated hHeld hApply => exact .inl hProcess'
  | committed => exact .inl hProcess'
  | abandoned => exact .inl hProcess'

/-- The same of a catalog write. -/
theorem MemberStep.writer_returned (h : MemberStep sha256 s action s') {i : Nat}
    {w' : CatalogWriter} (hWriter' : s'.writers i = some w')
    (hReturned : w'.phase = .returned) :
    s.writers i = some w'
      ∨ (s'.memberships = s.memberships
        ∧ ∃ w, s.writers i = some w ∧ w.phase.isAuthorized = true
          ∧ w'.memberKey = w.memberKey) := by
  have hCases : ∀ {j : Nat} {w : CatalogWriter},
      Function.update s.writers j (some w) i = some w' →
      (i = j ∧ w' = w) ∨ s.writers i = some w' := by
    intro j w hUpdated
    by_cases hIndex : i = j
    · subst hIndex
      rw [Function.update_self] at hUpdated
      exact .inl ⟨rfl, (Option.some.inj hUpdated).symm⟩
    · rw [Function.update_of_ne hIndex] at hUpdated
      exact .inr hUpdated
  cases h with
  | opened hIdle =>
      rcases hCases hWriter' with ⟨-, rfl⟩ | hOld
      · exact nomatch hReturned
      · exact .inl hOld
  | admitted hWriter hPhase hAuthorized hFree =>
      rcases hCases hWriter' with ⟨-, rfl⟩ | hOld
      · exact nomatch hReturned
      · exact .inl hOld
  | changed hWriter hPhase =>
      rcases hCases hWriter' with ⟨-, rfl⟩ | hOld
      · exact nomatch hReturned
      · exact .inl hOld
  | found hWriter hPhase =>
      rcases hCases hWriter' with ⟨-, rfl⟩ | hOld
      · exact nomatch hReturned
      · exact .inl hOld
  | @stored j w writeState catalog hWriter hPhase =>
      rcases hCases hWriter' with ⟨rfl, rfl⟩ | hOld
      · exact .inr ⟨rfl, w, hWriter, by rw [hPhase]; rfl, rfl⟩
      · exact .inl hOld
  | @answered j w hWriter hPhase =>
      rcases hCases hWriter' with ⟨rfl, rfl⟩ | hOld
      · exact .inr ⟨rfl, w, hWriter, by rw [hPhase]; rfl, rfl⟩
      · exact .inl hOld
  | failed hWriter hRunning hPhase =>
      rcases hCases hWriter' with ⟨-, rfl⟩ | hOld
      · rcases hPhase with rfl | rfl
        · exact nomatch hReturned
        · exact nomatch hReturned
      · exact .inl hOld
  | call hIdle hStart => exact .inl hWriter'
  | authorize hProcess hPhase hAnswer hNext hLocks hFree => exact .inl hWriter'
  | statement hProcess hPhase hNext hLocks => exact .inl hWriter'
  | raise hProcess hNext => exact .inl hWriter'
  | fault hProcess hRunning => exact .inl hWriter'
  | commit hProcess hPhase => exact .inl hWriter'
  | commitLost hProcess hPhase => exact .inl hWriter'
  | locked hFree => exact .inl hWriter'
  | updated hHeld hApply => exact .inl hWriter'
  | committed => exact .inl hWriter'
  | abandoned => exact .inl hWriter'

/-! ## Commits -/

/-- A commit of a command changes the ledger of its own Book at most. -/
theorem AccessInvariant.ledgers_commit (h : AccessInvariant sha256 s) {i : Nat}
    {p : CommandProcess} {requestHash : EventHash} {result : CommandResult}
    {writes : Option PendingWrites} (hProcess : s.commands.processes i = some p)
    (hPhase : p.phase = .committing requestHash result writes) {bookId : UUID}
    (hChanged : (s.commands.commit writes).tables.ledgers bookId
      ≠ s.commands.tables.ledgers bookId) : p.call.command.bookId = bookId := by
  have hOwn := h.commands.phases i p hProcess
  unfold PhaseOk at hOwn
  rw [hPhase] at hOwn
  cases writes with
  | none => exact absurd rfl hChanged
  | some writes =>
      obtain ⟨hash, hReceipt⟩ := hOwn.1.receipt
      have hBook : writes.receipt.scope.bookId = p.call.command.bookId := by
        rw [hReceipt]
        rfl
      by_contra hNe
      have hOther : bookId ≠ writes.receipt.scope.bookId := by
        rw [hBook]
        exact Ne.symm hNe
      exact hChanged (Function.update_of_ne hOther _ _)

/-- What a step does to the tables: nothing, or it is the commit of a command or
of a catalog write. -/
inductive TablesChange (s : AccessSystem) (action : AccessAction)
    (s' : AccessSystem) : Prop
  | same (hTables : s'.commands.tables = s.commands.tables)
  | command {i : Nat} {p : CommandProcess} {requestHash : EventHash}
      {result : CommandResult} {writes : Option PendingWrites}
      (hAction : action = .command (.commit i) ∨ action = .command (.commitLost i))
      (hProcess : s.commands.processes i = some p)
      (hPhase : p.phase = .committing requestHash result writes)
      (hTables : s'.commands.tables = (s.commands.commit writes).tables)
      (hMembers : s'.memberships = s.memberships)
  | catalog {i : Nat} {w : CatalogWriter}
      {writeState : UUID → Option BookWriteState} {catalog : UUID → Catalog}
      (hAction : action = .store i) (hWriter : s.writers i = some w)
      (hPhase : w.phase = .changed writeState catalog)
      (hTables : s'.commands.tables = { s.commands.tables with
        writeState := writeState
        catalog := catalog })
      (hMembers : s'.memberships = s.memberships)

theorem MemberStep.tables (h : MemberStep sha256 s action s') :
    TablesChange s action s' := by
  cases h with
  | commit hProcess hPhase => exact .command (.inl rfl) hProcess hPhase rfl rfl
  | commitLost hProcess hPhase => exact .command (.inr rfl) hProcess hPhase rfl rfl
  | stored hWriter hPhase => exact .catalog rfl hWriter hPhase rfl rfl
  | call hIdle hStart => exact .same rfl
  | authorize hProcess hPhase hAnswer hNext hLocks hFree => exact .same rfl
  | statement hProcess hPhase hNext hLocks => exact .same rfl
  | raise hProcess hNext => exact .same rfl
  | fault hProcess hRunning => exact .same rfl
  | opened hIdle => exact .same rfl
  | admitted hWriter hPhase hAuthorized hFree => exact .same rfl
  | changed hWriter hPhase => exact .same rfl
  | found hWriter hPhase => exact .same rfl
  | answered hWriter hPhase => exact .same rfl
  | failed hWriter hRunning hPhase => exact .same rfl
  | locked hFree => exact .same rfl
  | updated hHeld hApply => exact .same rfl
  | committed => exact .same rfl
  | abandoned => exact .same rfl

/-- A ledger changes when an authorized command of its Book commits. -/
theorem AccessInvariant.ledger_changed (h : AccessInvariant sha256 s)
    (hStep : MemberStep sha256 s action s') {bookId : UUID}
    (hChanged : s'.commands.tables.ledgers bookId
      ≠ s.commands.tables.ledgers bookId) :
    s'.memberships = s.memberships
      ∧ ∃ i p, (action = .command (.commit i) ∨ action = .command (.commitLost i))
        ∧ s.commands.processes i = some p ∧ p.phase.isAuthorized = true
        ∧ p.call.command.bookId = bookId := by
  cases hStep.tables with
  | same hTables => exact absurd (by rw [hTables]) hChanged
  | @command i p requestHash result writes hAction hProcess hPhase hTables hMembers =>
      rw [hTables] at hChanged
      exact ⟨hMembers, i, p, hAction, hProcess, by rw [hPhase]; rfl,
        h.ledgers_commit hProcess hPhase hChanged⟩
  | catalog hAction hWriter hPhase hTables hMembers =>
      exact absurd (by rw [hTables]) hChanged

/-- What the catalog writes have committed. -/
def AccessSystem.catalogs (s : AccessSystem) :
    (UUID → Option BookWriteState) × (UUID → Catalog) :=
  (s.commands.tables.writeState, s.commands.tables.catalog)

theorem catalogs_commit (commands : CommandSystem) (writes : Option PendingWrites) :
    (commands.commit writes).tables.writeState = commands.tables.writeState
      ∧ (commands.commit writes).tables.catalog = commands.tables.catalog := by
  cases writes with
  | none => exact ⟨rfl, rfl⟩
  | some writes => exact ⟨rfl, rfl⟩

/-- A catalog changes when an authorized catalog write commits. -/
theorem MemberStep.catalog_changed (hStep : MemberStep sha256 s action s')
    (hChanged : s'.catalogs ≠ s.catalogs) :
    s'.memberships = s.memberships
      ∧ ∃ i w, action = .store i ∧ s.writers i = some w
        ∧ w.phase.isAuthorized = true := by
  unfold AccessSystem.catalogs at hChanged
  cases hStep.tables with
  | same hTables => exact absurd (by rw [hTables]) hChanged
  | @command i p requestHash result writes hAction hProcess hPhase hTables hMembers =>
      obtain ⟨hWriteState, hCatalog⟩ := catalogs_commit s.commands writes
      rw [hTables, hWriteState, hCatalog] at hChanged
      exact absurd rfl hChanged
  | @catalog i w writeState catalog hAction hWriter hPhase hTables hMembers =>
      exact ⟨hMembers, i, w, hAction, hWriter, by rw [hPhase]; rfl⟩

/-- The membership is active and has the scope, before the step and after. -/
def ActiveAcross (s s' : AccessSystem) (key : MembershipKey) (scope : String) :
    Prop :=
  ActiveMember s.memberships key scope ∧ ActiveMember s'.memberships key scope

/-- What a step commits or answers, it does for an active member. -/
structure AuthorizedStep (s : AccessSystem) (action : AccessAction)
    (s' : AccessSystem) : Prop where
  ledgers : ∀ bookId, s'.commands.tables.ledgers bookId
    ≠ s.commands.tables.ledgers bookId →
      ∃ i p, (action = .command (.commit i) ∨ action = .command (.commitLost i))
        ∧ s.commands.processes i = some p ∧ p.call.command.bookId = bookId
        ∧ ActiveAcross s s' p.memberKey "ledger:write"
  outcomes : ∀ i p' requestHash outcome, s'.commands.processes i = some p' →
    p'.phase = .returned requestHash outcome →
      s.commands.processes i = some p'
        ∨ ActiveAcross s s' p'.memberKey "ledger:write"
  catalogs : s'.catalogs ≠ s.catalogs →
    ∃ i w, action = .store i ∧ s.writers i = some w
      ∧ ActiveAcross s s' w.memberKey "book:write"
  answers : ∀ i w', s'.writers i = some w' → w'.phase = .returned →
    s.writers i = some w' ∨ ActiveAcross s s' w'.memberKey "book:write"

theorem AccessInvariant.activeAcross (h : AccessInvariant sha256 s)
    (hSame : s'.memberships = s.memberships) {owner : LockOwner}
    {key : MembershipKey} {scope : String}
    (hRelies : s.relies owner = some (key, scope)) : ActiveAcross s s' key scope := by
  have hActive := (h.relied owner key scope hRelies).2
  exact ⟨hActive, hActive.of_eq (by rw [hSame])⟩

theorem relies_of_authorized {i : Nat} {p : CommandProcess}
    (hProcess : s.commands.processes i = some p)
    (hAuthorized : p.phase.isAuthorized = true) :
    s.relies (.command i) = some (p.memberKey, "ledger:write") := by
  rw [relies_of_process hProcess]
  unfold CommandProcess.relies
  rw [if_pos hAuthorized]

theorem relies_of_writer_authorized {i : Nat} {w : CatalogWriter}
    (hWriter : s.writers i = some w) (hAuthorized : w.phase.isAuthorized = true) :
    s.relies (.writer i) = some (w.memberKey, "book:write") := by
  rw [relies_of_writer hWriter]
  unfold CatalogWriter.relies
  rw [if_pos hAuthorized]

theorem AccessInvariant.authorizedStep (h : AccessInvariant sha256 s)
    (hStep : MemberStep sha256 s action s') : AuthorizedStep s action s' where
  ledgers := by
    intro bookId hChanged
    obtain ⟨hSame, i, p, hAction, hProcess, hAuthorized, hBook⟩ :=
      h.ledger_changed hStep hChanged
    exact ⟨i, p, hAction, hProcess, hBook,
      h.activeAcross hSame (relies_of_authorized hProcess hAuthorized)⟩
  outcomes := by
    intro i p' requestHash outcome hProcess' hReturned
    rcases hStep.returned hProcess' hReturned with hOld
      | ⟨hSame, p, hProcess, hAuthorized, hKey⟩
    · exact .inl hOld
    · rw [hKey]
      exact .inr (h.activeAcross hSame (relies_of_authorized hProcess hAuthorized))
  catalogs := by
    intro hChanged
    obtain ⟨hSame, i, w, hAction, hWriter, hAuthorized⟩ :=
      hStep.catalog_changed hChanged
    exact ⟨i, w, hAction, hWriter,
      h.activeAcross hSame (relies_of_writer_authorized hWriter hAuthorized)⟩
  answers := by
    intro i w' hWriter' hReturned
    rcases hStep.writer_returned hWriter' hReturned with hOld
      | ⟨hSame, w, hWriter, hAuthorized, hKey⟩
    · exact .inl hOld
    · rw [hKey]
      exact .inr
        (h.activeAcross hSame (relies_of_writer_authorized hWriter hAuthorized))

/-! ## After a revocation -/

/-- The calls of the slot, when they are of this membership, have not been
authorized: they wait to be, or have raised. -/
def CommandOutside (s : AccessSystem) (key : MembershipKey) (i : Nat) : Prop :=
  ∀ p, s.commands.processes i = some p → p.memberKey = key →
    p.phase = .begun ∨ ∃ error, p.phase = .raised error

def WriterOutside (s : AccessSystem) (key : MembershipKey) (i : Nat) : Prop :=
  ∀ w, s.writers i = some w → w.memberKey = key →
    w.phase = .begun ∨ w.phase = .raised

theorem commandOutside_step {key : MembershipKey} {i : Nat}
    (h : AccessInvariant sha256 s) (hRevoked : Revoked s.memberships key)
    (hOutside : CommandOutside s key i) (hStep : MemberStep sha256 s action s') :
    CommandOutside s' key i := by
  rintro p' hProcess' rfl
  have hEnded := (accessInvariant_step h hStep).not_authorized
    (revoked_step h hRevoked hStep) hProcess'
  cases hPhase : p'.phase with
  | begun => exact .inl rfl
  | raised error => exact .inr ⟨error, rfl⟩
  | returned requestHash outcome =>
      rcases hStep.returned hProcess' hPhase with hOld | ⟨-, p, hProcess, hIn, hKey⟩
      · rcases hOutside p' hOld rfl with hBegun | ⟨error, hRaised⟩
        · exact nomatch hBegun.symm.trans hPhase
        · exact nomatch hRaised.symm.trans hPhase
      · rw [hKey] at hRevoked
        exact nomatch (h.not_authorized hRevoked hProcess).symm.trans hIn
  | authorized requestHash => exact nomatch hPhase ▸ hEnded
  | inserted requestHash row => exact nomatch hPhase ▸ hEnded
  | reserved requestHash reservation => exact nomatch hPhase ▸ hEnded
  | headLocked receipt head => exact nomatch hPhase ▸ hEnded
  | bookLocked receipt head => exact nomatch hPhase ▸ hEnded
  | planned receipt head plan => exact nomatch hPhase ▸ hEnded
  | appended receipt plan batch ledger unprojected => exact nomatch hPhase ▸ hEnded
  | finalized receipt plan batch ledger => exact nomatch hPhase ▸ hEnded
  | completed writes => exact nomatch hPhase ▸ hEnded
  | committing requestHash result writes => exact nomatch hPhase ▸ hEnded

theorem writerOutside_step {key : MembershipKey} {i : Nat}
    (h : AccessInvariant sha256 s) (hRevoked : Revoked s.memberships key)
    (hOutside : WriterOutside s key i) (hStep : MemberStep sha256 s action s') :
    WriterOutside s' key i := by
  rintro w' hWriter' rfl
  have hEnded := (accessInvariant_step h hStep).writer_not_authorized
    (revoked_step h hRevoked hStep) hWriter'
  cases hPhase : w'.phase with
  | begun => exact .inl rfl
  | raised => exact .inr rfl
  | returned =>
      rcases hStep.writer_returned hWriter' hPhase with hOld | ⟨-, w, hWriter, hIn, hKey⟩
      · rcases hOutside w' hOld rfl with hBegun | hRaised
        · exact nomatch hBegun.symm.trans hPhase
        · exact nomatch hRaised.symm.trans hPhase
      · rw [hKey] at hRevoked
        exact nomatch (h.writer_not_authorized hRevoked hWriter).symm.trans hIn
  | authorized => exact nomatch hPhase ▸ hEnded
  | changed writeState catalog => exact nomatch hPhase ▸ hEnded
  | replayed => exact nomatch hPhase ▸ hEnded

theorem accessInvariant_run {actions : List AccessAction}
    (h : AccessInvariant sha256 s) (hRun : Run (MemberStep sha256) s actions s') :
    AccessInvariant sha256 s' :=
  Run.invariant h (fun _ _ _ hOk hStep => accessInvariant_step hOk hStep) hRun

/-- What keeps to a revocation, does so for the rest of the run. -/
theorem outside_run (Outside : AccessSystem → Prop) {key : MembershipKey}
    (hStays : ∀ s₁ action s₂, AccessInvariant sha256 s₁ →
      Revoked s₁.memberships key → Outside s₁ → MemberStep sha256 s₁ action s₂ →
        Outside s₂)
    {later : List AccessAction} (h : AccessInvariant sha256 s)
    (hRevoked : Revoked s.memberships key) (hOutside : Outside s)
    (hRun : Run (MemberStep sha256) s later s') : Outside s' := by
  have hAll : AccessInvariant sha256 s' ∧ Revoked s'.memberships key ∧ Outside s' := by
    refine Run.invariant (I := fun s₁ => AccessInvariant sha256 s₁
      ∧ Revoked s₁.memberships key ∧ Outside s₁) ⟨h, hRevoked, hOutside⟩ ?_ hRun
    rintro s₁ action s₂ ⟨hOk, hStill, hOut⟩ hStep
    exact ⟨accessInvariant_step hOk hStep, revoked_step hOk hStill hStep,
      hStays s₁ action s₂ hOk hStill hOut hStep⟩
  exact hAll.2.2

/-- In any interleaving, every change of a ledger or a catalog and every answer
is committed for a member that is active and has the scope at that moment; and
no call of a revoked member that begins after the revocation has committed gets
past its authorization. -/
theorem writes_by_active_members {writeState : UUID → Option BookWriteState}
    {catalog : UUID → Catalog} {ledgers : UUID → BookLedger}
    {memberships : MembershipKey → Option BookMemberRecord}
    {actions : List AccessAction}
    (hRun : Run (MemberStep sha256)
      (.initial writeState catalog ledgers memberships) actions s) :
    (∀ action s', MemberStep sha256 s action s' → AuthorizedStep s action s')
      ∧ ∀ key later s', Revoked s.memberships key →
        Run (MemberStep sha256) s later s' →
          (∀ i, s.commands.processes i = none → CommandOutside s' key i)
            ∧ ∀ i, s.writers i = none → WriterOutside s' key i := by
  have hOk := accessInvariant_run
    (accessInvariant_initial sha256 writeState catalog ledgers memberships) hRun
  constructor
  · intro action s' hStep
    exact hOk.authorizedStep hStep
  · intro key later s' hRevoked hLater
    constructor
    · intro i hIdle
      have hOutside : CommandOutside s key i := fun p hProcess =>
        nomatch hIdle.symm.trans hProcess
      exact outside_run (fun s₁ => CommandOutside s₁ key i)
        (fun _ _ _ hInv hStill hOut hStep =>
          commandOutside_step hInv hStill hOut hStep) hOk hRevoked hOutside hLater
    · intro i hIdle
      have hOutside : WriterOutside s key i := fun w hWriter =>
        nomatch hIdle.symm.trans hWriter
      exact outside_run (fun s₁ => WriterOutside s₁ key i)
        (fun _ _ _ hInv hStill hOut hStep =>
          writerOutside_step hInv hStill hOut hStep) hOk hRevoked hOutside hLater

end Access

/-! ## A revocation between two calls -/

def sampleMember : BookMemberRecord where
  role := "owner"
  status := .active
  scopes := ["ledger:write", "book:write"]
  createdAt := ⟨sampleDate, 0⟩
  revokedAt := none
  hRevocation := .inl ⟨rfl, rfl⟩

def sampleRevoked : BookMemberRecord where
  role := "owner"
  status := .revoked
  scopes := ["ledger:write", "book:write"]
  createdAt := ⟨sampleDate, 0⟩
  revokedAt := some ⟨sampleDate, 1⟩
  hRevocation := .inr ⟨rfl, Option.some_ne_none _⟩

def sampleMembers : AccessSystem :=
  .initial (fun _ => some .active) (fun _ => sampleCatalog)
    (fun bookId => ⟨.opened [bookId], SyncTables.empty⟩)
    (fun key => if key = (1, "actor") then some sampleMember else none)

/-- A catalog write up to its commit. -/
theorem sampleWriter_run : ∃ s, Run (MemberStep sampleDigest) sampleMembers
    [.writer 0, .writer 0, .writer 0] s
      ∧ s.writers 0 = some ⟨1, ⟨"actor", by decide⟩,
        .changed (fun _ => none) (fun _ => sampleCatalog)⟩
      ∧ s.members.held = [⟨.writer 0, (1, "actor"), .shared⟩]
      ∧ s.members.writes = [] ∧ s.memberships = sampleMembers.memberships
      ∧ s.commands = sampleMembers.commands := by
  have hOpened : MemberStep sampleDigest sampleMembers (.writer 0)
      (sampleMembers.setWriter 0 ⟨1, ⟨"actor", by decide⟩, .begun⟩) := .opened rfl
  refine ⟨_, .cons hOpened
    (.cons (.admitted rfl rfl (by rfl) fun _ hMem => absurd hMem List.not_mem_nil)
      (.cons (.changed rfl rfl) (.nil _))), rfl, rfl, rfl, rfl, rfl⟩

/-- An administrator alone revokes a membership. -/
theorem sampleRevocation_run {s : AccessSystem} (hHeld : s.members.held = [])
    (hWrites : s.members.writes = [])
    (hRow : s.memberships (1, "actor") = some sampleMember) :
    ∃ s', Run (MemberStep sampleDigest) s
        [.administrator 0, .administrator 0, .administrator 0] s'
      ∧ s'.memberships (1, "actor") = some sampleRevoked
      ∧ s'.commands = s.commands := by
  have hFree : s.members.Free ⟨.administrator 0, (1, "actor"), .exclusive⟩ := by
    intro held hMem
    rw [hHeld] at hMem
    exact absurd hMem List.not_mem_nil
  let locked := s.members.acquire _ hFree
  have hSeen : locked.seen (.administrator 0) (1, "actor") = some sampleMember := by
    unfold LockedRows.seen
    rw [show locked.writes = [] from hWrites]
    exact hRow
  have hApply : (MembershipChange.revoke ⟨sampleDate, 1⟩).apply
      (locked.seen (.administrator 0) (1, "actor")) = .ok sampleRevoked := by
    have hLater : sampleMember.createdAt ≤ ⟨sampleDate, 1⟩ := by decide
    rw [hSeen, apply_revoke, BookMemberRecord.revoke_active rfl hLater]
    rfl
  have hHeldNow : ⟨.administrator 0, (1, "actor"), .exclusive⟩ ∈ locked.held :=
    List.mem_cons_self
  refine ⟨_, .cons (.locked hFree) (.cons (.updated hHeldNow hApply)
    (.cons .committed (.nil _))), ?_, rfl⟩
  exact LockedRows.seen_write locked (w := ⟨_, _, sampleRevoked⟩) hHeldNow

/-- A catalog write commits for the member; after the revocation a call of the
member begins, and stays outside. -/
theorem writes_by_active_members_revoked :
    ∃ s s₁ s₂ s₃ p, Run (MemberStep sampleDigest) sampleMembers
        [.writer 0, .writer 0, .writer 0] s
      ∧ MemberStep sampleDigest s (.store 0) s₁ ∧ s₁.catalogs ≠ s.catalogs
      ∧ AuthorizedStep s (.store 0) s₁
      ∧ Run (MemberStep sampleDigest) s₁
        [.administrator 0, .administrator 0, .administrator 0] s₂
      ∧ Run (MemberStep sampleDigest) s₂
        [.command (.call 0 (sampleFinancialCall []))] s₃
      ∧ s₃.commands.processes 0 = some p ∧ p.memberKey = (1, "actor")
      ∧ CommandOutside s₃ (1, "actor") 0 := by
  obtain ⟨s, hFirst, hWriter, hHeld, hWrites, hMembers, hCommands⟩ := sampleWriter_run
  obtain ⟨hSteps, -⟩ := writes_by_active_members hFirst
  have hStore := @MemberStep.stored sampleDigest _ _ _ _ _ hWriter rfl
  have hUnlocked : (s.members.release (.writer 0)).held = [] := by
    rw [LockedRows.held_release, hHeld]
    rfl
  have hUnwritten : (s.members.release (.writer 0)).writes = [] := by
    rw [LockedRows.writes_release, hWrites]
    rfl
  obtain ⟨s₂, hRevokes, hRow, hSame⟩ := sampleRevocation_run
    (s := { s with commands := { s.commands with tables := { s.commands.tables with
      writeState := fun _ => none
      catalog := fun _ => sampleCatalog } } }.endWriter 0 _)
    hUnlocked hUnwritten (by
      show s.memberships (1, "actor") = some sampleMember
      rw [hMembers]
      rfl)
  have hIdle : s₂.commands.processes 0 = none := by
    rw [hSame]
    show s.commands.processes 0 = none
    rw [hCommands]
    rfl
  have hStart : startFinancial sampleDigest (sampleFinancialCall []) = .ok 7 := by
    decide
  have hCall := MemberStep.call hIdle hStart
  obtain ⟨-, hLater⟩ := writes_by_active_members
    ((hFirst.snoc hStore).append hRevokes)
  have hNext := Run.cons hCall (.nil _)
  refine ⟨s, _, s₂, _, _, hFirst, hStore, ?_, hSteps _ _ hStore, hRevokes, hNext,
    CommandSystem.setProcess_self _ _ _, rfl,
    (hLater (1, "actor") _ _ ⟨sampleRevoked, hRow, rfl⟩ hNext).1 0 hIdle⟩
  intro hCatalogs
  have hWriteState := congrFun (congrArg Prod.fst hCatalogs) 1
  unfold AccessSystem.catalogs at hWriteState
  rw [hCommands] at hWriteState
  exact nomatch hWriteState

end TrackAnywhere.Ports
