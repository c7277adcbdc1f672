import TrackAnywhere.Ports.CommandSafety
import TrackAnywhere.Verified.LockedRows

/-!
# Memberships under row locks

Financial commands, catalog writes and changes of memberships, interleaved.
A write begins its transaction by reading the membership of its actor for share
and keeps that lock to the end, through the lookup of the receipt, the append
and the commit; each retry is a transaction of its own and reads again.  A
change of a membership reads the row for update first.  The commands are those
of `CommandBus`, with `authorize` answered from the membership that is locked;
what a catalog write changes is left open.
-/

namespace TrackAnywhere.Ports

open TrackAnywhere.Verified
open TrackAnywhere.Verified.Checked

/-! ## Memberships -/

inductive MembershipStatus
  | active
  | revoked
deriving DecidableEq

/-- A row of `book_members`, with its constraint `revocation_shape`. -/
structure BookMemberRecord where
  role : String
  status : MembershipStatus
  scopes : List String
  createdAt : Instant
  revokedAt : Option Instant
  hRevocation : (status = .active ∧ revokedAt = none)
    ∨ (status = .revoked ∧ revokedAt ≠ none)

/-- The Book and the user of a membership. -/
abbrev MembershipKey := UUID × String

/-- `BookMembershipRepository.revoke`, on the row it has locked. -/
def BookMemberRecord.revoke (revokedAt : Instant) (record : BookMemberRecord) :
    Except CommandError BookMemberRecord :=
  if record.status = .active then do
    require (record.createdAt ≤ revokedAt)
      (.other "membership revocation cannot predate creation")
    return { record with
      status := .revoked
      revokedAt := some revokedAt
      hRevocation := .inr ⟨rfl, Option.some_ne_none _⟩ }
  else return record

/-- What is done to a membership; `enroll` is the row of a new Book's owner. -/
inductive MembershipChange
  | revoke (revokedAt : Instant)
  | changeScopes (scopes : List String)
  | enroll (record : BookMemberRecord)

def MembershipChange.apply (row : Option BookMemberRecord) :
    MembershipChange → Except CommandError BookMemberRecord
  | revoke revokedAt => do
      let record ← fetch row (.other "book membership not found")
      record.revoke revokedAt
  | changeScopes scopes => do
      let record ← fetch row (.other "book membership not found")
      return { record with scopes := scopes }
  | enroll record => do
      require (row = none) (.integrity "book_members_pkey")
      return record

@[simp] theorem apply_revoke (record : BookMemberRecord) (revokedAt : Instant) :
    (MembershipChange.revoke revokedAt).apply (some record)
      = record.revoke revokedAt := rfl

theorem BookMemberRecord.revoke_active {record : BookMemberRecord}
    {revokedAt : Instant} (hActive : record.status = .active)
    (hLater : record.createdAt ≤ revokedAt) :
    record.revoke revokedAt = .ok { record with
      status := .revoked
      revokedAt := some revokedAt
      hRevocation := .inr ⟨rfl, Option.some_ne_none _⟩ } := by
  unfold BookMemberRecord.revoke require
  rw [if_pos hActive, if_pos hLater]
  rfl

/-! ## Authorization -/

/-- `AuthorizationScope(…)`, with the checks of `__post_init__`. -/
def authorizationScope (bookId : UUID) (actor : CommandActor) (role : String)
    (scopes : List String) : Except CommandError AuthorizationScope :=
  if hRole : role ≠ "" then
    if hScopes : ∀ scope ∈ scopes, scope ≠ "" then
      .ok ⟨bookId, actor.subjectId, role, scopes, actor.hBound, hRole, hScopes⟩
    else .error (.idempotencyValidation "authorization scopes are invalid")
  else .error (.idempotencyValidation "authorization role is invalid")

section Authorize

variable (memberships : MembershipKey → Option BookMemberRecord)

/-- The membership is active and has the scope. -/
def ActiveMember (key : MembershipKey) (scope : String) : Prop :=
  ∃ record, memberships key = some record ∧ record.status = .active
    ∧ record.revokedAt = none ∧ scope ∈ record.scopes

def Revoked (key : MembershipKey) : Prop :=
  ∃ record, memberships key = some record ∧ record.status = .revoked

/-- Both authorizers: they differ in the scope and the message. -/
def authorizeWrite (scope message : String) (actor : CommandActor)
    (bookId : UUID) : Except CommandError AuthorizationScope := do
  let membership ← fetch (memberships (bookId, actor.subjectId)) (.other message)
  require (membership.status = .active ∧ membership.revokedAt = none
    ∧ scope ∈ membership.scopes) (.other message)
  authorizationScope bookId actor membership.role membership.scopes

def authorizeJournalWrite (actor : CommandActor) (bookId : UUID) :
    Except CommandError AuthorizationScope :=
  authorizeWrite memberships "ledger:write" "journal write is not authorized"
    actor bookId

def authorizeCatalogWrite (actor : CommandActor) (bookId : UUID) :
    Except CommandError AuthorizationScope :=
  authorizeWrite memberships "book:write" "catalog write is not authorized"
    actor bookId

variable {memberships} {key : MembershipKey}

theorem activeMember_of_authorizeWrite {scope message : String}
    {actor : CommandActor} {bookId : UUID} {authorization : AuthorizationScope}
    (h : authorizeWrite memberships scope message actor bookId
      = .ok authorization) :
    ActiveMember memberships (bookId, actor.subjectId) scope := by
  unfold authorizeWrite at h
  simp only [bind_eq_ok, fetch_eq_ok, require_eq_ok] at h
  obtain ⟨record, hRow, _, hActive, _⟩ := h
  exact ⟨record, hRow, hActive⟩

theorem Revoked.not_active (h : Revoked memberships key) (scope : String) :
    ¬ ActiveMember memberships key scope := by
  rintro ⟨record, hRow, hActive, -⟩
  obtain ⟨record', hRow', hRevoked⟩ := h
  obtain rfl : record = record' := Option.some.inj (hRow.symm.trans hRow')
  exact absurd (hActive.symm.trans hRevoked) (by decide)

end Authorize

/-- What no change of a membership undoes. -/
def StaysRevoked (record record' : BookMemberRecord) : Prop :=
  record.status = .revoked → record'.status = .revoked

theorem staysRevoked_apply {row : Option BookMemberRecord}
    {change : MembershipChange} {record' : BookMemberRecord}
    (h : change.apply row = .ok record') :
    ∀ record, row = some record → StaysRevoked record record' := by
  rintro record rfl hRevoked
  cases change with
  | revoke revokedAt =>
      unfold MembershipChange.apply BookMemberRecord.revoke at h
      simp only [bind_eq_ok, fetch_eq_ok, Option.some.injEq] at h
      obtain ⟨_, rfl, hRecord⟩ := h
      rw [if_neg (by rw [hRevoked]; decide), pure_eq_ok] at hRecord
      rw [← hRecord]
      exact hRevoked
  | changeScopes scopes =>
      unfold MembershipChange.apply at h
      simp only [bind_eq_ok, fetch_eq_ok, Option.some.injEq, pure_eq_ok] at h
      obtain ⟨_, rfl, rfl⟩ := h
      exact hRevoked
  | enroll enrolled =>
      unfold MembershipChange.apply at h
      obtain ⟨_, hNew, -⟩ := bind_eq_ok.1 h
      cases require_eq_ok.1 hNew

/-! ## Transactions -/

/-- Where a catalog write stands; `changed` has what it will commit, `replayed`
an earlier answer. -/
inductive CatalogPhase
  | begun
  | authorized
  | changed (writeState : UUID → Option BookWriteState) (catalog : UUID → Catalog)
  | replayed
  | returned
  | raised

structure CatalogWriter where
  bookId : UUID
  actor : CommandActor
  phase : CatalogPhase

/-- Whose transaction holds a lock. -/
inductive LockOwner
  | command (i : Nat)
  | writer (i : Nat)
  | administrator (i : Nat)
deriving DecidableEq

def CommandProcess.memberKey (p : CommandProcess) : MembershipKey :=
  (p.call.command.bookId, p.call.actor.subjectId)

def CatalogWriter.memberKey (w : CatalogWriter) : MembershipKey :=
  (w.bookId, w.actor.subjectId)

/-- Past the authorization, in a transaction that has not ended. -/
def Phase.isAuthorized : Phase → Bool
  | begun => false
  | returned _ _ => false
  | raised _ => false
  | _ => true

def CatalogPhase.isAuthorized : CatalogPhase → Bool
  | authorized => true
  | changed _ _ => true
  | replayed => true
  | _ => false

/-- The membership and the scope a call has been authorized by. -/
def CommandProcess.relies (p : CommandProcess) : Option (MembershipKey × String) :=
  if p.phase.isAuthorized then some (p.memberKey, "ledger:write") else none

def CatalogWriter.relies (w : CatalogWriter) : Option (MembershipKey × String) :=
  if w.phase.isAuthorized then some (w.memberKey, "book:write") else none

/-! ## The system -/

structure AccessSystem where
  commands : CommandSystem
  writers : Nat → Option CatalogWriter
  members : LockedRows LockOwner MembershipKey BookMemberRecord

inductive AccessAction
  | command (action : CommandAction)
  | writer (i : Nat)
  | store (i : Nat)
  | administrator (i : Nat)

namespace AccessSystem

def initial (writeState : UUID → Option BookWriteState) (catalog : UUID → Catalog)
    (ledgers : UUID → BookLedger)
    (memberships : MembershipKey → Option BookMemberRecord) : AccessSystem where
  commands := .initial writeState catalog ledgers
  writers := fun _ => none
  members := .unlocked memberships

def setWriter (s : AccessSystem) (i : Nat) (w : CatalogWriter) : AccessSystem :=
  { s with writers := Function.update s.writers i (some w) }

/-- The transaction of a command ends, and the process stands at `p`. -/
def endCommand (s : AccessSystem) (i : Nat) (p : CommandProcess) : AccessSystem :=
  { s with
    commands := s.commands.setProcess i p
    members := s.members.release (.command i) }

def endWriter (s : AccessSystem) (i : Nat) (w : CatalogWriter) : AccessSystem :=
  { s.setWriter i w with members := s.members.release (.writer i) }

/-- The memberships as they are committed. -/
def memberships (s : AccessSystem) : MembershipKey → Option BookMemberRecord :=
  s.members.committed

/-- What the transaction of a lock owner has been authorized by. -/
def relies (s : AccessSystem) : LockOwner → Option (MembershipKey × String)
  | .command i => (s.commands.processes i).bind CommandProcess.relies
  | .writer i => (s.writers i).bind CatalogWriter.relies
  | .administrator _ => none

end AccessSystem

/-- One step of the system. -/
inductive MemberStep (sha256 : ByteArray → EventHash) :
    AccessSystem → AccessAction → AccessSystem → Prop
  | call {s : AccessSystem} {i : Nat} {call : FinancialCall} {keyHash : EventHash}
      (hIdle : s.commands.processes i = none)
      (hStart : startFinancial sha256 call = .ok keyHash) :
      MemberStep sha256 s (.command (.call i call)) { s with
        commands := s.commands.setProcess i ⟨call, keyHash, 0, .begun⟩ }
  -- the membership is read for share, once nobody holds it for update
  | authorize {s : AccessSystem} {i : Nat} {p : CommandProcess}
      {answers : Answers} {phase : Phase}
      (hProcess : s.commands.processes i = some p) (hPhase : p.phase = .begun)
      (hAnswer : answers.authorization = authorizeJournalWrite s.memberships
        p.call.actor p.call.command.bookId)
      (hNext : p.next sha256 s.commands.tables answers = .ok phase)
      (hLocks : s.commands.Free i { p with phase := phase })
      (hFree : s.members.Free ⟨.command i, p.memberKey, .shared⟩) :
      MemberStep sha256 s (.command (.statement i)) { s with
        commands := s.commands.setProcess i { p with phase := phase }
        members := s.members.acquire _ hFree }
  | statement {s : AccessSystem} {i : Nat} {p : CommandProcess}
      {answers : Answers} {phase : Phase}
      (hProcess : s.commands.processes i = some p) (hPhase : p.phase ≠ .begun)
      (hNext : p.next sha256 s.commands.tables answers = .ok phase)
      (hLocks : s.commands.Free i { p with phase := phase }) :
      MemberStep sha256 s (.command (.statement i)) { s with
        commands := s.commands.setProcess i { p with phase := phase } }
  | raise {s : AccessSystem} {i : Nat} {p : CommandProcess} {answers : Answers}
      {error : CommandError} (hProcess : s.commands.processes i = some p)
      (hNext : p.next sha256 s.commands.tables answers = .error error) :
      MemberStep sha256 s (.command (.statement i))
        (s.endCommand i (p.fail error))
  | fault {s : AccessSystem} {i : Nat} {p : CommandProcess}
      {error : CommandError} (hProcess : s.commands.processes i = some p)
      (hRunning : p.isRunning = true) :
      MemberStep sha256 s (.command (.fault i)) (s.endCommand i (p.fail error))
  | commit {s : AccessSystem} {i : Nat} {p : CommandProcess}
      {requestHash : EventHash} {result : CommandResult}
      {writes : Option PendingWrites}
      (hProcess : s.commands.processes i = some p)
      (hPhase : p.phase = .committing requestHash result writes) :
      MemberStep sha256 s (.command (.commit i))
        ({ s with commands := s.commands.commit writes }.endCommand i
          { p with phase := .returned requestHash ⟨result, writes.isNone⟩ })
  | commitLost {s : AccessSystem} {i : Nat} {p : CommandProcess}
      {requestHash : EventHash} {result : CommandResult}
      {writes : Option PendingWrites}
      (hProcess : s.commands.processes i = some p)
      (hPhase : p.phase = .committing requestHash result writes) :
      MemberStep sha256 s (.command (.commitLost i))
        ({ s with commands := s.commands.commit writes }.endCommand i
          (p.fail (.database true none)))
  -- a catalog write, which reads the membership the same way
  | opened {s : AccessSystem} {i : Nat} {bookId : UUID} {actor : CommandActor}
      (hIdle : s.writers i = none) :
      MemberStep sha256 s (.writer i) (s.setWriter i ⟨bookId, actor, .begun⟩)
  | admitted {s : AccessSystem} {i : Nat} {w : CatalogWriter}
      {authorization : AuthorizationScope} (hWriter : s.writers i = some w)
      (hPhase : w.phase = .begun)
      (hAuthorized : authorizeCatalogWrite s.memberships w.actor w.bookId
        = .ok authorization)
      (hFree : s.members.Free ⟨.writer i, w.memberKey, .shared⟩) :
      MemberStep sha256 s (.writer i) { s.setWriter i
        { w with phase := .authorized } with
          members := s.members.acquire _ hFree }
  | changed {s : AccessSystem} {i : Nat} {w : CatalogWriter}
      {writeState : UUID → Option BookWriteState} {catalog : UUID → Catalog}
      (hWriter : s.writers i = some w) (hPhase : w.phase = .authorized) :
      MemberStep sha256 s (.writer i)
        (s.setWriter i { w with phase := .changed writeState catalog })
  | found {s : AccessSystem} {i : Nat} {w : CatalogWriter}
      (hWriter : s.writers i = some w) (hPhase : w.phase = .authorized) :
      MemberStep sha256 s (.writer i) (s.setWriter i { w with phase := .replayed })
  | stored {s : AccessSystem} {i : Nat} {w : CatalogWriter}
      {writeState : UUID → Option BookWriteState} {catalog : UUID → Catalog}
      (hWriter : s.writers i = some w)
      (hPhase : w.phase = .changed writeState catalog) :
      MemberStep sha256 s (.store i) ({ s with
        commands := { s.commands with tables := { s.commands.tables with
          writeState := writeState
          catalog := catalog } } }.endWriter i { w with phase := .returned })
  | answered {s : AccessSystem} {i : Nat} {w : CatalogWriter}
      (hWriter : s.writers i = some w) (hPhase : w.phase = .replayed) :
      MemberStep sha256 s (.writer i) (s.endWriter i { w with phase := .returned })
  -- a refusal, an error or a fault; the transaction may be retried
  | failed {s : AccessSystem} {i : Nat} {w : CatalogWriter} {phase : CatalogPhase}
      (hWriter : s.writers i = some w) (hRunning : w.phase ≠ .returned)
      (hPhase : phase = .begun ∨ phase = .raised) :
      MemberStep sha256 s (.writer i) (s.endWriter i { w with phase := phase })
  -- a change of memberships, under locks for update
  | locked {s : AccessSystem} {i : Nat} {key : MembershipKey}
      (hFree : s.members.Free ⟨.administrator i, key, .exclusive⟩) :
      MemberStep sha256 s (.administrator i)
        { s with members := s.members.acquire _ hFree }
  | updated {s : AccessSystem} {i : Nat} {key : MembershipKey}
      {change : MembershipChange} {record : BookMemberRecord}
      (hHeld : ⟨.administrator i, key, .exclusive⟩ ∈ s.members.held)
      (hApply : change.apply (s.members.seen (.administrator i) key) = .ok record) :
      MemberStep sha256 s (.administrator i)
        { s with members := s.members.write ⟨.administrator i, key, record⟩ hHeld }
  | committed {s : AccessSystem} {i : Nat} :
      MemberStep sha256 s (.administrator i)
        { s with members := s.members.commit (.administrator i) }
  | abandoned {s : AccessSystem} {i : Nat} :
      MemberStep sha256 s (.administrator i)
        { s with members := s.members.release (.administrator i) }

section Access

variable {sha256 : ByteArray → EventHash} {s s' : AccessSystem}
  {action : AccessAction}

/-! ## The commands of the system -/

/-- With the memberships forgotten: a step of the commands, or none. -/
theorem MemberStep.executes (h : MemberStep sha256 s action s') :
    s'.commands = s.commands
      ∨ ∃ command, Executes sha256 s.commands command s'.commands := by
  cases h with
  | call hIdle hStart => exact .inr ⟨_, .call hIdle hStart⟩
  | authorize hProcess hPhase hAnswer hNext hLocks hFree =>
      exact .inr ⟨_, .statement hProcess hNext hLocks⟩
  | statement hProcess hPhase hNext hLocks =>
      exact .inr ⟨_, .statement hProcess hNext hLocks⟩
  | raise hProcess hNext => exact .inr ⟨_, .raise hProcess hNext⟩
  | fault hProcess hRunning => exact .inr ⟨_, .fault hProcess hRunning⟩
  | commit hProcess hPhase => exact .inr ⟨_, .commit hProcess hPhase⟩
  | commitLost hProcess hPhase => exact .inr ⟨_, .commitLost hProcess hPhase⟩
  | stored hWriter hPhase => exact .inr ⟨_, .catalog⟩
  | opened hIdle => exact .inl rfl
  | admitted hWriter hPhase hAuthorized hFree => exact .inl rfl
  | changed hWriter hPhase => exact .inl rfl
  | found hWriter hPhase => exact .inl rfl
  | answered hWriter hPhase => exact .inl rfl
  | failed hWriter hRunning hPhase => exact .inl rfl
  | locked hFree => exact .inl rfl
  | updated hHeld hApply => exact .inl rfl
  | committed => exact .inl rfl
  | abandoned => exact .inl rfl

theorem commandInvariant_memberStep (h : CommandInvariant sha256 s.commands)
    (hStep : MemberStep sha256 s action s') : CommandInvariant sha256 s'.commands := by
  rcases hStep.executes with hSame | ⟨command, hExecutes⟩
  · rwa [hSame]
  · exact commandInvariant_step h hExecutes

/-! ## What a transaction relies on -/

/-- The first statement of a transaction is its authorization. -/
theorem CommandProcess.next_begun {t : CommandTables} {answers : Answers}
    {p : CommandProcess} {phase : Phase} (hPhase : p.phase = .begun)
    (hNext : p.next sha256 t answers = .ok phase) :
    (∃ authorization, answers.authorization = .ok authorization)
      ∧ phase.isAuthorized = true := by
  unfold CommandProcess.next at hNext
  simp only [hPhase, bind_eq_ok, pure_eq_ok] at hNext
  obtain ⟨_, -, authorization, hAnswer, _, -, _, -, rfl⟩ := hNext
  exact ⟨⟨authorization, hAnswer⟩, rfl⟩

/-- No later statement leaves the transaction, or enters one. -/
theorem CommandProcess.next_isAuthorized {t : CommandTables} {answers : Answers}
    {p : CommandProcess} {phase : Phase} (hPhase : p.phase ≠ .begun)
    (hNext : p.next sha256 t answers = .ok phase) :
    phase.isAuthorized = p.phase.isAuthorized := by
  obtain ⟨call, keyHash, attempt, current⟩ := p
  unfold CommandProcess.next at hNext
  cases current with
  | begun => exact absurd rfl hPhase
  | authorized requestHash =>
      simp only [bind_eq_ok, pure_eq_ok] at hNext
      obtain ⟨_, -, rfl⟩ := hNext
      rfl
  | inserted requestHash row =>
      simp only [bind_eq_ok, pure_eq_ok] at hNext
      obtain ⟨_, -, rfl⟩ := hNext
      rfl
  | reserved requestHash reservation =>
      simp only at hNext
      split_ifs at hNext
      · simp only [bind_eq_ok, pure_eq_ok] at hNext
        obtain ⟨_, -, rfl⟩ := hNext
        rfl
      · simp only [bind_eq_ok, pure_eq_ok] at hNext
        obtain ⟨_, -, rfl⟩ := hNext
        rfl
  | headLocked receipt head =>
      simp only [bind_eq_ok, pure_eq_ok] at hNext
      obtain ⟨_, -, rfl⟩ := hNext
      rfl
  | bookLocked receipt head =>
      simp only [bind_eq_ok, pure_eq_ok] at hNext
      obtain ⟨_, -, _, -, rfl⟩ := hNext
      rfl
  | planned receipt head plan =>
      simp only [bind_eq_ok, pure_eq_ok] at hNext
      obtain ⟨_, -, rfl⟩ := hNext
      rfl
  | appended receipt plan batch ledger unprojected =>
      cases unprojected with
      | nil =>
          simp only [bind_eq_ok, pure_eq_ok] at hNext
          obtain ⟨_, -, rfl⟩ := hNext
          rfl
      | cons stored unprojected =>
          simp only [bind_eq_ok, pure_eq_ok] at hNext
          obtain ⟨_, -, rfl⟩ := hNext
          rfl
  | finalized receipt plan batch ledger =>
      simp only [bind_eq_ok, pure_eq_ok] at hNext
      obtain ⟨_, -, _, -, rfl⟩ := hNext
      rfl
  | completed writes =>
      simp only [bind_eq_ok, pure_eq_ok] at hNext
      obtain ⟨_, -, rfl⟩ := hNext
      rfl
  | committing requestHash result writes =>
      rw [← pure_eq_ok.1 hNext]
  | returned requestHash outcome =>
      rw [← pure_eq_ok.1 hNext]
  | raised error =>
      rw [← pure_eq_ok.1 hNext]

@[simp] theorem CommandProcess.relies_fail (p : CommandProcess)
    (error : CommandError) : (p.fail error).relies = none := by
  unfold CommandProcess.fail
  split_ifs <;> rfl

/-- What a step does to the memberships, and to what transactions rely on: it
moves at most one transaction, which relies on what it did or on nothing, or on
the membership it has just locked. -/
structure Takes (s s' : AccessSystem) (owner : LockOwner) : Prop where
  others : ∀ other, other ≠ owner → s'.relies other = s.relies other
  own : (s'.members = s.members ∧ s'.relies owner = s.relies owner)
    ∨ (LockedRows.Moves StaysRevoked owner s.members s'.members
      ∧ s'.relies owner = none)
    ∨ ∃ key scope, ∃ hFree : s.members.Free ⟨owner, key, .shared⟩,
        s'.members = s.members.acquire _ hFree
          ∧ s'.relies owner = some (key, scope)
          ∧ ActiveMember s.memberships key scope

/-- A step of a command, or of a catalog write, leaves what the others rely on. -/
theorem relies_command (s s' : AccessSystem) {i : Nat} {p : CommandProcess}
    (hProcesses : s'.commands.processes
      = Function.update s.commands.processes i (some p))
    (hWriters : s'.writers = s.writers) :
    (∀ other, other ≠ .command i → s'.relies other = s.relies other)
      ∧ s'.relies (.command i) = p.relies := by
  constructor
  · intro other hNe
    cases other with
    | command j =>
        have hIndex : j ≠ i := fun hSame => hNe (by rw [hSame])
        unfold AccessSystem.relies
        simp only [hProcesses, Function.update_of_ne hIndex]
    | writer j =>
        unfold AccessSystem.relies
        simp only [hWriters]
    | administrator j => rfl
  · unfold AccessSystem.relies
    simp only [hProcesses, Function.update_self, Option.bind_some]

theorem relies_writer (s s' : AccessSystem) {i : Nat} {w : CatalogWriter}
    (hProcesses : s'.commands.processes = s.commands.processes)
    (hWriters : s'.writers = Function.update s.writers i (some w)) :
    (∀ other, other ≠ .writer i → s'.relies other = s.relies other)
      ∧ s'.relies (.writer i) = w.relies := by
  constructor
  · intro other hNe
    cases other with
    | command j =>
        unfold AccessSystem.relies
        simp only [hProcesses]
    | writer j =>
        have hIndex : j ≠ i := fun hSame => hNe (by rw [hSame])
        unfold AccessSystem.relies
        simp only [hWriters, Function.update_of_ne hIndex]
    | administrator j => rfl
  · unfold AccessSystem.relies
    simp only [hWriters, Function.update_self, Option.bind_some]

theorem relies_of_process {i : Nat} {p : CommandProcess}
    (hProcess : s.commands.processes i = some p) :
    s.relies (.command i) = p.relies := by
  unfold AccessSystem.relies
  simp only [hProcess, Option.bind_some]

theorem relies_of_writer {i : Nat} {w : CatalogWriter}
    (hWriter : s.writers i = some w) : s.relies (.writer i) = w.relies := by
  unfold AccessSystem.relies
  simp only [hWriter, Option.bind_some]

@[simp] theorem CommandSystem.processes_commit (s : CommandSystem)
    (writes : Option PendingWrites) : (s.commit writes).processes = s.processes := by
  cases writes <;> rfl

/-- A transaction that ends relies on nothing, and releases its locks. -/
theorem takes_endCommand {i : Nat} {p : CommandProcess} {commands : CommandSystem}
    (hProcesses : commands.processes = s.commands.processes)
    (hRelies : p.relies = none) :
    Takes s ({ s with commands := commands }.endCommand i p) (.command i) := by
  have hChange := relies_command s
    ({ s with commands := commands }.endCommand i p) (i := i) (p := p)
    (by rw [← hProcesses]; rfl) rfl
  exact ⟨hChange.1, .inr (.inl ⟨.release, hChange.2.trans hRelies⟩)⟩

theorem takes_endWriter {i : Nat} {w : CatalogWriter} {commands : CommandSystem}
    (hProcesses : commands.processes = s.commands.processes)
    (hRelies : w.relies = none) :
    Takes s ({ s with commands := commands }.endWriter i w) (.writer i) := by
  have hChange := relies_writer s
    ({ s with commands := commands }.endWriter i w) (i := i) (w := w)
    hProcesses rfl
  exact ⟨hChange.1, .inr (.inl ⟨.release, hChange.2.trans hRelies⟩)⟩

/-- A step within a transaction, or before it. -/
theorem takes_command {i : Nat} {p : CommandProcess}
    (hSame : p.relies = s.relies (.command i)) :
    Takes s { s with commands := s.commands.setProcess i p } (.command i) := by
  have hChange := relies_command s
    ({ s with commands := s.commands.setProcess i p }) (i := i) (p := p) rfl rfl
  exact ⟨hChange.1, .inl ⟨rfl, hChange.2.trans hSame⟩⟩

theorem takes_writer {i : Nat} {w : CatalogWriter}
    (hSame : w.relies = s.relies (.writer i)) :
    Takes s (s.setWriter i w) (.writer i) := by
  have hChange := relies_writer s (s.setWriter i w) (i := i) (w := w)
    rfl rfl
  exact ⟨hChange.1, .inl ⟨rfl, hChange.2.trans hSame⟩⟩

/-- A step of an administrator. -/
theorem takes_administrator {i : Nat}
    {members : LockedRows LockOwner MembershipKey BookMemberRecord}
    (hMoves : LockedRows.Moves StaysRevoked (.administrator i) s.members members) :
    Takes s { s with members := members } (.administrator i) :=
  ⟨fun _ _ => rfl, .inr (.inl ⟨hMoves, rfl⟩)⟩

/-- What one step of the system does. -/
theorem MemberStep.takes (h : MemberStep sha256 s action s') :
    ∃ owner, Takes s s' owner := by
  cases h with
  | @call i call keyHash hIdle hStart =>
      refine ⟨.command i, takes_command ?_⟩
      unfold AccessSystem.relies
      simp only [hIdle, Option.bind_none]
      rfl
  | @authorize i p answers phase hProcess hPhase hAnswer hNext hLocks hFree =>
      obtain ⟨⟨authorization, hOk⟩, hAuthorized⟩ := p.next_begun hPhase hNext
      have hActive := activeMember_of_authorizeWrite (hAnswer.symm.trans hOk)
      have hChange := relies_command s ({ s with
          commands := s.commands.setProcess i { p with phase := phase }
          members := s.members.acquire _ hFree })
        (i := i) (p := { p with phase := phase }) rfl rfl
      refine ⟨.command i, hChange.1, .inr (.inr ⟨p.memberKey, "ledger:write", hFree,
        rfl, hChange.2.trans ?_, hActive⟩)⟩
      unfold CommandProcess.relies
      rw [if_pos hAuthorized]
      rfl
  | @statement i p answers phase hProcess hPhase hNext hLocks =>
      refine ⟨.command i, takes_command ?_⟩
      rw [relies_of_process hProcess]
      unfold CommandProcess.relies
      simp only [p.next_isAuthorized hPhase hNext]
      rfl
  | @raise i p answers error hProcess hNext =>
      exact ⟨.command i, takes_endCommand rfl (p.relies_fail error)⟩
  | @fault i p error hProcess hRunning =>
      exact ⟨.command i, takes_endCommand rfl (p.relies_fail error)⟩
  | @commit i p requestHash result writes hProcess hPhase =>
      exact ⟨.command i, takes_endCommand (s.commands.processes_commit writes) rfl⟩
  | @commitLost i p requestHash result writes hProcess hPhase =>
      exact ⟨.command i, takes_endCommand (s.commands.processes_commit writes)
        (p.relies_fail _)⟩
  | @opened i bookId actor hIdle =>
      refine ⟨.writer i, takes_writer ?_⟩
      unfold AccessSystem.relies
      simp only [hIdle, Option.bind_none]
      rfl
  | @admitted i w authorization hWriter hPhase hAuthorized hFree =>
      have hActive := activeMember_of_authorizeWrite hAuthorized
      have hChange := relies_writer s ({ s.setWriter i
          { w with phase := .authorized } with members := s.members.acquire _ hFree })
        (i := i) (w := { w with phase := .authorized }) rfl rfl
      exact ⟨.writer i, hChange.1, .inr (.inr ⟨w.memberKey, "book:write", hFree, rfl,
        hChange.2, hActive⟩)⟩
  | @changed i w writeState catalog hWriter hPhase =>
      refine ⟨.writer i, takes_writer ?_⟩
      rw [relies_of_writer hWriter]
      unfold CatalogWriter.relies
      rw [hPhase]
      rfl
  | @found i w hWriter hPhase =>
      refine ⟨.writer i, takes_writer ?_⟩
      rw [relies_of_writer hWriter]
      unfold CatalogWriter.relies
      rw [hPhase]
      rfl
  | @stored i w writeState catalog hWriter hPhase =>
      exact ⟨.writer i, takes_endWriter rfl rfl⟩
  | @answered i w hWriter hPhase =>
      exact ⟨.writer i, takes_endWriter rfl rfl⟩
  | @failed i w phase hWriter hRunning hPhase =>
      refine ⟨.writer i, takes_endWriter rfl ?_⟩
      rcases hPhase with rfl | rfl
      · rfl
      · rfl
  | @locked i key hFree => exact ⟨.administrator i, takes_administrator (.acquire hFree)⟩
  | @updated i key change record hHeld hApply =>
      exact ⟨.administrator i, takes_administrator
        (.write hHeld (staysRevoked_apply hApply))⟩
  | @committed i => exact ⟨.administrator i, takes_administrator .commit⟩
  | @abandoned i => exact ⟨.administrator i, takes_administrator .release⟩

end Access

end TrackAnywhere.Ports
