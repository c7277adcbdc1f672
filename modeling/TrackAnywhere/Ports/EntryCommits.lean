import TrackAnywhere.Ports.CommandSafety
import TrackAnywhere.Ports.EntryIntents

/-!
# Entry commits, interleaved

Commits of prepared intents run as financial commands, among each other, among
other commands, and among transactions that prepare and cancel intents.  A
commit is a process of the command system with a session that says how far its
handler and its finalizer have come; what the session has written becomes
visible with the commit of the process.

An update of an intent row waits for the row lock: the claim of a commit holds
it until the end of its transaction, and so does a cancellation.
-/

namespace TrackAnywhere.Ports

open TrackAnywhere.Verified
open TrackAnywhere.Verified.Checked

/-! ## The system -/

/-- A commit under way. -/
structure EntrySession where
  command : CommitPreparedEntryCommand
  stage : EntryStage

/-- The next attempt starts over. -/
def EntrySession.restart (self : EntrySession) : EntrySession :=
  { self with stage := .started }

/-- A commit that went through. -/
structure PostedEntry where
  command : CommitPreparedEntryCommand
  actorId : String
  claimed : PreparedEntryIntentRecord
  application : CommandApplication

/-- The transaction of a posted entry. -/
def PostedEntry.transactionId (self : PostedEntry) : UUID :=
  self.claimed.bindings.canonicalPayload.transactionId

/-- The command system, the tables of the gateway, the sessions of the commits,
the cancellations that have updated their row, and the clock of the database.
`posted` records, for the statements about runs, the commits that went
through. -/
structure EntrySystem where
  commands : CommandSystem
  entries : EntryTables
  sessions : Nat → Option EntrySession
  cancels : Nat → Option PreparedEntryIntentRecord
  clock : Moment
  posted : List PostedEntry

namespace EntrySystem

/-- Empty Books and empty tables. -/
def initial (writeState : UUID → Option BookWriteState)
    (catalog : UUID → Catalog) (clock : Moment) : EntrySystem where
  commands := .initial writeState catalog fun bookId =>
    ⟨.opened [bookId], SyncTables.empty⟩
  entries := ⟨[], [], []⟩
  sessions := fun _ => none
  cancels := fun _ => none
  clock := clock
  posted := []

def setSession (s : EntrySystem) (i : Nat) (session : EntrySession) :
    EntrySystem :=
  { s with sessions := Function.update s.sessions i (some session) }

def setProcess (s : EntrySystem) (i : Nat) (p : CommandProcess) : EntrySystem :=
  { s with commands := s.commands.setProcess i p }

/-- The intent row whose lock a commit holds, or a cancellation. -/
def rowLock (s : EntrySystem) : Nat ⊕ Nat → Option (UUID × UUID)
  | .inl i => (s.sessions i).bind (·.stage.lock)
  | .inr j => (s.cancels j).map (·.key)

/-- No transaction holds the lock of this intent row. -/
def RowFree (s : EntrySystem) (key : UUID × UUID) : Prop :=
  ∀ holder, s.rowLock holder ≠ some key

/-- The commit of a session. -/
def publish (s : EntrySystem) (command : CommitPreparedEntryCommand)
    (actorId : String) (writes : EntryWrites) (pending : PendingWrites) :
    EntrySystem :=
  { s with
    commands := s.commands.commit (some pending)
    entries := s.entries.publish writes
    posted := s.posted ++
      [⟨command, actorId, writes.claimed, pending.application⟩] }

end EntrySystem

/-- The process asks its callbacks: the handler for the plan, or the
finalizer. -/
def Phase.asks : Phase → Bool
  | .bookLocked _ _ => true
  | .appended _ _ _ _ [] => true
  | _ => false

/-- The process whose step it is. -/
def CommandAction.process? : CommandAction → Option Nat
  | .call i _ => some i
  | .statement i => some i
  | .fault i => some i
  | .commit i => some i
  | .commitLost i => some i
  | .catalog => none

inductive EntryAction
  | prepare (proposed : IntentBindings)
  | call (i : Nat) (command : CommitPreparedEntryCommand)
  | statement (i : Nat)
  | fault (i : Nat)
  | commit (i : Nat)
  | commitLost (i : Nat)
  | other (action : CommandAction)
  | cancel (j : Nat)
  | cancelCommit (j : Nat)
  | cancelRollback (j : Nat)
  | tick

/-- One step of the system. -/
inductive EntryStep (sha256 : ByteArray → EventHash) :
    EntrySystem → EntryAction → EntrySystem → Prop
  | prepare {s : EntrySystem} {proposed : IntentBindings} {entries : EntryTables}
      (hInsert : s.entries.insertIntent proposed = .ok entries) :
      EntryStep sha256 s (.prepare proposed) { s with entries := entries }
  | call {s : EntrySystem} {i : Nat} {command : CommitPreparedEntryCommand}
      {actor : CommandActor} {maxAttempts : Nat} {keyHash : EventHash}
      (hIdle : s.commands.processes i = none)
      (hStart : startFinancial sha256 (command.financialCall actor maxAttempts)
        = .ok keyHash) :
      EntryStep sha256 s (.call i command)
        ((s.setProcess i ⟨command.financialCall actor maxAttempts, keyHash, 0,
          .begun⟩).setSession i ⟨command, .started⟩)
  -- a statement of the command bus
  | statement {s : EntrySystem} {i : Nat} {session : EntrySession}
      {p : CommandProcess} {answers : Answers} {phase : Phase}
      (hSession : s.sessions i = some session)
      (hProcess : s.commands.processes i = some p)
      (hPhase : p.phase.asks = false)
      (hNext : p.next sha256 s.commands.tables answers = .ok phase)
      (hFree : s.commands.Free i { p with phase := phase }) :
      EntryStep sha256 s (.statement i) (s.setProcess i { p with phase := phase })
  | raise {s : EntrySystem} {i : Nat} {session : EntrySession}
      {p : CommandProcess} {answers : Answers} {error : CommandError}
      (hSession : s.sessions i = some session)
      (hProcess : s.commands.processes i = some p)
      (hPhase : p.phase.asks = false)
      (hNext : p.next sha256 s.commands.tables answers = .error error) :
      EntryStep sha256 s (.statement i)
        ((s.setProcess i (p.fail error)).setSession i session.restart)
  -- a statement of the handler before the claim
  | check {s : EntrySystem} {i : Nat} {session : EntrySession}
      {p : CommandProcess} {receipt : CommandReceiptRecord} {head : LockedBookHead}
      {answers : EntryAnswers} {stage : EntryStage}
      (hSession : s.sessions i = some session)
      (hProcess : s.commands.processes i = some p)
      (hPhase : p.phase = .bookLocked receipt head)
      (hNext : session.command.next s.entries p.call.actor.subjectId answers
        session.stage = .ok stage)
      (hStage : stage.isPlanned = false) :
      EntryStep sha256 s (.statement i)
        (s.setSession i { session with stage := stage })
  | claim {s : EntrySystem} {i : Nat} {session : EntrySession}
      {p : CommandProcess} {receipt : CommandReceiptRecord} {head : LockedBookHead}
      {answers : EntryAnswers} {snapshot claimed : PreparedEntryIntentRecord}
      {plan : EntryPlan snapshot.bindings.canonicalPayload.transactionId}
      {asked : Answers} {phase : Phase}
      (hSession : s.sessions i = some session)
      (hProcess : s.commands.processes i = some p)
      (hPhase : p.phase = .bookLocked receipt head)
      (hStage : session.stage = .fingerprintChecked snapshot plan)
      (hClock : s.clock ≤ answers.claimClock.condition)
      (hClaim : session.command.next s.entries p.call.actor.subjectId answers
        session.stage = .ok (.claimed snapshot plan claimed))
      (hRow : s.RowFree claimed.key)
      (hPlan : asked.plan = .ok plan.plan)
      (hNext : p.next sha256 s.commands.tables asked = .ok phase)
      (hFree : s.commands.Free i { p with phase := phase }) :
      EntryStep sha256 s (.statement i)
        { (s.setProcess i { p with phase := phase }).setSession i
            { session with stage := .claimed snapshot plan claimed } with
          clock := answers.claimClock.trigger }
  | finalize {s : EntrySystem} {i : Nat} {session : EntrySession}
      {p : CommandProcess} {receipt : CommandReceiptRecord}
      {posting : LedgerWritePlan} {batch : AppendBatchResult}
      {ledger : BookLedger} {answers : EntryAnswers}
      {snapshot claimed : PreparedEntryIntentRecord}
      {plan : EntryPlan snapshot.bindings.canonicalPayload.transactionId}
      {writes : EntryWrites} {asked : Answers} {phase : Phase}
      (hSession : s.sessions i = some session)
      (hProcess : s.commands.processes i = some p)
      (hPhase : p.phase = .appended receipt posting batch ledger [])
      (hStage : session.stage = .claimed snapshot plan claimed)
      (hClock : s.clock ≤ answers.evidenceAt)
      (hFinalize : session.command.next s.entries p.call.actor.subjectId answers
        session.stage = .ok (.finalized snapshot plan writes))
      (hAsked : asked.finalizer = .ok ())
      (hNext : p.next sha256 s.commands.tables asked = .ok phase)
      (hFree : s.commands.Free i { p with phase := phase }) :
      EntryStep sha256 s (.statement i)
        { (s.setProcess i { p with phase := phase }).setSession i
            { session with stage := .finalized snapshot plan writes } with
          clock := answers.evidenceAt }
  -- a callback raises, or the command bus refuses its plan
  | refuse {s : EntrySystem} {i : Nat} {session : EntrySession}
      {p : CommandProcess} {answers : EntryAnswers} {asked : Answers}
      {error : CommandError}
      (hSession : s.sessions i = some session)
      (hProcess : s.commands.processes i = some p)
      (hPhase : p.phase.asks = true)
      (hRaises : session.command.next s.entries p.call.actor.subjectId answers
          session.stage = .error error
        ∨ p.next sha256 s.commands.tables asked = .error error) :
      EntryStep sha256 s (.statement i)
        ((s.setProcess i (p.fail error)).setSession i session.restart)
  | fault {s : EntrySystem} {i : Nat} {session : EntrySession}
      {p : CommandProcess} {error : CommandError}
      (hSession : s.sessions i = some session)
      (hProcess : s.commands.processes i = some p)
      (hRunning : p.isRunning = true) :
      EntryStep sha256 s (.fault i)
        ((s.setProcess i (p.fail error)).setSession i session.restart)
  | replay {s : EntrySystem} {i : Nat} {session : EntrySession}
      {p : CommandProcess} {requestHash : EventHash} {result : CommandResult}
      (hSession : s.sessions i = some session)
      (hProcess : s.commands.processes i = some p)
      (hPhase : p.phase = .committing requestHash result none) :
      EntryStep sha256 s (.commit i) (s.setProcess i
        { p with phase := .returned requestHash ⟨result, true⟩ })
  | replayLost {s : EntrySystem} {i : Nat} {session : EntrySession}
      {p : CommandProcess} {requestHash : EventHash} {result : CommandResult}
      (hSession : s.sessions i = some session)
      (hProcess : s.commands.processes i = some p)
      (hPhase : p.phase = .committing requestHash result none) :
      EntryStep sha256 s (.commitLost i) (s.setProcess i
        (p.fail (.database true none)))
  | commit {s : EntrySystem} {i : Nat} {session : EntrySession}
      {p : CommandProcess} {requestHash : EventHash} {result : CommandResult}
      {pending : PendingWrites} {snapshot : PreparedEntryIntentRecord}
      {plan : EntryPlan snapshot.bindings.canonicalPayload.transactionId}
      {writes : EntryWrites}
      (hSession : s.sessions i = some session)
      (hProcess : s.commands.processes i = some p)
      (hPhase : p.phase = .committing requestHash result (some pending))
      (hStage : session.stage = .finalized snapshot plan writes) :
      EntryStep sha256 s (.commit i)
        (((s.publish session.command p.call.actor.subjectId writes pending
          ).setProcess i { p with phase := .returned requestHash ⟨result, false⟩ }
          ).setSession i session.restart)
  | commitLost {s : EntrySystem} {i : Nat} {session : EntrySession}
      {p : CommandProcess} {requestHash : EventHash} {result : CommandResult}
      {pending : PendingWrites} {snapshot : PreparedEntryIntentRecord}
      {plan : EntryPlan snapshot.bindings.canonicalPayload.transactionId}
      {writes : EntryWrites}
      (hSession : s.sessions i = some session)
      (hProcess : s.commands.processes i = some p)
      (hPhase : p.phase = .committing requestHash result (some pending))
      (hStage : session.stage = .finalized snapshot plan writes) :
      EntryStep sha256 s (.commitLost i)
        (((s.publish session.command p.call.actor.subjectId writes pending
          ).setProcess i (p.fail (.database true none))
          ).setSession i session.restart)
  -- a step of another command
  | other {s : EntrySystem} {action : CommandAction} {commands : CommandSystem}
      (hOther : ∀ i ∈ action.process?, s.sessions i = none)
      (hCall : ∀ i call, action = .call i call →
        call.command.operation ≠ commitOperation)
      (hStep : Executes sha256 s.commands action commands) :
      EntryStep sha256 s (.other action) { s with commands := commands }
  | cancel {s : EntrySystem} {j : Nat} {bookId intentId : UUID}
      {actorId : String} {old : PreparedEntryIntentRecord} {clock : ClockReadings}
      (hIdle : s.cancels j = none)
      (hClock : s.clock ≤ clock.condition)
      (hRead : s.entries.cancellableIntent bookId actorId intentId = some old)
      (hGuard : guardPreparedEntryIntent old
        { old with lifecycleStatus := .cancelled clock.value } clock.trigger
          = .ok ())
      (hRow : s.RowFree old.key) :
      EntryStep sha256 s (.cancel j) { s with
        cancels := Function.update s.cancels j
          (some { old with lifecycleStatus := .cancelled clock.value })
        clock := clock.trigger }
  | cancelCommit {s : EntrySystem} {j : Nat} {row : PreparedEntryIntentRecord}
      (hRow : s.cancels j = some row) :
      EntryStep sha256 s (.cancelCommit j) { s with
        entries := s.entries.setIntent row
        cancels := Function.update s.cancels j none }
  | cancelRollback {s : EntrySystem} {j : Nat} {row : PreparedEntryIntentRecord}
      (hRow : s.cancels j = some row) :
      EntryStep sha256 s (.cancelRollback j)
        { s with cancels := Function.update s.cancels j none }
  | tick {s : EntrySystem} {later : Moment} (hLater : s.clock ≤ later) :
      EntryStep sha256 s .tick { s with clock := later }

end TrackAnywhere.Ports
