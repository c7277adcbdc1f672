import TrackAnywhere.Ports.ProfileStore
import TrackAnywhere.Verified.Run

/-!
# Runs of the OAuth profile store

Any number of processes call the functions of the store, each on a profile of its own
choice, and their operations interleave.  `StoreState` is what they share.  An operation
may raise: one on files leaves the state as it was, a write to the keyring may have taken
effect, and of a request the answer may be lost.  A process may crash between two
operations; its locks are free then.

The token endpoint rotates: whenever it gives out an access token, it gives out a refresh
token with it that nobody had before.

`ProfileRow.last` and `StoreState.tokens` are read by no function of the store.  They say
which operation wrote the marker last, and where each refresh token is.
-/

namespace TrackAnywhere.Ports

open TrackAnywhere.Verified
open TrackAnywhere.Verified.Programs

/-! ## What the processes share -/

/-- An operation that wrote its block marker, and what it had stored where it removed the
marker again. -/
structure Transition where
  call : Nat
  operation : StoreCall
  removed : Option (Option AuthProfile)

structure ProfileRow where
  blocked : Bool
  keyring : Option AuthProfile
  last : Option Transition

/-- Where a refresh token is. -/
inductive TokenPlace
  /-- Nobody had it. -/
  | unknown
  /-- A call was given it, or took it over from the store. -/
  | held (call : Nat)
  | stored (key : ProfileKey)
  | sent
deriving DecidableEq

structure StoreState where
  rows : ProfileKey → ProfileRow
  file : Option FileText
  profileLocks : ProfileKey → Option Nat
  documentLock : Option Nat
  tokens : String → TokenPlace
  sent : List String

/-- A call of a function of the store by a process. -/
structure RunningCall where
  id : Nat
  pid : Nat
  key : ProfileKey
  operation : StoreCall

namespace StoreState

/-- What the profile file holds under a key. -/
def entry (s : StoreState) (key : ProfileKey) : Option AuthProfile :=
  match s.file with
  | some (.document profiles) => profiles.lookup key
  | _ => none

def setRow (s : StoreState) (key : ProfileKey) (row : ProfileRow) : StoreState :=
  { s with rows := Function.update s.rows key row }

def setKeyring (s : StoreState) (key : ProfileKey) (value : Option AuthProfile) : StoreState :=
  s.setRow key { s.rows key with keyring := value }

def setFile (s : StoreState) (text : Option FileText) : StoreState := { s with file := text }

def setProfileLock (s : StoreState) (key : ProfileKey) (holder : Option Nat) : StoreState :=
  { s with profileLocks := Function.update s.profileLocks key holder }

def setDocumentLock (s : StoreState) (holder : Option Nat) : StoreState :=
  { s with documentLock := holder }

/-- The marker is written, and the call takes over what is stored. -/
def block (s : StoreState) (call : RunningCall) : StoreState :=
  { s.setRow call.key
      { s.rows call.key with blocked := true, last := some ⟨call.id, call.operation, none⟩ } with
    tokens := fun token =>
      if s.tokens token = .stored call.key then .held call.id else s.tokens token }

/-- The marker is removed, and what the call holds is stored. -/
def unblock (s : StoreState) (call : RunningCall) (saved : Option AuthProfile) : StoreState :=
  { s.setRow call.key
      { s.rows call.key with
        blocked := false
        last := (s.rows call.key).last.map fun transition =>
          if transition.call = call.id then { transition with removed := some saved }
          else transition } with
    tokens := fun token =>
      if s.tokens token = .held call.id then .stored call.key else s.tokens token }

def send (s : StoreState) (token : String) : StoreState :=
  { s with tokens := Function.update s.tokens token .sent, sent := s.sent ++ [token] }

def give (s : StoreState) (id : Nat) (token : String) : StoreState :=
  { s with tokens := Function.update s.tokens token (.held id) }

/-- The process is gone. -/
def release (s : StoreState) (pid : Nat) : StoreState :=
  { s with
    profileLocks := fun key => if s.profileLocks key = some pid then none else s.profileLocks key
    documentLock := if s.documentLock = some pid then none else s.documentLock }

end StoreState

/-! ## Operations -/

/-- The data of a response that gives out an access token. -/
def EndpointResponse.tokens (response : EndpointResponse) : Option TokenData :=
  response.accepted.filter fun data => (optionalText data.accessToken).isSome

/-- The operation answers. -/
def StoreOp.answered (call : RunningCall) :
    (o : StoreOp) → StoreState → o.Answer → StoreState → Prop
  | .file, s, _, s' => s' = s
  | .lockProfile, s, _, s' =>
      s.profileLocks call.key = none ∧ s' = s.setProfileLock call.key (some call.pid)
  | .unlockProfile, s, _, s' =>
      s' = if s.profileLocks call.key = some call.pid then s.setProfileLock call.key none else s
  | .lockDocument, s, _, s' =>
      s.documentLock = none ∧ s' = s.setDocumentLock (some call.pid)
  | .unlockDocument, s, _, s' =>
      s' = if s.documentLock = some call.pid then s.setDocumentLock none else s
  | .blockedExists, s, there, s' => there = (s.rows call.key).blocked ∧ s' = s
  | .replaceBlocked, s, _, s' => s' = s.block call
  | .unlinkBlocked saved, s, _, s' =>
      (s.rows call.key).blocked = true ∧ s' = s.unblock call saved
  | .getPassword, s, encoded, s' => encoded = (s.rows call.key).keyring ∧ s' = s
  | .setPassword profile, s, _, s' => s' = s.setKeyring call.key (some profile)
  | .deletePassword, s, _, s' => s' = s.setKeyring call.key none
  | .profileFileExists, s, there, s' => there = s.file.isSome ∧ s' = s
  | .readProfileFile, s, text, s' => s.file = some text ∧ s' = s
  | .replaceProfileFile profiles, s, _, s' => s' = s.setFile (some (.document profiles))
  | .unlinkProfileFile, s, _, s' => s.file ≠ none ∧ s' = s.setFile none
  | .request token, s, response, s' =>
      match EndpointResponse.tokens response with
      | none => s' = s.send token
      | some data => ∃ fresh, optionalText data.refreshToken = some fresh
          ∧ (s.send token).tokens fresh = .unknown ∧ s' = (s.send token).give call.id fresh

/-- The operation raises. -/
def StoreOp.raised (call : RunningCall) :
    StoreOp → StoreState → StoreError → StoreState → Prop
  | .unlinkBlocked _, s, e, s' =>
      s' = s ∧ (e = .notFound → (s.rows call.key).blocked = false)
  | .unlinkProfileFile, s, e, s' => s' = s ∧ (e = .notFound → s.file = none)
  | .setPassword profile, s, _, s' => s' = s ∨ s' = s.setKeyring call.key (some profile)
  | .deletePassword, s, _, s' => s' = s ∨ s' = s.setKeyring call.key none
  | .request token, s, _, s' => s' = s ∨ s' = s.send token
  | _, s, _, s' => s' = s

/-- The operation is performed. -/
def StoreOp.effect (call : RunningCall) (o : StoreOp) (s : StoreState) :
    Except StoreError o.Answer → StoreState → Prop
  | .ok answer, s' => o.answered call s answer s'
  | .error e, s' => o.raised call s e s'

/-! ## Steps -/

structure StoreTask where
  call : RunningCall
  rest : StoreM StoreOutcome

structure StoreWorld where
  store : StoreState
  running : Nat → Option StoreTask
  nextCall : Nat

/-- Nothing is stored and nothing runs. -/
def StoreWorld.initial : StoreWorld where
  store :=
    { rows := fun _ => ⟨false, none, none⟩
      file := none
      profileLocks := fun _ => none
      documentLock := none
      tokens := fun _ => .unknown
      sent := [] }
  running := fun _ => none
  nextCall := 0

def AuthProfile.token (profile : AuthProfile) : Option String :=
  optionalText profile.refreshToken

/-- The refresh token that a call comes with. -/
def StoreCall.token : StoreCall → Option String
  | save profile => profile.token
  | _ => none

/-- The profile is what the operation saves; a refresh saves what it was given. -/
def StoreCall.Saves (profile : AuthProfile) : StoreCall → Prop
  | save saved => saved = profile
  | refresh _ _ _ => True
  | _ => False

end TrackAnywhere.Ports
