import TrackAnywhere.Ports.ProfileStoreRuns

/-!
# What the profile store owes

An operation that changes what is stored of a profile is performed under the lock of the
profile and while its marker is set.  The marker is removed only by the call that wrote
it, and only where what is stored is what that call accounts for.  `StoreOp.Allowed` says
so for each operation, and `Rely` what a call may count on between two of its own.

`StoreInv` is what holds in every state: where no marker stands, the last operation that
wrote one accounts for what is stored, and a stored refresh token was not sent.
-/

namespace TrackAnywhere.Ports

open TrackAnywhere.Verified
open TrackAnywhere.Verified.Programs

/-! ## The invariant -/

/-- What a load finds where it does not raise. -/
def StoreState.visible (c : StoreConfig) (s : StoreState) (key : ProfileKey) :
    Option AuthProfile :=
  if c.usesKeyring then (s.rows key).keyring.or (s.entry key) else s.entry key

/-- What an operation leaves stored: a profile that it saves, or none for a delete. -/
def StoreCall.Leaves (operation : StoreCall) : Option AuthProfile → Prop
  | some saved => operation.Saves saved
  | none => operation = .delete

/-- The call holds the lock of its profile, and is not a load. -/
structure Owns (call : RunningCall) (s : StoreState) : Prop where
  lock : s.profileLocks call.key = some call.pid
  writes : call.operation ≠ .load

/-- The call may change the document, to the given one. -/
structure OwnsDocument (call : RunningCall) (s : StoreState)
    (after : ProfileKey → Option AuthProfile) : Prop where
  owns : Owns call s
  blocked : (s.rows call.key).blocked = true
  lock : s.documentLock = some call.pid
  others : ∀ key, key ≠ call.key → after key = s.entry key

/-- The call may remove its marker over what is stored. -/
structure Accounts (c : StoreConfig) (call : RunningCall) (saved : Option AuthProfile)
    (s : StoreState) : Prop where
  owns : Owns call s
  last : ∃ transition, (s.rows call.key).last = some transition
    ∧ transition.call = call.id ∧ transition.operation = call.operation
  visible : s.visible c call.key = saved
  leaves : call.operation.Leaves saved
  held : ∀ profile, saved = some profile → ∀ token, profile.token = some token →
    s.tokens token = .held call.id

/-- What an operation that is allowed can do to the state. -/
inductive StoreChange (c : StoreConfig) (call : RunningCall) (s : StoreState) :
    StoreState → Prop
  | same : StoreChange c call s s
  | lockProfile (hFree : s.profileLocks call.key = none) :
      StoreChange c call s (s.setProfileLock call.key (some call.pid))
  | unlockProfile (hHeld : s.profileLocks call.key = some call.pid) :
      StoreChange c call s (s.setProfileLock call.key none)
  | lockDocument (hFree : s.documentLock = none) :
      StoreChange c call s (s.setDocumentLock (some call.pid))
  | unlockDocument (hHeld : s.documentLock = some call.pid) :
      StoreChange c call s (s.setDocumentLock none)
  | block (hOwns : Owns call s) : StoreChange c call s (s.block call)
  | unblock {saved : Option AuthProfile} (hAccounts : Accounts c call saved s) :
      StoreChange c call s (s.unblock call saved)
  | keyring (value : Option AuthProfile) (hOwns : Owns call s)
      (hBlocked : (s.rows call.key).blocked = true) :
      StoreChange c call s (s.setKeyring call.key value)
  | replaceFile {profiles : Profiles} (hOwns : OwnsDocument call s fun key => profiles.lookup key) :
      StoreChange c call s (s.setFile (some (.document profiles)))
  | unlinkFile (hOwns : OwnsDocument call s fun _ => none) :
      StoreChange c call s (s.setFile none)
  | send {token : String} (hHeld : s.tokens token = .held call.id) :
      StoreChange c call s (s.send token)
  | exchange {token fresh : String} (hHeld : s.tokens token = .held call.id)
      (hFresh : (s.send token).tokens fresh = .unknown) :
      StoreChange c call s ((s.send token).give call.id fresh)

variable {c : StoreConfig} {call other : RunningCall} {o : StoreOp} {s s' : StoreState}

/-- A token that is elsewhere stays where it is when one is sent. -/
theorem send_other {sent token : String} (hHeld : s.tokens sent = .held call.id)
    (hElsewhere : s.tokens token ≠ .held call.id) :
    (s.send sent).tokens token = s.tokens token := by
  have hNe : token ≠ sent := fun h => hElsewhere (h ▸ hHeld)
  exact Function.update_of_ne hNe _ _

theorem exchange_other {sent fresh token : String} (hHeld : s.tokens sent = .held call.id)
    (hFresh : (s.send sent).tokens fresh = .unknown)
    (hElsewhere : s.tokens token ≠ .held call.id) (hKnown : s.tokens token ≠ .unknown) :
    ((s.send sent).give call.id fresh).tokens token = s.tokens token := by
  have hSame := send_other hHeld hElsewhere
  have hNe : token ≠ fresh := by
    rintro rfl
    exact hKnown (hSame ▸ hFresh)
  exact (Function.update_of_ne hNe _ _).trans hSame

/-! ## What a change leaves alone -/

/-- The row and the entry of a key are as they were. -/
structure ProfileKept (key : ProfileKey) (s s' : StoreState) : Prop where
  row : s'.rows key = s.rows key
  entry : s'.entry key = s.entry key

theorem ProfileKept.refl {key : ProfileKey} (s : StoreState) : ProfileKept key s s :=
  ⟨rfl, rfl⟩

theorem ProfileKept.trans {key : ProfileKey} {r s t : StoreState} (h : ProfileKept key r s)
    (h' : ProfileKept key s t) : ProfileKept key r t :=
  ⟨h'.row.trans h.row, h'.entry.trans h.entry⟩

theorem ProfileKept.visible {key : ProfileKey} (h : ProfileKept key s s') :
    s'.visible c key = s.visible c key := by
  rw [StoreState.visible, StoreState.visible, h.row, h.entry]

/-- After a change to the profile of the call either its marker stands or the call has
removed it over what it accounts for. -/
theorem StoreChange.own (hChange : StoreChange c call s s') :
    ProfileKept call.key s s' ∧ (∀ token, s.tokens token = .stored call.key →
        s'.tokens token = .stored call.key)
      ∨ (s'.rows call.key).blocked = true
      ∨ ∃ saved, Accounts c call saved s ∧ s' = s.unblock call saved := by
  cases hChange with
  | block hOwns => exact .inr (.inl (by simp [StoreState.block, StoreState.setRow]))
  | unblock hAccounts => exact .inr (.inr ⟨_, hAccounts, rfl⟩)
  | keyring value hOwns hBlocked =>
      exact .inr (.inl (by simp [StoreState.setKeyring, StoreState.setRow, hBlocked]))
  | replaceFile hOwns => exact .inr (.inl hOwns.blocked)
  | unlinkFile hOwns => exact .inr (.inl hOwns.blocked)
  | send hHeld =>
      refine .inl ⟨⟨rfl, rfl⟩, fun token hStored => ?_⟩
      rw [send_other hHeld (by simp [hStored])]
      exact hStored
  | exchange hHeld hFresh =>
      refine .inl ⟨⟨rfl, rfl⟩, fun token hStored => ?_⟩
      rw [exchange_other hHeld hFresh (by simp [hStored]) (by simp [hStored])]
      exact hStored
  | _ => exact .inl ⟨⟨rfl, rfl⟩, fun _ hStored => hStored⟩

/-- What a call counts on between two of its operations.  Nothing stored of its profile
changes while it holds the lock, nor in a stretch of the run that is quiet for it. -/
structure Rely (call : RunningCall) (quiet : Prop) (s s' : StoreState) : Prop where
  lock : s'.profileLocks call.key = some call.pid ↔ s.profileLocks call.key = some call.pid
  document : s.documentLock = some call.pid → s'.documentLock = some call.pid
  still : quiet ∨ s.profileLocks call.key = some call.pid → ProfileKept call.key s s'
  file : s.documentLock = some call.pid → s'.file = s.file
  held : ∀ token, s.tokens token = .held call.id → s'.tokens token = .held call.id

theorem Rely.refl (call : RunningCall) (quiet : Prop) (s : StoreState) :
    Rely call quiet s s :=
  ⟨Iff.rfl, id, fun _ => .refl s, fun _ => rfl, fun _ => id⟩

theorem Rely.trans {quiet : Prop} {r s t : StoreState} (h : Rely call quiet r s)
    (h' : Rely call quiet s t) : Rely call quiet r t where
  lock := h'.lock.trans h.lock
  document hLock := h'.document (h.document hLock)
  still hStill := (h.still hStill).trans (h'.still (hStill.imp_right h.lock.2))
  file hLock := (h'.file (h.document hLock)).trans (h.file hLock)
  held token hHeld := h'.held token (h.held token hHeld)

/-- Locks of one process are not touched by another. -/
theorem StoreChange.locks (hChange : StoreChange c call s s') (hPid : other.pid ≠ call.pid)
    (key : ProfileKey) :
    (s'.profileLocks key = some other.pid ↔ s.profileLocks key = some other.pid)
      ∧ (s.documentLock = some other.pid → s'.documentLock = some other.pid) := by
  cases hChange with
  | lockProfile hFree =>
      refine ⟨?_, id⟩
      by_cases hKey : key = call.key
      · subst hKey
        simp [StoreState.setProfileLock, hFree, Ne.symm hPid]
      · simp [StoreState.setProfileLock, Function.update_of_ne hKey]
  | unlockProfile hHeld =>
      refine ⟨?_, id⟩
      by_cases hKey : key = call.key
      · subst hKey
        simp [StoreState.setProfileLock, hHeld, Ne.symm hPid]
      · simp [StoreState.setProfileLock, Function.update_of_ne hKey]
  | lockDocument hFree =>
      refine ⟨Iff.rfl, fun hLock => ?_⟩
      rw [hFree] at hLock
      cases hLock
  | unlockDocument hHeld =>
      refine ⟨Iff.rfl, fun hLock => ?_⟩
      rw [hHeld] at hLock
      exact absurd (Option.some.inj hLock).symm hPid
  | _ => exact ⟨Iff.rfl, id⟩

/-- The file stays as it is under the lock of another process. -/
theorem StoreChange.file (hChange : StoreChange c call s s') (hPid : other.pid ≠ call.pid)
    (hLock : s.documentLock = some other.pid) : s'.file = s.file := by
  have hNot : s.documentLock ≠ some call.pid := by
    rw [hLock]
    exact fun h => hPid (Option.some.inj h)
  cases hChange with
  | replaceFile hOwns => exact absurd hOwns.lock hNot
  | unlinkFile hOwns => exact absurd hOwns.lock hNot
  | _ => rfl

end TrackAnywhere.Ports
