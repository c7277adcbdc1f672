import TrackAnywhere.Ports.ProfileDiscipline

/-!
# The transitions of a profile

A save, a delete and a refresh first write the marker of their profile and remove it
last.  `Begun` is what holds in between: the call has the lock, the marker is its own,
and something is known of the keyring and of the profile file.  The lemmas of this module
follow the functions of the store from `Begun` to `Begun`; where one raises, less is known.
-/

namespace TrackAnywhere.Ports

open TrackAnywhere.Verified
open TrackAnywhere.Verified.Programs

variable {c : StoreConfig} {call : RunningCall} {quiet : Prop} {s s' : StoreState}
variable {α : Type} {P Q : StoreState → Prop}

/-! ## Assertions -/

/-- The call holds the token, when there is one. -/
def Holds (call : RunningCall) (token : Option String) (s : StoreState) : Prop :=
  ∀ text, token = some text → s.tokens text = .held call.id

/-- The call is between its marker and its end.  The keyring and the profile file are as
said. -/
structure Begun (call : RunningCall) (token : Option String)
    (keyring entry : Option AuthProfile → Prop) (s : StoreState) : Prop where
  owns : Owns call s
  blocked : (s.rows call.key).blocked = true
  last : ∃ transition, (s.rows call.key).last = some transition
    ∧ transition.call = call.id ∧ transition.operation = call.operation
  held : Holds call token s
  keyring : keyring (s.rows call.key).keyring
  entry : entry (s.entry call.key)

variable {token : Option String} {keyring entry : Option AuthProfile → Prop}

theorem Begun.mono {token : Option String} {keyring keyring' entry entry' :
    Option AuthProfile → Prop} (h : Begun call token keyring entry s)
    (hKeyring : ∀ value, keyring value → keyring' value)
    (hEntry : ∀ value, entry value → entry' value) : Begun call token keyring' entry' s :=
  { h with keyring := hKeyring _ h.keyring, entry := hEntry _ h.entry }

theorem Begun.setDocumentLock (h : Begun call token keyring entry s) (holder : Option Nat) :
    Begun call token keyring entry (s.setDocumentLock holder) :=
  ⟨⟨h.owns.lock, h.owns.writes⟩, h.blocked, h.last, h.held, h.keyring, h.entry⟩

theorem Begun.setFile {entry' : Option AuthProfile → Prop}
    (h : Begun call token keyring entry s) {text : Option FileText}
    (hEntry : entry' ((s.setFile text).entry call.key)) :
    Begun call token keyring entry' (s.setFile text) :=
  ⟨⟨h.owns.lock, h.owns.writes⟩, h.blocked, h.last, h.held, h.keyring, hEntry⟩

theorem Begun.setKeyring {keyring' : Option AuthProfile → Prop} {value : Option AuthProfile}
    (h : Begun call token keyring entry s) (hKeyring : keyring' value) :
    Begun call token keyring' entry (s.setKeyring call.key value) := by
  refine ⟨⟨h.owns.lock, h.owns.writes⟩, ?_, ?_, h.held, ?_, h.entry⟩
  · simpa [StoreState.setKeyring, StoreState.setRow] using h.blocked
  · simpa [StoreState.setKeyring, StoreState.setRow] using h.last
  · simpa [StoreState.setKeyring, StoreState.setRow] using hKeyring

/-! ## Files -/

variable {profile : AuthProfile}

end TrackAnywhere.Ports
