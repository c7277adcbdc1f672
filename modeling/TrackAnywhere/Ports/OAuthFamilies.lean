import TrackAnywhere.Ports.OAuthTokens
import TrackAnywhere.Verified.Run

/-!
# Refresh-token families under concurrency

`exchange_refresh` and `revoke` read the token, lock its family until the end
of their transaction, and read the token again; `exchange_code` locks the row
of its code with the query that reads it.  Every read sees what has been
committed by then, and what a request writes is seen once it commits.

A step of the system is one of these stages of one request, the end of a
request that is rolled back, or a transaction of another part of the service.
-/

namespace TrackAnywhere.Ports

open TrackAnywhere.Verified
open TrackAnywhere.Verified.Checked

/-! ## Requests in progress -/

/-- A request on the family of a token. -/
inductive FamilyRequest
  | refresh (publicBaseUrl : String) (command : OAuthRefreshTokenCommand)
  | revoke (token : String) (clientId : Option String)

/-- How far a request has come, with what it has read and written. -/
inductive TokenPhase
  | idle
  | located (request : FamilyRequest) (candidate : CredentialRecord)
  | locked (request : FamilyRequest) (candidate : CredentialRecord)
  | flushed (request : FamilyRequest) (candidate : CredentialRecord)
      (record : Option CredentialRecord) (issued : Option TokenPair) (writes : List AuthWrite)
  | codeLocked (publicBaseUrl : String) (command : OAuthAuthorizationCodeTokenCommand)
      (grant : Option OAuthAuthorizationGrantRecord)
  | codeFlushed (grant : Option OAuthAuthorizationGrantRecord) (issued : Option TokenPair)
      (writes : List AuthWrite)

namespace TokenPhase

/-- The family whose advisory lock the request holds. -/
def family? : TokenPhase → Option UUID
  | .locked _ candidate => candidate.refreshFamilyId
  | .flushed _ candidate _ _ _ => candidate.refreshFamilyId
  | _ => none

/-- The code whose row the request has locked. -/
def code? : TokenPhase → Option SecretHash
  | .codeLocked _ _ grant => grant.map (·.codeHash)
  | .codeFlushed grant _ _ => grant.map (·.codeHash)
  | _ => none

/-- The rows that the request has written and not committed. -/
def writes : TokenPhase → List AuthWrite
  | .flushed _ _ _ _ writes => writes
  | .codeFlushed _ _ writes => writes
  | _ => []

end TokenPhase

inductive TokenSource
  | code (codeHash : SecretHash)
  | refresh (tokenHash : SecretHash)
deriving DecidableEq

/-- What a committed request leaves on record: the tokens it gave, and the
token it was about, as it was found and as it was read under the lock. -/
inductive TokenEvent
  | issued (source : TokenSource) (pair : TokenPair)
  | refreshed (candidate : CredentialRecord) (record : Option CredentialRecord)
  | revoked (clientId : Option String) (found : Option CredentialRecord)

/-- The events of a request that commits. -/
def TokenPhase.events : TokenPhase → List TokenEvent
  | .flushed (.refresh _ _) candidate record issued _ =>
      .refreshed candidate record
        :: issued.toList.map (.issued (.refresh candidate.tokenHash))
  | .flushed (.revoke _ clientId) candidate _ _ _ => [.revoked clientId (some candidate)]
  | .codeFlushed grant issued _ =>
      match grant with
      | some grant => issued.toList.map (.issued (.code grant.codeHash))
      | none => []
  | _ => []

structure TokenSystem where
  tables : AuthTables
  /-- the family identifiers drawn so far -/
  families : List UUID
  phase : Nat → TokenPhase

/-- A request moves on. -/
def TokenSystem.moved (s : TokenSystem) (id : Nat) (phase : TokenPhase) : TokenSystem :=
  { s with phase := fun other => if other = id then phase else s.phase other }

/-! ## Other transactions -/

/-- What the rest of the service writes: codes that are approved, credentials
outside any family, pairs for device grants in new families, and revocations
of single credentials. -/
inductive OtherWrites (families : List UUID) : List AuthWrite → List UUID → Prop
  | codeApproved (grant : OAuthAuthorizationGrantRecord) (hUnused : grant.usedAt = none) :
      OtherWrites families [.addGrant grant] families
  | credentialAdded (record : CredentialRecord) (hOutside : record.refreshFamilyId = none) :
      OtherWrites families [.addCredential record] families
  | deviceExchanged (pair : TokenPair) (familyId : UUID) (hFresh : familyId ∉ families)
      (hAccess : pair.access.refreshFamilyId = some familyId
        ∧ pair.access.authKind = .device)
      (hRefresh : pair.refresh.refreshFamilyId = some familyId) :
      OtherWrites families pair.writes (familyId :: families)
  | credentialRevoked (tokenHash : SecretHash) (revokedAt : Moment) :
      OtherWrites families [.revoke tokenHash revokedAt] families

/-! ## Steps -/

/-- One stage of a request, or another transaction, with the events on record. -/
inductive TokenStep (server : OAuthServer) :
    TokenSystem → List TokenEvent → TokenSystem → Prop
  | refreshLocates {s : TokenSystem} {id : Nat} {base : String}
      {command : OAuthRefreshTokenCommand} {candidate : CredentialRecord} {familyId : UUID}
      (hIdle : s.phase id = .idle)
      (hFound : locateRefreshFamily server base s.tables command
        = .ok (candidate, familyId)) :
      TokenStep server s [] (s.moved id (.located (.refresh base command) candidate))
  | refreshRefused {s : TokenSystem} {base : String} {command : OAuthRefreshTokenCommand}
      {failure : AuthFailure}
      (hFailed : locateRefreshFamily server base s.tables command = .error failure) :
      TokenStep server s [] s
  | revokeLocates {s : TokenSystem} {id : Nat} {token : String} {clientId : Option String}
      {candidate : CredentialRecord} (hIdle : s.phase id = .idle)
      (hFound : locateRevoked s.tables (server.secretDigest token) clientId
        = some candidate) :
      TokenStep server s [] (s.moved id (.located (.revoke token clientId) candidate))
  | revokeIgnored {s : TokenSystem} {token : String} {clientId : Option String}
      (hNone : locateRevoked s.tables (server.secretDigest token) clientId = none) :
      TokenStep server s
        [.revoked clientId (s.tables.credential? (server.secretDigest token))] s
  | locks {s : TokenSystem} {id : Nat} {request : FamilyRequest}
      {candidate : CredentialRecord} (hPhase : s.phase id = .located request candidate)
      (hFree : ∀ other held familyId, (s.phase other).family? = some held →
        candidate.refreshFamilyId = some familyId →
          server.refreshFamilyLockKey held ≠ server.refreshFamilyLockKey familyId) :
      TokenStep server s [] (s.moved id (.locked request candidate))
  | refreshWorks {s : TokenSystem} {id : Nat} {base : String}
      {command : OAuthRefreshTokenCommand} {candidate : CredentialRecord} {familyId : UUID}
      (now : Moment) (drawn : DrawnPair)
      (hPhase : s.phase id = .locked (.refresh base command) candidate)
      (hFamily : candidate.refreshFamilyId = some familyId) :
      TokenStep server s [] (s.moved id (.flushed (.refresh base command) candidate
        (s.tables.credential? (server.secretDigest command.refreshToken))
        (exchangeLockedRefresh server base s.tables familyId command now drawn).result.toOption
        (exchangeLockedRefresh server base s.tables familyId command now drawn).writes))
  | revokeWorks {s : TokenSystem} {id : Nat} {token : String} {clientId : Option String}
      {candidate : CredentialRecord} (now : Moment)
      (hPhase : s.phase id = .locked (.revoke token clientId) candidate) :
      TokenStep server s [] (s.moved id (.flushed (.revoke token clientId) candidate
        (s.tables.credential? (server.secretDigest token)) none
        (revokeLocked s.tables (server.secretDigest token) clientId
          candidate.refreshFamilyId now)))
  | codeLocks {s : TokenSystem} {id : Nat} {base : String}
      {command : OAuthAuthorizationCodeTokenCommand} (hIdle : s.phase id = .idle)
      (hResource : requireOauthResource server base command.resource = .ok ())
      (hFree : ∀ other codeHash, (s.phase other).code? = some codeHash →
        codeHash ≠ server.secretDigest command.code) :
      TokenStep server s [] (s.moved id (.codeLocked base command
        (s.tables.grant? (server.secretDigest command.code))))
  | codeWorks {s : TokenSystem} {id : Nat} {base : String}
      {command : OAuthAuthorizationCodeTokenCommand}
      {grant : Option OAuthAuthorizationGrantRecord} (now : Moment) (drawn : DrawnPair)
      (hPhase : s.phase id = .codeLocked base command grant)
      (hFresh : drawn.familyId ∉ s.families) :
      TokenStep server s [] { s.moved id (.codeFlushed grant
          (exchangeLockedCode server base s.tables grant command now drawn).result.toOption
          (exchangeLockedCode server base s.tables grant command now drawn).writes) with
        families := drawn.familyId :: s.families }
  | commits {s : TokenSystem} {id : Nat} {t' : AuthTables}
      (hWrites : s.tables.writeAll (s.phase id).writes = .ok t') :
      TokenStep server s (s.phase id).events { s.moved id .idle with tables := t' }
  | rollsBack {s : TokenSystem} (id : Nat) : TokenStep server s [] (s.moved id .idle)
  | elsewhere {s : TokenSystem} {writes : List AuthWrite} {families : List UUID}
      {t' : AuthTables} (hOther : OtherWrites s.families writes families)
      (hWrites : s.tables.writeAll writes = .ok t') :
      TokenStep server s [] { s with tables := t', families := families }
  | accountsChange {s : TokenSystem} (users : List UserRecord)
      (clients : List OAuthClientRecord) :
      TokenStep server s []
        { s with tables := { s.tables with users := users, clients := clients } }

/-- A system before any grant and any token of a family. -/
structure TokenSystem.Opened (s : TokenSystem) : Prop where
  grants : s.tables.grants = []
  deviceGrants : s.tables.deviceGrants = []
  keys : (s.tables.credentials.map (·.tokenHash)).Nodup
  outside : ∀ r ∈ s.tables.credentials, r.refreshFamilyId = none
  idle : ∀ id, s.phase id = .idle

/-! ## What is on record -/

/-- The events of a run. -/
def tokenEvents (trace : List (List TokenEvent)) : List TokenEvent := trace.flatten

/-- The pairs given for a code or for a refresh token. -/
def issueCount (events : List TokenEvent) (source : TokenSource) : Nat :=
  events.countP fun event =>
    match event with
    | .issued other _ => other = source
    | _ => false

/-- A request that must end the family: a refresh whose token was revoked when
it was found or when it was read again, or a revocation by the token's own
client, or by none. -/
def TokenEvent.Closes (familyId : UUID) : TokenEvent → Prop
  | .issued _ _ => False
  | .refreshed candidate record => candidate.refreshFamilyId = some familyId
      ∧ (candidate.revokedAt ≠ none ∨ ∃ r ∈ record, r.revokedAt ≠ none)
  | .revoked clientId found => ∃ r ∈ found, r.refreshFamilyId = some familyId
      ∧ ∀ id ∈ clientId, r.oauthClientId = some id

def Closed (events : List TokenEvent) (familyId : UUID) : Prop :=
  ∃ event ∈ events, event.Closes familyId

/-- An unrevoked refresh token of the family. -/
def CredentialRecord.LiveIn (familyId : UUID) (r : CredentialRecord) : Prop :=
  r.refreshFamilyId = some familyId ∧ r.authKind = .refreshToken ∧ r.revokedAt = none

instance (familyId : UUID) (r : CredentialRecord) : Decidable (r.LiveIn familyId) :=
  inferInstanceAs (Decidable (_ ∧ _))

def liveTokens (t : AuthTables) (familyId : UUID) : List CredentialRecord :=
  t.credentials.filter fun r => r.LiveIn familyId

end TrackAnywhere.Ports
