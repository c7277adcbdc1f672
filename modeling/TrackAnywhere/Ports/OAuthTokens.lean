import TrackAnywhere.Ports.EntryContracts
import TrackAnywhere.Verified.Checked

/-!
# OAuth grants and tokens

The tables behind the authorization server, and what each request reads,
checks and writes.  A request is a function of the tables it reads: it gives
its answer, and the rows it has written by then, an error answer included.

Hashes and the reading of URLs are given by the server; the secrets and the
identifiers that a request draws are given with it.
-/

namespace TrackAnywhere.Ports

open TrackAnywhere.Verified
open TrackAnywhere.Verified.Checked

/-! ## Rows -/

/-- The raw bytes of a digest. -/
abbrev SecretHash := List UInt8

inductive AuthKind
  | apiKey
  | pkce
  | device
  | oauthRefresh
  | refreshToken
  | browserSession
deriving DecidableEq

inductive DeviceStatus
  | pending
  | approved
  | denied
  | consumed
  | expired
deriving DecidableEq

structure UserRecord where
  userId : String
  subjectType : String
  active : Bool

/-- `oauth_clients` -/
structure OAuthClientRecord where
  clientId : String
  clientName : String
  scopes : List String
  active : Bool

/-- `oauth_client_redirect_uris` -/
structure OAuthClientRedirectUriRecord where
  clientId : String
  redirectUri : String
  active : Bool

/-- `oauth_authorization_grants` -/
structure OAuthAuthorizationGrantRecord where
  codeHash : SecretHash
  clientId : String
  redirectUri : String
  registeredRedirectUri : String
  actorSubjectId : String
  scopes : List String
  codeChallenge : String
  resource : Option String
  createdAt : Moment
  expiresAt : Moment
  usedAt : Option Moment
  revokedAt : Option Moment

/-- `oauth_device_grants` -/
structure OAuthDeviceGrantRecord where
  deviceCodeHash : SecretHash
  userCodeHash : SecretHash
  clientId : String
  scopes : List String
  resource : Option String
  status : DeviceStatus
  createdAt : Moment
  expiresAt : Moment
  intervalSeconds : Nat
  lastPollAt : Option Moment
  pollCount : Nat
  approvedActorSubjectId : Option String
  approvedAt : Option Moment
  consumedAt : Option Moment

/-- `credentials` -/
structure CredentialRecord where
  credentialId : UUID
  tokenHash : SecretHash
  jti : UUID
  actorSubjectId : String
  actorType : String
  authKind : AuthKind
  bookId : Option UUID
  oauthClientId : Option String
  resource : Option String
  refreshFamilyId : Option UUID
  scopes : List String
  issuedAt : Moment
  expiresAt : Moment
  revokedAt : Option Moment
deriving DecidableEq

structure AuthTables where
  users : List UserRecord
  clients : List OAuthClientRecord
  redirectUris : List OAuthClientRedirectUriRecord
  grants : List OAuthAuthorizationGrantRecord
  deviceGrants : List OAuthDeviceGrantRecord
  credentials : List CredentialRecord

def AuthTables.user? (t : AuthTables) (userId : String) : Option UserRecord :=
  t.users.find? fun user => user.userId = userId

def AuthTables.client? (t : AuthTables) (clientId : String) : Option OAuthClientRecord :=
  t.clients.find? fun client => client.clientId = clientId

def AuthTables.grant? (t : AuthTables) (codeHash : SecretHash) :
    Option OAuthAuthorizationGrantRecord :=
  t.grants.find? fun grant => grant.codeHash = codeHash

def AuthTables.credential? (t : AuthTables) (tokenHash : SecretHash) :
    Option CredentialRecord :=
  t.credentials.find? fun record => record.tokenHash = tokenHash

/-! ## Writes -/

/-- One row that a request writes. -/
inductive AuthWrite
  | addClient (client : OAuthClientRecord) (redirectUris : List OAuthClientRedirectUriRecord)
  | addGrant (grant : OAuthAuthorizationGrantRecord)
  | useGrant (codeHash : SecretHash) (usedAt : Moment)
  | addDeviceGrant (grant : OAuthDeviceGrantRecord)
  | setDeviceGrant (grant : OAuthDeviceGrantRecord)
  | addCredential (record : CredentialRecord)
  | revoke (tokenHash : SecretHash) (revokedAt : Moment)

def CredentialRecord.revokedBy (tokenHash : SecretHash) (revokedAt : Moment)
    (record : CredentialRecord) : CredentialRecord :=
  if record.tokenHash = tokenHash then { record with revokedAt := some revokedAt } else record

def OAuthAuthorizationGrantRecord.usedBy (codeHash : SecretHash) (usedAt : Moment)
    (grant : OAuthAuthorizationGrantRecord) : OAuthAuthorizationGrantRecord :=
  if grant.codeHash = codeHash then { grant with usedAt := some usedAt } else grant

/-- The statement behind a write, with the keys that the table checks. -/
def AuthTables.write (t : AuthTables) : AuthWrite → Except String AuthTables
  | .addClient client redirectUris => do
      require (client.clientId ∉ t.clients.map (·.clientId)) "pk_oauth_clients"
      pure { t with
        clients := t.clients ++ [client]
        redirectUris := t.redirectUris ++ redirectUris }
  | .addGrant grant => do
      require (grant.codeHash ∉ t.grants.map (·.codeHash)) "pk_oauth_authorization_grants"
      pure { t with grants := t.grants ++ [grant] }
  | .useGrant codeHash usedAt =>
      pure { t with
        grants := t.grants.map (·.usedBy codeHash usedAt) }
  | .addDeviceGrant grant => do
      require (grant.deviceCodeHash ∉ t.deviceGrants.map (·.deviceCodeHash))
        "pk_oauth_device_grants"
      require (grant.userCodeHash ∉ t.deviceGrants.map (·.userCodeHash))
        "uq_oauth_device_user_code_hash"
      pure { t with deviceGrants := t.deviceGrants ++ [grant] }
  | .setDeviceGrant grant =>
      pure { t with
        deviceGrants := t.deviceGrants.map fun row =>
          if row.deviceCodeHash = grant.deviceCodeHash then grant else row }
  | .addCredential record => do
      require (record.tokenHash ∉ t.credentials.map (·.tokenHash)) "uq_credentials_token_hash"
      pure { t with credentials := t.credentials ++ [record] }
  | .revoke tokenHash revokedAt =>
      pure { t with credentials := t.credentials.map (·.revokedBy tokenHash revokedAt) }

def AuthTables.writeAll (t : AuthTables) (writes : List AuthWrite) :
    Except String AuthTables :=
  writes.foldlM AuthTables.write t

/-! ## Checks -/

/-- How a request fails: `AuthPolicyDenied`, `AuthSecurityError` and
`OAuthFlowError`.  The unknown scopes of a message are kept as a list. -/
inductive AuthFailure
  | policyDenied (detail : String)
  | security (detail : String)
  | unknownScopes (unknown : List String)
  | flow (error description : String) (interval : Option Nat)
deriving DecidableEq

/-- What the server computes with hashes and URLs. -/
structure OAuthServer where
  secretDigest : String → SecretHash
  pkceChallenge : String → String
  /-- `allowed_oauth_resources` of a public base URL -/
  allowedOauthResources : String → List String
  /-- `urlparse(resource).path.rstrip("/") == "/mcp"` -/
  mcpResource : String → Bool
  validRedirectUri : String → Bool
  redirectUriMatches : String → String → Bool
  refreshFamilyLockKey : UUID → Int

def AGENT_ALLOWED_SCOPES : List String :=
  ["book:read", "book:write", "ledger:read", "ledger:write"]

/-- `str.split` -/
def splitScopes (scope : String) : List String :=
  ((scope.toList.splitOnP isPythonSpace).filter (· ≠ [])).map String.ofList

/-- A write scope comes with the read scope of the same kind. -/
def PairedScopes (scopes : List String) : Prop :=
  ("book:write" ∈ scopes → "book:read" ∈ scopes)
    ∧ ("ledger:write" ∈ scopes → "ledger:read" ∈ scopes)

instance (scopes : List String) : Decidable (PairedScopes scopes) :=
  inferInstanceAs (Decidable (_ ∧ _))

def parseRequestedScopes (scope : String) : Except AuthFailure (List String) := do
  let scopes := (splitScopes scope).eraseDups
  require (scopes ≠ []) (.security "at least one OAuth scope is required")
  require (∀ name ∈ scopes, name ∈ AGENT_ALLOWED_SCOPES)
    (.unknownScopes (scopes.filter (· ∉ AGENT_ALLOWED_SCOPES)))
  require ("book:write" ∈ scopes → "book:read" ∈ scopes)
    (.security "book:write requires its matching read scope book:read")
  require ("ledger:write" ∈ scopes → "ledger:read" ∈ scopes)
    (.security "ledger:write requires its matching read scope ledger:read")
  pure scopes

def requireScopeSubset (requested available : List String) : Except AuthFailure Unit :=
  require (requested ⊆ available) (.policyDenied "requested OAuth scope is not available")

/-- `require_scope_subset`, where its refusal is answered as an OAuth error. -/
def requireScopeSubsetFlow (requested available : List String) : Except AuthFailure Unit :=
  require (requested ⊆ available)
    (.flow "invalid_scope" "requested OAuth scope is not available" none)

def requireOauthResource (server : OAuthServer) (publicBaseUrl resource : String) :
    Except AuthFailure Unit :=
  require (resource ∈ server.allowedOauthResources publicBaseUrl)
    (.security "resource is not served by this authorization server")

def requireResourceScopeFloor (server : OAuthServer) (resource : Option String)
    (scopes : List String) : Except AuthFailure Unit :=
  require (∀ r ∈ resource, server.mcpResource r → "ledger:read" ∈ scopes)
    (.policyDenied "ledger:read is required for MCP access")

/-! ## Issuing tokens -/

/-- What a request draws for a pair of tokens. -/
structure DrawnPair where
  familyId : UUID
  accessToken : String
  refreshToken : String
  accessCredentialId : UUID
  accessJti : UUID
  refreshCredentialId : UUID
  refreshJti : UUID

structure TokenResponse where
  accessToken : String
  tokenType : String
  expiresIn : Nat
  refreshToken : String
  refreshTokenExpiresIn : Nat
  scope : List String
  resource : String

structure TokenPair where
  access : CredentialRecord
  refresh : CredentialRecord
  response : TokenResponse

def TokenPair.writes (pair : TokenPair) : List AuthWrite :=
  [.addCredential pair.access, .addCredential pair.refresh]

def ACCESS_TOKEN_TTL : Nat := 3600

def REFRESH_TOKEN_TTL : Nat := 2592000

/-- `issue_token_pair`, but for the rows it adds to the session. -/
def issueTokenPair (server : OAuthServer) (publicBaseUrl : String) (t : AuthTables)
    (actorSubjectId : String) (scopes : List String) (authKind : AuthKind)
    (clientId resource : String) (issuedAt : Moment) (refreshFamilyId : Option UUID)
    (drawn : DrawnPair) : Except AuthFailure TokenPair := do
  requireOauthResource server publicBaseUrl resource
  let user ← fetch ((t.user? actorSubjectId).filter (·.active))
    (.flow "invalid_grant" "authorization subject is unavailable" none)
  let client ← fetch ((t.client? clientId).filter (·.active))
    (.flow "invalid_grant" "authorization subject is unavailable" none)
  requireScopeSubsetFlow scopes client.scopes
  let record : CredentialRecord :=
    { credentialId := drawn.accessCredentialId
      tokenHash := server.secretDigest drawn.accessToken
      jti := drawn.accessJti
      actorSubjectId := user.userId
      actorType := user.subjectType
      authKind := authKind
      bookId := none
      oauthClientId := some client.clientId
      resource := some resource
      refreshFamilyId := some (refreshFamilyId.getD drawn.familyId)
      scopes := scopes
      issuedAt := issuedAt
      expiresAt := issuedAt + ACCESS_TOKEN_TTL * 1000000
      revokedAt := none }
  pure
    { access := record
      refresh := { record with
        credentialId := drawn.refreshCredentialId
        tokenHash := server.secretDigest drawn.refreshToken
        jti := drawn.refreshJti
        authKind := .refreshToken
        expiresAt := issuedAt + REFRESH_TOKEN_TTL * 1000000 }
      response := ⟨drawn.accessToken, "Bearer", ACCESS_TOKEN_TTL, drawn.refreshToken,
        REFRESH_TOKEN_TTL, scopes, resource⟩ }

/-- The rows of a pair that was issued. -/
def issuedWrites : Except AuthFailure TokenPair → List AuthWrite
  | .ok pair => pair.writes
  | .error _ => []

/-- The answer of a request, and the rows it has written by then. -/
structure Answered (α : Type) where
  result : Except AuthFailure α
  writes : List AuthWrite

/-! ## Exchanging a code -/

structure OAuthAuthorizationCodeTokenCommand where
  code : String
  clientId : String
  redirectUri : String
  codeVerifier : String
  resource : String

/-- The conditions under which a code is accepted. -/
def OAuthAuthorizationGrantRecord.acceptedFor (grant : OAuthAuthorizationGrantRecord)
    (server : OAuthServer) (command : OAuthAuthorizationCodeTokenCommand) (now : Moment) :
    Prop :=
  grant.usedAt = none ∧ grant.revokedAt = none ∧ now < grant.expiresAt
    ∧ grant.clientId = command.clientId ∧ grant.redirectUri = command.redirectUri
    ∧ grant.resource = some command.resource
    ∧ grant.codeChallenge = server.pkceChallenge command.codeVerifier

instance (grant : OAuthAuthorizationGrantRecord) (server : OAuthServer)
    (command : OAuthAuthorizationCodeTokenCommand) (now : Moment) :
    Decidable (grant.acceptedFor server command now) :=
  inferInstanceAs (Decidable (_ ∧ _))

/-- `exchange_code` from the row that its query locked. -/
def exchangeLockedCode (server : OAuthServer) (publicBaseUrl : String) (t : AuthTables)
    (grant : Option OAuthAuthorizationGrantRecord)
    (command : OAuthAuthorizationCodeTokenCommand) (now : Moment) (drawn : DrawnPair) :
    Answered TokenPair :=
  match grant.filter fun grant => grant.acceptedFor server command now with
  | none => ⟨.error (.flow "invalid_grant" "authorization code is invalid" none), []⟩
  | some grant =>
      let issued := issueTokenPair server publicBaseUrl t grant.actorSubjectId grant.scopes
        .pkce grant.clientId command.resource now none drawn
      ⟨issued, .useGrant grant.codeHash now :: issuedWrites issued⟩

/-! ## Rotating a refresh token -/

structure OAuthRefreshTokenCommand where
  refreshToken : String
  clientId : String
  resource : String
  scope : Option String

def requireRefreshRecord (t : AuthTables) (tokenHash : SecretHash)
    (command : OAuthRefreshTokenCommand) (expectedFamilyId : Option UUID) :
    Except AuthFailure CredentialRecord := do
  let invalid := AuthFailure.flow "invalid_grant" "refresh token is invalid" none
  let record ← fetch (t.credential? tokenHash) invalid
  require (record.authKind = .refreshToken ∧ record.oauthClientId = some command.clientId
    ∧ record.resource = some command.resource ∧ record.refreshFamilyId ≠ none
    ∧ ∀ expected ∈ expectedFamilyId, record.refreshFamilyId = some expected) invalid
  pure record

/-- `exchange_refresh` up to its lock: the token, and the family to lock. -/
def locateRefreshFamily (server : OAuthServer) (publicBaseUrl : String) (t : AuthTables)
    (command : OAuthRefreshTokenCommand) : Except AuthFailure (CredentialRecord × UUID) := do
  requireOauthResource server publicBaseUrl command.resource
  let candidate ← requireRefreshRecord t (server.secretDigest command.refreshToken) command none
  let familyId ← fetch candidate.refreshFamilyId
    (.flow "invalid_grant" "refresh token is invalid" none)
  pure (candidate, familyId)

/-- `_revoke_family` -/
def revokeFamily (t : AuthTables) (familyId : UUID) (revokedAt : Moment) : List AuthWrite :=
  ((t.credentials.filter fun record => record.refreshFamilyId = some familyId).filter
    fun record => record.revokedAt = none).map fun record =>
      .revoke record.tokenHash revokedAt

/-- The scopes of the new pair. -/
def refreshedScopes (command : OAuthRefreshTokenCommand) (record : CredentialRecord) :
    Except AuthFailure (List String) :=
  match command.scope with
  | none => pure record.scopes
  | some scope => do
      let scopes ← parseRequestedScopes scope
      requireScopeSubsetFlow scopes record.scopes
      pure scopes

/-- `exchange_refresh` of a record read under the lock of its family. -/
def rotateRecord (server : OAuthServer) (publicBaseUrl : String) (t : AuthTables)
    (record : CredentialRecord) (familyId : UUID) (command : OAuthRefreshTokenCommand)
    (now : Moment) (drawn : DrawnPair) : Answered TokenPair :=
  if record.revokedAt ≠ none then
    ⟨.error (.flow "invalid_grant" "refresh token reuse invalidated the token family" none),
      revokeFamily t familyId now⟩
  else if record.expiresAt ≤ now then
    ⟨.error (.flow "invalid_grant" "refresh token is expired" none),
      [.revoke record.tokenHash now]⟩
  else
    match refreshedScopes command record with
    | .error failure => ⟨.error failure, []⟩
    | .ok scopes =>
        let issued := issueTokenPair server publicBaseUrl t record.actorSubjectId scopes
          .oauthRefresh command.clientId command.resource now (some familyId) drawn
        ⟨issued, .revoke record.tokenHash now :: issuedWrites issued⟩

/-- `exchange_refresh` from its lock on. -/
def exchangeLockedRefresh (server : OAuthServer) (publicBaseUrl : String) (t : AuthTables)
    (familyId : UUID) (command : OAuthRefreshTokenCommand) (now : Moment)
    (drawn : DrawnPair) : Answered TokenPair :=
  match requireRefreshRecord t (server.secretDigest command.refreshToken) command
      (some familyId) with
  | .error failure => ⟨.error failure, []⟩
  | .ok record => rotateRecord server publicBaseUrl t record familyId command now drawn

/-! ## Revoking a token -/

/-- The record that `revoke` goes on with. -/
def locateRevoked (t : AuthTables) (tokenHash : SecretHash) (clientId : Option String) :
    Option CredentialRecord :=
  (t.credential? tokenHash).filter fun record =>
    ∀ id ∈ clientId, record.oauthClientId = some id

/-- `revoke` from its lock on. -/
def revokeLocked (t : AuthTables) (tokenHash : SecretHash) (clientId : Option String)
    (familyId : Option UUID) (now : Moment) : List AuthWrite :=
  match locateRevoked t tokenHash clientId, familyId with
  | none, _ => []
  | some record, some familyId =>
      if record.refreshFamilyId = some familyId then revokeFamily t familyId now else []
  | some record, none => if record.revokedAt = none then [.revoke tokenHash now] else []

/-! ## What the writes do -/

/-- The keys of the tables are unique. -/
structure AuthTables.Keyed (t : AuthTables) : Prop where
  grants : (t.grants.map (·.codeHash)).Nodup
  deviceGrants : (t.deviceGrants.map (·.deviceCodeHash)).Nodup
  credentials : (t.credentials.map (·.tokenHash)).Nodup

/-- A token, but for its revocation, which is not taken back. -/
def RevokedOnly (r r' : CredentialRecord) : Prop :=
  r' = { r with revokedAt := r'.revokedAt } ∧ (r.revokedAt ≠ none → r'.revokedAt ≠ none)

section Writes

variable {t t' : AuthTables} {statement : AuthWrite} {writes : List AuthWrite}

@[simp] theorem writeAll_nil : t.writeAll [] = .ok t' ↔ t = t' := by
  simp [AuthTables.writeAll]

@[simp] theorem writeAll_cons : t.writeAll (statement :: writes) = .ok t' ↔
    ∃ t₁, t.write statement = .ok t₁ ∧ t₁.writeAll writes = .ok t' := by
  simp [AuthTables.writeAll]

theorem RevokedOnly.refl (r : CredentialRecord) : RevokedOnly r r := ⟨rfl, id⟩

theorem RevokedOnly.trans {r₁ r₂ r₃ : CredentialRecord} (h₁ : RevokedOnly r₁ r₂)
    (h₂ : RevokedOnly r₂ r₃) : RevokedOnly r₁ r₃ := by
  obtain ⟨h₁, hKept₁⟩ := h₁
  obtain ⟨h₂, hKept₂⟩ := h₂
  refine ⟨?_, fun h => hKept₂ (hKept₁ h)⟩
  rw [h₂, h₁]

theorem revokedOnly_revokedBy (tokenHash : SecretHash) (revokedAt : Moment)
    (r : CredentialRecord) : RevokedOnly r (r.revokedBy tokenHash revokedAt) := by
  unfold CredentialRecord.revokedBy
  split_ifs
  · exact ⟨rfl, fun _ => Option.some_ne_none _⟩
  · exact .refl r

theorem tokenHash_revokedBy (tokenHash : SecretHash) (revokedAt : Moment)
    (r : CredentialRecord) : (r.revokedBy tokenHash revokedAt).tokenHash = r.tokenHash := by
  unfold CredentialRecord.revokedBy
  split_ifs <;> rfl

theorem nodup_append_new {α β : Type} {key : α → β} {rows : List α} {new : α}
    (hKeys : (rows.map key).Nodup) (hNew : key new ∉ rows.map key) :
    ((rows ++ [new]).map key).Nodup := by
  rw [List.map_append]
  exact hKeys.append (List.nodup_singleton _) (List.disjoint_singleton.mpr hNew)

theorem AuthTables.Keyed.write (hKeyed : t.Keyed) (h : t.write statement = .ok t') :
    t'.Keyed := by
  obtain ⟨hGrants, hDevices, hCredentials⟩ := hKeyed
  cases statement with
  | addClient client redirectUris =>
      simp only [AuthTables.write, bind_eq_ok, require_eq_ok, pure_eq_ok] at h
      obtain ⟨-, -, rfl⟩ := h
      exact ⟨hGrants, hDevices, hCredentials⟩
  | addGrant grant =>
      simp only [AuthTables.write, bind_eq_ok, require_eq_ok, pure_eq_ok] at h
      obtain ⟨-, hNew, rfl⟩ := h
      exact ⟨nodup_append_new hGrants hNew, hDevices, hCredentials⟩
  | useGrant codeHash usedAt =>
      simp only [AuthTables.write, pure_eq_ok] at h
      subst h
      refine ⟨?_, hDevices, hCredentials⟩
      rw [List.map_map]
      convert hGrants using 2
      funext grant
      dsimp only [Function.comp, OAuthAuthorizationGrantRecord.usedBy]
      split_ifs <;> rfl
  | addDeviceGrant grant =>
      simp only [AuthTables.write, bind_eq_ok, require_eq_ok, pure_eq_ok] at h
      obtain ⟨-, hNew, -, -, rfl⟩ := h
      exact ⟨hGrants, nodup_append_new hDevices hNew, hCredentials⟩
  | setDeviceGrant grant =>
      simp only [AuthTables.write, pure_eq_ok] at h
      subst h
      refine ⟨hGrants, ?_, hCredentials⟩
      rw [List.map_map]
      convert hDevices using 2
      funext row
      dsimp only [Function.comp]
      split_ifs with hSame
      · exact hSame.symm
      · rfl
  | addCredential record =>
      simp only [AuthTables.write, bind_eq_ok, require_eq_ok, pure_eq_ok] at h
      obtain ⟨-, hNew, rfl⟩ := h
      exact ⟨hGrants, hDevices, nodup_append_new hCredentials hNew⟩
  | revoke tokenHash revokedAt =>
      simp only [AuthTables.write, pure_eq_ok] at h
      subst h
      refine ⟨hGrants, hDevices, ?_⟩
      rw [List.map_map]
      convert hCredentials using 2
      funext r
      exact tokenHash_revokedBy tokenHash revokedAt r

theorem AuthTables.Keyed.writeAll (hKeyed : t.Keyed) (h : t.writeAll writes = .ok t') :
    t'.Keyed := by
  induction writes generalizing t with
  | nil =>
      obtain rfl := writeAll_nil.mp h
      exact hKeyed
  | cons statement writes ih =>
      obtain ⟨t₁, hWrite, hRest⟩ := writeAll_cons.mp h
      exact ih (hKeyed.write hWrite) hRest

/-- A client keeps its row. -/
theorem client?_write {clientId : String} {client : OAuthClientRecord}
    (hClient : t.client? clientId = some client) (h : t.write statement = .ok t') :
    t'.client? clientId = some client := by
  cases statement with
  | addClient new redirectUris =>
      simp only [AuthTables.write, bind_eq_ok, require_eq_ok, pure_eq_ok] at h
      obtain ⟨-, -, rfl⟩ := h
      unfold AuthTables.client? at hClient ⊢
      rw [List.find?_append, hClient]
      rfl
  | addGrant grant =>
      simp only [AuthTables.write, bind_eq_ok, require_eq_ok, pure_eq_ok] at h
      obtain ⟨-, -, rfl⟩ := h
      exact hClient
  | useGrant codeHash usedAt =>
      obtain rfl := pure_eq_ok.mp h
      exact hClient
  | addDeviceGrant grant =>
      simp only [AuthTables.write, bind_eq_ok, require_eq_ok, pure_eq_ok] at h
      obtain ⟨-, -, -, -, rfl⟩ := h
      exact hClient
  | setDeviceGrant grant =>
      obtain rfl := pure_eq_ok.mp h
      exact hClient
  | addCredential record =>
      simp only [AuthTables.write, bind_eq_ok, require_eq_ok, pure_eq_ok] at h
      obtain ⟨-, -, rfl⟩ := h
      exact hClient
  | revoke tokenHash revokedAt =>
      obtain rfl := pure_eq_ok.mp h
      exact hClient

theorem client?_writeAll {clientId : String} {client : OAuthClientRecord}
    (hClient : t.client? clientId = some client) (h : t.writeAll writes = .ok t') :
    t'.client? clientId = some client := by
  induction writes generalizing t with
  | nil =>
      obtain rfl := writeAll_nil.mp h
      exact hClient
  | cons statement writes ih =>
      obtain ⟨t₁, hWrite, hRest⟩ := writeAll_cons.mp h
      exact ih (client?_write hClient hWrite) hRest

end Writes

/-! ## What the writes leave of a row -/

/-- A code grant, but for its use, which is not taken back. -/
def UsedOnly (g g' : OAuthAuthorizationGrantRecord) : Prop :=
  g' = { g with usedAt := g'.usedAt } ∧ (g.usedAt ≠ none → g'.usedAt ≠ none)

def AuthWrite.onCredentials (rows : List CredentialRecord) :
    AuthWrite → List CredentialRecord
  | .addCredential record => rows ++ [record]
  | .revoke tokenHash revokedAt => rows.map (·.revokedBy tokenHash revokedAt)
  | _ => rows

def AuthWrite.onGrants (rows : List OAuthAuthorizationGrantRecord) :
    AuthWrite → List OAuthAuthorizationGrantRecord
  | .addGrant grant => rows ++ [grant]
  | .useGrant codeHash usedAt => rows.map (·.usedBy codeHash usedAt)
  | _ => rows

def AuthWrite.onDeviceGrants (rows : List OAuthDeviceGrantRecord) :
    AuthWrite → List OAuthDeviceGrantRecord
  | .addDeviceGrant grant => rows ++ [grant]
  | .setDeviceGrant grant => rows.map fun row =>
      if row.deviceCodeHash = grant.deviceCodeHash then grant else row
  | _ => rows

section Rows

variable {t t' : AuthTables} {writes : List AuthWrite}

theorem rows_write {statement : AuthWrite} (h : t.write statement = .ok t') :
    t'.credentials = statement.onCredentials t.credentials
      ∧ t'.grants = statement.onGrants t.grants
      ∧ t'.deviceGrants = statement.onDeviceGrants t.deviceGrants := by
  cases statement with
  | addClient client redirectUris =>
      simp only [AuthTables.write, bind_eq_ok, require_eq_ok, pure_eq_ok] at h
      obtain ⟨-, -, rfl⟩ := h
      exact ⟨rfl, rfl, rfl⟩
  | addGrant grant =>
      simp only [AuthTables.write, bind_eq_ok, require_eq_ok, pure_eq_ok] at h
      obtain ⟨-, -, rfl⟩ := h
      exact ⟨rfl, rfl, rfl⟩
  | useGrant codeHash usedAt =>
      obtain rfl := pure_eq_ok.mp h
      exact ⟨rfl, rfl, rfl⟩
  | addDeviceGrant grant =>
      simp only [AuthTables.write, bind_eq_ok, require_eq_ok, pure_eq_ok] at h
      obtain ⟨-, -, -, -, rfl⟩ := h
      exact ⟨rfl, rfl, rfl⟩
  | setDeviceGrant grant =>
      obtain rfl := pure_eq_ok.mp h
      exact ⟨rfl, rfl, rfl⟩
  | addCredential record =>
      simp only [AuthTables.write, bind_eq_ok, require_eq_ok, pure_eq_ok] at h
      obtain ⟨-, -, rfl⟩ := h
      exact ⟨rfl, rfl, rfl⟩
  | revoke tokenHash revokedAt =>
      obtain rfl := pure_eq_ok.mp h
      exact ⟨rfl, rfl, rfl⟩

theorem rows_writeAll (h : t.writeAll writes = .ok t') :
    t'.credentials = writes.foldl AuthWrite.onCredentials t.credentials
      ∧ t'.grants = writes.foldl AuthWrite.onGrants t.grants
      ∧ t'.deviceGrants = writes.foldl AuthWrite.onDeviceGrants t.deviceGrants := by
  induction writes generalizing t with
  | nil =>
      obtain rfl := writeAll_nil.mp h
      exact ⟨rfl, rfl, rfl⟩
  | cons statement writes ih =>
      obtain ⟨t₁, hWrite, hRest⟩ := writeAll_cons.mp h
      obtain ⟨hCredentials, hGrants, hDevices⟩ := rows_write hWrite
      obtain ⟨hCredentials', hGrants', hDevices'⟩ := ih hRest
      rw [hCredentials', hGrants', hDevices', hCredentials, hGrants, hDevices]
      exact ⟨rfl, rfl, rfl⟩

/-- The rows of a grant and of a token are found by their keys. -/
theorem AuthTables.Keyed.grant_eq (h : t.Keyed) {g g' : OAuthAuthorizationGrantRecord}
    (hMem : g ∈ t.grants) (hMem' : g' ∈ t.grants) (hHash : g.codeHash = g'.codeHash) :
    g = g' :=
  List.inj_on_of_nodup_map h.grants hMem hMem' hHash

theorem AuthTables.Keyed.deviceGrant_eq (h : t.Keyed) {row row' : OAuthDeviceGrantRecord}
    (hMem : row ∈ t.deviceGrants) (hMem' : row' ∈ t.deviceGrants)
    (hHash : row.deviceCodeHash = row'.deviceCodeHash) : row = row' :=
  List.inj_on_of_nodup_map h.deviceGrants hMem hMem' hHash

theorem AuthTables.Keyed.credential_eq (h : t.Keyed) {r r' : CredentialRecord}
    (hMem : r ∈ t.credentials) (hMem' : r' ∈ t.credentials)
    (hHash : r.tokenHash = r'.tokenHash) : r = r' :=
  List.inj_on_of_nodup_map h.credentials hMem hMem' hHash

theorem RevokedOnly.tokenHash {r r' : CredentialRecord} (h : RevokedOnly r r') :
    r'.tokenHash = r.tokenHash := by
  rw [h.1]

theorem UsedOnly.refl (g : OAuthAuthorizationGrantRecord) : UsedOnly g g := ⟨rfl, id⟩

theorem UsedOnly.trans {g₁ g₂ g₃ : OAuthAuthorizationGrantRecord} (h₁ : UsedOnly g₁ g₂)
    (h₂ : UsedOnly g₂ g₃) : UsedOnly g₁ g₃ := by
  obtain ⟨h₁, hKept₁⟩ := h₁
  obtain ⟨h₂, hKept₂⟩ := h₂
  refine ⟨?_, fun h => hKept₂ (hKept₁ h)⟩
  rw [h₂, h₁]

theorem UsedOnly.codeHash {g g' : OAuthAuthorizationGrantRecord} (h : UsedOnly g g') :
    g'.codeHash = g.codeHash := by
  rw [h.1]

theorem usedOnly_usedBy (codeHash : SecretHash) (usedAt : Moment)
    (g : OAuthAuthorizationGrantRecord) : UsedOnly g (g.usedBy codeHash usedAt) := by
  unfold OAuthAuthorizationGrantRecord.usedBy
  split_ifs
  · exact ⟨rfl, fun _ => Option.some_ne_none _⟩
  · exact .refl g

variable (writes) in
/-- A token stays, and is revoked by a revocation of it. -/
theorem credential_kept {rows : List CredentialRecord} {r : CredentialRecord}
    (hMem : r ∈ rows) :
    ∃ r' ∈ writes.foldl AuthWrite.onCredentials rows, RevokedOnly r r'
      ∧ ∀ revokedAt, .revoke r.tokenHash revokedAt ∈ writes → r'.revokedAt ≠ none := by
  induction writes generalizing rows r with
  | nil => exact ⟨r, hMem, .refl r, fun _ h => nomatch h⟩
  | cons statement writes ih =>
      -- the row after the first statement, and whether that statement revokes it
      obtain ⟨r₁, hMem₁, hOnly, hFirst⟩ : ∃ r₁ ∈ statement.onCredentials rows,
          RevokedOnly r r₁ ∧ ∀ revokedAt, .revoke r.tokenHash revokedAt = statement →
            r₁.revokedAt ≠ none := by
        cases statement with
        | addCredential record =>
            exact ⟨r, List.mem_append_left _ hMem, .refl r, fun _ h => nomatch h⟩
        | revoke tokenHash revokedAt =>
            refine ⟨_, List.mem_map_of_mem hMem, revokedOnly_revokedBy tokenHash revokedAt r,
              fun _ hSame => ?_⟩
            obtain ⟨rfl, rfl⟩ := AuthWrite.revoke.inj hSame
            simp [CredentialRecord.revokedBy]
        | _ => exact ⟨r, hMem, .refl r, fun _ h => nomatch h⟩
      obtain ⟨r', hMem', hOnly', hRest⟩ := ih hMem₁
      refine ⟨r', hMem', hOnly.trans hOnly', fun revokedAt hListed => ?_⟩
      rcases List.mem_cons.mp hListed with hHead | hTail
      · exact hOnly'.2 (hFirst revokedAt hHead)
      · exact hRest revokedAt (by rwa [hOnly.tokenHash])

/-- A token was there, or has been added. -/
theorem credential_from {rows : List CredentialRecord} {r' : CredentialRecord}
    (hMem : r' ∈ writes.foldl AuthWrite.onCredentials rows) :
    (∃ r ∈ rows, RevokedOnly r r')
      ∨ ∃ r, .addCredential r ∈ writes ∧ RevokedOnly r r' := by
  induction writes generalizing rows with
  | nil => exact .inl ⟨r', hMem, .refl r'⟩
  | cons statement writes ih =>
      rcases ih hMem with ⟨r₁, hMem₁, hOnly⟩ | ⟨r₁, hAdded, hOnly⟩
      · cases statement with
        | addCredential record =>
            rcases List.mem_append.mp hMem₁ with hOld | hNew
            · exact .inl ⟨r₁, hOld, hOnly⟩
            · obtain rfl := List.mem_singleton.mp hNew
              exact .inr ⟨r₁, List.mem_cons_self, hOnly⟩
        | revoke tokenHash revokedAt =>
            obtain ⟨r, hOld, rfl⟩ := List.mem_map.mp hMem₁
            exact .inl ⟨r, hOld, (revokedOnly_revokedBy tokenHash revokedAt r).trans hOnly⟩
        | _ => exact .inl ⟨r₁, hMem₁, hOnly⟩
      · exact .inr ⟨r₁, List.mem_cons_of_mem _ hAdded, hOnly⟩

/-- A token that was added is there. -/
theorem credential_added {rows : List CredentialRecord} {r : CredentialRecord}
    (hAdded : .addCredential r ∈ writes) :
    ∃ r' ∈ writes.foldl AuthWrite.onCredentials rows, RevokedOnly r r' := by
  obtain ⟨before, after, rfl⟩ := List.append_of_mem hAdded
  rw [List.foldl_append, List.foldl_cons]
  obtain ⟨r', hMem, hOnly, -⟩ :=
    credential_kept after (List.mem_append_right _ (List.mem_singleton_self r))
  exact ⟨r', hMem, hOnly⟩

variable (writes) in
theorem grant_kept {rows : List OAuthAuthorizationGrantRecord}
    {g : OAuthAuthorizationGrantRecord} (hMem : g ∈ rows) :
    ∃ g' ∈ writes.foldl AuthWrite.onGrants rows, UsedOnly g g'
      ∧ ∀ usedAt, .useGrant g.codeHash usedAt ∈ writes → g'.usedAt ≠ none := by
  induction writes generalizing rows g with
  | nil => exact ⟨g, hMem, .refl g, fun _ h => nomatch h⟩
  | cons statement writes ih =>
      obtain ⟨g₁, hMem₁, hOnly, hFirst⟩ : ∃ g₁ ∈ statement.onGrants rows,
          UsedOnly g g₁ ∧ ∀ usedAt, .useGrant g.codeHash usedAt = statement →
            g₁.usedAt ≠ none := by
        cases statement with
        | addGrant grant =>
            exact ⟨g, List.mem_append_left _ hMem, .refl g, fun _ h => nomatch h⟩
        | useGrant codeHash usedAt =>
            refine ⟨_, List.mem_map_of_mem hMem, usedOnly_usedBy codeHash usedAt g,
              fun _ hSame => ?_⟩
            obtain ⟨rfl, rfl⟩ := AuthWrite.useGrant.inj hSame
            simp [OAuthAuthorizationGrantRecord.usedBy]
        | _ => exact ⟨g, hMem, .refl g, fun _ h => nomatch h⟩
      obtain ⟨g', hMem', hOnly', hRest⟩ := ih hMem₁
      refine ⟨g', hMem', hOnly.trans hOnly', fun usedAt hListed => ?_⟩
      rcases List.mem_cons.mp hListed with hHead | hTail
      · exact hOnly'.2 (hFirst usedAt hHead)
      · exact hRest usedAt (by rwa [hOnly.codeHash])

theorem grant_from {rows : List OAuthAuthorizationGrantRecord}
    {g' : OAuthAuthorizationGrantRecord}
    (hMem : g' ∈ writes.foldl AuthWrite.onGrants rows) :
    (∃ g ∈ rows, UsedOnly g g') ∨ ∃ g, .addGrant g ∈ writes ∧ UsedOnly g g' := by
  induction writes generalizing rows with
  | nil => exact .inl ⟨g', hMem, .refl g'⟩
  | cons statement writes ih =>
      rcases ih hMem with ⟨g₁, hMem₁, hOnly⟩ | ⟨g₁, hAdded, hOnly⟩
      · cases statement with
        | addGrant grant =>
            rcases List.mem_append.mp hMem₁ with hOld | hNew
            · exact .inl ⟨g₁, hOld, hOnly⟩
            · obtain rfl := List.mem_singleton.mp hNew
              exact .inr ⟨g₁, List.mem_cons_self, hOnly⟩
        | useGrant codeHash usedAt =>
            obtain ⟨g, hOld, rfl⟩ := List.mem_map.mp hMem₁
            exact .inl ⟨g, hOld, (usedOnly_usedBy codeHash usedAt g).trans hOnly⟩
        | _ => exact .inl ⟨g₁, hMem₁, hOnly⟩
      · exact .inr ⟨g₁, List.mem_cons_of_mem _ hAdded, hOnly⟩

/-- A device grant was there, or has been written. -/
theorem deviceGrant_from {rows : List OAuthDeviceGrantRecord}
    {row' : OAuthDeviceGrantRecord}
    (hMem : row' ∈ writes.foldl AuthWrite.onDeviceGrants rows) :
    row' ∈ rows ∨ .addDeviceGrant row' ∈ writes ∨ .setDeviceGrant row' ∈ writes := by
  induction writes generalizing rows with
  | nil => exact .inl hMem
  | cons statement writes ih =>
      rcases ih hMem with hMem₁ | hAdded | hSet
      · cases statement with
        | addDeviceGrant grant =>
            rcases List.mem_append.mp hMem₁ with hOld | hNew
            · exact .inl hOld
            · obtain rfl := List.mem_singleton.mp hNew
              exact .inr (.inl List.mem_cons_self)
        | setDeviceGrant grant =>
            obtain ⟨row, hOld, hRow⟩ := List.mem_map.mp hMem₁
            split_ifs at hRow
            · subst hRow
              exact .inr (.inr List.mem_cons_self)
            · subst hRow
              exact .inl hOld
        | _ => exact .inl hMem₁
      · exact .inr (.inl (List.mem_cons_of_mem _ hAdded))
      · exact .inr (.inr (List.mem_cons_of_mem _ hSet))

variable (writes) in
/-- A device grant stays, unless a write replaces it. -/
theorem deviceGrant_kept {rows : List OAuthDeviceGrantRecord}
    {row : OAuthDeviceGrantRecord} (hMem : row ∈ rows) :
    row ∈ writes.foldl AuthWrite.onDeviceGrants rows
      ∨ ∃ row' ∈ writes.foldl AuthWrite.onDeviceGrants rows,
        .setDeviceGrant row' ∈ writes ∧ row'.deviceCodeHash = row.deviceCodeHash := by
  induction writes generalizing rows row with
  | nil => exact .inl hMem
  | cons statement writes ih =>
      obtain ⟨row₁, hMem₁, hSame⟩ : ∃ row₁ ∈ statement.onDeviceGrants rows,
          row₁ = row ∨ statement = .setDeviceGrant row₁
            ∧ row₁.deviceCodeHash = row.deviceCodeHash := by
        cases statement with
        | addDeviceGrant grant => exact ⟨row, List.mem_append_left _ hMem, .inl rfl⟩
        | setDeviceGrant grant =>
            refine ⟨_, List.mem_map_of_mem hMem, ?_⟩
            split_ifs with hHash
            · exact .inr ⟨rfl, hHash.symm⟩
            · exact .inl rfl
        | _ => exact ⟨row, hMem, .inl rfl⟩
      rcases ih hMem₁ with hKept | ⟨row', hMem', hSet, hHash⟩
      · rcases hSame with rfl | ⟨rfl, hHash⟩
        · exact .inl hKept
        · exact .inr ⟨row₁, hKept, List.mem_cons_self, hHash⟩
      · refine .inr ⟨row', hMem', List.mem_cons_of_mem _ hSet, hHash.trans ?_⟩
        rcases hSame with rfl | ⟨-, hHash₁⟩
        · rfl
        · exact hHash₁

end Rows

/-! ## What the checks give -/

theorem parseRequestedScopes_ok {scope : String} {scopes : List String}
    (h : parseRequestedScopes scope = .ok scopes) : PairedScopes scopes := by
  simp only [parseRequestedScopes, bind_eq_ok, require_eq_ok, pure_eq_ok] at h
  obtain ⟨-, -, -, -, -, hBook, -, hLedger, rfl⟩ := h
  exact ⟨hBook, hLedger⟩

theorem client?_clientId {t : AuthTables} {clientId : String} {client : OAuthClientRecord}
    (h : t.client? clientId = some client) : client.clientId = clientId := by
  simpa using List.find?_some h

/-- Both tokens of a pair carry the scopes, for the client that has them. -/
structure IssuedFor (t : AuthTables) (scopes : List String) (authKind : AuthKind)
    (clientId resource : String) (familyId : UUID) (pair : TokenPair) : Prop where
  client : ∃ client, t.client? clientId = some client ∧ scopes ⊆ client.scopes
  access : pair.access.scopes = scopes ∧ pair.access.oauthClientId = some clientId
    ∧ pair.access.resource = some resource ∧ pair.access.refreshFamilyId = some familyId
    ∧ pair.access.authKind = authKind
  refresh : pair.refresh.scopes = scopes ∧ pair.refresh.oauthClientId = some clientId
    ∧ pair.refresh.resource = some resource ∧ pair.refresh.refreshFamilyId = some familyId
    ∧ pair.refresh.authKind = .refreshToken
  live : pair.access.revokedAt = none ∧ pair.refresh.revokedAt = none

theorem issueTokenPair_ok {server : OAuthServer} {publicBaseUrl : String} {t : AuthTables}
    {actorSubjectId : String} {scopes : List String} {authKind : AuthKind}
    {clientId resource : String} {issuedAt : Moment} {refreshFamilyId : Option UUID}
    {drawn : DrawnPair} {pair : TokenPair}
    (h : issueTokenPair server publicBaseUrl t actorSubjectId scopes authKind clientId
      resource issuedAt refreshFamilyId drawn = .ok pair) :
    IssuedFor t scopes authKind clientId resource (refreshFamilyId.getD drawn.familyId)
      pair := by
  simp only [issueTokenPair, bind_eq_ok, fetch_eq_ok, requireOauthResource,
    requireScopeSubsetFlow, require_eq_ok, pure_eq_ok, Option.filter_eq_some_iff] at h
  obtain ⟨-, -, user, -, client, ⟨hClient, -⟩, -, hScopes, rfl⟩ := h
  have hId := client?_clientId hClient
  exact ⟨⟨client, hClient, hScopes⟩, ⟨rfl, congrArg some hId, rfl, rfl, rfl⟩,
    ⟨rfl, congrArg some hId, rfl, rfl, rfl⟩, rfl, rfl⟩

theorem addCredential_mem_pair {pair : TokenPair} {r : CredentialRecord}
    (h : .addCredential r ∈ pair.writes) : r = pair.access ∨ r = pair.refresh := by
  simpa [TokenPair.writes] using h

theorem requireRefreshRecord_ok {t : AuthTables} {tokenHash : SecretHash}
    {command : OAuthRefreshTokenCommand} {expected : Option UUID} {record : CredentialRecord}
    (h : requireRefreshRecord t tokenHash command expected = .ok record) :
    t.credential? tokenHash = some record ∧ record.authKind = .refreshToken
      ∧ record.oauthClientId = some command.clientId
      ∧ record.resource = some command.resource ∧ record.refreshFamilyId ≠ none
      ∧ ∀ familyId ∈ expected, record.refreshFamilyId = some familyId := by
  simp only [requireRefreshRecord, bind_eq_ok, fetch_eq_ok, require_eq_ok, pure_eq_ok] at h
  obtain ⟨_, hFound, -, hOwn, rfl⟩ := h
  exact ⟨hFound, hOwn⟩

theorem credential?_ok {t : AuthTables} {tokenHash : SecretHash} {record : CredentialRecord}
    (h : t.credential? tokenHash = some record) :
    record ∈ t.credentials ∧ record.tokenHash = tokenHash :=
  ⟨List.mem_of_find?_eq_some h, by simpa using List.find?_some h⟩

/-- A family is revoked by revocations. -/
theorem revocations_revokeFamily (t : AuthTables) (familyId : UUID) (now : Moment) :
    ∀ w ∈ revokeFamily t familyId now, ∃ tokenHash revokedAt, w = .revoke tokenHash revokedAt := by
  intro w hMem
  obtain ⟨record, -, rfl⟩ := List.mem_map.mp hMem
  exact ⟨_, _, rfl⟩

theorem refreshedScopes_ok {command : OAuthRefreshTokenCommand} {record : CredentialRecord}
    {scopes : List String} (h : refreshedScopes command record = .ok scopes) :
    scopes ⊆ record.scopes ∧ (PairedScopes record.scopes → PairedScopes scopes) := by
  unfold refreshedScopes at h
  split at h
  · obtain rfl := pure_eq_ok.mp h
    exact ⟨fun _ => id, id⟩
  · simp only [requireScopeSubsetFlow, bind_eq_ok, require_eq_ok, pure_eq_ok] at h
    obtain ⟨_, hParsed, -, hSubset, rfl⟩ := h
    exact ⟨hSubset, fun _ => parseRequestedScopes_ok hParsed⟩

end TrackAnywhere.Ports
