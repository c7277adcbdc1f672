import TrackAnywhere.Ports.OAuthTokens
import TrackAnywhere.Verified.Run

/-!
# OAuth requests in sequence

The requests of the authorization server that register a client, ask for a
grant, approve or deny it, and exchange it for tokens.  A step is one request
in one transaction: what it has written is committed with its answer, errors
included, unless the database refuses it or a crash ends it.
-/

namespace TrackAnywhere.Ports

open TrackAnywhere.Verified
open TrackAnywhere.Verified.Checked

/-! ## Clients and codes -/

structure OAuthRegisterCommand where
  clientName : String
  redirectUris : List String
  scope : String

structure OAuthAuthorizeCommand where
  clientId : String
  redirectUri : String
  scope : String
  codeChallenge : String
  resource : String
  approve : Bool
  approvedScopes : Option (List String)

/-- The browser session that approves, with its credential. -/
structure ActiveBrowserSession where
  userId : String
  bookId : Option UUID
  scopes : List String

def registerClient (server : OAuthServer) (command : OAuthRegisterCommand)
    (clientId : String) :
    Except AuthFailure (OAuthClientRecord × List OAuthClientRedirectUriRecord) := do
  let scopes ← parseRequestedScopes command.scope
  require (∀ uri ∈ command.redirectUris, server.validRedirectUri uri)
    (.security "redirect_uri must be an absolute http(s) URL")
  pure (⟨clientId, strip command.clientName, scopes, true⟩,
    command.redirectUris.eraseDups.map fun uri => ⟨clientId, uri, true⟩)

def activeClient (t : AuthTables) (clientId : String) :
    Except AuthFailure OAuthClientRecord :=
  fetch ((t.client? clientId).filter (·.active)) (.security "unknown OAuth client")

def requireRedirect (server : OAuthServer) (t : AuthTables) (clientId redirectUri : String) :
    Except AuthFailure String := do
  require (server.validRedirectUri redirectUri)
    (.security "redirect_uri must be an absolute http(s) URL")
  let row ← fetch ((t.redirectUris.filter fun row => row.clientId = clientId ∧ row.active).find?
      fun row => server.redirectUriMatches row.redirectUri redirectUri)
    (.security "redirect_uri is not registered")
  pure row.redirectUri

/-- `validate_authorization_request`: the client, the registered URI, and the
scopes asked for. -/
def validateAuthorizationRequest (server : OAuthServer) (publicBaseUrl : String)
    (t : AuthTables) (command : OAuthAuthorizeCommand) :
    Except AuthFailure (OAuthClientRecord × String × List String) := do
  requireOauthResource server publicBaseUrl command.resource
  let client ← activeClient t command.clientId
  let registered ← requireRedirect server t client.clientId command.redirectUri
  let scopes ← parseRequestedScopes command.scope
  requireScopeSubset scopes client.scopes
  pure (client, registered, scopes)

/-- The scopes an approval leaves of those asked for. -/
def approvedScopes (approved : Option (List String)) (requested : List String) :
    Except AuthFailure (List String) :=
  match approved with
  | none => pure requested
  | some names => do
      let scopes ← parseRequestedScopes (" ".intercalate names)
      requireScopeSubset scopes requested
      pure scopes

/-- The checks that both approvals make on the browser session. -/
def grantedScopes (server : OAuthServer) (resource : Option String)
    (approved : Option (List String)) (requested : List String)
    (active : ActiveBrowserSession) : Except AuthFailure (List String) := do
  require (active.bookId = none)
    (.policyDenied "book-bound credentials cannot approve OAuth access")
  let scopes ← approvedScopes approved requested
  requireScopeSubset scopes active.scopes
  requireResourceScopeFloor server resource scopes
  pure scopes

/-- The grant that `authorize` adds once the request is approved. -/
def OAuthAuthorizeCommand.grant (command : OAuthAuthorizeCommand) (codeHash : SecretHash)
    (registered userId : String) (scopes : List String) (now : Moment) :
    OAuthAuthorizationGrantRecord where
  codeHash := codeHash
  clientId := command.clientId
  redirectUri := command.redirectUri
  registeredRedirectUri := registered
  actorSubjectId := userId
  scopes := scopes
  codeChallenge := command.codeChallenge
  resource := some command.resource
  createdAt := now
  expiresAt := now + 600000000
  usedAt := none
  revokedAt := none

/-! ## Device grants -/

structure OAuthDeviceAuthorizeCommand where
  clientId : String
  scope : String
  resource : String

structure DeviceApprovalCommand where
  userCode : String
  approve : Bool
  approvedScopes : Option (List String)

structure OAuthDeviceTokenCommand where
  deviceCode : String
  clientId : String
  resource : String

def normalizeUserCode (value : String) : String :=
  String.ofList ((strip value).toUpper.toList.filter fun c => c ≠ ' ' ∧ c ≠ '-')

/-- `create_authorization`: the client and the grant that is added. -/
def createAuthorization (server : OAuthServer) (publicBaseUrl : String) (t : AuthTables)
    (command : OAuthDeviceAuthorizeCommand) (rawDeviceCode rawUserCode : String)
    (now : Moment) : Except AuthFailure (OAuthClientRecord × OAuthDeviceGrantRecord) := do
  let client ← activeClient t command.clientId
  requireOauthResource server publicBaseUrl command.resource
  let scopes ← parseRequestedScopes command.scope
  requireScopeSubset scopes client.scopes
  pure (client,
    { deviceCodeHash := server.secretDigest rawDeviceCode
      userCodeHash := server.secretDigest (normalizeUserCode rawUserCode)
      clientId := client.clientId
      scopes := scopes
      resource := some command.resource
      status := .pending
      createdAt := now
      expiresAt := now + 900000000
      intervalSeconds := 5
      lastPollAt := none
      pollCount := 0
      approvedActorSubjectId := none
      approvedAt := none
      consumedAt := none })

/-- The grant that a decision is about. -/
def pendingGrant (server : OAuthServer) (t : AuthTables) (command : DeviceApprovalCommand)
    (now : Moment) : Except AuthFailure OAuthDeviceGrantRecord :=
  fetch ((t.deviceGrants.find? fun grant =>
      grant.userCodeHash = server.secretDigest (normalizeUserCode command.userCode)).filter
    fun grant => grant.status = .pending ∧ now < grant.expiresAt)
    (.policyDenied "device code is invalid or expired")

def OAuthDeviceGrantRecord.approvedBy (grant : OAuthDeviceGrantRecord) (userId : String)
    (scopes : List String) (now : Moment) : OAuthDeviceGrantRecord :=
  { grant with
    scopes := scopes
    status := .approved
    approvedActorSubjectId := some userId
    approvedAt := some now }

/-- `_record_poll` -/
def OAuthDeviceGrantRecord.polled (grant : OAuthDeviceGrantRecord) (now : Moment) :
    OAuthDeviceGrantRecord :=
  { grant with lastPollAt := some now, pollCount := grant.pollCount + 1 }

def OAuthDeviceGrantRecord.withStatus (grant : OAuthDeviceGrantRecord)
    (status : DeviceStatus) : OAuthDeviceGrantRecord :=
  { grant with status := status }

def OAuthDeviceGrantRecord.consumedBy (grant : OAuthDeviceGrantRecord) (now : Moment) :
    OAuthDeviceGrantRecord :=
  { grant with status := .consumed, consumedAt := some now }

/-- The poll comes before the interval has passed. -/
def OAuthDeviceGrantRecord.tooSoon (grant : OAuthDeviceGrantRecord) (now : Moment) : Prop :=
  ∃ last ∈ grant.lastPollAt, now - last < grant.intervalSeconds * 1000000

instance (grant : OAuthDeviceGrantRecord) (now : Moment) : Decidable (grant.tooSoon now) :=
  inferInstanceAs (Decidable (∃ last ∈ grant.lastPollAt, _))

def OAuthDeviceGrantRecord.slowedDown (grant : OAuthDeviceGrantRecord) (now : Moment) :
    OAuthDeviceGrantRecord :=
  { grant.polled now with intervalSeconds := grant.intervalSeconds + 5 }

/-- The exchange of an approved grant that was polled in time. -/
def exchangeApproved (server : OAuthServer) (publicBaseUrl : String) (t : AuthTables)
    (grant : OAuthDeviceGrantRecord) (command : OAuthDeviceTokenCommand) (now : Moment)
    (drawn : DrawnPair) : Answered TokenPair :=
  match grant.approvedActorSubjectId, grant.approvedAt with
  | some userId, some _ =>
      let issued := issueTokenPair server publicBaseUrl t userId grant.scopes .device
        grant.clientId command.resource now none drawn
      ⟨issued, .setDeviceGrant ((grant.polled now).consumedBy now) :: issuedWrites issued⟩
  | _, _ =>
      ⟨.error (.flow "invalid_grant" "device approval is incomplete" none),
        [.setDeviceGrant (grant.polled now)]⟩

/-- `PersistentDeviceService.exchange` of the grant that its query locked. -/
def exchangeDeviceGrant (server : OAuthServer) (publicBaseUrl : String) (t : AuthTables)
    (grant : OAuthDeviceGrantRecord) (command : OAuthDeviceTokenCommand) (now : Moment)
    (drawn : DrawnPair) : Answered TokenPair :=
  if grant.expiresAt ≤ now then
    ⟨.error (.flow "expired_token" "device code expired" none),
      if grant.status = .pending ∨ grant.status = .approved then
        [.setDeviceGrant (grant.withStatus .expired)]
      else []⟩
  else if grant.status = .denied then
    ⟨.error (.flow "access_denied" "device authorization was denied" none), []⟩
  else if ¬(grant.status = .pending ∨ grant.status = .approved) then
    ⟨.error (.flow "invalid_grant" "device code is no longer valid" none), []⟩
  else if grant.tooSoon now then
    ⟨.error (.flow "slow_down" "polling too quickly" (some (grant.intervalSeconds + 5))),
      [.setDeviceGrant (grant.slowedDown now)]⟩
  else if grant.status = .pending then
    ⟨.error (.flow "authorization_pending" "authorization is still pending" none),
      [.setDeviceGrant (grant.polled now)]⟩
  else exchangeApproved server publicBaseUrl t grant command now drawn

def exchangeDevice (server : OAuthServer) (publicBaseUrl : String) (t : AuthTables)
    (command : OAuthDeviceTokenCommand) (now : Moment) (drawn : DrawnPair) :
    Answered TokenPair :=
  match (t.deviceGrants.find? fun grant =>
      grant.deviceCodeHash = server.secretDigest command.deviceCode).filter
    fun grant => grant.clientId = command.clientId ∧ grant.resource = some command.resource with
  | none => ⟨.error (.flow "invalid_grant" "device code is invalid" none), []⟩
  | some grant => exchangeDeviceGrant server publicBaseUrl t grant command now drawn

/-! ## Requests -/

/-- `exchange_code` -/
def exchangeCode (server : OAuthServer) (publicBaseUrl : String) (t : AuthTables)
    (command : OAuthAuthorizationCodeTokenCommand) (now : Moment) (drawn : DrawnPair) :
    Answered TokenPair :=
  match requireOauthResource server publicBaseUrl command.resource with
  | .error failure => ⟨.error failure, []⟩
  | .ok _ => exchangeLockedCode server publicBaseUrl t
      (t.grant? (server.secretDigest command.code)) command now drawn

/-- `exchange_refresh` -/
def exchangeRefresh (server : OAuthServer) (publicBaseUrl : String) (t : AuthTables)
    (command : OAuthRefreshTokenCommand) (now : Moment) (drawn : DrawnPair) :
    Answered TokenPair :=
  match locateRefreshFamily server publicBaseUrl t command with
  | .error failure => ⟨.error failure, []⟩
  | .ok (_, familyId) =>
      exchangeLockedRefresh server publicBaseUrl t familyId command now drawn

/-- A request, with what it draws and the clock that it reads. -/
inductive OAuthRequest
  | register (command : OAuthRegisterCommand) (clientId : String)
  | authorize (publicBaseUrl : String) (command : OAuthAuthorizeCommand)
      (active : ActiveBrowserSession) (rawCode : String) (now : Moment)
  | deviceAuthorize (publicBaseUrl : String) (command : OAuthDeviceAuthorizeCommand)
      (rawDeviceCode rawUserCode : String) (now : Moment)
  | decideDevice (command : DeviceApprovalCommand) (active : ActiveBrowserSession)
      (now : Moment)
  | exchangeCode (publicBaseUrl : String) (command : OAuthAuthorizationCodeTokenCommand)
      (now : Moment) (drawn : DrawnPair)
  | exchangeDevice (publicBaseUrl : String) (command : OAuthDeviceTokenCommand)
      (now : Moment) (drawn : DrawnPair)
  | exchangeRefresh (publicBaseUrl : String) (command : OAuthRefreshTokenCommand)
      (now : Moment) (drawn : DrawnPair)

/-- What a request that succeeds has done. -/
inductive OAuthReply
  | registered (client : OAuthClientRecord)
  | codeDenied
  | codeApproved (grant : OAuthAuthorizationGrantRecord) (requested : List String)
      (client : OAuthClientRecord) (approver : ActiveBrowserSession)
  | deviceRequested (grant : OAuthDeviceGrantRecord) (client : OAuthClientRecord)
  | deviceDenied (deviceCodeHash : SecretHash)
  | deviceApproved (pending : OAuthDeviceGrantRecord) (scopes : List String)
      (approver : ActiveBrowserSession)
  | issued (pair : TokenPair)

/-- `register_client` -/
def serveRegister (server : OAuthServer) (command : OAuthRegisterCommand)
    (clientId : String) : Answered OAuthReply :=
  match registerClient server command clientId with
  | .error failure => ⟨.error failure, []⟩
  | .ok (client, redirectUris) => ⟨.ok (.registered client), [.addClient client redirectUris]⟩

/-- `authorize` -/
def serveAuthorize (server : OAuthServer) (publicBaseUrl : String) (t : AuthTables)
    (command : OAuthAuthorizeCommand) (active : ActiveBrowserSession) (rawCode : String)
    (now : Moment) : Answered OAuthReply :=
  match validateAuthorizationRequest server publicBaseUrl t command with
  | .error failure => ⟨.error failure, []⟩
  | .ok (client, registered, requested) =>
      if command.approve = false then ⟨.ok .codeDenied, []⟩
      else
        match grantedScopes server (some command.resource) command.approvedScopes requested
            active with
        | .error failure => ⟨.error failure, []⟩
        | .ok scopes =>
            let grant := command.grant (server.secretDigest rawCode) registered
              active.userId scopes now
            ⟨.ok (.codeApproved grant requested client active), [.addGrant grant]⟩

def serveDeviceAuthorize (server : OAuthServer) (publicBaseUrl : String) (t : AuthTables)
    (command : OAuthDeviceAuthorizeCommand) (rawDeviceCode rawUserCode : String)
    (now : Moment) : Answered OAuthReply :=
  match createAuthorization server publicBaseUrl t command rawDeviceCode rawUserCode now with
  | .error failure => ⟨.error failure, []⟩
  | .ok (client, grant) => ⟨.ok (.deviceRequested grant client), [.addDeviceGrant grant]⟩

/-- `PersistentDeviceService.approve` -/
def serveDecideDevice (server : OAuthServer) (t : AuthTables)
    (command : DeviceApprovalCommand) (active : ActiveBrowserSession) (now : Moment) :
    Answered OAuthReply :=
  match pendingGrant server t command now with
  | .error failure => ⟨.error failure, []⟩
  | .ok grant =>
      if command.approve = false then
        ⟨.ok (.deviceDenied grant.deviceCodeHash), [.setDeviceGrant (grant.withStatus .denied)]⟩
      else
        match grantedScopes server grant.resource command.approvedScopes grant.scopes active with
        | .error failure => ⟨.error failure, []⟩
        | .ok scopes =>
            ⟨.ok (.deviceApproved grant scopes active),
              [.setDeviceGrant (grant.approvedBy active.userId scopes now)]⟩

/-- A pair is what an exchange answers with. -/
def Answered.issued (answered : Answered TokenPair) : Answered OAuthReply :=
  ⟨answered.result.map .issued, answered.writes⟩

def serveOAuth (server : OAuthServer) (t : AuthTables) : OAuthRequest → Answered OAuthReply
  | .register command clientId => serveRegister server command clientId
  | .authorize base command active rawCode now =>
      serveAuthorize server base t command active rawCode now
  | .deviceAuthorize base command rawDeviceCode rawUserCode now =>
      serveDeviceAuthorize server base t command rawDeviceCode rawUserCode now
  | .decideDevice command active now => serveDecideDevice server t command active now
  | .exchangeCode base command now drawn => (exchangeCode server base t command now drawn).issued
  | .exchangeDevice base command now drawn =>
      (exchangeDevice server base t command now drawn).issued
  | .exchangeRefresh base command now drawn =>
      (exchangeRefresh server base t command now drawn).issued

/-- A request, with its answer where its transaction committed. -/
abbrev OAuthLabel := OAuthRequest × Option (Except AuthFailure OAuthReply)

/-- One request in one transaction. -/
inductive OAuthServes (server : OAuthServer) : AuthTables → OAuthLabel → AuthTables → Prop
  | committed {t t' : AuthTables} (request : OAuthRequest)
      (hWrites : t.writeAll (serveOAuth server t request).writes = .ok t') :
      OAuthServes server t (request, some (serveOAuth server t request).result) t'
  | rolledBack {t : AuthTables} (request : OAuthRequest) :
      OAuthServes server t (request, none) t

end TrackAnywhere.Ports
