import TrackAnywhere.Ports.OAuthRequests

/-!
# Grants never escalate

`serves_cases` says what a request can do to the tables, with what it checked.
The invariant `OAuthBook` ties each grant and each token to the request and the
approval on record behind it.
-/

namespace TrackAnywhere.Ports

open TrackAnywhere.Verified
open TrackAnywhere.Verified.Checked

/-! ## What the checks of an approval give -/

section Checks

variable {server : OAuthServer} {t : AuthTables}

theorem approvedScopes_ok {approved : Option (List String)} {requested scopes : List String}
    (h : approvedScopes approved requested = .ok scopes) (hPaired : PairedScopes requested) :
    scopes ⊆ requested ∧ PairedScopes scopes := by
  unfold approvedScopes at h
  split at h
  · obtain rfl := pure_eq_ok.mp h
    exact ⟨fun _ => id, hPaired⟩
  · simp only [requireScopeSubset, bind_eq_ok, require_eq_ok, pure_eq_ok] at h
    obtain ⟨_, hParsed, -, hSubset, rfl⟩ := h
    exact ⟨hSubset, parseRequestedScopes_ok hParsed⟩

theorem grantedScopes_ok {resource : Option String} {approved : Option (List String)}
    {requested scopes : List String} {active : ActiveBrowserSession}
    (h : grantedScopes server resource approved requested active = .ok scopes)
    (hPaired : PairedScopes requested) :
    scopes ⊆ requested ∧ scopes ⊆ active.scopes ∧ PairedScopes scopes := by
  simp only [grantedScopes, requireScopeSubset, bind_eq_ok, require_eq_ok, pure_eq_ok] at h
  obtain ⟨-, -, _, hApproved, -, hActive, -, -, rfl⟩ := h
  obtain ⟨hRequested, hPairs⟩ := approvedScopes_ok hApproved hPaired
  exact ⟨hRequested, hActive, hPairs⟩

theorem activeClient_ok {clientId : String} {client : OAuthClientRecord}
    (h : activeClient t clientId = .ok client) : t.client? clientId = some client := by
  simp only [activeClient, fetch_eq_ok, Option.filter_eq_some_iff] at h
  exact h.1

theorem validateAuthorizationRequest_ok {publicBaseUrl registered : String}
    {command : OAuthAuthorizeCommand} {client : OAuthClientRecord} {requested : List String}
    (h : validateAuthorizationRequest server publicBaseUrl t command
      = .ok (client, registered, requested)) :
    t.client? command.clientId = some client
      ∧ parseRequestedScopes command.scope = .ok requested ∧ requested ⊆ client.scopes := by
  simp only [validateAuthorizationRequest, requireScopeSubset, bind_eq_ok, require_eq_ok,
    pure_eq_ok, Prod.mk.injEq] at h
  obtain ⟨-, -, _, hClient, _, -, _, hParsed, -, hSubset, rfl, rfl, rfl⟩ := h
  exact ⟨activeClient_ok hClient, hParsed, hSubset⟩

theorem createAuthorization_ok {publicBaseUrl rawDeviceCode rawUserCode : String}
    {command : OAuthDeviceAuthorizeCommand} {now : Moment} {client : OAuthClientRecord}
    {grant : OAuthDeviceGrantRecord}
    (h : createAuthorization server publicBaseUrl t command rawDeviceCode rawUserCode now
      = .ok (client, grant)) :
    t.client? command.clientId = some client ∧ grant.clientId = command.clientId
      ∧ grant.deviceCodeHash = server.secretDigest rawDeviceCode
      ∧ grant.resource = some command.resource ∧ grant.status = .pending
      ∧ parseRequestedScopes command.scope = .ok grant.scopes
      ∧ grant.scopes ⊆ client.scopes := by
  simp only [createAuthorization, requireScopeSubset, bind_eq_ok, require_eq_ok,
    pure_eq_ok, Prod.mk.injEq] at h
  obtain ⟨_, hClient, -, -, _, hParsed, -, hSubset, rfl, rfl⟩ := h
  have hRow := activeClient_ok hClient
  exact ⟨hRow, client?_clientId hRow, rfl, rfl, rfl, hParsed, hSubset⟩

end Checks

/-! ## What a request can do -/

/-- The moves of a device grant. -/
inductive DeviceMove : DeviceStatus → DeviceStatus → Prop
  | approve : DeviceMove .pending .approved
  | consume : DeviceMove .approved .consumed
  | deny : DeviceMove .pending .denied
  | expirePending : DeviceMove .pending .expired
  | expireApproved : DeviceMove .approved .expired

theorem DeviceMove.ne_pending {status status' : DeviceStatus} (h : DeviceMove status status') :
    status' ≠ .pending := by
  cases h <;> nofun

/-- The columns of a device grant that no request changes. -/
def SameDevice (row row' : OAuthDeviceGrantRecord) : Prop :=
  row'.deviceCodeHash = row.deviceCodeHash ∧ row'.clientId = row.clientId
    ∧ row'.resource = row.resource ∧ row'.expiresAt = row.expiresAt

/-- The scopes stay as well, and the status stays or moves. -/
def DevicePolled (row row' : OAuthDeviceGrantRecord) : Prop :=
  SameDevice row row' ∧ row'.scopes = row.scopes
    ∧ (row'.status = row.status ∨ DeviceMove row.status row'.status)
    ∧ (row.status = .pending → row'.status ≠ .approved ∧ row'.status ≠ .consumed)

/-- Neither a grant nor a token comes of the answer. -/
def Silent (result : Except AuthFailure OAuthReply) : Prop :=
  (∃ failure, result = .error failure) ∨ result = .ok .codeDenied
    ∨ (∃ client, result = .ok (.registered client))
    ∨ ∃ deviceCodeHash, result = .ok (.deviceDenied deviceCodeHash)

/-- A request on the tables, with its answer, its writes and what it checked. -/
inductive ServedAs (server : OAuthServer) (t : AuthTables) :
    OAuthRequest → Except AuthFailure OAuthReply → List AuthWrite → Prop
  | quiet {request result} (hSilent : Silent result) : ServedAs server t request result []
  | registered {request client uris} :
      ServedAs server t request (.ok (.registered client)) [.addClient client uris]
  | codeApproved {base command active rawCode now client registered requested scopes}
      (hClient : t.client? command.clientId = some client)
      (hParsed : parseRequestedScopes command.scope = .ok requested)
      (hRegistered : requested ⊆ client.scopes) (hRequested : scopes ⊆ requested)
      (hActive : scopes ⊆ active.scopes) (hPaired : PairedScopes scopes) :
      ServedAs server t (.authorize base command active rawCode now)
        (.ok (.codeApproved (command.grant (server.secretDigest rawCode) registered
          active.userId scopes now) requested client active))
        [.addGrant (command.grant (server.secretDigest rawCode) registered active.userId
          scopes now)]
  | deviceRequested {base command rawDeviceCode rawUserCode now client grant}
      (hClient : t.client? command.clientId = some client)
      (hId : grant.clientId = command.clientId)
      (hHash : grant.deviceCodeHash = server.secretDigest rawDeviceCode)
      (hResource : grant.resource = some command.resource)
      (hPending : grant.status = .pending)
      (hParsed : parseRequestedScopes command.scope = .ok grant.scopes)
      (hRegistered : grant.scopes ⊆ client.scopes) :
      ServedAs server t (.deviceAuthorize base command rawDeviceCode rawUserCode now)
        (.ok (.deviceRequested grant client)) [.addDeviceGrant grant]
  | devicePolled {request result row row'} (hSilent : Silent result)
      (hRow : row ∈ t.deviceGrants) (hPolled : DevicePolled row row') :
      ServedAs server t request result [.setDeviceGrant row']
  | deviceApproved {command active now row scopes} (hRow : row ∈ t.deviceGrants)
      (hPending : row.status = .pending)
      (hChecked : PairedScopes row.scopes →
        scopes ⊆ row.scopes ∧ scopes ⊆ active.scopes ∧ PairedScopes scopes) :
      ServedAs server t (.decideDevice command active now)
        (.ok (.deviceApproved row scopes active))
        [.setDeviceGrant (row.approvedBy active.userId scopes now)]
  | codeUsed {request result codeHash now} (hSilent : Silent result) :
      ServedAs server t request result [.useGrant codeHash now]
  | codeIssued {base command now drawn grant pair} (hRow : grant ∈ t.grants)
      (hHash : grant.codeHash = server.secretDigest command.code)
      (hAccepted : grant.acceptedFor server command now)
      (hIssued : IssuedFor t grant.scopes .pkce grant.clientId command.resource
        drawn.familyId pair) :
      ServedAs server t (.exchangeCode base command now drawn) (.ok (.issued pair))
        (.useGrant grant.codeHash now :: pair.writes)
  | deviceIssued {base command now drawn row row' pair} (hRow : row ∈ t.deviceGrants)
      (hHash : row.deviceCodeHash = server.secretDigest command.deviceCode)
      (hClient : row.clientId = command.clientId)
      (hResource : row.resource = some command.resource) (hTime : now < row.expiresAt)
      (hApproved : row.status = .approved) (hSame : SameDevice row row')
      (hScopes : row'.scopes = row.scopes) (hConsumed : row'.status = .consumed)
      (hIssued : IssuedFor t row.scopes .device row.clientId command.resource
        drawn.familyId pair) :
      ServedAs server t (.exchangeDevice base command now drawn) (.ok (.issued pair))
        (.setDeviceGrant row' :: pair.writes)
  | revoked {request result writes} (hSilent : Silent result)
      (hRevocations : ∀ w ∈ writes, ∃ tokenHash revokedAt, w = .revoke tokenHash revokedAt) :
      ServedAs server t request result writes
  | refreshed {base command now drawn record familyId scopes pair}
      (hRow : record ∈ t.credentials)
      (hHash : record.tokenHash = server.secretDigest command.refreshToken)
      (hKind : record.authKind = .refreshToken)
      (hClient : record.oauthClientId = some command.clientId)
      (hScopes : scopes ⊆ record.scopes)
      (hPaired : PairedScopes record.scopes → PairedScopes scopes)
      (hIssued : IssuedFor t scopes .oauthRefresh command.clientId command.resource
        familyId pair) :
      ServedAs server t (.exchangeRefresh base command now drawn) (.ok (.issued pair))
        (.revoke record.tokenHash now :: pair.writes)

section Served

variable {server : OAuthServer} {t : AuthTables} {base : String} {now : Moment}
  {drawn : DrawnPair}

theorem silent_error (failure : AuthFailure) : Silent (.error failure) :=
  .inl ⟨failure, rfl⟩

theorem served_authorize (command : OAuthAuthorizeCommand) (active : ActiveBrowserSession)
    (rawCode : String) :
    ServedAs server t (.authorize base command active rawCode now)
      (serveAuthorize server base t command active rawCode now).result
      (serveAuthorize server base t command active rawCode now).writes := by
  unfold serveAuthorize
  split
  · exact .quiet (silent_error _)
  · next client registered requested hValid =>
    obtain ⟨hClient, hParsed, hRegistered⟩ := validateAuthorizationRequest_ok hValid
    split_ifs
    · exact .quiet (.inr (.inl rfl))
    · split
      · exact .quiet (silent_error _)
      · next scopes hGranted =>
        obtain ⟨hRequested, hActive, hPaired⟩ :=
          grantedScopes_ok hGranted (parseRequestedScopes_ok hParsed)
        exact .codeApproved hClient hParsed hRegistered hRequested hActive hPaired

theorem served_deviceAuthorize (command : OAuthDeviceAuthorizeCommand)
    (rawDeviceCode rawUserCode : String) :
    ServedAs server t (.deviceAuthorize base command rawDeviceCode rawUserCode now)
      (serveDeviceAuthorize server base t command rawDeviceCode rawUserCode now).result
      (serveDeviceAuthorize server base t command rawDeviceCode rawUserCode now).writes := by
  unfold serveDeviceAuthorize
  split
  · exact .quiet (silent_error _)
  · next client grant hCreated =>
    obtain ⟨hClient, hId, hHash, hResource, hPending, hParsed, hRegistered⟩ :=
      createAuthorization_ok hCreated
    exact .deviceRequested hClient hId hHash hResource hPending hParsed hRegistered

theorem served_decideDevice (command : DeviceApprovalCommand)
    (active : ActiveBrowserSession) :
    ServedAs server t (.decideDevice command active now)
      (serveDecideDevice server t command active now).result
      (serveDecideDevice server t command active now).writes := by
  unfold serveDecideDevice
  split
  · exact .quiet (silent_error _)
  · next row hPendingGrant =>
    simp only [pendingGrant, fetch_eq_ok, Option.filter_eq_some_iff] at hPendingGrant
    obtain ⟨hFound, hOpen⟩ := hPendingGrant
    have hRow := List.mem_of_find?_eq_some hFound
    obtain ⟨hPending, -⟩ := of_decide_eq_true hOpen
    split_ifs
    · refine .devicePolled (.inr (.inr (.inr ⟨_, rfl⟩))) hRow
        ⟨⟨rfl, rfl, rfl, rfl⟩, rfl, .inr ?_, fun _ => ⟨(fun h => by cases h), fun h => by cases h⟩⟩
      rw [hPending]
      exact .deny
    · split
      · exact .quiet (silent_error _)
      · next scopes hGranted =>
        exact .deviceApproved hRow hPending fun hPaired => grantedScopes_ok hGranted hPaired

theorem served_exchangeCode (command : OAuthAuthorizationCodeTokenCommand) :
    ServedAs server t (.exchangeCode base command now drawn)
      (exchangeCode server base t command now drawn).issued.result
      (exchangeCode server base t command now drawn).issued.writes := by
  unfold exchangeCode Answered.issued
  split
  · exact .quiet (silent_error _)
  · unfold exchangeLockedCode
    split
    · exact .quiet (silent_error _)
    · next grant hFound =>
      obtain ⟨hFound, hAccepted⟩ := Option.filter_eq_some_iff.mp hFound
      have hHash : grant.codeHash = server.secretDigest command.code := by
        simpa using List.find?_some hFound
      dsimp only
      cases hIssue : issueTokenPair server base t grant.actorSubjectId grant.scopes .pkce
        grant.clientId command.resource now none drawn with
      | error failure => exact .codeUsed (silent_error _)
      | ok pair =>
          exact .codeIssued (List.mem_of_find?_eq_some hFound) hHash
            (of_decide_eq_true hAccepted) (issueTokenPair_ok hIssue)

theorem devicePolled_polled {row row' : OAuthDeviceGrantRecord}
    (hSame : SameDevice row row') (hScopes : row'.scopes = row.scopes)
    (hStatus : row'.status = row.status) : DevicePolled row row' := by
  refine ⟨hSame, hScopes, .inl hStatus, fun hPending => ?_⟩
  rw [hStatus, hPending]
  exact ⟨nofun, nofun⟩

theorem served_exchangeApproved {row : OAuthDeviceGrantRecord}
    {command : OAuthDeviceTokenCommand} (hRow : row ∈ t.deviceGrants)
    (hHash : row.deviceCodeHash = server.secretDigest command.deviceCode)
    (hClient : row.clientId = command.clientId)
    (hResource : row.resource = some command.resource) (hTime : now < row.expiresAt)
    (hApproved : row.status = .approved) :
    ServedAs server t (.exchangeDevice base command now drawn)
      (exchangeApproved server base t row command now drawn).issued.result
      (exchangeApproved server base t row command now drawn).issued.writes := by
  unfold exchangeApproved Answered.issued
  split
  · next userId approvedAt _ _ =>
    dsimp only
    cases hIssue : issueTokenPair server base t userId row.scopes .device row.clientId
      command.resource now none drawn with
    | error failure =>
        refine .devicePolled (silent_error _) hRow
          ⟨⟨rfl, rfl, rfl, rfl⟩, rfl, .inr ?_, fun hPending => ?_⟩
        · rw [hApproved]
          exact .consume
        · exact absurd (hApproved.symm.trans hPending) nofun
    | ok pair =>
        exact .deviceIssued hRow hHash hClient hResource hTime hApproved
          ⟨rfl, rfl, rfl, rfl⟩ rfl rfl (issueTokenPair_ok hIssue)
  · exact .devicePolled (silent_error _) hRow
      (devicePolled_polled ⟨rfl, rfl, rfl, rfl⟩ rfl rfl)

theorem served_exchangeDevice (command : OAuthDeviceTokenCommand) :
    ServedAs server t (.exchangeDevice base command now drawn)
      (exchangeDevice server base t command now drawn).issued.result
      (exchangeDevice server base t command now drawn).issued.writes := by
  unfold exchangeDevice
  split
  · exact .quiet (silent_error _)
  · next row hFound =>
    obtain ⟨hFound, hOwn⟩ := Option.filter_eq_some_iff.mp hFound
    obtain ⟨hClient, hResource⟩ := of_decide_eq_true hOwn
    have hRow := List.mem_of_find?_eq_some hFound
    have hHash : row.deviceCodeHash = server.secretDigest command.deviceCode := by
      simpa using List.find?_some hFound
    unfold exchangeDeviceGrant
    split_ifs with hExpired hOpen hDenied hClosed hSoon hPending
    · refine .devicePolled (silent_error _) hRow
        ⟨⟨rfl, rfl, rfl, rfl⟩, rfl, .inr ?_, fun _ => ⟨nofun, nofun⟩⟩
      rcases hOpen with hStatus | hStatus <;> rw [hStatus]
      · exact .expirePending
      · exact .expireApproved
    · exact .quiet (silent_error _)
    · exact .quiet (silent_error _)
    · exact .devicePolled (silent_error _) hRow
        (devicePolled_polled ⟨rfl, rfl, rfl, rfl⟩ rfl rfl)
    · exact .devicePolled (silent_error _) hRow
        (devicePolled_polled ⟨rfl, rfl, rfl, rfl⟩ rfl rfl)
    · exact served_exchangeApproved hRow hHash hClient hResource (not_le.mp hExpired)
        (hClosed.resolve_left hPending)
    · exact .quiet (silent_error _)

theorem served_exchangeRefresh (command : OAuthRefreshTokenCommand) :
    ServedAs server t (.exchangeRefresh base command now drawn)
      (exchangeRefresh server base t command now drawn).issued.result
      (exchangeRefresh server base t command now drawn).issued.writes := by
  unfold exchangeRefresh
  split
  · exact .quiet (silent_error _)
  · next familyId _ =>
    unfold exchangeLockedRefresh
    split
    · exact .quiet (silent_error _)
    · next record hRecord =>
      obtain ⟨hFound, hKind, hClient, -, -, -⟩ := requireRefreshRecord_ok hRecord
      obtain ⟨hRow, hHash⟩ := credential?_ok hFound
      unfold rotateRecord
      split_ifs
      · exact .revoked (silent_error _) (revocations_revokeFamily t familyId now)
      · exact .revoked (silent_error _) fun w hMem => ⟨_, _, List.mem_singleton.mp hMem⟩
      · split
        · exact .quiet (silent_error _)
        · next scopes hRefreshed =>
          obtain ⟨hScopes, hPaired⟩ := refreshedScopes_ok hRefreshed
          unfold Answered.issued
          dsimp only
          cases hIssue : issueTokenPair server base t record.actorSubjectId scopes
            .oauthRefresh command.clientId command.resource now (some familyId) drawn with
          | error failure =>
              exact .revoked (silent_error _) fun w hMem => ⟨_, _, List.mem_singleton.mp hMem⟩
          | ok pair =>
              exact .refreshed hRow hHash hKind hClient hScopes hPaired
                (issueTokenPair_ok hIssue)

/-- Every request is served in one of these ways. -/
theorem serves_cases (request : OAuthRequest) :
    ServedAs server t request (serveOAuth server t request).result
      (serveOAuth server t request).writes := by
  cases request with
  | register command clientId =>
      show ServedAs server t _ (serveRegister server command clientId).result
        (serveRegister server command clientId).writes
      unfold serveRegister
      split
      · exact .quiet (silent_error _)
      · exact .registered
  | authorize base command active rawCode now => exact served_authorize command active rawCode
  | deviceAuthorize base command rawDeviceCode rawUserCode now =>
      exact served_deviceAuthorize command rawDeviceCode rawUserCode
  | decideDevice command active now => exact served_decideDevice command active
  | exchangeCode base command now drawn => exact served_exchangeCode command
  | exchangeDevice base command now drawn => exact served_exchangeDevice command
  | exchangeRefresh base command now drawn => exact served_exchangeRefresh command

end Served

/-! ## What is on record -/

inductive GrantKey
  | code (codeHash : SecretHash)
  | device (deviceCodeHash : SecretHash)
deriving DecidableEq

/-- The client, the scopes asked for, and those of the approving credential. -/
structure ScopeCeiling where
  client : OAuthClientRecord
  requested : List String
  approver : List String

def ScopeCeiling.Admits (c : ScopeCeiling) (scopes : List String) : Prop :=
  scopes ⊆ c.requested ∧ scopes ⊆ c.client.scopes ∧ scopes ⊆ c.approver
    ∧ PairedScopes scopes

theorem ScopeCeiling.Admits.narrowed {c : ScopeCeiling} {scopes narrowed : List String}
    (h : c.Admits scopes) (hNarrowed : narrowed ⊆ scopes) (hPaired : PairedScopes narrowed) :
    c.Admits narrowed :=
  ⟨fun _ hMem => h.1 (hNarrowed hMem), fun _ hMem => h.2.1 (hNarrowed hMem),
    fun _ hMem => h.2.2.1 (hNarrowed hMem), hPaired⟩

/-- A code grant, as an approval on record added it. -/
inductive CodeApproved (server : OAuthServer) (trace : List OAuthLabel)
    (grant : OAuthAuthorizationGrantRecord) : ScopeCeiling → Prop
  | intro {base command active rawCode now client registered requested scopes}
      (hMem : (.authorize base command active rawCode now, some (.ok (.codeApproved
        (command.grant (server.secretDigest rawCode) registered active.userId scopes now)
        requested client active))) ∈ trace)
      (hParsed : parseRequestedScopes command.scope = .ok requested)
      (hClient : client.clientId = command.clientId)
      (hGrant : { grant with usedAt := none } = command.grant (server.secretDigest rawCode)
        registered active.userId scopes now) :
      CodeApproved server trace grant ⟨client, requested, active.scopes⟩

/-- A device grant, as a request on record asked for it. -/
inductive DeviceRequested (trace : List OAuthLabel) (row : OAuthDeviceGrantRecord) :
    OAuthClientRecord → List String → Prop
  | intro {base command rawDeviceCode rawUserCode now client grant}
      (hMem : (.deviceAuthorize base command rawDeviceCode rawUserCode now,
        some (.ok (.deviceRequested grant client))) ∈ trace)
      (hParsed : parseRequestedScopes command.scope = .ok grant.scopes)
      (hClient : client.clientId = command.clientId) (hSame : SameDevice grant row) :
      DeviceRequested trace row client grant.scopes

/-- A device grant that an approval on record approved. -/
inductive DeviceApproved (trace : List OAuthLabel) (row : OAuthDeviceGrantRecord) :
    List String → Prop
  | intro {command active now pending scopes}
      (hMem : (.decideDevice command active now,
        some (.ok (.deviceApproved pending scopes active))) ∈ trace)
      (hSame : SameDevice pending row) : DeviceApproved trace row active.scopes

/-- A grant was asked for and approved below the ceiling. -/
inductive Approved (server : OAuthServer) (trace : List OAuthLabel) :
    GrantKey → ScopeCeiling → Prop
  | code {grant c} (h : CodeApproved server trace grant c) :
      Approved server trace (.code grant.codeHash) c
  | device {row client requested approver} (hRequested : DeviceRequested trace row client requested)
      (hApproved : DeviceApproved trace row approver) :
      Approved server trace (.device row.deviceCodeHash) ⟨client, requested, approver⟩

/-- The grant that a request was given tokens for. -/
def sourceOf (server : OAuthServer) : OAuthLabel → Option GrantKey
  | (.exchangeCode _ command _ _, some (.ok (.issued _))) =>
      some (.code (server.secretDigest command.code))
  | (.exchangeDevice _ command _ _, some (.ok (.issued _))) =>
      some (.device (server.secretDigest command.deviceCode))
  | _ => none

/-- The exchanges that were given tokens for a grant. -/
def exchangeCount (server : OAuthServer) (trace : List OAuthLabel) (key : GrantKey) : Nat :=
  trace.countP fun label => sourceOf server label = some key

/-- Tokens were issued for a grant that had been approved, in time, and to the
client it belongs to. -/
def IssuedRightly (server : OAuthServer) (before : List OAuthLabel) : OAuthLabel → Prop
  | (.exchangeCode _ command now _, some (.ok (.issued _))) =>
      ∃ grant c, CodeApproved server before grant c
        ∧ grant.codeHash = server.secretDigest command.code
        ∧ grant.acceptedFor server command now
  | (.exchangeDevice _ command now _, some (.ok (.issued _))) =>
      ∃ row client requested approver, DeviceRequested before row client requested
        ∧ DeviceApproved before row approver
        ∧ row.deviceCodeHash = server.secretDigest command.deviceCode
        ∧ row.clientId = command.clientId ∧ row.resource = some command.resource
        ∧ now < row.expiresAt
  | _ => True

/-- A token was rotated into another by a refresh on record. -/
inductive Refreshed (server : OAuthServer) (trace : List OAuthLabel) (t : AuthTables)
    (parent child : CredentialRecord) : Prop
  | intro {base command now drawn pair}
      (hMem : (.exchangeRefresh base command now drawn, some (.ok (.issued pair))) ∈ trace)
      (hParent : parent ∈ t.credentials)
      (hToken : parent.tokenHash = server.secretDigest command.refreshToken)
      (hChild : child ∈ t.credentials)
      (hIssued : RevokedOnly pair.access child ∨ RevokedOnly pair.refresh child) :
      Refreshed server trace t parent child

/-- The kinds of token that the server issues. -/
def AuthKind.Issued (kind : AuthKind) : Prop := kind ≠ .apiKey ∧ kind ≠ .browserSession

/-! ## The invariant -/

/-- A grant has given its tokens. -/
def Spent (t : AuthTables) : GrantKey → Prop
  | .code codeHash => ∃ grant ∈ t.grants, grant.codeHash = codeHash ∧ grant.usedAt ≠ none
  | .device deviceCodeHash =>
      ∃ row ∈ t.deviceGrants, row.deviceCodeHash = deviceCodeHash ∧ row.status = .consumed

/-- What is known of a device grant. -/
structure DeviceKnown (trace : List OAuthLabel) (t : AuthTables)
    (row : OAuthDeviceGrantRecord) (client : OAuthClientRecord) (requested : List String) :
    Prop where
  asked : DeviceRequested trace row client requested
  registration : t.client? row.clientId = some client
  registered : requested ⊆ client.scopes
  paired : PairedScopes requested
  pending : row.status = .pending → row.scopes = requested
  approved : row.status = .approved ∨ row.status = .consumed →
    ∃ approver, DeviceApproved trace row approver
      ∧ ScopeCeiling.Admits ⟨client, requested, approver⟩ row.scopes

/-- What is known of a token. -/
def TokenKnown (server : OAuthServer) (trace : List OAuthLabel) (t : AuthTables)
    (record : CredentialRecord) : Prop :=
  ∃ key c, Approved server trace key c ∧ c.Admits record.scopes
    ∧ record.oauthClientId = some c.client.clientId
    ∧ t.client? c.client.clientId = some c.client

/-- The tokens of a pair are on record. -/
def PairKept (t : AuthTables) (pair : TokenPair) : Prop :=
  (∃ a ∈ t.credentials, RevokedOnly pair.access a)
    ∧ ∃ r ∈ t.credentials, RevokedOnly pair.refresh r

structure OAuthBook (server : OAuthServer) (trace : List OAuthLabel) (t : AuthTables) :
    Prop where
  keyed : t.Keyed
  codes : ∀ grant ∈ t.grants, ∃ c, CodeApproved server trace grant c
    ∧ c.Admits grant.scopes ∧ t.client? grant.clientId = some c.client
  devices : ∀ row ∈ t.deviceGrants, ∃ client requested,
    DeviceKnown trace t row client requested
  tokens : ∀ record ∈ t.credentials, record.authKind.Issued →
    TokenKnown server trace t record
  kept : ∀ request pair, (request, some (.ok (.issued pair))) ∈ trace → PairKept t pair
  narrowed : ∀ base command now drawn pair,
    (.exchangeRefresh base command now drawn, some (.ok (.issued pair))) ∈ trace →
      ∃ parent ∈ t.credentials, parent.tokenHash = server.secretDigest command.refreshToken
        ∧ pair.access.scopes ⊆ parent.scopes ∧ pair.refresh.scopes ⊆ parent.scopes
  spent : ∀ key, 0 < exchangeCount server trace key → Spent t key
  once : ∀ key, exchangeCount server trace key ≤ 1

/-! ## The invariant is kept -/

section Monotone

variable {server : OAuthServer} {trace : List OAuthLabel} {label : OAuthLabel}
  {t t' : AuthTables}

theorem CodeApproved.mono {g g' : OAuthAuthorizationGrantRecord} {c : ScopeCeiling}
    (h : CodeApproved server trace g c) (hOnly : UsedOnly g g') :
    CodeApproved server (trace ++ [label]) g' c := by
  obtain ⟨hMem, hParsed, hClient, hGrant⟩ := h
  refine .intro (List.mem_append_left _ hMem) hParsed hClient ?_
  rw [hOnly.1]
  exact hGrant

theorem SameDevice.trans {row₁ row₂ row₃ : OAuthDeviceGrantRecord}
    (h₁ : SameDevice row₁ row₂) (h₂ : SameDevice row₂ row₃) : SameDevice row₁ row₃ :=
  ⟨h₂.1.trans h₁.1, h₂.2.1.trans h₁.2.1, h₂.2.2.1.trans h₁.2.2.1,
    h₂.2.2.2.trans h₁.2.2.2⟩

theorem DeviceRequested.mono {row row' : OAuthDeviceGrantRecord} {client : OAuthClientRecord}
    {requested : List String} (h : DeviceRequested trace row client requested)
    (hSame : SameDevice row row') :
    DeviceRequested (trace ++ [label]) row' client requested := by
  obtain ⟨hMem, hParsed, hClient, hGrant⟩ := h
  exact .intro (List.mem_append_left _ hMem) hParsed hClient (hGrant.trans hSame)

theorem DeviceApproved.mono {row row' : OAuthDeviceGrantRecord} {approver : List String}
    (h : DeviceApproved trace row approver) (hSame : SameDevice row row') :
    DeviceApproved (trace ++ [label]) row' approver := by
  obtain ⟨hMem, hPending⟩ := h
  exact .intro (List.mem_append_left _ hMem) (hPending.trans hSame)

theorem SameDevice.refl (row : OAuthDeviceGrantRecord) : SameDevice row row :=
  ⟨rfl, rfl, rfl, rfl⟩

theorem Approved.mono {key : GrantKey} {c : ScopeCeiling}
    (h : Approved server trace key c) : Approved server (trace ++ [label]) key c := by
  cases h with
  | code h => exact .code (h.mono (.refl _))
  | device hRequested hApproved =>
      exact .device (hRequested.mono (.refl _)) (hApproved.mono (.refl _))

theorem TokenKnown.mono {writes : List AuthWrite} {r r' : CredentialRecord}
    (h : TokenKnown server trace t r) (hOnly : RevokedOnly r r')
    (hWrites : t.writeAll writes = .ok t') :
    TokenKnown server (trace ++ [label]) t' r' := by
  obtain ⟨key, c, hApproved, hAdmits, hClient, hRow⟩ := h
  refine ⟨key, c, hApproved.mono, ?_, ?_, client?_writeAll hRow hWrites⟩
  · rw [hOnly.1]
    exact hAdmits
  · rw [hOnly.1]
    exact hClient

theorem DeviceKnown.mono {writes : List AuthWrite} {row : OAuthDeviceGrantRecord}
    {client : OAuthClientRecord} {requested : List String}
    (h : DeviceKnown trace t row client requested) (hWrites : t.writeAll writes = .ok t') :
    DeviceKnown (trace ++ [label]) t' row client requested where
  asked := h.asked.mono (.refl row)
  registration := client?_writeAll h.registration hWrites
  registered := h.registered
  paired := h.paired
  pending := h.pending
  approved hStatus := by
    obtain ⟨approver, hApproved, hAdmits⟩ := h.approved hStatus
    exact ⟨approver, hApproved.mono (.refl row), hAdmits⟩

/-- A poll keeps what is known of a grant. -/
theorem DeviceKnown.polled {row row' : OAuthDeviceGrantRecord} {client : OAuthClientRecord}
    {requested : List String} (h : DeviceKnown trace t row client requested)
    (hPolled : DevicePolled row row') : DeviceKnown trace t row' client requested := by
  obtain ⟨hSame, hScopes, hMove, hOpen⟩ := hPolled
  refine
    { asked := ?_
      registration := by rw [hSame.2.1]; exact h.registration
      registered := h.registered
      paired := h.paired
      pending := ?_
      approved := ?_ }
  · obtain ⟨hMem, hParsed, hClient, hGrant⟩ := h.asked
    exact .intro hMem hParsed hClient (hGrant.trans hSame)
  · intro hPending
    rw [hScopes]
    refine h.pending ?_
    rcases hMove with hStatus | hMove
    · rw [← hStatus, hPending]
    · exact absurd hPending hMove.ne_pending
  · intro hStatus
    have hOld : row.status = .approved ∨ row.status = .consumed := by
      rcases hMove with hKept | hMove
      · rwa [hKept] at hStatus
      · rcases hOld : row.status with _ | _ | _ | _ | _
        · obtain ⟨hApproved, hConsumed⟩ := hOpen hOld
          rcases hStatus with hStatus | hStatus
          · exact absurd hStatus hApproved
          · exact absurd hStatus hConsumed
        · exact .inl rfl
        · rw [hOld] at hMove
          exact nomatch hMove
        · exact .inr rfl
        · rw [hOld] at hMove
          exact nomatch hMove
    obtain ⟨approver, hApproved, hAdmits⟩ := h.approved hOld
    refine ⟨approver, ?_, by rwa [hScopes]⟩
    obtain ⟨hMem, hPending⟩ := hApproved
    exact .intro hMem (hPending.trans hSame)

theorem exchangeCount_append (key : GrantKey) :
    exchangeCount server (trace ++ [label]) key
      = exchangeCount server trace key
        + if sourceOf server label = some key then 1 else 0 := by
  unfold exchangeCount
  rw [List.countP_append, List.countP_singleton]
  simp only [decide_eq_true_eq]

end Monotone

section Step

variable {server : OAuthServer} {trace : List OAuthLabel} {t t' : AuthTables}
  {request : OAuthRequest} {result : Except AuthFailure OAuthReply}
  {writes : List AuthWrite}

/-- An answer that is no pair of tokens. -/
def NotIssued (result : Except AuthFailure OAuthReply) : Prop :=
  ∀ pair, result ≠ .ok (.issued pair)

theorem Silent.notIssued (h : Silent result) : NotIssued result := by
  intro pair hIssued
  rw [hIssued] at h
  rcases h with ⟨_, h⟩ | h | ⟨_, h⟩ | ⟨_, h⟩ <;> exact nomatch h

theorem sourceOf_notIssued (h : NotIssued result) :
    sourceOf server (request, some result) = none := by
  unfold sourceOf
  split
  · next hLabel =>
    obtain ⟨-, hResult⟩ := Prod.mk.inj hLabel
    exact absurd (Option.some.inj hResult) (h _)
  · next hLabel =>
    obtain ⟨-, hResult⟩ := Prod.mk.inj hLabel
    exact absurd (Option.some.inj hResult) (h _)
  · rfl

theorem PairKept.writeAll {pair : TokenPair} (h : PairKept t pair)
    (hWrites : t.writeAll writes = .ok t') : PairKept t' pair := by
  obtain ⟨⟨a, hA, hAccess⟩, r, hR, hRefresh⟩ := h
  obtain ⟨hRows, -, -⟩ := rows_writeAll hWrites
  obtain ⟨a', hA', hOnlyA, -⟩ := credential_kept writes hA
  obtain ⟨r', hR', hOnlyR, -⟩ := credential_kept writes hR
  rw [← hRows] at hA' hR'
  exact ⟨⟨a', hA', hAccess.trans hOnlyA⟩, r', hR', hRefresh.trans hOnlyR⟩

theorem codes_served (hBook : OAuthBook server trace t)
    (hServed : ServedAs server t request result writes)
    (hWrites : t.writeAll writes = .ok t') :
    ∀ grant ∈ t'.grants, ∃ c, CodeApproved server (trace ++ [(request, some result)]) grant c
      ∧ c.Admits grant.scopes ∧ t'.client? grant.clientId = some c.client := by
  intro g' hMem
  rw [(rows_writeAll hWrites).2.1] at hMem
  rcases grant_from hMem with ⟨g, hOld, hOnly⟩ | ⟨g, hAdded, hOnly⟩
  · obtain ⟨c, hApproved, hAdmits, hClient⟩ := hBook.codes g hOld
    refine ⟨c, hApproved.mono hOnly, ?_, ?_⟩
    · rw [hOnly.1]
      exact hAdmits
    · rw [hOnly.1]
      exact client?_writeAll hClient hWrites
  · cases hServed with
    | codeApproved hClient hParsed hRegistered hRequested hActive hPaired =>
        obtain rfl := AuthWrite.addGrant.inj (List.mem_singleton.mp hAdded)
        refine ⟨_, .intro (List.mem_append_right _ (List.mem_singleton_self _)) hParsed
          (client?_clientId hClient) ?_, ?_, ?_⟩
        · rw [hOnly.1]
          rfl
        · rw [hOnly.1]
          exact ⟨hRequested, fun _ h => hRegistered (hRequested h), hActive, hPaired⟩
        · rw [hOnly.1]
          exact client?_writeAll hClient hWrites
    | revoked hSilent hRevocations =>
        obtain ⟨_, _, hRevoke⟩ := hRevocations _ hAdded
        exact nomatch hRevoke
    | _ => simp [TokenPair.writes] at hAdded

theorem devices_served (hBook : OAuthBook server trace t)
    (hServed : ServedAs server t request result writes)
    (hWrites : t.writeAll writes = .ok t') :
    ∀ row ∈ t'.deviceGrants, ∃ client requested,
      DeviceKnown (trace ++ [(request, some result)]) t' row client requested := by
  intro row' hMem
  rw [(rows_writeAll hWrites).2.2] at hMem
  rcases deviceGrant_from hMem with hOld | hAdded | hSet
  · obtain ⟨client, requested, hKnown⟩ := hBook.devices row' hOld
    exact ⟨client, requested, hKnown.mono hWrites⟩
  · cases hServed with
    | @deviceRequested base command rawDeviceCode rawUserCode now client grant hClient hId
        hHash hResource hPending hParsed hRegistered =>
        obtain rfl := AuthWrite.addDeviceGrant.inj (List.mem_singleton.mp hAdded)
        refine ⟨client, row'.scopes,
          { asked := .intro (List.mem_append_right _ (List.mem_singleton_self _)) hParsed
              (client?_clientId hClient) (.refl row')
            registration := ?_
            registered := hRegistered
            paired := parseRequestedScopes_ok hParsed
            pending := fun _ => rfl
            approved := ?_ }⟩
        · rw [hId]
          exact client?_writeAll hClient hWrites
        · rw [hPending]
          rintro (hStatus | hStatus) <;> cases hStatus
    | revoked hSilent hRevocations =>
        obtain ⟨_, _, hRevoke⟩ := hRevocations _ hAdded
        cases hRevoke
    | _ => simp [TokenPair.writes] at hAdded
  · cases hServed with
    | @devicePolled request result row row'' hSilent hRow hPolled =>
        obtain rfl := AuthWrite.setDeviceGrant.inj (List.mem_singleton.mp hSet)
        obtain ⟨client, requested, hKnown⟩ := hBook.devices row hRow
        exact ⟨client, requested, (hKnown.mono hWrites).polled hPolled⟩
    | @deviceApproved command active now row scopes hRow hPending hChecked =>
        obtain rfl := AuthWrite.setDeviceGrant.inj (List.mem_singleton.mp hSet)
        obtain ⟨client, requested, hKnown⟩ := hBook.devices row hRow
        have hSame : SameDevice row (row.approvedBy active.userId scopes now) :=
          ⟨rfl, rfl, rfl, rfl⟩
        have hScopes := hKnown.pending hPending
        obtain ⟨hRequested, hActive, hPaired⟩ := hChecked (hScopes ▸ hKnown.paired)
        rw [hScopes] at hRequested
        refine ⟨client, requested,
          { asked := hKnown.asked.mono hSame
            registration := client?_writeAll hKnown.registration hWrites
            registered := hKnown.registered
            paired := hKnown.paired
            pending := (by intros; contradiction)
            approved := fun _ => ⟨active.scopes,
              .intro (List.mem_append_right _ (List.mem_singleton_self _)) hSame,
              hRequested, fun _ h => hKnown.registered (hRequested h), hActive, hPaired⟩ }⟩
    | @deviceIssued base command now drawn row row'' pair hRow hHash hClient hResource hTime
        hApproved hSame hScopes hConsumed hIssued =>
        have hRow' : row' = row'' := by simpa [TokenPair.writes] using hSet
        subst hRow'
        obtain ⟨client, requested, hKnown⟩ := hBook.devices row hRow
        refine ⟨client, requested, (hKnown.mono hWrites).polled ⟨hSame, hScopes, .inr ?_,
          fun hPending => absurd (hApproved.symm.trans hPending) fun h => by cases h⟩⟩
        rw [hApproved, hConsumed]
        exact .consume
    | revoked hSilent hRevocations =>
        obtain ⟨_, _, hRevoke⟩ := hRevocations _ hSet
        cases hRevoke
    | _ => simp [TokenPair.writes] at hSet

/-- What is known of the rows of a new pair. -/
theorem tokenKnown_issued {scopes : List String} {kind : AuthKind} {clientId resource : String}
    {familyId : UUID} {pair : TokenPair} {key : GrantKey} {c : ScopeCeiling}
    (hIssued : IssuedFor t scopes kind clientId resource familyId pair)
    (hApproved : Approved server trace key c) (hAdmits : c.Admits scopes)
    (hClient : t.client? clientId = some c.client) {r : CredentialRecord}
    (hPair : r = pair.access ∨ r = pair.refresh) : TokenKnown server trace t r := by
  have hId := client?_clientId hClient
  rw [← hId] at hClient
  obtain ⟨hScopes, hOwner, -⟩ := hIssued.access
  obtain ⟨hScopes', hOwner', -⟩ := hIssued.refresh
  rcases hPair with rfl | rfl
  · exact ⟨key, c, hApproved, hScopes ▸ hAdmits, by rw [hOwner, hId], hClient⟩
  · exact ⟨key, c, hApproved, hScopes' ▸ hAdmits, by rw [hOwner', hId], hClient⟩

theorem tokens_served (hBook : OAuthBook server trace t)
    (hServed : ServedAs server t request result writes)
    (hWrites : t.writeAll writes = .ok t') :
    ∀ record ∈ t'.credentials, record.authKind.Issued →
      TokenKnown server (trace ++ [(request, some result)]) t' record := by
  intro r' hMem hKind
  rw [(rows_writeAll hWrites).1] at hMem
  rcases credential_from hMem with ⟨r, hOld, hOnly⟩ | ⟨r, hAdded, hOnly⟩
  · rw [hOnly.1] at hKind
    exact (hBook.tokens r hOld hKind).mono hOnly hWrites
  · refine TokenKnown.mono ?_ hOnly hWrites
    cases hServed with
    | @codeIssued base command now drawn grant pair hRow hHash hAccepted hIssued =>
        rcases List.mem_cons.mp hAdded with hHead | hPair
        · exact nomatch hHead
        · obtain ⟨c, hApproved, hAdmits, hClient⟩ := hBook.codes grant hRow
          exact tokenKnown_issued hIssued (.code hApproved) hAdmits hClient
            (addCredential_mem_pair hPair)
    | @deviceIssued base command now drawn row row' pair hRow hHash hClient hResource hTime
        hApproved hSame hScopes hConsumed hIssued =>
        rcases List.mem_cons.mp hAdded with hHead | hPair
        · exact nomatch hHead
        · obtain ⟨client, requested, hKnown⟩ := hBook.devices row hRow
          obtain ⟨approver, hGranted, hAdmits⟩ := hKnown.approved (.inl hApproved)
          exact tokenKnown_issued hIssued (.device hKnown.asked hGranted) hAdmits
            hKnown.registration (addCredential_mem_pair hPair)
    | @refreshed base command now drawn record familyId scopes pair hRow hHash hKindRefresh
        hClient hScopes hPaired hIssued =>
        rcases List.mem_cons.mp hAdded with hHead | hPair
        · exact nomatch hHead
        · have hRefresh : record.authKind.Issued := by rw [hKindRefresh]; exact ⟨nofun, nofun⟩
          obtain ⟨key, c, hApproved, hAdmits, hOwner, hFound⟩ :=
            hBook.tokens record hRow hRefresh
          have hId : c.client.clientId = command.clientId :=
            Option.some.inj (hOwner.symm.trans hClient)
          exact tokenKnown_issued hIssued hApproved
            (hAdmits.narrowed hScopes (hPaired hAdmits.2.2.2)) (hId ▸ hFound)
            (addCredential_mem_pair hPair)
    | revoked hSilent hRevocations =>
        obtain ⟨_, _, hRevoke⟩ := hRevocations _ hAdded
        exact nomatch hRevoke
    | _ => simp at hAdded

/-- A pair that is answered has been written. -/
theorem pair_written {pair : TokenPair}
    (hServed : ServedAs server t request (.ok (.issued pair)) writes) :
    .addCredential pair.access ∈ writes ∧ .addCredential pair.refresh ∈ writes := by
  cases hServed with
  | quiet hSilent => exact absurd rfl (hSilent.notIssued pair)
  | devicePolled hSilent hRow hPolled => exact absurd rfl (hSilent.notIssued pair)
  | codeUsed hSilent => exact absurd rfl (hSilent.notIssued pair)
  | revoked hSilent hRevocations => exact absurd rfl (hSilent.notIssued pair)
  | codeIssued hRow hHash hAccepted hIssued => simp [TokenPair.writes]
  | deviceIssued hRow hHash hClient hResource hTime hApproved hSame hScopes hConsumed hIssued =>
      simp [TokenPair.writes]
  | refreshed hRow hHash hKind hClient hScopes hPaired hIssued => simp [TokenPair.writes]

theorem kept_served (hBook : OAuthBook server trace t)
    (hServed : ServedAs server t request result writes)
    (hWrites : t.writeAll writes = .ok t') {other : OAuthRequest} {pair : TokenPair}
    (hMem : (other, some (.ok (.issued pair))) ∈ trace ++ [(request, some result)]) :
    PairKept t' pair := by
  rcases List.mem_append.mp hMem with hOld | hNew
  · exact (hBook.kept other pair hOld).writeAll hWrites
  · obtain ⟨rfl, hResult⟩ := Prod.mk.inj (List.mem_singleton.mp hNew)
    obtain rfl := Option.some.inj hResult
    obtain ⟨hAccess, hRefresh⟩ := pair_written hServed
    unfold PairKept
    rw [(rows_writeAll hWrites).1]
    exact ⟨credential_added hAccess, credential_added hRefresh⟩

theorem narrowed_served (hBook : OAuthBook server trace t)
    (hServed : ServedAs server t request result writes)
    (hWrites : t.writeAll writes = .ok t') {base : String}
    {command : OAuthRefreshTokenCommand} {now : Moment} {drawn : DrawnPair} {pair : TokenPair}
    (hMem : (.exchangeRefresh base command now drawn, some (.ok (.issued pair)))
      ∈ trace ++ [(request, some result)]) :
    ∃ parent ∈ t'.credentials, parent.tokenHash = server.secretDigest command.refreshToken
      ∧ pair.access.scopes ⊆ parent.scopes ∧ pair.refresh.scopes ⊆ parent.scopes := by
  have hParent : ∃ parent ∈ t.credentials,
      parent.tokenHash = server.secretDigest command.refreshToken
        ∧ pair.access.scopes ⊆ parent.scopes ∧ pair.refresh.scopes ⊆ parent.scopes := by
    rcases List.mem_append.mp hMem with hOld | hNew
    · exact hBook.narrowed base command now drawn pair hOld
    · obtain ⟨rfl, hResult⟩ := Prod.mk.inj (List.mem_singleton.mp hNew)
      obtain rfl := Option.some.inj hResult
      cases hServed with
      | quiet hSilent => exact absurd rfl (hSilent.notIssued pair)
      | devicePolled hSilent hRow hPolled => exact absurd rfl (hSilent.notIssued pair)
      | codeUsed hSilent => exact absurd rfl (hSilent.notIssued pair)
      | revoked hSilent hRevocations => exact absurd rfl (hSilent.notIssued pair)
      | refreshed hRow hHash hKind hClient hScopes hPaired hIssued =>
          exact ⟨_, hRow, hHash, hIssued.access.1 ▸ hScopes, hIssued.refresh.1 ▸ hScopes⟩
  obtain ⟨parent, hRow, hHash, hAccess, hRefresh⟩ := hParent
  obtain ⟨parent', hRow', hOnly, -⟩ := credential_kept writes hRow
  rw [← (rows_writeAll hWrites).1] at hRow'
  refine ⟨parent', hRow', hOnly.tokenHash.trans hHash, ?_, ?_⟩
  · rw [hOnly.1]
    exact hAccess
  · rw [hOnly.1]
    exact hRefresh

theorem spent_served (hKeyed : t.Keyed) (hServed : ServedAs server t request result writes)
    (hWrites : t.writeAll writes = .ok t') {key : GrantKey} (hSpent : Spent t key) :
    Spent t' key := by
  obtain ⟨-, hGrants, hDevices⟩ := rows_writeAll hWrites
  cases key with
  | code codeHash =>
      obtain ⟨g, hMem, rfl, hUsed⟩ := hSpent
      obtain ⟨g', hMem', hOnly, -⟩ := grant_kept writes hMem
      rw [← hGrants] at hMem'
      exact ⟨g', hMem', hOnly.codeHash, hOnly.2 hUsed⟩
  | device deviceCodeHash =>
      obtain ⟨row, hMem, rfl, hConsumed⟩ := hSpent
      rcases deviceGrant_kept writes hMem with hKept | ⟨row', hMem', hSet, hHash⟩
      · rw [← hDevices] at hKept
        exact ⟨row, hKept, rfl, hConsumed⟩
      · rw [← hDevices] at hMem'
        refine ⟨row', hMem', hHash, ?_⟩
        cases hServed with
        | @devicePolled request result row₀ row₁ hSilent hRow hPolled =>
            obtain rfl := AuthWrite.setDeviceGrant.inj (List.mem_singleton.mp hSet)
            obtain ⟨hSame, -, hMove, -⟩ := hPolled
            obtain rfl := hKeyed.deviceGrant_eq hRow hMem (hSame.1.symm.trans hHash)
            rcases hMove with hStatus | hMove
            · rw [hStatus, hConsumed]
            · rw [hConsumed] at hMove
              cases hMove
        | @deviceApproved command active now row₀ scopes hRow hPending hChecked =>
            obtain rfl := AuthWrite.setDeviceGrant.inj (List.mem_singleton.mp hSet)
            obtain rfl := hKeyed.deviceGrant_eq hRow hMem hHash
            exact absurd (hPending.symm.trans hConsumed) fun h => by cases h
        | @deviceIssued base command now drawn row₀ row₁ pair hRow hDigest hClient hResource
            hTime hApproved hSame hScopes hDone hIssued =>
            have hRow' : row' = row₁ := by simpa [TokenPair.writes] using hSet
            rw [hRow', hDone]
        | revoked hSilent hRevocations =>
            obtain ⟨_, _, hRevoke⟩ := hRevocations _ hSet
            cases hRevoke
        | _ => simp [TokenPair.writes] at hSet

/-- Tokens are given for a grant that has given none, and spend it. -/
theorem spent_issued (hKeyed : t.Keyed) (hServed : ServedAs server t request result writes)
    (hWrites : t.writeAll writes = .ok t') {key : GrantKey}
    (hSource : sourceOf server (request, some result) = some key) :
    ¬Spent t key ∧ Spent t' key := by
  obtain ⟨-, hGrants, hDevices⟩ := rows_writeAll hWrites
  cases hServed with
  | quiet hSilent => exact nomatch (sourceOf_notIssued hSilent.notIssued).symm.trans hSource
  | @registered request client uris => cases request <;> exact nomatch hSource
  | codeApproved hClient hParsed hRegistered hRequested hActive hPaired => exact nomatch hSource
  | deviceRequested hClient hId hHash hResource hPending hParsed hRegistered =>
      exact nomatch hSource
  | devicePolled hSilent hRow hPolled =>
      exact nomatch (sourceOf_notIssued hSilent.notIssued).symm.trans hSource
  | deviceApproved hRow hPending hChecked => exact nomatch hSource
  | codeUsed hSilent =>
      exact nomatch (sourceOf_notIssued hSilent.notIssued).symm.trans hSource
  | revoked hSilent hRevocations =>
      exact nomatch (sourceOf_notIssued hSilent.notIssued).symm.trans hSource
  | refreshed hRow hHash hKind hClient hScopes hPaired hIssued => exact nomatch hSource
  | @codeIssued base command now drawn grant pair hRow hHash hAccepted hIssued =>
      obtain rfl := Option.some.inj hSource
      constructor
      · rintro ⟨g, hMem, hSame, hUsed⟩
        obtain rfl := hKeyed.grant_eq hMem hRow (hSame.trans hHash.symm)
        exact hUsed hAccepted.1
      · obtain ⟨g', hMem', hOnly, hUsed⟩ :=
          grant_kept (.useGrant grant.codeHash now :: pair.writes) hRow
        rw [← hGrants] at hMem'
        exact ⟨g', hMem', hOnly.codeHash.trans hHash, hUsed now List.mem_cons_self⟩
  | @deviceIssued base command now drawn row row' pair hRow hHash hClient hResource hTime
      hApproved hSame hScopes hConsumed hIssued =>
      obtain rfl := Option.some.inj hSource
      constructor
      · rintro ⟨other, hMem, hOther, hDone⟩
        obtain rfl := hKeyed.deviceGrant_eq hMem hRow (hOther.trans hHash.symm)
        exact absurd (hApproved.symm.trans hDone) nofun
      · refine ⟨row', ?_, hSame.1.trans hHash, hConsumed⟩
        rw [hDevices]
        exact List.mem_map.mpr ⟨row, hRow, if_pos hSame.1.symm⟩

theorem OAuthBook.committed (hBook : OAuthBook server trace t)
    (hServed : ServedAs server t request result writes)
    (hWrites : t.writeAll writes = .ok t') :
    OAuthBook server (trace ++ [(request, some result)]) t' where
  keyed := hBook.keyed.writeAll hWrites
  codes := codes_served hBook hServed hWrites
  devices := devices_served hBook hServed hWrites
  tokens := tokens_served hBook hServed hWrites
  kept _ _ hMem := kept_served hBook hServed hWrites hMem
  narrowed _ _ _ _ _ hMem := narrowed_served hBook hServed hWrites hMem
  spent key hCount := by
    rw [exchangeCount_append] at hCount
    split_ifs at hCount with hSource
    · exact (spent_issued hBook.keyed hServed hWrites hSource).2
    · exact spent_served hBook.keyed hServed hWrites (hBook.spent key hCount)
  once key := by
    rw [exchangeCount_append]
    split_ifs with hSource
    · have hFresh := (spent_issued hBook.keyed hServed hWrites hSource).1
      have hZero : exchangeCount server trace key = 0 :=
        Nat.eq_zero_of_not_pos fun hPos => hFresh (hBook.spent key hPos)
      omega
    · exact hBook.once key

theorem OAuthBook.rolledBack (hBook : OAuthBook server trace t) :
    OAuthBook server (trace ++ [(request, none)]) t where
  keyed := hBook.keyed
  codes grant hMem := by
    obtain ⟨c, hApproved, hAdmits, hClient⟩ := hBook.codes grant hMem
    exact ⟨c, hApproved.mono (.refl grant), hAdmits, hClient⟩
  devices row hMem := by
    obtain ⟨client, requested, hKnown⟩ := hBook.devices row hMem
    exact ⟨client, requested, hKnown.mono (writeAll_nil.mpr rfl)⟩
  tokens record hMem hKind :=
    (hBook.tokens record hMem hKind).mono (.refl record) (writeAll_nil.mpr rfl)
  kept other pair hMem := by
    rcases List.mem_append.mp hMem with hOld | hNew
    · exact hBook.kept other pair hOld
    · exact nomatch (Prod.mk.inj (List.mem_singleton.mp hNew)).2
  narrowed base command now drawn pair hMem := by
    rcases List.mem_append.mp hMem with hOld | hNew
    · exact hBook.narrowed base command now drawn pair hOld
    · exact nomatch (Prod.mk.inj (List.mem_singleton.mp hNew)).2
  spent key hCount := by
    rw [exchangeCount_append, if_neg (by simp [sourceOf])] at hCount
    exact hBook.spent key hCount
  once key := by
    rw [exchangeCount_append, if_neg (by simp [sourceOf])]
    exact hBook.once key

/-- What a step does to the device grants. -/
def DeviceStep (t t' : AuthTables) : Prop :=
  (∀ row ∈ t.deviceGrants, ∃ row' ∈ t'.deviceGrants, row'.deviceCodeHash = row.deviceCodeHash
    ∧ (row'.status = row.status ∨ DeviceMove row.status row'.status))
  ∧ ∀ row' ∈ t'.deviceGrants, row'.deviceCodeHash ∈ t.deviceGrants.map (·.deviceCodeHash)
    ∨ row'.status = .pending

theorem deviceStep_served (hKeyed : t.Keyed)
    (hServed : ServedAs server t request result writes)
    (hWrites : t.writeAll writes = .ok t') : DeviceStep t t' := by
  obtain ⟨-, -, hDevices⟩ := rows_writeAll hWrites
  -- a write of a device grant replaces the row that it was computed from
  have hMoved : ∀ row', .setDeviceGrant row' ∈ writes → ∃ row ∈ t.deviceGrants,
      row'.deviceCodeHash = row.deviceCodeHash
        ∧ (row'.status = row.status ∨ DeviceMove row.status row'.status) := by
    intro row' hSet
    cases hServed with
    | @devicePolled request result row row'' hSilent hRow hPolled =>
        obtain rfl := AuthWrite.setDeviceGrant.inj (List.mem_singleton.mp hSet)
        exact ⟨row, hRow, hPolled.1.1, hPolled.2.2.1⟩
    | @deviceApproved command active now row scopes hRow hPending hChecked =>
        obtain rfl := AuthWrite.setDeviceGrant.inj (List.mem_singleton.mp hSet)
        refine ⟨row, hRow, rfl, .inr ?_⟩
        rw [hPending]
        exact .approve
    | @deviceIssued base command now drawn row row'' pair hRow hHash hClient hResource hTime
        hApproved hSame hScopes hConsumed hIssued =>
        have hRow' : row' = row'' := by simpa [TokenPair.writes] using hSet
        subst hRow'
        refine ⟨row, hRow, hSame.1, .inr ?_⟩
        rw [hApproved, hConsumed]
        exact .consume
    | revoked hSilent hRevocations =>
        obtain ⟨_, _, hRevoke⟩ := hRevocations _ hSet
        cases hRevoke
    | _ => simp [TokenPair.writes] at hSet
  unfold DeviceStep
  rw [hDevices]
  constructor
  · intro row hRow
    rcases deviceGrant_kept writes hRow with hKept | ⟨row', hMem', hSet, hHash⟩
    · exact ⟨row, hKept, rfl, .inl rfl⟩
    · obtain ⟨row₀, hRow₀, hHash₀, hMove⟩ := hMoved row' hSet
      obtain rfl := hKeyed.deviceGrant_eq hRow₀ hRow (hHash₀.symm.trans hHash)
      exact ⟨row', hMem', hHash, hMove⟩
  · intro row' hMem'
    rcases deviceGrant_from hMem' with hOld | hAdded | hSet
    · exact .inl (List.mem_map_of_mem hOld)
    · right
      cases hServed with
      | deviceRequested hClient hId hHash hResource hPending hParsed hRegistered =>
          obtain rfl := AuthWrite.addDeviceGrant.inj (List.mem_singleton.mp hAdded)
          exact hPending
      | revoked hSilent hRevocations =>
          obtain ⟨_, _, hRevoke⟩ := hRevocations _ hAdded
          cases hRevoke
      | _ => simp [TokenPair.writes] at hAdded
    · obtain ⟨row, hRow, hHash, -⟩ := hMoved row' hSet
      rw [hHash]
      exact .inl (List.mem_map_of_mem hRow)

theorem issuedRightly_served (hBook : OAuthBook server trace t)
    (hServed : ServedAs server t request result writes) :
    IssuedRightly server trace (request, some result) := by
  cases hServed with
  | @codeIssued base command now drawn grant pair hRow hHash hAccepted hIssued =>
      obtain ⟨c, hApproved, -⟩ := hBook.codes grant hRow
      exact ⟨grant, c, hApproved, hHash, hAccepted⟩
  | @deviceIssued base command now drawn row row' pair hRow hHash hClient hResource hTime
      hApproved hSame hScopes hConsumed hIssued =>
      obtain ⟨client, requested, hKnown⟩ := hBook.devices row hRow
      obtain ⟨approver, hGranted, -⟩ := hKnown.approved (.inl hApproved)
      exact ⟨row, client, requested, approver, hKnown.asked, hGranted, hHash, hClient,
        hResource, hTime⟩
  | quiet hSilent =>
      rcases hSilent with ⟨_, rfl⟩ | rfl | ⟨_, rfl⟩ | ⟨_, rfl⟩ <;> cases request <;> trivial
  | devicePolled hSilent hRow hPolled =>
      rcases hSilent with ⟨_, rfl⟩ | rfl | ⟨_, rfl⟩ | ⟨_, rfl⟩ <;> cases request <;> trivial
  | codeUsed hSilent =>
      rcases hSilent with ⟨_, rfl⟩ | rfl | ⟨_, rfl⟩ | ⟨_, rfl⟩ <;> cases request <;> trivial
  | revoked hSilent hRevocations =>
      rcases hSilent with ⟨_, rfl⟩ | rfl | ⟨_, rfl⟩ | ⟨_, rfl⟩ <;> cases request <;> trivial
  | @registered request client uris => cases request <;> trivial
  | codeApproved hClient hParsed hRegistered hRequested hActive hPaired => trivial
  | deviceRequested hClient hId hHash hResource hPending hParsed hRegistered => trivial
  | deviceApproved hRow hPending hChecked => trivial
  | refreshed hRow hHash hKind hClient hScopes hPaired hIssued => trivial

end Step

/-! ## Over a run -/

/-- Tables before any grant: every credential is an API key or a browser session. -/
structure AuthTables.Unissued (t : AuthTables) : Prop where
  grants : t.grants = []
  deviceGrants : t.deviceGrants = []
  keys : (t.credentials.map (·.tokenHash)).Nodup
  credentials : ∀ r ∈ t.credentials, ¬r.authKind.Issued

section Runs

variable {server : OAuthServer} {t₀ t t' : AuthTables} {trace : List OAuthLabel}

theorem oauthBook_unissued (h : t₀.Unissued) : OAuthBook server [] t₀ where
  keyed := ⟨by simp [h.grants], by simp [h.deviceGrants], h.keys⟩
  codes := by simp [h.grants]
  devices := by simp [h.deviceGrants]
  tokens r hMem hKind := absurd hKind (h.credentials r hMem)
  kept _ _ hMem := nomatch hMem
  narrowed _ _ _ _ _ hMem := nomatch hMem
  spent _ hCount := absurd hCount (lt_irrefl 0)
  once _ := Nat.zero_le 1

theorem OAuthBook.step {label : OAuthLabel} (hBook : OAuthBook server trace t)
    (hStep : OAuthServes server t label t') : OAuthBook server (trace ++ [label]) t' := by
  cases hStep with
  | committed request hWrites => exact hBook.committed (serves_cases request) hWrites
  | rolledBack request => exact hBook.rolledBack

theorem oauthBook_run (hStart : t₀.Unissued) (hRun : Run (OAuthServes server) t₀ trace t) :
    OAuthBook server trace t :=
  Run.traceInvariant (oauthBook_unissued hStart) (fun _ _ _ _ _ hBook hStep => hBook.step hStep)
    hRun

theorem scopes_of_refreshed (hBook : OAuthBook server trace t)
    {parent child : CredentialRecord} (h : Refreshed server trace t parent child) :
    child.scopes ⊆ parent.scopes := by
  obtain ⟨hMem, hParent, hToken, hChild, hIssued⟩ := h
  obtain ⟨row, hRow, hHash, hAccess, hRefresh⟩ := hBook.narrowed _ _ _ _ _ hMem
  obtain rfl := hBook.keyed.credential_eq hRow hParent (hHash.trans hToken.symm)
  rcases hIssued with hOnly | hOnly
  · rw [hOnly.1]
    exact hAccess
  · rw [hOnly.1]
    exact hRefresh

theorem scopes_of_chain (hBook : OAuthBook server trace t) {parent child : CredentialRecord}
    (h : Relation.ReflTransGen (Refreshed server trace t) parent child) :
    child.scopes ⊆ parent.scopes := by
  induction h with
  | refl => exact fun _ => id
  | tail _ hStep ih => exact fun _ hMem => ih (scopes_of_refreshed hBook hStep hMem)

theorem deviceStep_of_serves {label : OAuthLabel} (hKeyed : t.Keyed)
    (hStep : OAuthServes server t label t') : DeviceStep t t' := by
  cases hStep with
  | committed request hWrites => exact deviceStep_served hKeyed (serves_cases request) hWrites
  | rolledBack request =>
      exact ⟨fun row hRow => ⟨row, hRow, rfl, .inl rfl⟩,
        fun _ hRow => .inl (List.mem_map_of_mem hRow)⟩

theorem issuedRightly_of_serves {label : OAuthLabel} (hBook : OAuthBook server trace t)
    (hStep : OAuthServes server t label t') : IssuedRightly server trace label := by
  cases hStep with
  | committed request hWrites => exact issuedRightly_served hBook (serves_cases request)
  | rolledBack request => cases request <;> trivial

/-- Every token is on record, and below what was asked for, what its client
registered and what the approving credential had; refreshes only narrow; device
grants only move forward; and a grant gives tokens at most once, to its own
client, after its approval and before its expiry. -/
theorem scopes_bounded_over_run (hStart : t₀.Unissued)
    (hRun : Run (OAuthServes server) t₀ trace t) :
    (∀ request pair, (request, some (.ok (.issued pair))) ∈ trace → PairKept t pair)
    ∧ (∀ record ∈ t.credentials, record.authKind.Issued →
        TokenKnown server trace t record)
    ∧ (∀ parent child, Relation.ReflTransGen (Refreshed server trace t) parent child →
        child.scopes ⊆ parent.scopes)
    ∧ (∀ before label t₁ t₂, Run (OAuthServes server) t₀ before t₁ →
        OAuthServes server t₁ label t₂ → DeviceStep t₁ t₂)
    ∧ (∀ before label after, trace = before ++ label :: after →
        IssuedRightly server before label)
    ∧ ∀ key, exchangeCount server trace key ≤ 1 := by
  have hBook := oauthBook_run hStart hRun
  refine ⟨hBook.kept, hBook.tokens, fun _ _ => scopes_of_chain hBook, ?_, ?_, hBook.once⟩
  · intro before label t₁ t₂ hBefore hStep
    exact deviceStep_of_serves (oauthBook_run hStart hBefore).keyed hStep
  · intro before label after hTrace
    subst hTrace
    obtain ⟨t₁, hBefore, hRest⟩ := hRun.split
    obtain ⟨t₂, hStep, -⟩ := Run.cons_iff.mp hRest
    exact issuedRightly_of_serves (oauthBook_run hStart hBefore) hStep

/-- A server whose digests are the characters of the secret. -/
def sampleServer : OAuthServer where
  secretDigest secret := secret.toList.map fun c => c.toNat.toUInt8
  pkceChallenge verifier := verifier
  allowedOauthResources base := [base]
  mcpResource _ := false
  validRedirectUri _ := true
  redirectUriMatches registered requested := registered = requested
  refreshFamilyLockKey familyId := familyId.val

def sampleAuthTables : AuthTables where
  users := [⟨"u", "human", true⟩]
  clients := [⟨"c", "app", ["ledger:read", "ledger:write"], true⟩]
  redirectUris := [⟨"c", "https://app", true⟩]
  grants := []
  deviceGrants := []
  credentials := []

/-- The user approves half of what the client asks for. -/
def sampleAuthorize : OAuthRequest :=
  .authorize "api" ⟨"c", "https://app", "ledger:read ledger:write", "v", "api", true,
    some ["ledger:read"]⟩ ⟨"u", none, ["ledger:read", "ledger:write"]⟩ "k" 10

def sampleExchange : OAuthRequest :=
  .exchangeCode "api" ⟨"k", "c", "https://app", "v", "api"⟩ 20
    ⟨7, "a", "r", 1, 2, 3, 4⟩

/-- The tables after the writes of a request. -/
def afterRequest (server : OAuthServer) (t : AuthTables) (request : OAuthRequest) :
    AuthTables :=
  match t.writeAll (serveOAuth server t request).writes with
  | .ok t' => t'
  | .error _ => t

theorem serves_afterRequest {request : OAuthRequest}
    (h : (t.writeAll (serveOAuth server t request).writes).toOption.isSome) :
    OAuthServes server t (request, some (serveOAuth server t request).result)
      (afterRequest server t request) := by
  refine .committed request ?_
  unfold afterRequest
  cases hWrites : t.writeAll (serveOAuth server t request).writes with
  | error detail => rw [hWrites] at h; exact nomatch h
  | ok t' => rfl

def sampleApproved : AuthTables := afterRequest sampleServer sampleAuthTables sampleAuthorize

def sampleIssued : AuthTables := afterRequest sampleServer sampleApproved sampleExchange

def sampleOAuthTrace : List OAuthLabel :=
  [(sampleAuthorize, some (serveOAuth sampleServer sampleAuthTables sampleAuthorize).result),
    (sampleExchange, some (serveOAuth sampleServer sampleApproved sampleExchange).result)]

theorem scopes_bounded_over_sample :
    (sampleIssued.credentials.map (·.scopes) = [["ledger:read"], ["ledger:read"]])
    ∧ (∀ record ∈ sampleIssued.credentials, record.authKind.Issued →
        TokenKnown sampleServer sampleOAuthTrace sampleIssued record)
    ∧ ∀ key, exchangeCount sampleServer sampleOAuthTrace key ≤ 1 := by
  have hStart : sampleAuthTables.Unissued :=
    ⟨rfl, rfl, List.nodup_nil, fun _ hMem => nomatch hMem⟩
  have hRun : Run (OAuthServes sampleServer) sampleAuthTables sampleOAuthTrace sampleIssued :=
    .cons (serves_afterRequest (by decide))
      (.cons (serves_afterRequest (by decide)) (.nil _))
  obtain ⟨-, hTokens, -, -, -, hOnce⟩ := scopes_bounded_over_run hStart hRun
  exact ⟨by decide, hTokens, hOnce⟩

end Runs

end TrackAnywhere.Ports
