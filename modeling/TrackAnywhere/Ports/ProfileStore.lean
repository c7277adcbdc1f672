import TrackAnywhere.Verified.Checked
import TrackAnywhere.Verified.Programs

/-!
# The OAuth profile store of the CLI

A profile is kept in the keyring or in a file that all profiles share, and a marker
beside them says that its storage is not to be trusted.  `StoreOp` are the operations
that the code performs on these, one at a time, and the programs of this module are the
functions of `TokenStore` and `refresh_token_resolution` over them.

Operations that leave the store as it is, such as making a directory or writing a
temporary file, are `StoreOp.file`; they are there because each may fail, and the process
may crash at each.
-/

namespace TrackAnywhere.Ports

open TrackAnywhere.Verified.Checked
open TrackAnywhere.Verified.Programs

/-! ## Errors -/

inductive StoreError
  /-- `OSError` -/
  | os
  /-- `FileNotFoundError`, one of them. -/
  | notFound
  /-- `RuntimeError` -/
  | runtime (message : String)
  /-- `ValueError` -/
  | value (message : String)
  /-- Any other exception, of the keyring or of a read. -/
  | other
deriving DecidableEq

def StoreError.isOs : StoreError → Bool
  | os => true
  | notFound => true
  | _ => false

def StoreError.isRuntime : StoreError → Bool
  | runtime _ => true
  | _ => false

/-! ## Profiles -/

/-- A profile is stored under the digest of its base URL and resource.  Digests are taken
not to collide, so that the key is the pair. -/
structure ProfileKey where
  baseUrl : String
  resource : String
deriving DecidableEq

structure AuthProfile where
  baseUrl : String
  resource : String
  issuer : String
  clientId : String
  accessToken : String
  refreshToken : Option String
  expiresAt : Option Rat
  scope : Option String
  tokenEndpoint : Option String
  revocationEndpoint : Option String
  authKind : String
deriving DecidableEq

/-- What is fixed while the store is in use: whether `TRACK_ANYWHERE_TOKEN_FILE` is set,
whether there is a keyring, and how a URL is made canonical
(`_canonical_absolute_url`, with the text of its `ValueError`). -/
structure StoreConfig where
  explicitTokenFile : Bool
  keyringAvailable : Bool
  canonicalUrl : (allowQuery : Bool) → String → Except String String

def StoreConfig.usesKeyring (c : StoreConfig) : Bool :=
  !c.explicitTokenFile && c.keyringAvailable

/-- `canonical_base_url` -/
def StoreConfig.canonicalBaseUrl (c : StoreConfig) (url : String) : Except StoreError String :=
  (c.canonicalUrl false url).mapError .value

/-- `canonical_resource` and `canonical_endpoint` -/
def StoreConfig.canonicalEndpoint (c : StoreConfig) (url : String) : Except StoreError String :=
  (c.canonicalUrl true url).mapError .value

/-- `AuthProfile.__post_init__` -/
def AuthProfile.postInit (c : StoreConfig) (profile : AuthProfile) :
    Except StoreError AuthProfile := do
  let baseUrl ← c.canonicalBaseUrl profile.baseUrl
  let resource ← c.canonicalEndpoint profile.resource
  let issuer ← c.canonicalBaseUrl profile.issuer
  let tokenEndpoint ← profile.tokenEndpoint.mapM c.canonicalEndpoint
  let revocationEndpoint ← profile.revocationEndpoint.mapM c.canonicalEndpoint
  require (profile.clientId ≠ "" ∧ profile.accessToken ≠ "")
    (.value "OAuth profile requires client_id and access_token")
  return { profile with
    baseUrl := baseUrl
    resource := resource
    issuer := issuer
    tokenEndpoint := tokenEndpoint
    revocationEndpoint := revocationEndpoint }

/-- `_optional_text` -/
def optionalText (value : Option String) : Option String := value.filter (· ≠ "")

/-- `_required_text` -/
def requiredText (value name : String) : Except StoreError String :=
  fetch (optionalText (some value)) (.value ("OAuth profile is missing " ++ name))

/-- `AuthProfile.from_dict` of what `to_dict` makes of a profile. -/
def AuthProfile.fromDict (c : StoreConfig) (stored : AuthProfile) :
    Except StoreError AuthProfile := do
  let baseUrl ← requiredText stored.baseUrl "base_url"
  let resource ← requiredText stored.resource "resource"
  let issuer ← requiredText stored.issuer "issuer"
  let clientId ← requiredText stored.clientId "client_id"
  let accessToken ← requiredText stored.accessToken "access_token"
  AuthProfile.postInit c
    { baseUrl := baseUrl
      resource := resource
      issuer := issuer
      clientId := clientId
      accessToken := accessToken
      refreshToken := optionalText stored.refreshToken
      expiresAt := stored.expiresAt
      scope := optionalText stored.scope
      tokenEndpoint := optionalText stored.tokenEndpoint
      revocationEndpoint := optionalText stored.revocationEndpoint
      authKind := (optionalText (some stored.authKind)).getD "pkce" }

/-- `_legacy_profile` -/
def legacyProfile (c : StoreConfig) (key : ProfileKey) (token : String) :
    Except StoreError AuthProfile :=
  AuthProfile.postInit c
    { baseUrl := key.baseUrl
      resource := key.resource
      issuer := key.baseUrl
      clientId := "legacy-unscoped-token"
      accessToken := token
      refreshToken := none
      expiresAt := none
      scope := none
      tokenEndpoint := none
      revocationEndpoint := none
      authKind := "legacy" }

inductive ProfileSource
  | keyring
  | tokenFile
  | profileFile
  | legacyTokenFile
deriving DecidableEq

structure StoredProfile where
  profile : AuthProfile
  source : ProfileSource
deriving DecidableEq

/-- The `profiles` of the shared document. -/
abbrev Profiles := AList fun _ : ProfileKey => AuthProfile

/-- The text of the profile file: a document, or any other text that is not blank. -/
inductive FileText
  | document (profiles : Profiles)
  | legacy (text : String)
deriving DecidableEq

/-- What the code reports beside its result. -/
inductive StoreDiagnostic
  | tokenFileFallback
  | profileDeleteFailed (storage : String) (error : StoreError)
deriving DecidableEq

structure ProfileDeletion where
  deleted : Bool
  diagnostics : List StoreDiagnostic
deriving DecidableEq

/-! ## The token endpoint -/

/-- The fields of a token response.  Of `token_type` it is told whether it is there and
whether it is a text; another field that is not of its type counts as absent. -/
structure TokenData where
  accessToken : Option String
  tokenType : Option (Option String)
  expiresIn : Option Rat
  refreshToken : Option String
  scope : Option String
deriving DecidableEq

/-- A response, with its data where they are an object and the detail of its error. -/
structure EndpointResponse where
  status : Nat
  data : Option TokenData
  detail : String
deriving DecidableEq

/-- The data of a response that is not refused for its status or its form. -/
def EndpointResponse.accepted (response : EndpointResponse) : Option TokenData :=
  if response.status < 400 then response.data else none

/-! ## Operations -/

inductive StoreOp
  /-- An operation on directories, temporary files and descriptors. -/
  | file
  | lockProfile
  | unlockProfile
  | lockDocument
  | unlockDocument
  | blockedExists
  /-- The rename that puts the block marker in place. -/
  | replaceBlocked
  /-- The removal of the block marker.  What is stored by then is said for the history only. -/
  | unlinkBlocked (saved : Option AuthProfile)
  | getPassword
  | setPassword (profile : AuthProfile)
  | deletePassword
  | profileFileExists
  | readProfileFile
  /-- The rename that puts a new document in place. -/
  | replaceProfileFile (profiles : Profiles)
  | unlinkProfileFile
  /-- The request to the token endpoint. -/
  | request (refreshToken : String)

/-- What an operation answers. -/
def StoreOp.Answer : StoreOp → Type
  | blockedExists => Bool
  | getPassword => Option AuthProfile
  | profileFileExists => Bool
  | readProfileFile => FileText
  | request _ => EndpointResponse
  | _ => Unit

/-- A function of the store. -/
abbrev StoreM := Prog StoreOp StoreOp.Answer StoreError

def perform (o : StoreOp) : StoreM o.Answer := Prog.op o

/-! ## Files -/

/-- `except FileNotFoundError: pass` -/
def passNotFound (p : StoreM Unit) : StoreM Unit :=
  tryCatch p fun e => if e = .notFound then pure () else throw e

/-- `except OSError` -/
def exceptOs {α : Type} (p : StoreM α) (handler : StoreM α) : StoreM α :=
  tryCatch p fun e => if e.isOs then handler else throw e

/-- `_atomic_write_text`, around the rename of the temporary file. -/
def atomicWriteText (replace : StoreM Unit) : StoreM Unit := do
  perform .file
  perform .file
  let written ← Prog.attempt do
    perform .file
    perform .file
    perform .file
    replace
    perform .file
  passNotFound (perform .file)
  Prog.ofExcept written

/-- `_exclusive_file_lock`.  The descriptor of a lock that could not be released stays
open. -/
def exclusiveFileLock {α : Type} (lock unlock : StoreM Unit) (body : StoreM α) :
    StoreM α := do
  perform .file
  perform .file
  let locked ← Prog.attempt do
    perform .file
    lock
  match locked with
  | .error e => do
      perform .file
      throw e
  | .ok () => do
      let result ← Prog.attempt body
      unlock
      perform .file
      Prog.ofExcept result

def documentLock {α : Type} (body : StoreM α) : StoreM α :=
  exclusiveFileLock (perform .lockDocument) (perform .unlockDocument) body

/-- `profile_lock` -/
def profileLock {α : Type} (body : StoreM α) : StoreM α :=
  exclusiveFileLock (perform .lockProfile) (perform .unlockProfile) body

/-! ## The marker -/

/-- `_assert_profile_not_blocked` -/
def assertProfileNotBlocked : StoreM Unit := do
  let blocked : Bool ← perform .blockedExists
  if blocked = true then
    throw (.runtime ("OAuth profile storage is in an inconsistent state; "
      ++ "run `ta auth login` again"))

/-- `_mark_profile_blocked` -/
def markProfileBlocked : StoreM Unit := atomicWriteText (perform .replaceBlocked)

/-- `_clear_profile_blocked`, of a profile that is stored as said. -/
def clearProfileBlocked (saved : Option AuthProfile) : StoreM Unit :=
  passNotFound (perform (.unlinkBlocked saved))

/-- `_begin_profile_transition_locked` -/
def beginProfileTransition : StoreM Unit :=
  exceptOs markProfileBlocked
    (throw (.runtime "OAuth profile persistence could not be started safely"))

/-- The marker is written once more before the error. -/
def blockAndRaise {α : Type} (message : String) : StoreM α := do
  markProfileBlocked
  throw (.runtime message)

/-! ## The document -/

/-- `_read_profile_document` -/
def readProfileDocument : StoreM (Profiles × Option String) := do
  let there : Bool ← perform .profileFileExists
  if there = true then
    let text ← perform .readProfileFile
    match text with
    | .document profiles => pure (profiles, none)
    | .legacy text => pure (∅, some text)
  else pure (∅, none)

/-- The file without a profile: a smaller document, or no file. -/
def eraseProfile (profiles : Profiles) (key : ProfileKey) : StoreM Unit :=
  if (profiles.erase key).keys ≠ [] then
    atomicWriteText (perform (.replaceProfileFile (profiles.erase key)))
  else passNotFound (perform .unlinkProfileFile)

/-- `_remove_profile_file` -/
def removeProfileFile (key : ProfileKey) : StoreM Unit :=
  documentLock do
    let (profiles, legacyRaw) ← readProfileDocument
    if legacyRaw ≠ none then passNotFound (perform .unlinkProfileFile)
    else if profiles.lookup key = none then pure ()
    else eraseProfile profiles key

/-- `_save_file_authority` -/
def saveFileAuthority (c : StoreConfig) (key : ProfileKey) (profile : AuthProfile) :
    StoreM (List StoreDiagnostic) := do
  exceptOs
    (do
      documentLock do
        let (profiles, _) ← readProfileDocument
        atomicWriteText (perform (.replaceProfileFile (profiles.insert key profile)))
      clearProfileBlocked (some profile))
    (blockAndRaise ("OAuth profile could not be persisted safely; "
      ++ "run `ta auth login` again"))
  pure (if c.explicitTokenFile then [] else [.tokenFileFallback])

/-! ## Loading -/

/-- `_validate_profile_identity` -/
def validateProfileIdentity (key : ProfileKey) (profile : AuthProfile) : StoreM Unit :=
  if profile.baseUrl ≠ key.baseUrl ∨ profile.resource ≠ key.resource then
    throw (.runtime "OAuth profile storage identity mismatch")
  else pure ()

/-- A stored profile as it reads back, from one of the two storages. -/
def readBack (c : StoreConfig) (key : ProfileKey) (stored : AuthProfile)
    (source : ProfileSource) (invalid : String) : StoreM (Option StoredProfile) :=
  match stored.fromDict c with
  | .error _ => throw (.runtime invalid)
  | .ok profile => do
      validateProfileIdentity key profile
      pure (some ⟨profile, source⟩)

/-- `load_profile_with_source`, from where it reads the profile file. -/
def loadProfileFile (c : StoreConfig) (key : ProfileKey) : StoreM (Option StoredProfile) := do
  let (profiles, legacyRaw) ← readProfileDocument
  match profiles.lookup key with
  | some stored =>
      readBack c key stored (if c.explicitTokenFile then .tokenFile else .profileFile)
        "invalid OAuth profile stored in profile file"
  | none =>
      match optionalText legacyRaw with
      | none => pure none
      | some text =>
          if c.explicitTokenFile then do
            let profile ← Prog.ofExcept (legacyProfile c key text)
            pure (some ⟨profile, .legacyTokenFile⟩)
          else throw (.runtime "invalid OAuth profile document")

/-- `load_profile_with_source` -/
def loadProfileWithSource (c : StoreConfig) (key : ProfileKey) :
    StoreM (Option StoredProfile) := do
  assertProfileNotBlocked
  if c.usesKeyring then
    let encoded ← tryCatch (perform .getPassword) fun _ =>
      throw (.runtime "could not read OAuth profile from keyring")
    match encoded with
    | some stored =>
        readBack c key stored .keyring "invalid OAuth profile stored in keyring"
    | none => loadProfileFile c key
  else loadProfileFile c key

/-! ## Saving -/

/-- The keyring is read until the profile is not in it. -/
def removePassword (message : String) : StoreM Unit := do
  let stale : Option AuthProfile ← perform .getPassword
  if stale ≠ none then perform .deletePassword
  let left : Option AuthProfile ← perform .getPassword
  if left ≠ none then throw (.runtime message)

/-- `_save_profile_locked`, with a keyring.  When the keyring raises, the profile is taken
out of it and the file has the authority. -/
def saveKeyringAuthority (c : StoreConfig) (key : ProfileKey) (profile : AuthProfile) :
    StoreM (List StoreDiagnostic) := do
  let written ← Prog.attempt (perform (.setPassword profile))
  match written with
  | .error _ => do
      tryCatch (removePassword "stale keyring profile remains") fun _ =>
        blockAndRaise ("OAuth profile persistence failed and stale keyring data "
          ++ "could not be removed; run `ta auth login` again")
      saveFileAuthority c key profile
  | .ok _ => do
      exceptOs
        (do
          removeProfileFile key
          clearProfileBlocked (some profile))
        (blockAndRaise ("OAuth profile was saved to keyring but stale file storage "
          ++ "could not be removed; run `ta auth login` again"))
      pure []

/-- `_save_profile_locked` -/
def saveProfileLocked (c : StoreConfig) (key : ProfileKey) (profile : AuthProfile) :
    StoreM (List StoreDiagnostic) :=
  if profile.baseUrl ≠ key.baseUrl ∨ profile.resource ≠ key.resource then
    throw (.value "OAuth profile does not match this base URL and resource")
  else do
    beginProfileTransition
    if c.usesKeyring then saveKeyringAuthority c key profile
    else saveFileAuthority c key profile

/-- `save_profile` -/
def saveProfile (c : StoreConfig) (key : ProfileKey) (profile : AuthProfile) :
    StoreM (List StoreDiagnostic) :=
  profileLock (saveProfileLocked c key profile)

/-! ## Deleting -/

/-- The profile is taken out of the document. -/
def dropProfile (c : StoreConfig) (key : ProfileKey) (profiles : Profiles)
    (legacyRaw : Option String) : StoreM Unit :=
  if legacyRaw ≠ none ∧ c.explicitTokenFile then passNotFound (perform .unlinkProfileFile)
  else if profiles.lookup key ≠ none then eraseProfile profiles key
  else pure ()

/-- `_delete_profile_locked`, of the file: it is read once more in the end. -/
def deleteProfileFile (c : StoreConfig) (key : ProfileKey) : StoreM Unit :=
  documentLock do
    let (profiles, legacyRaw) ← readProfileDocument
    dropProfile c key profiles legacyRaw
    let (verified, verifiedLegacy) ← readProfileDocument
    if verified.lookup key ≠ none ∨ (c.explicitTokenFile ∧ verifiedLegacy ≠ none) then
      throw (.runtime "profile file still contains the OAuth profile")

/-- One part of a deletion, with its failure as a diagnostic. -/
def diagnosed (storage : String) (caught : StoreError → Bool) (p : StoreM Unit) :
    StoreM (List StoreDiagnostic) :=
  tryCatch (do p; pure []) fun e =>
    if caught e then pure [.profileDeleteFailed storage e] else throw e

/-- `_delete_profile_locked`, of the keyring. -/
def deleteKeyring (c : StoreConfig) : StoreM (List StoreDiagnostic) :=
  if c.usesKeyring then
    diagnosed "keyring" (fun _ => true)
      (removePassword "keyring still contains the OAuth profile")
  else pure []

/-- The marker goes when nothing failed. -/
def endDeletion (diagnostics : List StoreDiagnostic) : StoreM (List StoreDiagnostic) :=
  if diagnostics = [] then diagnosed "block marker" (·.isOs) (clearProfileBlocked none)
  else pure []

/-- `_delete_profile_locked` -/
def deleteProfileLocked (c : StoreConfig) (key : ProfileKey) : StoreM ProfileDeletion := do
  let started ← diagnosed "block marker" (·.isOs) markProfileBlocked
  if started ≠ [] then pure ⟨false, started⟩
  else do
    let keyring ← deleteKeyring c
    let file ← diagnosed "profile file" (fun e => e.isOs || e.isRuntime)
      (deleteProfileFile c key)
    let cleared ← endDeletion (keyring ++ file)
    let diagnostics := keyring ++ file ++ cleared
    pure ⟨diagnostics.isEmpty, diagnostics⟩

/-- `delete_profile` -/
def deleteProfile (c : StoreConfig) (key : ProfileKey) : StoreM ProfileDeletion :=
  profileLock (deleteProfileLocked c key)

/-! ## Refreshing -/

structure TokenResolution where
  token : Option String
  diagnostics : List StoreDiagnostic
  source : Option ProfileSource
  profile : Option AuthProfile
deriving DecidableEq

/-- The profile is good for longer than the leeway. -/
def AuthProfile.fresh (profile : AuthProfile) (now leeway : Rat) : Bool :=
  profile.expiresAt.all fun expiresAt => now + leeway < expiresAt

/-- `_token_response_values` -/
def tokenResponseValues (data : TokenData) (now : Rat) (previous : Option String) :
    Except StoreError (String × Option String × Rat × Option String) := do
  let accessToken ← fetch (optionalText data.accessToken)
    (.value "token endpoint did not return an access token")
  require ((data.tokenType.getD (some "Bearer")).any (·.toLower = "bearer"))
    (.value "token endpoint returned an unsupported token type")
  let expiresIn ← fetch data.expiresIn
    (.value "token endpoint did not return a numeric expires_in")
  require (0 < expiresIn) (.value "token endpoint returned a non-positive expires_in")
  return (accessToken, (optionalText data.refreshToken).or previous, now + expiresIn,
    optionalText data.scope)

/-- The profile with the tokens of a response.  A response that lacks one is an error of
the refresh; a profile that is refused as a whole is not caught. -/
def AuthProfile.refreshed (c : StoreConfig) (profile : AuthProfile) (data : TokenData)
    (now : Rat) : Except StoreError AuthProfile := do
  let (accessToken, refreshToken, expiresAt, scope) ←
    (tokenResponseValues data now profile.refreshToken).mapError fun e =>
      match e with
      | .value message => .runtime message
      | e => e
  AuthProfile.postInit c
    { profile with
      accessToken := accessToken
      refreshToken := refreshToken
      expiresAt := some expiresAt
      scope := scope.or profile.scope }

/-- What is done under the lock when the profile has run out. -/
def refreshLocked (c : StoreConfig) (key : ProfileKey) (resolution : TokenResolution)
    (now : Rat) (profile : AuthProfile) (source : ProfileSource) : StoreM TokenResolution := do
  match optionalText profile.refreshToken, optionalText profile.tokenEndpoint with
  | some refreshToken, some _ => do
      beginProfileTransition
      let response ← perform (.request refreshToken)
      match response.accepted with
      | none =>
          throw (.runtime ("OAuth token refresh failed (" ++ toString response.status
            ++ "): " ++ response.detail))
      | some data => do
          let refreshed ← Prog.ofExcept (profile.refreshed c data now)
          let saved ← saveProfileLocked c key refreshed
          pure ⟨some refreshed.accessToken, resolution.diagnostics ++ saved, some source,
            some refreshed⟩
  | _, _ => throw (.runtime "OAuth access token expired; run `ta auth login` again")

/-- `refresh_token_resolution` -/
def refreshTokenResolution (c : StoreConfig) (key : ProfileKey) (resolution : TokenResolution)
    (now leeway : Rat) : StoreM TokenResolution :=
  if resolution.profile.all fun profile => profile.fresh now leeway then pure resolution
  else
    profileLock do
      let stored ← loadProfileWithSource c key
      match stored with
      | none => throw (.runtime "OAuth profile disappeared; run `ta auth login` again")
      | some stored =>
          if stored.profile.fresh now leeway then
            pure ⟨some stored.profile.accessToken, resolution.diagnostics, some stored.source,
              some stored.profile⟩
          else refreshLocked c key resolution now stored.profile stored.source

/-! ## Calls -/

inductive StoreCall
  | load
  | save (profile : AuthProfile)
  | delete
  | refresh (resolution : TokenResolution) (now leeway : Rat)
deriving DecidableEq

inductive StoreOutcome
  | loaded (stored : Option StoredProfile)
  | saved (diagnostics : List StoreDiagnostic)
  | deleted (deletion : ProfileDeletion)
  | refreshed (resolution : TokenResolution)
deriving DecidableEq

def StoreCall.program (c : StoreConfig) (key : ProfileKey) : StoreCall → StoreM StoreOutcome
  | load => do
      let stored ← loadProfileWithSource c key
      pure (.loaded stored)
  | save profile => do
      let diagnostics ← saveProfile c key profile
      pure (.saved diagnostics)
  | delete => do
      let deletion ← deleteProfile c key
      pure (.deleted deletion)
  | refresh resolution now leeway => do
      let resolution ← refreshTokenResolution c key resolution now leeway
      pure (.refreshed resolution)

end TrackAnywhere.Ports
