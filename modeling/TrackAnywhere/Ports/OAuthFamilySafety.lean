import TrackAnywhere.Ports.OAuthFamilies

/-!
# One live refresh token to a family

The invariant `FamilyBook` ties the tables, the requests in progress and the
events on record: what a request has read under its lock stays true until it
commits, since only the holder of a lock writes behind it.
-/

namespace TrackAnywhere.Ports

open TrackAnywhere.Verified
open TrackAnywhere.Verified.Checked

/-! ## What requests in progress know -/

/-- Both tokens of a pair belong to the family. -/
def PairIn (familyId : UUID) (pair : TokenPair) : Prop :=
  pair.access.refreshFamilyId = some familyId ∧ pair.refresh.refreshFamilyId = some familyId
    ∧ pair.access.authKind ≠ .refreshToken

/-- The row of a candidate, which may have been revoked since. -/
def RowOf (t : AuthTables) (candidate : CredentialRecord) : Prop :=
  ∃ r ∈ t.credentials, RevokedOnly candidate r

/-- The candidate is what the request asked for. -/
def RequestOf (server : OAuthServer) (candidate : CredentialRecord) : FamilyRequest → Prop
  | .refresh _ command => candidate.tokenHash = server.secretDigest command.refreshToken
      ∧ candidate.authKind = .refreshToken
      ∧ candidate.oauthClientId = some command.clientId
      ∧ candidate.resource = some command.resource ∧ candidate.refreshFamilyId ≠ none
  | .revoke token clientId => candidate.tokenHash = server.secretDigest token
      ∧ ∀ id ∈ clientId, candidate.oauthClientId = some id

/-- The request must end the family. -/
def Closing (candidate : CredentialRecord) (record : Option CredentialRecord) :
    FamilyRequest → Prop
  | .refresh _ _ => candidate.revokedAt ≠ none ∨ ∃ r ∈ record, r.revokedAt ≠ none
  | .revoke _ _ => True

/-- A request that has written under the lock of a family. -/
structure FlushedRight (events : List TokenEvent) (t : AuthTables) (request : FamilyRequest)
    (candidate : CredentialRecord) (record : Option CredentialRecord)
    (issued : Option TokenPair) (writes : List AuthWrite) : Prop where
  revocations : issued = none → ∀ w ∈ writes, ∃ tokenHash at', w = .revoke tokenHash at'
  rotation : ∀ pair, issued = some pair → ∃ familyId now,
    candidate.refreshFamilyId = some familyId
      ∧ writes = .revoke candidate.tokenHash now :: pair.writes ∧ PairIn familyId pair
      ∧ (∀ r ∈ t.credentials, r.LiveIn familyId → r.tokenHash = candidate.tokenHash)
      ∧ ¬Closed events familyId
      ∧ ∀ pair', .issued (.refresh candidate.tokenHash) pair' ∉ events
  closing : ∀ familyId, candidate.refreshFamilyId = some familyId →
    Closing candidate record request → issued = none ∧ ∀ r ∈ t.credentials,
      r.refreshFamilyId = some familyId → r.revokedAt = none →
        ∃ at', .revoke r.tokenHash at' ∈ writes
  revoking : ∀ token clientId, request = .revoke token clientId → issued = none

/-- A request that has written under the lock of a code. -/
structure CodeRight (events : List TokenEvent) (t : AuthTables) (families : List UUID)
    (grant : Option OAuthAuthorizationGrantRecord) (issued : Option TokenPair)
    (writes : List AuthWrite) : Prop where
  uses : issued = none → ∀ w ∈ writes, ∃ g at', grant = some g ∧ w = .useGrant g.codeHash at'
  issue : ∀ pair, issued = some pair → ∃ g now familyId, grant = some g ∧ g ∈ t.grants
    ∧ writes = .useGrant g.codeHash now :: pair.writes ∧ PairIn familyId pair
    ∧ familyId ∈ families ∧ (∀ r ∈ t.credentials, r.refreshFamilyId ≠ some familyId)
    ∧ ¬Closed events familyId ∧ ∀ pair', .issued (.code g.codeHash) pair' ∉ events

/-- What holds of a request at its stage. -/
def PhaseRight (server : OAuthServer) (events : List TokenEvent) (t : AuthTables)
    (families : List UUID) : TokenPhase → Prop
  | .idle => True
  | .located request candidate => RowOf t candidate ∧ RequestOf server candidate request
  | .locked request candidate => RowOf t candidate ∧ RequestOf server candidate request
  | .flushed request candidate record issued writes =>
      RowOf t candidate ∧ RequestOf server candidate request
        ∧ FlushedRight events t request candidate record issued writes
  | .codeLocked _ command grant => ∀ g ∈ grant, g ∈ t.grants
      ∧ g.codeHash = server.secretDigest command.code
  | .codeFlushed grant issued writes => CodeRight events t families grant issued writes

/-- The family that a code exchange has drawn for its pair. -/
def TokenPhase.drawn? : TokenPhase → Option UUID
  | .codeFlushed _ (some pair) _ => pair.refresh.refreshFamilyId
  | _ => none

/-- What the tokens of a request would be issued for. -/
def TokenPhase.source? : TokenPhase → Option TokenSource
  | .flushed _ candidate _ _ _ => some (.refresh candidate.tokenHash)
  | .codeFlushed (some grant) _ _ => some (.code grant.codeHash)
  | _ => none

/-! ## The invariant -/

structure FamilyBook (server : OAuthServer) (events : List TokenEvent) (s : TokenSystem) :
    Prop where
  keyed : s.tables.Keyed
  drawn : ∀ r ∈ s.tables.credentials, ∀ familyId, r.refreshFamilyId = some familyId →
    familyId ∈ s.families
  single : ∀ familyId, ∀ r ∈ s.tables.credentials, ∀ r' ∈ s.tables.credentials,
    r.LiveIn familyId → r'.LiveIn familyId → r.tokenHash = r'.tokenHash
  familyAlone : ∀ i j familyId, (s.phase i).family? = some familyId →
    (s.phase j).family? = some familyId → i = j
  codeAlone : ∀ i j codeHash, (s.phase i).code? = some codeHash →
    (s.phase j).code? = some codeHash → i = j
  drawnAlone : ∀ i j familyId, (s.phase i).drawn? = some familyId →
    (s.phase j).drawn? = some familyId → i = j
  phases : ∀ i, PhaseRight server events s.tables s.families (s.phase i)
  usedUp : ∀ codeHash pair, .issued (.code codeHash) pair ∈ events →
    ∃ g ∈ s.tables.grants, g.codeHash = codeHash ∧ g.usedAt ≠ none
  rotatedAway : ∀ tokenHash pair, .issued (.refresh tokenHash) pair ∈ events →
    ∃ r ∈ s.tables.credentials, r.tokenHash = tokenHash ∧ r.revokedAt ≠ none
  once : ∀ source, issueCount events source ≤ 1
  dead : ∀ familyId, Closed events familyId → familyId ∈ s.families
    ∧ ∀ r ∈ s.tables.credentials, r.refreshFamilyId = some familyId → r.revokedAt ≠ none

/-- The tokens of the family come from before. -/
def QuietFamily (familyId : UUID) (t t' : AuthTables) : Prop :=
  ∀ r' ∈ t'.credentials, r'.refreshFamilyId = some familyId →
    ∃ r ∈ t.credentials, RevokedOnly r r'

section Frames

variable {server : OAuthServer} {events es : List TokenEvent} {t t' : AuthTables}
  {families families' : List UUID} {familyId : UUID}

theorem RevokedOnly.family {r r' : CredentialRecord} (h : RevokedOnly r r') :
    r'.refreshFamilyId = r.refreshFamilyId := by
  rw [h.1]

theorem RevokedOnly.revoked_of {r r' : CredentialRecord} (h : RevokedOnly r r')
    (hLive : r'.revokedAt = none) : r.revokedAt = none := by
  by_contra hRevoked
  exact h.2 hRevoked hLive

theorem RevokedOnly.liveIn {r r' : CredentialRecord} (h : RevokedOnly r r')
    (hLive : r'.LiveIn familyId) : r.LiveIn familyId := by
  obtain ⟨hFamily, hKind, hOpen⟩ := hLive
  refine ⟨h.family.symm.trans hFamily, ?_, h.revoked_of hOpen⟩
  rw [h.1] at hKind
  exact hKind

theorem RowOf.kept {candidate : CredentialRecord} (h : RowOf t candidate)
    (hKept : ∀ r ∈ t.credentials, ∃ r' ∈ t'.credentials, RevokedOnly r r') :
    RowOf t' candidate := by
  obtain ⟨r, hMem, hOnly⟩ := h
  obtain ⟨r', hMem', hOnly'⟩ := hKept r hMem
  exact ⟨r', hMem', hOnly.trans hOnly'⟩

/-- What a request knows stays true while nobody writes behind its lock. -/
theorem PhaseRight.frame {p : TokenPhase} (h : PhaseRight server events t families p)
    (hKept : ∀ r ∈ t.credentials, ∃ r' ∈ t'.credentials, RevokedOnly r r')
    (hQuiet : ∀ familyId, p.family? = some familyId ∨ p.drawn? = some familyId →
      QuietFamily familyId t t')
    (hGrants : ∀ g ∈ t.grants, p.code? = some g.codeHash → g ∈ t'.grants)
    (hFamilies : families ⊆ families')
    (hClosed : ∀ familyId, p.family? = some familyId ∨ p.drawn? = some familyId →
      Closed (events ++ es) familyId → Closed events familyId)
    (hIssued : ∀ source pair, p.source? = some source → .issued source pair ∉ es) :
    PhaseRight server (events ++ es) t' families' p := by
  cases p with
  | idle => trivial
  | located request candidate => exact ⟨h.1.kept hKept, h.2⟩
  | locked request candidate => exact ⟨h.1.kept hKept, h.2⟩
  | codeLocked base command grant =>
      intro g hGrant
      obtain ⟨hMem, hHash⟩ := h g hGrant
      exact ⟨hGrants g hMem (congrArg (Option.map OAuthAuthorizationGrantRecord.codeHash) hGrant),
        hHash⟩
  | flushed request candidate record issued writes =>
      obtain ⟨hRow, hRequest, hFlushed⟩ := h
      refine ⟨hRow.kept hKept, hRequest,
        { revocations := hFlushed.revocations
          rotation := ?_
          closing := ?_
          revoking := hFlushed.revoking }⟩
      · intro pair hPair
        obtain ⟨familyId, now, hFamily, hWrites, hIn, hSole, hOpen, hNew⟩ :=
          hFlushed.rotation pair hPair
        refine ⟨familyId, now, hFamily, hWrites, hIn, ?_, ?_, ?_⟩
        · intro r' hMem' hLive
          obtain ⟨r, hMem, hOnly⟩ := hQuiet familyId (.inl hFamily) r' hMem' hLive.1
          exact hOnly.tokenHash.trans (hSole r hMem (hOnly.liveIn hLive))
        · exact fun h => hOpen (hClosed familyId (.inl hFamily) h)
        · intro pair' hMem
          rcases List.mem_append.mp hMem with hOld | hEvent
          · exact hNew pair' hOld
          · exact hIssued _ pair' rfl hEvent
      · intro familyId hFamily hClosing
        obtain ⟨hNone, hAll⟩ := hFlushed.closing familyId hFamily hClosing
        refine ⟨hNone, fun r' hMem' hIn hLive => ?_⟩
        obtain ⟨r, hMem, hOnly⟩ := hQuiet familyId (.inl hFamily) r' hMem' hIn
        obtain ⟨at', hListed⟩ :=
          hAll r hMem (hOnly.family.symm.trans hIn) (hOnly.revoked_of hLive)
        exact ⟨at', hOnly.tokenHash ▸ hListed⟩
  | codeFlushed grant issued writes =>
      refine ⟨h.uses, ?_⟩
      intro pair hPair
      obtain ⟨g, now, familyId, hGrant, hMem, hWrites, hIn, hDrawn, hNone, hOpen, hNew⟩ :=
        h.issue pair hPair
      subst hPair hGrant
      have hOwn : TokenPhase.drawn? (.codeFlushed (some g) (some pair) writes)
          = some familyId := hIn.2.1
      refine ⟨g, now, familyId, rfl, hGrants g hMem rfl, hWrites, hIn, hFamilies hDrawn, ?_,
        fun h => hOpen (hClosed familyId (.inr hOwn) h), ?_⟩
      · intro r' hMem' hFamily
        obtain ⟨r, hOld, hOnly⟩ := hQuiet familyId (.inr hOwn) r' hMem' hFamily
        exact hNone r hOld (hOnly.family.symm.trans hFamily)
      · intro pair' hEvent
        rcases List.mem_append.mp hEvent with hOld | hLast
        · exact hNew pair' hOld
        · exact hIssued _ pair' rfl hLast

theorem closed_append : Closed (events ++ es) familyId ↔
    Closed events familyId ∨ Closed es familyId := by
  simp only [Closed, List.mem_append, or_and_right, exists_or]

theorem issueCount_append (source : TokenSource) :
    issueCount (events ++ es) source = issueCount events source + issueCount es source := by
  unfold issueCount
  exact List.countP_append

theorem issueCount_eq_zero {source : TokenSource}
    (h : ∀ pair, .issued source pair ∉ events) : issueCount events source = 0 := by
  unfold issueCount
  rw [List.countP_eq_zero]
  intro event hMem
  cases event with
  | issued other pair =>
      intro hSame
      obtain rfl := of_decide_eq_true hSame
      exact h pair hMem
  | refreshed candidate record => simp
  | revoked clientId found => simp

end Frames

/-! ## A request moves on -/

section Moves

variable {server : OAuthServer} {events es : List TokenEvent} {s s' : TokenSystem}
  {families' : List UUID} {id : Nat} {p : TokenPhase}

theorem phase_moved (other : Nat) :
    (s.moved id p).phase other = if other = id then p else s.phase other := rfl

/-- No two requests hold the same, when the one that moves takes what is free. -/
theorem alone_moved {κ : Type} {held : TokenPhase → Option κ}
    (hAlone : ∀ i j k, held (s.phase i) = some k → held (s.phase j) = some k → i = j)
    (hFree : ∀ other k, other ≠ id → held (s.phase other) = some k → held p ≠ some k) :
    ∀ i j k, held ((s.moved id p).phase i) = some k →
      held ((s.moved id p).phase j) = some k → i = j := by
  intro i j k hI hJ
  rw [phase_moved] at hI hJ
  split_ifs at hI hJ with hId hJd hJd
  · exact hId.trans hJd.symm
  · exact absurd hI (hFree j k hJd hJ)
  · exact absurd hJ (hFree i k hId hI)
  · exact hAlone i j k hI hJ

/-- Neither tokens nor the end of a family. -/
def Mute (es : List TokenEvent) : Prop :=
  (∀ familyId, ¬Closed es familyId) ∧ ∀ source pair, .issued source pair ∉ es

theorem mute_nil : Mute [] :=
  ⟨(fun _ ⟨_, hMem, _⟩ => nomatch hMem), fun _ _ hMem => nomatch hMem⟩

theorem FamilyBook.moved (hBook : FamilyBook server events s) (hMute : Mute es)
    (hFamilies : s.families ⊆ families')
    (hRight : PhaseRight server (events ++ es) s.tables families' p)
    (hFamily : ∀ other familyId, other ≠ id → (s.phase other).family? = some familyId →
      p.family? ≠ some familyId)
    (hCode : ∀ other codeHash, other ≠ id → (s.phase other).code? = some codeHash →
      p.code? ≠ some codeHash)
    (hDrawn : ∀ other familyId, other ≠ id → (s.phase other).drawn? = some familyId →
      p.drawn? ≠ some familyId) :
    FamilyBook server (events ++ es) { s.moved id p with families := families' } where
  keyed := hBook.keyed
  drawn r hMem familyId hIn := hFamilies (hBook.drawn r hMem familyId hIn)
  single := hBook.single
  familyAlone := alone_moved hBook.familyAlone hFamily
  codeAlone := alone_moved hBook.codeAlone hCode
  drawnAlone := alone_moved hBook.drawnAlone hDrawn
  phases i := by
    show PhaseRight server _ s.tables families' ((s.moved id p).phase i)
    rw [phase_moved]
    split_ifs
    · exact hRight
    · refine (hBook.phases i).frame (fun r hMem => ⟨r, hMem, .refl r⟩)
        (fun _ _ r hMem _ => ⟨r, hMem, .refl r⟩) (fun _ hMem _ => hMem) hFamilies ?_
        (fun source pair _ => hMute.2 source pair)
      intro familyId _ hClosed
      exact (closed_append.mp hClosed).resolve_right (hMute.1 familyId)
  usedUp codeHash pair hMem :=
    hBook.usedUp codeHash pair ((List.mem_append.mp hMem).resolve_right (hMute.2 _ _))
  rotatedAway tokenHash pair hMem :=
    hBook.rotatedAway tokenHash pair ((List.mem_append.mp hMem).resolve_right (hMute.2 _ _))
  once source := by
    rw [issueCount_append, issueCount_eq_zero (hMute.2 source)]
    exact hBook.once source
  dead familyId hClosed := by
    obtain ⟨hKnown, hRevoked⟩ :=
      hBook.dead familyId ((closed_append.mp hClosed).resolve_right (hMute.1 familyId))
    exact ⟨hFamilies hKnown, hRevoked⟩

theorem credential?_of_row {t : AuthTables} (hKeyed : t.Keyed) {r : CredentialRecord}
    (hMem : r ∈ t.credentials) : t.credential? r.tokenHash = some r := by
  cases hFound : t.credential? r.tokenHash with
  | none =>
      have hNone := List.find?_eq_none.mp hFound r hMem
      simp at hNone
  | some r' =>
      obtain ⟨hMem', hHash⟩ := credential?_ok hFound
      rw [hKeyed.credential_eq hMem' hMem hHash]

/-- The row of a candidate is what its request finds again. -/
theorem found_again {t : AuthTables} {candidate : CredentialRecord} (hKeyed : t.Keyed)
    (hRow : RowOf t candidate) :
    ∃ r ∈ t.credentials, RevokedOnly candidate r
      ∧ t.credential? candidate.tokenHash = some r := by
  obtain ⟨r, hMem, hOnly⟩ := hRow
  refine ⟨r, hMem, hOnly, ?_⟩
  rw [← hOnly.tokenHash]
  exact credential?_of_row hKeyed hMem

theorem revoke_mem_revokeFamily {t : AuthTables} {familyId : UUID} {now : Moment}
    {r : CredentialRecord} (hMem : r ∈ t.credentials)
    (hFamily : r.refreshFamilyId = some familyId) (hLive : r.revokedAt = none) :
    .revoke r.tokenHash now ∈ revokeFamily t familyId now := by
  unfold revokeFamily
  refine List.mem_map.mpr ⟨r, List.mem_filter.mpr ⟨List.mem_filter.mpr ⟨hMem, ?_⟩, ?_⟩, rfl⟩
  · exact decide_eq_true hFamily
  · exact decide_eq_true hLive

/-- A refresh under the lock of its family. -/
theorem flushedRight_refresh (hBook : FamilyBook server events s) {base : String}
    {command : OAuthRefreshTokenCommand} {candidate : CredentialRecord} {familyId : UUID}
    (now : Moment) (drawn : DrawnPair) (hRow : RowOf s.tables candidate)
    (hRequest : RequestOf server candidate (.refresh base command))
    (hFamily : candidate.refreshFamilyId = some familyId) :
    FlushedRight events s.tables (.refresh base command) candidate
      (s.tables.credential? (server.secretDigest command.refreshToken))
      (exchangeLockedRefresh server base s.tables familyId command now drawn).result.toOption
      (exchangeLockedRefresh server base s.tables familyId command now drawn).writes := by
  obtain ⟨hHash, hKind, hClient, hResource, -⟩ := hRequest
  obtain ⟨r, hMem, hOnly, hFound⟩ := found_again hBook.keyed hRow
  rw [hHash] at hFound
  have hIn : r.refreshFamilyId = some familyId := hOnly.family.trans hFamily
  have hRead : requireRefreshRecord s.tables (server.secretDigest command.refreshToken)
      command (some familyId) = .ok r := by
    simp only [requireRefreshRecord, bind_eq_ok, fetch_eq_ok, require_eq_ok, pure_eq_ok]
    refine ⟨r, hFound, (), ?_, rfl⟩
    rw [hIn]
    rw [hOnly.1]
    exact ⟨hKind, hClient, hResource, Option.some_ne_none _,
      fun expected hExpected => by rw [Option.mem_some.mp hExpected]⟩
  unfold exchangeLockedRefresh
  rw [hRead, hFound]
  unfold rotateRecord
  dsimp only
  split_ifs with hRevoked hExpired
  · exact
      { revocations := fun _ => revocations_revokeFamily _ _ _
        rotation := fun _ hPair => (Option.some_ne_none _ hPair.symm).elim
        closing := fun familyId' hFamily' _ => by
          obtain rfl := Option.some.inj (hFamily.symm.trans hFamily')
          exact ⟨rfl, fun r' hMem' hIn' hLive => ⟨now, revoke_mem_revokeFamily hMem' hIn' hLive⟩⟩
        revoking := (by intros; contradiction) }
  · -- the token is live, so that nothing has to end the family
    have hLive : r.revokedAt = none := not_not.mp hRevoked
    have hOpen : ¬Closing candidate (some r) (.refresh base command) := by
      rintro (hCandidate | ⟨_, hRead, hOther⟩)
      · exact hCandidate (hOnly.revoked_of hLive)
      · obtain rfl := Option.mem_some.mp hRead
        exact hOther hLive
    exact
      { revocations := fun _ w hMem => ⟨_, _, List.mem_singleton.mp hMem⟩
        rotation := fun _ hPair => (Option.some_ne_none _ hPair.symm).elim
        closing := fun _ _ hClosing => absurd hClosing hOpen
        revoking := (by intros; contradiction) }
  · have hLive : r.revokedAt = none := not_not.mp hRevoked
    have hOpen : ¬Closing candidate (some r) (.refresh base command) := by
      rintro (hCandidate | ⟨_, hRead, hOther⟩)
      · exact hCandidate (hOnly.revoked_of hLive)
      · obtain rfl := Option.mem_some.mp hRead
        exact hOther hLive
    split
    · exact
        { revocations := fun _ _ hMem => by cases hMem
          rotation := fun _ hPair => (Option.some_ne_none _ hPair.symm).elim
          closing := fun _ _ hClosing => absurd hClosing hOpen
          revoking := (by intros; contradiction) }
    · next scopes _ =>
      cases hIssue : issueTokenPair server base s.tables r.actorSubjectId scopes
        .oauthRefresh command.clientId command.resource now (some familyId) drawn with
      | error failure =>
          exact
            { revocations := fun _ w hMem => ⟨_, _, List.mem_singleton.mp hMem⟩
              rotation := fun _ hPair => (Option.some_ne_none _ hPair.symm).elim
              closing := fun _ _ hClosing => absurd hClosing hOpen
              revoking := (by intros; contradiction) }
      | ok pair =>
          have hIssued := issueTokenPair_ok hIssue
          refine
            { revocations := fun hNone => (Option.some_ne_none _ hNone).elim
              rotation := ?_
              closing := fun _ _ hClosing => absurd hClosing hOpen
              revoking := (by intros; contradiction) }
          intro pair' hPair
          obtain rfl := Option.some.inj hPair
          have hRefresh : r.LiveIn familyId := by
            refine ⟨hIn, ?_, hLive⟩
            rw [hOnly.1]
            exact hKind
          refine ⟨familyId, now, hFamily, ?_, ⟨hIssued.access.2.2.2.1,
            hIssued.refresh.2.2.2.1, ?_⟩, ?_, ?_, ?_⟩
          · rw [hOnly.tokenHash]
            rfl
          · rw [hIssued.access.2.2.2.2]
            intro hAbsurd
            cases hAbsurd
          · intro r' hMem' hLive'
            rw [← hOnly.tokenHash]
            exact hBook.single familyId r' hMem' r hMem hLive' hRefresh
          · exact fun hClosed => (hBook.dead familyId hClosed).2 r hMem hIn hLive
          · intro pair' hEvent
            obtain ⟨r', hMem', hSame, hAway⟩ := hBook.rotatedAway _ pair' hEvent
            obtain rfl := hBook.keyed.credential_eq hMem' hMem
              (hSame.trans hOnly.tokenHash.symm)
            exact hAway hLive

/-- A revocation under the lock of its family. -/
theorem flushedRight_revoke (hBook : FamilyBook server events s) {token : String}
    {clientId : Option String} {candidate : CredentialRecord} (now : Moment)
    (hRow : RowOf s.tables candidate)
    (hRequest : RequestOf server candidate (.revoke token clientId)) :
    FlushedRight events s.tables (.revoke token clientId) candidate
      (s.tables.credential? (server.secretDigest token)) none
      (revokeLocked s.tables (server.secretDigest token) clientId candidate.refreshFamilyId
        now) := by
  obtain ⟨hHash, hClient⟩ := hRequest
  obtain ⟨r, hMem, hOnly, hFound⟩ := found_again hBook.keyed hRow
  rw [hHash] at hFound
  have hLocated : locateRevoked s.tables (server.secretDigest token) clientId = some r := by
    refine Option.filter_eq_some_iff.mpr ⟨hFound, decide_eq_true ?_⟩
    rw [hOnly.1]
    exact hClient
  unfold revokeLocked
  rw [hLocated]
  cases hFamily : candidate.refreshFamilyId with
  | none =>
      refine
        { revocations := fun _ w hListed => ?_
          rotation := fun _ hPair => (Option.some_ne_none _ hPair.symm).elim
          closing := fun _ hSome => ?_
          revoking := fun _ _ _ => rfl }
      · dsimp only at hListed
        split_ifs at hListed
        · exact ⟨_, _, List.mem_singleton.mp hListed⟩
        · exact nomatch hListed
      · exact nomatch hFamily.symm.trans hSome
  | some familyId =>
      dsimp only
      rw [if_pos (hOnly.family.trans hFamily)]
      exact
        { revocations := fun _ => revocations_revokeFamily _ _ _
          rotation := fun _ hPair => (Option.some_ne_none _ hPair.symm).elim
          closing := fun familyId' hFamily' _ => by
            obtain rfl := Option.some.inj (hFamily.symm.trans hFamily')
            exact ⟨rfl,
              fun r' hMem' hIn hLive => ⟨now, revoke_mem_revokeFamily hMem' hIn hLive⟩⟩
          revoking := fun _ _ _ => rfl }

/-- The pair of a code exchange is in the family that was drawn for it. -/
theorem exchangeLockedCode_family {t : AuthTables} {base : String}
    {command : OAuthAuthorizationCodeTokenCommand}
    {grant : Option OAuthAuthorizationGrantRecord} {now : Moment} {drawn : DrawnPair}
    {pair : TokenPair}
    (h : (exchangeLockedCode server base t grant command now drawn).result.toOption
      = some pair) : pair.access.refreshFamilyId = some drawn.familyId
        ∧ pair.refresh.refreshFamilyId = some drawn.familyId := by
  unfold exchangeLockedCode at h
  split at h
  · exact (Option.some_ne_none _ h.symm).elim
  · next g _ =>
    dsimp only at h
    cases hIssue : issueTokenPair server base t g.actorSubjectId g.scopes .pkce
      g.clientId command.resource now none drawn with
    | error failure =>
        rw [hIssue] at h
        exact (Option.some_ne_none _ h.symm).elim
    | ok issued =>
        rw [hIssue] at h
        obtain rfl := Option.some.inj h
        have hIssued := issueTokenPair_ok hIssue
        exact ⟨hIssued.access.2.2.2.1, hIssued.refresh.2.2.2.1⟩

/-- A code exchange under the lock of its code. -/
theorem codeRight_exchange (hBook : FamilyBook server events s) {base : String}
    {command : OAuthAuthorizationCodeTokenCommand}
    {grant : Option OAuthAuthorizationGrantRecord} (now : Moment) (drawn : DrawnPair)
    (hRead : ∀ g ∈ grant, g ∈ s.tables.grants) (hFresh : drawn.familyId ∉ s.families) :
    CodeRight events s.tables (drawn.familyId :: s.families) grant
      (exchangeLockedCode server base s.tables grant command now drawn).result.toOption
      (exchangeLockedCode server base s.tables grant command now drawn).writes := by
  unfold exchangeLockedCode
  split
  · exact ⟨(fun _ _ hMem => nomatch hMem), fun _ hPair =>
      (Option.some_ne_none _ hPair.symm).elim⟩
  · next g hFiltered =>
    obtain ⟨hGrant, hAccepted⟩ := Option.filter_eq_some_iff.mp hFiltered
    have hMem := hRead g hGrant
    have hUnused := (of_decide_eq_true hAccepted).1
    dsimp only
    cases hIssue : issueTokenPair server base s.tables g.actorSubjectId g.scopes .pkce
      g.clientId command.resource now none drawn with
    | error failure =>
        exact ⟨fun _ w hListed => ⟨g, _, hGrant, List.mem_singleton.mp hListed⟩,
          fun _ hPair => (Option.some_ne_none _ hPair.symm).elim⟩
    | ok pair =>
        have hIssued := issueTokenPair_ok hIssue
        refine ⟨fun hNone => (Option.some_ne_none _ hNone).elim, ?_⟩
        intro pair' hPair
        obtain rfl := Option.some.inj hPair
        refine ⟨g, now, drawn.familyId, hGrant, hMem, rfl, ⟨hIssued.access.2.2.2.1,
          hIssued.refresh.2.2.2.1, ?_⟩, List.mem_cons_self, ?_, ?_, ?_⟩
        · rw [hIssued.access.2.2.2.2]
          nofun
        · exact fun r hRow hFamily => hFresh (hBook.drawn r hRow _ hFamily)
        · exact fun hClosed => hFresh (hBook.dead _ hClosed).1
        · intro pair' hEvent
          obtain ⟨g', hMem', hSame, hUsed⟩ := hBook.usedUp _ pair' hEvent
          obtain rfl := hBook.keyed.grant_eq hMem' hMem hSame
          exact hUsed hUnused

end Moves

/-! ## The tables change -/

/-- A request that a change of the tables, with its events, leaves alone. -/
structure Undisturbed (s : TokenSystem) (t' : AuthTables) (es : List TokenEvent)
    (p : TokenPhase) : Prop where
  families : ∀ familyId, p.family? = some familyId ∨ p.drawn? = some familyId →
    QuietFamily familyId s.tables t' ∧ ¬Closed es familyId
  codes : ∀ g ∈ s.tables.grants, p.code? = some g.codeHash → g ∈ t'.grants
  sources : ∀ source pair, p.source? = some source → .issued source pair ∉ es

/-- The source has been spent. -/
def SourceSpent (t : AuthTables) : TokenSource → Prop
  | .code codeHash => ∃ g ∈ t.grants, g.codeHash = codeHash ∧ g.usedAt ≠ none
  | .refresh tokenHash => ∃ r ∈ t.credentials, r.tokenHash = tokenHash ∧ r.revokedAt ≠ none

section Changes

variable {server : OAuthServer} {events es : List TokenEvent} {s s' : TokenSystem}
  {writes : List AuthWrite} {t t' : AuthTables} {familyId : UUID}

theorem kept_writeAll (hWrites : t.writeAll writes = .ok t') :
    ∀ r ∈ t.credentials, ∃ r' ∈ t'.credentials, RevokedOnly r r' := by
  intro r hMem
  rw [(rows_writeAll hWrites).1]
  obtain ⟨r', hMem', hOnly, -⟩ := credential_kept writes hMem
  exact ⟨r', hMem', hOnly⟩

theorem used_writeAll (hWrites : t.writeAll writes = .ok t') :
    ∀ g ∈ t.grants, ∃ g' ∈ t'.grants, UsedOnly g g' := by
  intro g hMem
  rw [(rows_writeAll hWrites).2.1]
  obtain ⟨g', hMem', hOnly, -⟩ := grant_kept writes hMem
  exact ⟨g', hMem', hOnly⟩

/-- A family stays quiet unless a token of it is added. -/
theorem quiet_writeAll (hWrites : t.writeAll writes = .ok t')
    (hAdded : ∀ r, .addCredential r ∈ writes → r.refreshFamilyId ≠ some familyId) :
    QuietFamily familyId t t' := by
  intro r' hMem' hIn
  rw [(rows_writeAll hWrites).1] at hMem'
  rcases credential_from hMem' with hOld | ⟨r, hNew, hOnly⟩
  · exact hOld
  · exact absurd (hOnly.family.symm.trans hIn) (hAdded r hNew)

/-- A grant that the writes do not use keeps its row. -/
theorem grant_mem_writeAll (hWrites : t.writeAll writes = .ok t')
    {g : OAuthAuthorizationGrantRecord} (hMem : g ∈ t.grants)
    (hUnused : ∀ at', .useGrant g.codeHash at' ∉ writes) : g ∈ t'.grants := by
  rw [(rows_writeAll hWrites).2.1]
  clear hWrites
  induction writes generalizing t with
  | nil => exact hMem
  | cons statement writes ih =>
      have hRest : ∀ at', .useGrant g.codeHash at' ∉ writes :=
        fun at' hListed => hUnused at' (List.mem_cons_of_mem _ hListed)
      have hFirst : g ∈ statement.onGrants t.grants := by
        cases statement with
        | addGrant grant => exact List.mem_append_left _ hMem
        | useGrant codeHash usedAt =>
            refine List.mem_map.mpr ⟨g, hMem, if_neg ?_⟩
            rintro rfl
            exact hUnused usedAt List.mem_cons_self
        | _ => exact hMem
      exact ih (t := { t with grants := statement.onGrants t.grants }) hFirst hRest

theorem FamilyBook.changed (hBook : FamilyBook server events s) (hKeyed : s'.tables.Keyed)
    (hKept : ∀ r ∈ s.tables.credentials, ∃ r' ∈ s'.tables.credentials, RevokedOnly r r')
    (hUsed : ∀ g ∈ s.tables.grants, ∃ g' ∈ s'.tables.grants, UsedOnly g g')
    (hFamilies : s.families ⊆ s'.families)
    (hPhases : ∀ other, s'.phase other = .idle
      ∨ s'.phase other = s.phase other ∧ Undisturbed s s'.tables es (s.phase other))
    (hDrawn : ∀ familyId, ¬QuietFamily familyId s.tables s'.tables →
      familyId ∈ s'.families ∧ ¬Closed events familyId
        ∧ ∀ r ∈ s'.tables.credentials, ∀ r' ∈ s'.tables.credentials,
          r.LiveIn familyId → r'.LiveIn familyId → r.tokenHash = r'.tokenHash)
    (hClosed : ∀ familyId, Closed es familyId → familyId ∈ s.families
      ∧ ∀ r ∈ s'.tables.credentials, r.refreshFamilyId = some familyId → r.revokedAt ≠ none)
    (hIssued : ∀ source pair, .issued source pair ∈ es → issueCount es source ≤ 1
      ∧ (∀ pair', .issued source pair' ∉ events) ∧ SourceSpent s'.tables source) :
    FamilyBook server (events ++ es) s' := by
  have hPhase : ∀ {κ : Type} (held : TokenPhase → Option κ), held .idle = none →
      ∀ other k, held (s'.phase other) = some k → held (s.phase other) = some k := by
    intro κ held hIdle other k hHeld
    rcases hPhases other with hDone | ⟨hSame, -⟩
    · rw [hDone, hIdle] at hHeld
      exact nomatch hHeld
    · rwa [hSame] at hHeld
  refine
    { keyed := hKeyed
      drawn := ?_
      single := ?_
      familyAlone := fun i j k hI hJ => hBook.familyAlone i j k
        (hPhase TokenPhase.family? rfl i k hI) (hPhase TokenPhase.family? rfl j k hJ)
      codeAlone := fun i j k hI hJ => hBook.codeAlone i j k
        (hPhase TokenPhase.code? rfl i k hI) (hPhase TokenPhase.code? rfl j k hJ)
      drawnAlone := fun i j k hI hJ => hBook.drawnAlone i j k
        (hPhase TokenPhase.drawn? rfl i k hI) (hPhase TokenPhase.drawn? rfl j k hJ)
      phases := ?_
      usedUp := ?_
      rotatedAway := ?_
      once := ?_
      dead := ?_ }
  · intro r' hMem' familyId hIn
    by_cases hQuiet : QuietFamily familyId s.tables s'.tables
    · obtain ⟨r, hMem, hOnly⟩ := hQuiet r' hMem' hIn
      exact hFamilies (hBook.drawn r hMem familyId (hOnly.family.symm.trans hIn))
    · exact (hDrawn familyId hQuiet).1
  · intro familyId r₁ hMem₁ r₂ hMem₂ hLive₁ hLive₂
    by_cases hQuiet : QuietFamily familyId s.tables s'.tables
    · obtain ⟨r₁', hOld₁, hOnly₁⟩ := hQuiet r₁ hMem₁ hLive₁.1
      obtain ⟨r₂', hOld₂, hOnly₂⟩ := hQuiet r₂ hMem₂ hLive₂.1
      rw [hOnly₁.tokenHash, hOnly₂.tokenHash]
      exact hBook.single familyId r₁' hOld₁ r₂' hOld₂ (hOnly₁.liveIn hLive₁)
        (hOnly₂.liveIn hLive₂)
    · exact (hDrawn familyId hQuiet).2.2 r₁ hMem₁ r₂ hMem₂ hLive₁ hLive₂
  · intro other
    rcases hPhases other with hDone | ⟨hSame, hLeft⟩
    · rw [hDone]
      trivial
    · rw [hSame]
      exact (hBook.phases other).frame hKept (fun f h => (hLeft.families f h).1) hLeft.codes
        hFamilies (fun f h hEnd => (closed_append.mp hEnd).resolve_right (hLeft.families f h).2)
        hLeft.sources
  · intro codeHash pair hMem
    rcases List.mem_append.mp hMem with hOld | hNew
    · obtain ⟨g, hGrant, hHash, hSpent⟩ := hBook.usedUp codeHash pair hOld
      obtain ⟨g', hGrant', hOnly⟩ := hUsed g hGrant
      exact ⟨g', hGrant', hOnly.codeHash.trans hHash, hOnly.2 hSpent⟩
    · exact (hIssued _ pair hNew).2.2
  · intro tokenHash pair hMem
    rcases List.mem_append.mp hMem with hOld | hNew
    · obtain ⟨r, hRow, hHash, hSpent⟩ := hBook.rotatedAway tokenHash pair hOld
      obtain ⟨r', hRow', hOnly⟩ := hKept r hRow
      exact ⟨r', hRow', hOnly.tokenHash.trans hHash, hOnly.2 hSpent⟩
    · exact (hIssued _ pair hNew).2.2
  · intro source
    rw [issueCount_append]
    by_cases hNew : ∃ pair, .issued source pair ∈ es
    · obtain ⟨pair, hMem⟩ := hNew
      obtain ⟨hOne, hFirst, -⟩ := hIssued source pair hMem
      rw [issueCount_eq_zero hFirst, Nat.zero_add]
      exact hOne
    · rw [issueCount_eq_zero fun pair hMem => hNew ⟨pair, hMem⟩]
      exact hBook.once source
  · intro familyId hEnd
    rcases closed_append.mp hEnd with hOld | hNew
    · obtain ⟨hKnown, hRevoked⟩ := hBook.dead familyId hOld
      refine ⟨hFamilies hKnown, fun r' hMem' hIn => ?_⟩
      have hQuiet : QuietFamily familyId s.tables s'.tables := by
        by_contra hLoud
        exact (hDrawn familyId hLoud).2.1 hOld
      obtain ⟨r, hMem, hOnly⟩ := hQuiet r' hMem' hIn
      exact hOnly.2 (hRevoked r hMem (hOnly.family.symm.trans hIn))
    · obtain ⟨hKnown, hRevoked⟩ := hClosed familyId hNew
      exact ⟨hFamilies hKnown, hRevoked⟩

end Changes

/-! ## A commit -/

section Commits

variable {server : OAuthServer} {events : List TokenEvent} {s : TokenSystem}
  {t t' : AuthTables} {writes : List AuthWrite} {familyId : UUID} {id other : Nat}

theorem FamilyBook.row_of_family (hBook : FamilyBook server events s)
    (hHeld : (s.phase other).family? = some familyId) :
    ∃ r ∈ s.tables.credentials, r.refreshFamilyId = some familyId := by
  have hRight := hBook.phases other
  cases hPhase : s.phase other with
  | idle => rw [hPhase] at hHeld; exact nomatch hHeld
  | located request candidate => rw [hPhase] at hHeld; exact nomatch hHeld
  | codeLocked base command grant => rw [hPhase] at hHeld; exact nomatch hHeld
  | codeFlushed grant issued writes => rw [hPhase] at hHeld; exact nomatch hHeld
  | locked request candidate =>
      rw [hPhase] at hHeld hRight
      obtain ⟨⟨r, hMem, hOnly⟩, -⟩ := hRight
      exact ⟨r, hMem, hOnly.family.trans hHeld⟩
  | flushed request candidate record issued writes =>
      rw [hPhase] at hHeld hRight
      obtain ⟨⟨r, hMem, hOnly⟩, -⟩ := hRight
      exact ⟨r, hMem, hOnly.family.trans hHeld⟩

theorem FamilyBook.of_drawn (hBook : FamilyBook server events s)
    (hDrawn : (s.phase other).drawn? = some familyId) : familyId ∈ s.families
      ∧ ∀ r ∈ s.tables.credentials, r.refreshFamilyId ≠ some familyId := by
  have hRight := hBook.phases other
  cases hPhase : s.phase other with
  | idle => rw [hPhase] at hDrawn; exact nomatch hDrawn
  | located request candidate => rw [hPhase] at hDrawn; exact nomatch hDrawn
  | locked request candidate => rw [hPhase] at hDrawn; exact nomatch hDrawn
  | flushed request candidate record issued writes =>
      rw [hPhase] at hDrawn; exact nomatch hDrawn
  | codeLocked base command grant => rw [hPhase] at hDrawn; exact nomatch hDrawn
  | codeFlushed grant issued writes =>
      rw [hPhase] at hDrawn hRight
      cases issued with
      | none => exact nomatch hDrawn
      | some pair =>
          obtain ⟨g, now, f, -, -, -, hIn, hKnown, hNone, -, -⟩ := hRight.issue pair rfl
          obtain rfl := Option.some.inj (hIn.2.1.symm.trans hDrawn)
          exact ⟨hKnown, hNone⟩

theorem FamilyBook.family_known (hBook : FamilyBook server events s)
    (h : (s.phase other).family? = some familyId ∨ (s.phase other).drawn? = some familyId) :
    familyId ∈ s.families := by
  rcases h with hHeld | hDrawn
  · obtain ⟨r, hMem, hIn⟩ := hBook.row_of_family hHeld
    exact hBook.drawn r hMem familyId hIn
  · exact (hBook.of_drawn hDrawn).1

/-- A family that has a row and is locked by one request concerns no other. -/
theorem FamilyBook.other_family (hBook : FamilyBook server events s) (hOther : other ≠ id)
    (hHeld : (s.phase id).family? = some familyId) :
    ¬((s.phase other).family? = some familyId ∨ (s.phase other).drawn? = some familyId) := by
  rintro (hToo | hDrawn)
  · exact hOther (hBook.familyAlone other id familyId hToo hHeld)
  · obtain ⟨r, hMem, hIn⟩ := hBook.row_of_family hHeld
    exact (hBook.of_drawn hDrawn).2 r hMem hIn

/-- Of a new pair in a family without live tokens, one refresh token is live. -/
theorem live_of_pair (hKeyed : t'.Keyed) (hWrites : t.writeAll writes = .ok t')
    {pair : TokenPair} (hKind : pair.access.authKind ≠ .refreshToken)
    (hAdded : ∀ r, .addCredential r ∈ writes → r = pair.access ∨ r = pair.refresh)
    (hOld : ∀ r ∈ t.credentials, r.LiveIn familyId →
      ∃ at', .revoke r.tokenHash at' ∈ writes) {r' : CredentialRecord}
    (hMem' : r' ∈ t'.credentials) (hLive : r'.LiveIn familyId) :
    r'.tokenHash = pair.refresh.tokenHash := by
  have hRows := (rows_writeAll hWrites).1
  have hFrom := hMem'
  rw [hRows] at hFrom
  rcases credential_from hFrom with ⟨r, hMem, hOnly⟩ | ⟨r, hNew, hOnly⟩
  · obtain ⟨at', hListed⟩ := hOld r hMem (hOnly.liveIn hLive)
    obtain ⟨r'', hMem'', hOnly'', hRevoked⟩ := credential_kept writes hMem
    rw [← hRows] at hMem''
    obtain rfl := hKeyed.credential_eq hMem'' hMem'
      (hOnly''.tokenHash.trans hOnly.tokenHash.symm)
    exact absurd hLive.2.2 (hRevoked at' hListed)
  · rcases hAdded r hNew with rfl | rfl
    · exact absurd (hOnly.liveIn hLive).2.1 hKind
    · exact hOnly.tokenHash

/-- The commit of a request that only revokes. -/
theorem FamilyBook.commits_revocations (hBook : FamilyBook server events s)
    {request : FamilyRequest} {candidate : CredentialRecord} {record : Option CredentialRecord}
    (hPhase : s.phase id = .flushed request candidate record none writes)
    (hWrites : s.tables.writeAll writes = .ok t') :
    FamilyBook server (events ++ (TokenPhase.flushed request candidate record none writes).events)
      { s.moved id .idle with tables := t' } := by
  have hRight := hBook.phases id
  rw [hPhase] at hRight
  obtain ⟨⟨row, hRow, hOnly⟩, hRequest, hFlushed⟩ := hRight
  have hOnlyRevokes := hFlushed.revocations rfl
  have hQuiet : ∀ familyId, QuietFamily familyId s.tables t' := fun familyId =>
    quiet_writeAll hWrites fun r hListed => by
      obtain ⟨_, _, hRevoke⟩ := hOnlyRevokes _ hListed
      exact nomatch hRevoke
  have hMute : ∀ source pair, TokenEvent.issued source pair
      ∉ (TokenPhase.flushed request candidate record none writes).events := by
    intro source pair hMem
    cases request <;> simp [TokenPhase.events] at hMem
  have hEnds : ∀ familyId,
      Closed (TokenPhase.flushed request candidate record none writes).events familyId →
        candidate.refreshFamilyId = some familyId ∧ Closing candidate record request := by
    rintro familyId ⟨event, hMem, hCloses⟩
    cases request with
    | refresh base command =>
        obtain rfl : event = .refreshed candidate record := by
          simpa [TokenPhase.events] using hMem
        exact hCloses
    | revoke token clientId =>
        obtain rfl := List.mem_singleton.mp hMem
        obtain ⟨_, hFound, hIn, -⟩ := hCloses
        obtain rfl := Option.mem_some.mp hFound
        exact ⟨hIn, trivial⟩
  refine hBook.changed (hBook.keyed.writeAll hWrites) (kept_writeAll hWrites)
    (used_writeAll hWrites) (fun _ h => h) ?_ (fun f hLoud => absurd (hQuiet f) hLoud) ?_
    (fun source pair hMem => absurd hMem (hMute source pair))
  · intro other
    show (s.moved id .idle).phase other = _ ∨ (s.moved id .idle).phase other = _ ∧ _
    rw [phase_moved]
    split_ifs with hSelf
    · exact .inl rfl
    · refine .inr ⟨rfl, ⟨fun f hOther => ⟨hQuiet f, fun hEnd => ?_⟩, fun g hMem _ => ?_,
        fun source pair _ => hMute source pair⟩⟩
      · have hHeld : (s.phase id).family? = some f := by
          rw [hPhase]
          exact (hEnds f hEnd).1
        exact hBook.other_family hSelf hHeld hOther
      · refine grant_mem_writeAll hWrites hMem fun at' hListed => ?_
        obtain ⟨_, _, hRevoke⟩ := hOnlyRevokes _ hListed
        exact nomatch hRevoke
  · intro f hEnd
    obtain ⟨hIn, hClosing⟩ := hEnds f hEnd
    refine ⟨hBook.drawn row hRow f (hOnly.family.trans hIn), fun r' hMem' hIn' => ?_⟩
    obtain ⟨-, hAll⟩ := hFlushed.closing f hIn hClosing
    obtain ⟨r, hMem, hOnly'⟩ := hQuiet f r' hMem' hIn'
    by_cases hLive : r.revokedAt = none
    · obtain ⟨at', hListed⟩ := hAll r hMem (hOnly'.family.symm.trans hIn') hLive
      obtain ⟨r'', hMem'', hOnly'', hRevoked⟩ := credential_kept writes hMem
      rw [← (rows_writeAll hWrites).1] at hMem''
      obtain rfl := (hBook.keyed.writeAll hWrites).credential_eq hMem'' hMem'
        (hOnly''.tokenHash.trans hOnly'.tokenHash.symm)
      exact hRevoked at' hListed
    · exact hOnly'.2 hLive

/-- The commit of a rotation. -/
theorem FamilyBook.commits_rotation (hBook : FamilyBook server events s)
    {request : FamilyRequest} {candidate : CredentialRecord} {record : Option CredentialRecord}
    {pair : TokenPair}
    (hPhase : s.phase id = .flushed request candidate record (some pair) writes)
    (hWrites : s.tables.writeAll writes = .ok t') :
    FamilyBook server
      (events ++ (TokenPhase.flushed request candidate record (some pair) writes).events)
      { s.moved id .idle with tables := t' } := by
  have hRight := hBook.phases id
  rw [hPhase] at hRight
  obtain ⟨⟨row, hRow, hOnly⟩, hRequest, hFlushed⟩ := hRight
  obtain ⟨f, now, hFamily, rfl, hIn, hSole, hOpen, hNew⟩ := hFlushed.rotation pair rfl
  have hHeld : (s.phase id).family? = some f := by
    rw [hPhase]
    exact hFamily
  have hAdded : ∀ r, .addCredential r ∈ .revoke candidate.tokenHash now :: pair.writes →
      r = pair.access ∨ r = pair.refresh := by
    intro r hListed
    rcases List.mem_cons.mp hListed with hHead | hPair
    · cases hHead
    · exact addCredential_mem_pair hPair
  have hQuiet : ∀ familyId, familyId ≠ f → QuietFamily familyId s.tables t' := by
    intro familyId hOther
    refine quiet_writeAll hWrites fun r hListed hFamily' => hOther ?_
    rcases hAdded r hListed with rfl | rfl
    · exact Option.some.inj (hFamily'.symm.trans hIn.1)
    · exact Option.some.inj (hFamily'.symm.trans hIn.2.1)
  cases request with
  | revoke token clientId => cases hFlushed.revoking token clientId rfl
  | refresh base command =>
      have hKeyed := hBook.keyed.writeAll hWrites
      have hEnds : ∀ familyId, ¬Closed (TokenPhase.flushed (.refresh base command) candidate
          record (some pair) (.revoke candidate.tokenHash now :: pair.writes)).events
            familyId := by
        rintro familyId ⟨event, hMem, hCloses⟩
        obtain rfl | rfl : event = .refreshed candidate record
            ∨ event = .issued (.refresh candidate.tokenHash) pair := by
          simpa [TokenPhase.events] using hMem
        · cases (hFlushed.closing familyId hCloses.1 hCloses.2).1
        · exact hCloses
      refine hBook.changed hKeyed (kept_writeAll hWrites) (used_writeAll hWrites)
        (fun _ h => h) ?_ ?_ (fun familyId hEnd => absurd hEnd (hEnds familyId)) ?_
      · intro other
        show (s.moved id .idle).phase other = _ ∨ (s.moved id .idle).phase other = _ ∧ _
        rw [phase_moved]
        split_ifs with hSelf
        · exact .inl rfl
        · refine .inr ⟨rfl, ⟨fun familyId hOther => ⟨hQuiet familyId ?_, hEnds familyId⟩,
            fun g hMem _ => grant_mem_writeAll hWrites hMem ?_, ?_⟩⟩
          · rintro rfl
            exact hBook.other_family hSelf hHeld hOther
          · intro at' hListed
            simp [TokenPair.writes] at hListed
          · intro source pair' hSource hMem
            obtain ⟨rfl, rfl⟩ : source = .refresh candidate.tokenHash ∧ pair' = pair := by
              simpa [TokenPhase.events] using hMem
            -- the same token is in the hands of another request of the family
            have hRightOther := hBook.phases other
            cases hPhaseOther : s.phase other with
            | flushed request' candidate' record' issued' writes' =>
                rw [hPhaseOther] at hSource hRightOther
                obtain ⟨⟨row', hRow', hOnly'⟩, -⟩ := hRightOther
                have hHash := TokenSource.refresh.inj (Option.some.inj hSource)
                obtain rfl := hBook.keyed.credential_eq hRow' hRow
                  (hOnly'.tokenHash.trans (hHash.trans hOnly.tokenHash.symm))
                refine hBook.other_family hSelf hHeld (.inl ?_)
                rw [hPhaseOther]
                exact hOnly'.family.symm.trans (hOnly.family.trans hFamily)
            | codeFlushed grant issued' writes' =>
                rw [hPhaseOther] at hSource
                cases grant <;> cases hSource
            | idle => rw [hPhaseOther] at hSource; cases hSource
            | located _ _ => rw [hPhaseOther] at hSource; cases hSource
            | locked _ _ => rw [hPhaseOther] at hSource; cases hSource
            | codeLocked _ _ _ => rw [hPhaseOther] at hSource; cases hSource
      · intro familyId hLoud
        obtain rfl : familyId = f := by
          by_contra hOther
          exact hLoud (hQuiet familyId hOther)
        have hLiveOne : ∀ r' ∈ t'.credentials, r'.LiveIn familyId →
            r'.tokenHash = pair.refresh.tokenHash := fun r' =>
          live_of_pair hKeyed hWrites hIn.2.2 hAdded fun r hMem hLive =>
            ⟨now, by rw [hSole r hMem hLive]; exact List.mem_cons_self⟩
        exact ⟨hBook.drawn row hRow familyId (hOnly.family.trans hFamily), hOpen,
          fun r₁ hMem₁ r₂ hMem₂ hLive₁ hLive₂ =>
            (hLiveOne r₁ hMem₁ hLive₁).trans (hLiveOne r₂ hMem₂ hLive₂).symm⟩
      · intro source pair' hMem
        obtain ⟨rfl, rfl⟩ : source = .refresh candidate.tokenHash ∧ pair' = pair := by
          simpa [TokenPhase.events] using hMem
        refine ⟨by simp [TokenPhase.events, issueCount], hNew, ?_⟩
        obtain ⟨row', hRow', hOnly', hRevoked⟩ :=
          credential_kept (.revoke candidate.tokenHash now :: pair'.writes) hRow
        rw [← (rows_writeAll hWrites).1] at hRow'
        refine ⟨row', hRow', hOnly'.tokenHash.trans hOnly.tokenHash, hRevoked now ?_⟩
        rw [hOnly.tokenHash]
        exact List.mem_cons_self

/-- The commit of a code exchange that was refused its tokens. -/
theorem FamilyBook.commits_refused (hBook : FamilyBook server events s)
    {grant : Option OAuthAuthorizationGrantRecord}
    (hPhase : s.phase id = .codeFlushed grant none writes)
    (hWrites : s.tables.writeAll writes = .ok t') :
    FamilyBook server (events ++ (TokenPhase.codeFlushed grant none writes).events)
      { s.moved id .idle with tables := t' } := by
  have hRight := hBook.phases id
  rw [hPhase] at hRight
  have hUses := hRight.uses rfl
  have hQuiet : ∀ familyId, QuietFamily familyId s.tables t' := fun familyId =>
    quiet_writeAll hWrites fun r hListed => by
      obtain ⟨_, _, -, hUse⟩ := hUses _ hListed
      exact nomatch hUse
  have hEvents : (TokenPhase.codeFlushed grant none writes).events = [] := by
    cases grant <;> rfl
  rw [hEvents]
  refine hBook.changed (hBook.keyed.writeAll hWrites) (kept_writeAll hWrites)
    (used_writeAll hWrites) (fun _ h => h) ?_ (fun f hLoud => absurd (hQuiet f) hLoud)
    (fun f hEnd => absurd hEnd (mute_nil.1 f)) (fun _ _ hMem => nomatch hMem)
  intro other
  show (s.moved id .idle).phase other = _ ∨ (s.moved id .idle).phase other = _ ∧ _
  rw [phase_moved]
  split_ifs with hSelf
  · exact .inl rfl
  · refine .inr ⟨rfl, ⟨fun f _ => ⟨hQuiet f, mute_nil.1 f⟩, fun g hMem hCode => ?_,
      fun _ _ _ hMem => nomatch hMem⟩⟩
    refine grant_mem_writeAll hWrites hMem fun at' hListed => ?_
    obtain ⟨g', _, hGrant, hUse⟩ := hUses _ hListed
    obtain ⟨hHash, -⟩ := AuthWrite.useGrant.inj hUse
    refine hSelf (hBook.codeAlone other id g.codeHash hCode ?_)
    rw [hPhase, hHash, hGrant]
    rfl

/-- The commit of a code exchange. -/
theorem FamilyBook.commits_exchange (hBook : FamilyBook server events s)
    {grant : Option OAuthAuthorizationGrantRecord} {pair : TokenPair}
    (hPhase : s.phase id = .codeFlushed grant (some pair) writes)
    (hWrites : s.tables.writeAll writes = .ok t') :
    FamilyBook server (events ++ (TokenPhase.codeFlushed grant (some pair) writes).events)
      { s.moved id .idle with tables := t' } := by
  have hRight := hBook.phases id
  rw [hPhase] at hRight
  obtain ⟨g, now, f, rfl, hGrant, rfl, hIn, hKnown, hNone, hOpen, hNew⟩ :=
    hRight.issue pair rfl
  have hKeyed := hBook.keyed.writeAll hWrites
  have hAdded : ∀ r, .addCredential r ∈ .useGrant g.codeHash now :: pair.writes →
      r = pair.access ∨ r = pair.refresh := by
    intro r hListed
    rcases List.mem_cons.mp hListed with hHead | hPair
    · cases hHead
    · exact addCredential_mem_pair hPair
  have hQuiet : ∀ familyId, familyId ≠ f → QuietFamily familyId s.tables t' := by
    intro familyId hOther
    refine quiet_writeAll hWrites fun r hListed hFamily' => hOther ?_
    rcases hAdded r hListed with rfl | rfl
    · exact Option.some.inj (hFamily'.symm.trans hIn.1)
    · exact Option.some.inj (hFamily'.symm.trans hIn.2.1)
  have hCode : (s.phase id).code? = some g.codeHash := by rw [hPhase]; rfl
  have hDrawn : (s.phase id).drawn? = some f := by rw [hPhase]; exact hIn.2.1
  have hEnds : ∀ familyId, ¬Closed [TokenEvent.issued (.code g.codeHash) pair] familyId := by
    rintro familyId ⟨event, hMem, hCloses⟩
    obtain rfl := List.mem_singleton.mp hMem
    exact hCloses
  show FamilyBook server (events ++ [.issued (.code g.codeHash) pair]) _
  refine hBook.changed hKeyed (kept_writeAll hWrites) (used_writeAll hWrites)
    (fun _ h => h) ?_ ?_ (fun familyId hEnd => absurd hEnd (hEnds familyId)) ?_
  · intro other
    show (s.moved id .idle).phase other = _ ∨ (s.moved id .idle).phase other = _ ∧ _
    rw [phase_moved]
    split_ifs with hSelf
    · exact .inl rfl
    · refine .inr ⟨rfl, ⟨fun familyId hOther => ⟨hQuiet familyId ?_, hEnds familyId⟩,
        fun g' hMem hCode' => grant_mem_writeAll hWrites hMem ?_, ?_⟩⟩
      · rintro rfl
        rcases hOther with hHeld | hToo
        · obtain ⟨r, hMem, hIn'⟩ := hBook.row_of_family hHeld
          exact hNone r hMem hIn'
        · exact hSelf (hBook.drawnAlone other id familyId hToo hDrawn)
      · intro at' hListed
        obtain ⟨hHash, -⟩ : g'.codeHash = g.codeHash ∧ at' = now := by
          simpa [TokenPair.writes] using hListed
        exact hSelf (hBook.codeAlone other id g.codeHash (hHash ▸ hCode') hCode)
      · intro source pair' hSource hMem
        obtain ⟨rfl, rfl⟩ : source = .code g.codeHash ∧ pair' = pair := by
          simpa using hMem
        cases hPhaseOther : s.phase other with
        | codeFlushed grant' issued' writes' =>
            rw [hPhaseOther] at hSource
            cases grant' with
            | none => cases hSource
            | some g' =>
                have hHash := TokenSource.code.inj (Option.some.inj hSource)
                refine hSelf (hBook.codeAlone other id g.codeHash ?_ hCode)
                rw [hPhaseOther, ← hHash]
                rfl
        | flushed _ _ _ _ _ => rw [hPhaseOther] at hSource; cases hSource
        | idle => rw [hPhaseOther] at hSource; cases hSource
        | located _ _ => rw [hPhaseOther] at hSource; cases hSource
        | locked _ _ => rw [hPhaseOther] at hSource; cases hSource
        | codeLocked _ _ _ => rw [hPhaseOther] at hSource; cases hSource
  · intro familyId hLoud
    obtain rfl : familyId = f := by
      by_contra hOther
      exact hLoud (hQuiet familyId hOther)
    have hLiveOne : ∀ r' ∈ t'.credentials, r'.LiveIn familyId →
        r'.tokenHash = pair.refresh.tokenHash := fun r' =>
      live_of_pair hKeyed hWrites hIn.2.2 hAdded fun r hMem hLive =>
        absurd hLive.1 (hNone r hMem)
    exact ⟨hKnown, hOpen, fun r₁ hMem₁ r₂ hMem₂ hLive₁ hLive₂ =>
      (hLiveOne r₁ hMem₁ hLive₁).trans (hLiveOne r₂ hMem₂ hLive₂).symm⟩
  · intro source pair' hMem
    obtain ⟨rfl, rfl⟩ : source = .code g.codeHash ∧ pair' = pair := by simpa using hMem
    refine ⟨by simp [issueCount], hNew, ?_⟩
    obtain ⟨g', hGrant', hOnly, hUsed⟩ :=
      grant_kept (.useGrant g.codeHash now :: pair'.writes) hGrant
    rw [← (rows_writeAll hWrites).2.1] at hGrant'
    exact ⟨g', hGrant', hOnly.codeHash, hUsed now List.mem_cons_self⟩

/-- A request that ends without a write leaves everything as it was. -/
theorem FamilyBook.ends (hBook : FamilyBook server events s) :
    FamilyBook server events (s.moved id .idle) := by
  have hMoved := @FamilyBook.moved _ _ _ _ _ id .idle hBook mute_nil (List.Subset.refl _) trivial
    (fun _ _ _ _ => nofun) (fun _ _ _ _ => nofun) (fun _ _ _ _ => nofun)
  rwa [List.append_nil] at hMoved

theorem FamilyBook.commits (hBook : FamilyBook server events s)
    (hWrites : s.tables.writeAll (s.phase id).writes = .ok t') :
    FamilyBook server (events ++ (s.phase id).events)
      { s.moved id .idle with tables := t' } := by
  cases hPhase : s.phase id with
  | flushed request candidate record issued writes =>
      rw [hPhase] at hWrites
      cases issued with
      | none => exact hBook.commits_revocations hPhase hWrites
      | some pair => exact hBook.commits_rotation hPhase hWrites
  | codeFlushed grant issued writes =>
      rw [hPhase] at hWrites
      cases issued with
      | none => exact hBook.commits_refused hPhase hWrites
      | some pair => exact hBook.commits_exchange hPhase hWrites
  | idle =>
      rw [hPhase] at hWrites
      obtain rfl := writeAll_nil.mp hWrites
      show FamilyBook server (events ++ []) (s.moved id .idle)
      rw [List.append_nil]
      exact hBook.ends
  | located request candidate =>
      rw [hPhase] at hWrites
      obtain rfl := writeAll_nil.mp hWrites
      show FamilyBook server (events ++ []) (s.moved id .idle)
      rw [List.append_nil]
      exact hBook.ends
  | locked request candidate =>
      rw [hPhase] at hWrites
      obtain rfl := writeAll_nil.mp hWrites
      show FamilyBook server (events ++ []) (s.moved id .idle)
      rw [List.append_nil]
      exact hBook.ends
  | codeLocked base command grant =>
      rw [hPhase] at hWrites
      obtain rfl := writeAll_nil.mp hWrites
      show FamilyBook server (events ++ []) (s.moved id .idle)
      rw [List.append_nil]
      exact hBook.ends

/-- The rest of the service adds to new families only, and uses no code. -/
theorem FamilyBook.elsewhere (hBook : FamilyBook server events s) {families : List UUID}
    (hOther : OtherWrites s.families writes families)
    (hWrites : s.tables.writeAll writes = .ok t') :
    FamilyBook server events { s with tables := t', families := families } := by
  have hKeyed := hBook.keyed.writeAll hWrites
  have hFamilies : s.families ⊆ families := by
    cases hOther with
    | deviceExchanged pair familyId hFresh hAccess hRefresh =>
        exact List.subset_cons_self _ _
    | _ => exact List.Subset.refl _
  have hUnused : ∀ codeHash at', .useGrant codeHash at' ∉ writes := by
    intro codeHash at' hListed
    cases hOther <;> simp [TokenPair.writes] at hListed
  -- a family that gets a token is new
  have hLoud : ∀ familyId, ¬QuietFamily familyId s.tables t' → familyId ∉ s.families
      ∧ familyId ∈ families ∧ ∃ hash, ∀ r ∈ t'.credentials, r.LiveIn familyId →
        r.tokenHash = hash := by
    intro familyId hNot
    cases hOther with
    | codeApproved grant hNew =>
        exact absurd (quiet_writeAll hWrites fun r hListed => by simp at hListed) hNot
    | credentialAdded record hOutside =>
        refine absurd (quiet_writeAll hWrites fun r hListed hIn => ?_) hNot
        obtain rfl := AuthWrite.addCredential.inj (List.mem_singleton.mp hListed)
        cases hOutside.symm.trans hIn
    | credentialRevoked tokenHash revokedAt =>
        exact absurd (quiet_writeAll hWrites fun r hListed => by simp at hListed) hNot
    | deviceExchanged pair fresh hFresh hAccess hRefresh =>
        obtain rfl : familyId = fresh := by
          by_contra hDiffer
          refine hNot (quiet_writeAll hWrites fun r hListed hIn => hDiffer ?_)
          rcases addCredential_mem_pair hListed with rfl | rfl
          · exact Option.some.inj (hIn.symm.trans hAccess.1)
          · exact Option.some.inj (hIn.symm.trans hRefresh)
        refine ⟨hFresh, List.mem_cons_self, pair.refresh.tokenHash, fun r hMem => ?_⟩
        refine live_of_pair hKeyed hWrites ?_ (fun _ => addCredential_mem_pair) ?_ hMem
        · rw [hAccess.2]
          intro hAbsurd
          cases hAbsurd
        · exact fun r hRow hLive => absurd (hBook.drawn r hRow familyId hLive.1) hFresh
  rw [← List.append_nil events]
  refine hBook.changed hKeyed (kept_writeAll hWrites) (used_writeAll hWrites) hFamilies ?_ ?_
    (fun f hEnd => absurd hEnd (mute_nil.1 f)) (fun _ _ hMem => by cases hMem)
  · intro other
    refine .inr ⟨rfl, ⟨fun familyId hHeld => ⟨?_, mute_nil.1 familyId⟩, fun g hMem _ =>
      grant_mem_writeAll hWrites hMem (hUnused g.codeHash), fun _ _ _ hMem => by cases hMem⟩⟩
    by_contra hNot
    exact (hLoud familyId hNot).1 (hBook.family_known hHeld)
  · intro familyId hNot
    obtain ⟨hNew, hIn, hash, hOne⟩ := hLoud familyId hNot
    exact ⟨hIn, fun hClosed => hNew (hBook.dead familyId hClosed).1,
      fun r₁ hMem₁ r₂ hMem₂ hLive₁ hLive₂ =>
        (hOne r₁ hMem₁ hLive₁).trans (hOne r₂ hMem₂ hLive₂).symm⟩

end Commits

/-! ## Over a run -/

section Runs

variable {server : OAuthServer} {events es : List TokenEvent} {s s' s₀ s₁ s₂ : TokenSystem}
  {trace before after : List (List TokenEvent)} {familyId : UUID}

/-- A stage that only reads or locks. -/
theorem FamilyBook.quietly (hBook : FamilyBook server events s) {id : Nat} {p : TokenPhase}
    (hRight : PhaseRight server events s.tables s.families p)
    (hFamily : ∀ other familyId, other ≠ id → (s.phase other).family? = some familyId →
      p.family? ≠ some familyId)
    (hCode : ∀ other codeHash, other ≠ id → (s.phase other).code? = some codeHash →
      p.code? ≠ some codeHash)
    (hDrawn : p.drawn? = none) : FamilyBook server (events ++ []) (s.moved id p) := by
  refine hBook.moved mute_nil (List.Subset.refl _) ?_ hFamily hCode
    (fun _ _ _ _ h => nomatch hDrawn.symm.trans h)
  rwa [List.append_nil]

theorem locateRefreshFamily_ok {base : String} {t : AuthTables}
    {command : OAuthRefreshTokenCommand} {candidate : CredentialRecord}
    (h : locateRefreshFamily server base t command = .ok (candidate, familyId)) :
    RowOf t candidate ∧ RequestOf server candidate (.refresh base command) := by
  simp only [locateRefreshFamily, bind_eq_ok, fetch_eq_ok, pure_eq_ok, Prod.mk.injEq] at h
  obtain ⟨-, -, _, hRecord, _, -, rfl, -⟩ := h
  obtain ⟨hFound, hKind, hClient, hResource, hFamily, -⟩ := requireRefreshRecord_ok hRecord
  obtain ⟨hMem, hHash⟩ := credential?_ok hFound
  exact ⟨⟨_, hMem, .refl _⟩, hHash, hKind, hClient, hResource, hFamily⟩

theorem locateRevoked_ok {t : AuthTables} {token : String} {clientId : Option String}
    {candidate : CredentialRecord}
    (h : locateRevoked t (server.secretDigest token) clientId = some candidate) :
    RowOf t candidate ∧ RequestOf server candidate (.revoke token clientId) := by
  obtain ⟨hFound, hClient⟩ := Option.filter_eq_some_iff.mp h
  obtain ⟨hMem, hHash⟩ := credential?_ok hFound
  exact ⟨⟨_, hMem, .refl _⟩, hHash, of_decide_eq_true hClient⟩

/-- A revocation that is ignored ends no family. -/
theorem mute_ignored {t : AuthTables} {tokenHash : SecretHash} {clientId : Option String}
    (hNone : locateRevoked t tokenHash clientId = none) :
    Mute [.revoked clientId (t.credential? tokenHash)] := by
  constructor
  · rintro familyId ⟨event, hMem, hCloses⟩
    obtain rfl := List.mem_singleton.mp hMem
    obtain ⟨r, hFound, -, hClient⟩ := hCloses
    unfold locateRevoked at hNone
    rw [Option.mem_def.mp hFound, Option.filter_some,
      if_pos (decide_eq_true hClient)] at hNone
    exact nomatch hNone
  · intro source pair hMem
    exact nomatch List.mem_singleton.mp hMem

/-- An other request holds neither the lock nor the code that one moves with. -/
theorem FamilyBook.keeps_lock (hBook : FamilyBook server events s) {id : Nat} {p : TokenPhase}
    (hSame : (s.phase id).family? = p.family?) :
    ∀ other familyId, other ≠ id → (s.phase other).family? = some familyId →
      p.family? ≠ some familyId := by
  intro other familyId hOther hHeld hToo
  exact hOther (hBook.familyAlone other id familyId hHeld (hSame.trans hToo))

theorem FamilyBook.keeps_code (hBook : FamilyBook server events s) {id : Nat} {p : TokenPhase}
    (hSame : (s.phase id).code? = p.code?) :
    ∀ other codeHash, other ≠ id → (s.phase other).code? = some codeHash →
      p.code? ≠ some codeHash := by
  intro other codeHash hOther hHeld hToo
  exact hOther (hBook.codeAlone other id codeHash hHeld (hSame.trans hToo))

theorem FamilyBook.step (hBook : FamilyBook server events s)
    (hStep : TokenStep server s es s') : FamilyBook server (events ++ es) s' := by
  cases hStep with
  | refreshLocates hIdle hFound =>
      exact hBook.quietly (locateRefreshFamily_ok hFound) (fun _ _ _ _ => nofun)
        (fun _ _ _ _ => nofun) rfl
  | refreshRefused hFailed =>
      rw [List.append_nil]
      exact hBook
  | revokeLocates hIdle hFound =>
      exact hBook.quietly (locateRevoked_ok hFound) (fun _ _ _ _ => nofun)
        (fun _ _ _ _ => nofun) rfl
  | revokeIgnored hNone =>
      refine hBook.changed hBook.keyed (fun r hMem => ⟨r, hMem, .refl r⟩)
        (fun g hMem => ⟨g, hMem, .refl g⟩) (fun _ h => h) (fun other => .inr ⟨rfl, ?_⟩)
        (fun f hLoud => absurd (fun r hMem _ => ⟨r, hMem, .refl r⟩) hLoud)
        (fun f hEnd => absurd hEnd ((mute_ignored hNone).1 f))
        (fun source pair hMem => absurd hMem ((mute_ignored hNone).2 source pair))
      exact ⟨fun f _ => ⟨fun r hMem _ => ⟨r, hMem, .refl r⟩, (mute_ignored hNone).1 f⟩,
        fun _ hMem _ => hMem, fun source pair _ => (mute_ignored hNone).2 source pair⟩
  | @locks id request candidate hPhase hFree =>
      have hRight := hBook.phases id
      rw [hPhase] at hRight
      refine hBook.quietly hRight ?_ (fun _ _ _ _ => nofun) rfl
      intro other f _ hHeld hToo
      exact hFree other f f hHeld hToo rfl
  | @refreshWorks id base command candidate f now drawn hPhase hFamily =>
      have hRight := hBook.phases id
      rw [hPhase] at hRight
      exact hBook.quietly
        ⟨hRight.1, hRight.2, flushedRight_refresh hBook now drawn hRight.1 hRight.2 hFamily⟩
        (hBook.keeps_lock (by rw [hPhase]; rfl)) (fun _ _ _ _ => nofun) rfl
  | @revokeWorks id token clientId candidate now hPhase =>
      have hRight := hBook.phases id
      rw [hPhase] at hRight
      exact hBook.quietly
        ⟨hRight.1, hRight.2, flushedRight_revoke hBook now hRight.1 hRight.2⟩
        (hBook.keeps_lock (by rw [hPhase]; rfl)) (fun _ _ _ _ => nofun) rfl
  | @codeLocks id base command hIdle hResource hFree =>
      refine hBook.quietly ?_ (fun _ _ _ _ => nofun) ?_ rfl
      · intro g hFound
        exact ⟨List.mem_of_find?_eq_some hFound, by simpa using List.find?_some hFound⟩
      · intro other codeHash _ hHeld hToo
        obtain ⟨g, hFound, rfl⟩ := Option.map_eq_some_iff.mp hToo
        exact hFree other _ hHeld (by simpa using List.find?_some hFound)
  | @codeWorks id base command grant now drawn hPhase hFresh =>
      have hRight := hBook.phases id
      rw [hPhase] at hRight
      have hCode := @codeRight_exchange _ _ _ hBook base command grant now drawn
        (fun g hGrant => (hRight g hGrant).1) hFresh
      refine hBook.moved mute_nil (List.subset_cons_self _ _) ?_ (fun _ _ _ _ => nofun)
        (hBook.keeps_code (by rw [hPhase]; rfl)) ?_
      · rw [List.append_nil]
        exact hCode
      · intro other f _ hHeld hToo
        cases hIssued : (exchangeLockedCode server base s.tables grant command now
          drawn).result.toOption with
        | none => rw [hIssued] at hToo; exact nomatch hToo
        | some pair =>
            rw [hIssued] at hToo
            obtain ⟨-, hRefresh⟩ := exchangeLockedCode_family hIssued
            obtain rfl := Option.some.inj (hRefresh.symm.trans hToo)
            exact hFresh (hBook.of_drawn hHeld).1
  | commits hWrites => exact hBook.commits hWrites
  | rollsBack id =>
      rw [List.append_nil]
      exact hBook.ends
  | elsewhere hOther hWrites =>
      rw [List.append_nil]
      exact hBook.elsewhere hOther hWrites
  | accountsChange users clients =>
      refine hBook.changed ⟨hBook.keyed.grants, hBook.keyed.deviceGrants,
          hBook.keyed.credentials⟩ (fun r hMem => ⟨r, hMem, .refl r⟩)
        (fun g hMem => ⟨g, hMem, .refl g⟩) (fun _ h => h) (fun other => .inr ⟨rfl, ?_⟩)
        (fun f hLoud => absurd (fun r hMem _ => ⟨r, hMem, .refl r⟩) hLoud)
        (fun f hEnd => absurd hEnd (mute_nil.1 f)) (fun _ _ hMem => nomatch hMem)
      exact ⟨fun f _ => ⟨fun r hMem _ => ⟨r, hMem, .refl r⟩, mute_nil.1 f⟩,
        fun _ hMem _ => hMem, fun _ _ _ hMem => nomatch hMem⟩

theorem familyBook_opened (h : s₀.Opened) : FamilyBook server [] s₀ where
  keyed := ⟨by simp [h.grants], by simp [h.deviceGrants], h.keys⟩
  drawn r hMem familyId hIn := nomatch (h.outside r hMem).symm.trans hIn
  single _ r hMem _ _ hLive _ := nomatch (h.outside r hMem).symm.trans hLive.1
  familyAlone i _ _ hI _ := by rw [h.idle i] at hI; exact nomatch hI
  codeAlone i _ _ hI _ := by rw [h.idle i] at hI; exact nomatch hI
  drawnAlone i _ _ hI _ := by rw [h.idle i] at hI; exact nomatch hI
  phases i := by rw [h.idle i]; trivial
  usedUp _ _ hMem := nomatch hMem
  rotatedAway _ _ hMem := nomatch hMem
  once _ := Nat.zero_le 1
  dead familyId hClosed := absurd hClosed (mute_nil.1 familyId)

theorem familyBook_run (hOpened : s₀.Opened) (hRun : Run (TokenStep server) s₀ trace s) :
    FamilyBook server (tokenEvents trace) s := by
  refine Run.traceInvariant (I := fun trace s => FamilyBook server (tokenEvents trace) s)
    (familyBook_opened hOpened) (fun done _ es _ _ hBook hStep => ?_) hRun
  unfold tokenEvents at hBook ⊢
  rw [List.flatten_append, List.flatten_singleton]
  exact hBook.step hStep

theorem QuietFamily.refl (familyId : UUID) (t : AuthTables) : QuietFamily familyId t t :=
  fun r hMem _ => ⟨r, hMem, .refl r⟩

theorem QuietFamily.trans {t₁ t₂ t₃ : AuthTables} (h₁ : QuietFamily familyId t₁ t₂)
    (h₂ : QuietFamily familyId t₂ t₃) : QuietFamily familyId t₁ t₃ := by
  intro r₃ hMem₃ hIn₃
  obtain ⟨r₂, hMem₂, hOnly₂⟩ := h₂ r₃ hMem₃ hIn₃
  obtain ⟨r₁, hMem₁, hOnly₁⟩ := h₁ r₂ hMem₂ (hOnly₂.family.symm.trans hIn₃)
  exact ⟨r₁, hMem₁, hOnly₁.trans hOnly₂⟩

/-- What a request writes adds nothing to a family that was closed. -/
theorem FamilyBook.writes_closed (hBook : FamilyBook server events s) {id : Nat}
    (hClosed : Closed events familyId) {r : CredentialRecord}
    (hAdded : .addCredential r ∈ (s.phase id).writes) :
    r.refreshFamilyId ≠ some familyId := by
  have hRight := hBook.phases id
  intro hIn
  cases hPhase : s.phase id with
  | flushed request candidate record issued writes =>
      rw [hPhase] at hRight hAdded
      obtain ⟨-, -, hFlushed⟩ := hRight
      cases issued with
      | none =>
          obtain ⟨_, _, hRevoke⟩ := hFlushed.revocations rfl _ hAdded
          exact nomatch hRevoke
      | some pair =>
          obtain ⟨f, now, -, rfl, hPair, -, hOpen, -⟩ := hFlushed.rotation pair rfl
          obtain rfl : f = familyId := by
            rcases addCredential_mem_pair ((List.mem_cons.mp hAdded).resolve_left nofun)
              with rfl | rfl
            · exact Option.some.inj (hPair.1.symm.trans hIn)
            · exact Option.some.inj (hPair.2.1.symm.trans hIn)
          exact hOpen hClosed
  | codeFlushed grant issued writes =>
      rw [hPhase] at hRight hAdded
      cases issued with
      | none =>
          obtain ⟨_, _, -, hUse⟩ := hRight.uses rfl _ hAdded
          exact nomatch hUse
      | some pair =>
          obtain ⟨g, now, f, -, -, rfl, hPair, -, -, hOpen, -⟩ := hRight.issue pair rfl
          obtain rfl : f = familyId := by
            rcases addCredential_mem_pair ((List.mem_cons.mp hAdded).resolve_left nofun)
              with rfl | rfl
            · exact Option.some.inj (hPair.1.symm.trans hIn)
            · exact Option.some.inj (hPair.2.1.symm.trans hIn)
          exact hOpen hClosed
  | idle => rw [hPhase] at hAdded; exact nomatch hAdded
  | located request candidate => rw [hPhase] at hAdded; exact nomatch hAdded
  | locked request candidate => rw [hPhase] at hAdded; exact nomatch hAdded
  | codeLocked base command grant => rw [hPhase] at hAdded; exact nomatch hAdded

/-- No step adds a token to a family that was closed. -/
theorem FamilyBook.quiet_step (hBook : FamilyBook server events s)
    (hClosed : Closed events familyId) (hStep : TokenStep server s es s') :
    QuietFamily familyId s.tables s'.tables := by
  cases hStep with
  | commits hWrites => exact quiet_writeAll hWrites fun r => hBook.writes_closed hClosed
  | elsewhere hOther hWrites =>
      refine quiet_writeAll hWrites fun r hListed hIn => ?_
      cases hOther with
      | codeApproved grant hNew => simp at hListed
      | credentialRevoked tokenHash revokedAt => simp at hListed
      | credentialAdded record hOutside =>
          obtain rfl := AuthWrite.addCredential.inj (List.mem_singleton.mp hListed)
          exact nomatch hOutside.symm.trans hIn
      | deviceExchanged pair fresh hFresh hAccess hRefresh =>
          obtain rfl : fresh = familyId := by
            rcases addCredential_mem_pair hListed with rfl | rfl
            · exact Option.some.inj (hAccess.1.symm.trans hIn)
            · exact Option.some.inj (hRefresh.symm.trans hIn)
          exact hFresh (hBook.dead fresh hClosed).1
  | _ => exact .refl familyId _

theorem FamilyBook.quiet_run (hBook : FamilyBook server events s)
    (hClosed : Closed events familyId) (hRun : Run (TokenStep server) s after s') :
    QuietFamily familyId s.tables s'.tables := by
  induction hRun generalizing events with
  | nil s => exact .refl familyId _
  | cons hStep hRest ih =>
      exact (hBook.quiet_step hClosed hStep).trans
        (ih (hBook.step hStep) (closed_append.mpr (.inl hClosed)))

theorem length_liveTokens (hBook : FamilyBook server events s) :
    (liveTokens s.tables familyId).length ≤ 1 := by
  have hNodup : (liveTokens s.tables familyId).Nodup :=
    (List.Nodup.of_map _ hBook.keyed.credentials).filter _
  rcases hList : liveTokens s.tables familyId with _ | ⟨r₁, _ | ⟨r₂, rest⟩⟩
  · exact Nat.zero_le 1
  · exact le_refl 1
  · rw [hList, List.nodup_cons] at hNodup
    obtain ⟨hRow₁, hLive₁⟩ := List.mem_filter.mp (hList ▸ List.mem_cons_self :
      r₁ ∈ liveTokens s.tables familyId)
    obtain ⟨hRow₂, hLive₂⟩ := List.mem_filter.mp
      (hList ▸ List.mem_cons_of_mem _ List.mem_cons_self : r₂ ∈ liveTokens s.tables familyId)
    have hSame := hBook.keyed.credential_eq hRow₁ hRow₂
      (hBook.single familyId r₁ hRow₁ r₂ hRow₂ (of_decide_eq_true hLive₁)
        (of_decide_eq_true hLive₂))
    exact absurd (hSame ▸ List.mem_cons_self) hNodup.1

/-- In every state that is reached, a family has at most one live refresh token
and each code and refresh token has given at most one pair; and once a family
was closed, its tokens are revoked and none is added, however the run goes on. -/
theorem refresh_families_over_run (hOpened : s₀.Opened)
    (hBefore : Run (TokenStep server) s₀ before s₁)
    (hAfter : Run (TokenStep server) s₁ after s₂) :
    (∀ familyId, (liveTokens s₁.tables familyId).length ≤ 1)
    ∧ (∀ source, issueCount (tokenEvents before) source ≤ 1)
    ∧ ∀ familyId, Closed (tokenEvents before) familyId →
        (∀ r ∈ s₂.tables.credentials, r.refreshFamilyId = some familyId →
          r.revokedAt ≠ none)
        ∧ ∀ r ∈ s₂.tables.credentials, r.refreshFamilyId = some familyId →
          ∃ old ∈ s₁.tables.credentials, RevokedOnly old r := by
  have hBook := familyBook_run hOpened hBefore
  refine ⟨fun _ => length_liveTokens hBook, hBook.once, fun familyId hClosed => ?_⟩
  have hQuiet := hBook.quiet_run hClosed hAfter
  refine ⟨fun r hMem hIn => ?_, hQuiet⟩
  obtain ⟨old, hOld, hOnly⟩ := hQuiet r hMem hIn
  exact hOnly.2 ((hBook.dead familyId hClosed).2 old hOld (hOnly.family.symm.trans hIn))

end Runs

/-! ## A family and a revocation by another client -/

/-- A server whose digests are the characters of the secret. -/
def sampleTokenServer : OAuthServer where
  secretDigest secret := secret.toList.map fun c => c.toNat.toUInt8
  pkceChallenge verifier := verifier
  allowedOauthResources base := [base]
  mcpResource _ := false
  validRedirectUri _ := true
  redirectUriMatches registered requested := registered = requested
  refreshFamilyLockKey familyId := familyId.val

def sampleToken (tokenHash : SecretHash) (authKind : AuthKind) (revokedAt : Option Moment) :
    CredentialRecord where
  credentialId := 1
  tokenHash := tokenHash
  jti := 1
  actorSubjectId := "u"
  actorType := "human"
  authKind := authKind
  bookId := none
  oauthClientId := some "c"
  resource := some "api"
  refreshFamilyId := some 7
  scopes := ["ledger:read"]
  issuedAt := 10
  expiresAt := 20
  revokedAt := revokedAt

def sampleFamilyPair : TokenPair where
  access := sampleToken [97] .device none
  refresh := sampleToken [114] .refreshToken none
  response := ⟨"a", "Bearer", 3600, "r", 2592000, ["ledger:read"], "api"⟩

def sampleTokenTables (credentials : List CredentialRecord) : AuthTables :=
  ⟨[], [], [], [], [], credentials⟩

/-- A system with the tables and the first request at its stage. -/
def sampleTokens (credentials : List CredentialRecord) (families : List UUID)
    (phase : TokenPhase) : TokenSystem :=
  ⟨sampleTokenTables credentials, families, fun id => if id = 0 then phase else .idle⟩

theorem sampleTokens_opened : (sampleTokens [] [] .idle).Opened where
  grants := rfl
  deviceGrants := rfl
  keys := List.nodup_nil
  outside _ hMem := nomatch hMem
  idle id := by
    show (if id = 0 then TokenPhase.idle else .idle) = .idle
    split_ifs <;> rfl

theorem sampleTokens_moved (credentials : List CredentialRecord) (families : List UUID)
    (p q : TokenPhase) :
    (sampleTokens credentials families p).moved 0 q = sampleTokens credentials families q := by
  unfold TokenSystem.moved sampleTokens
  congr 1
  funext id
  by_cases hId : id = 0 <;> simp [hId]

/-- A device exchange has put a family on record. -/
theorem sampleTokens_exchanged : TokenStep sampleTokenServer (sampleTokens [] [] .idle) []
    (sampleTokens [sampleFamilyPair.access, sampleFamilyPair.refresh] [7] .idle) :=
  .elsewhere (.deviceExchanged sampleFamilyPair 7 (fun h => nomatch h) ⟨rfl, rfl⟩ rfl)
    (by rfl)

/-- A revocation under the name of another client leaves the family as it is. -/
theorem not_closed_by_other_client :
    ¬∀ (server : OAuthServer) (s₀ s : TokenSystem) (trace : List (List TokenEvent))
      (clientId : Option String) (found : CredentialRecord) (familyId : UUID),
      s₀.Opened → Run (TokenStep server) s₀ trace s →
      .revoked clientId (some found) ∈ tokenEvents trace →
      found.refreshFamilyId = some familyId →
      ∀ r ∈ s.tables.credentials, r.refreshFamilyId = some familyId → r.revokedAt ≠ none := by
  intro hAll
  have hIgnored : TokenStep sampleTokenServer
      (sampleTokens [sampleFamilyPair.access, sampleFamilyPair.refresh] [7] .idle)
      [.revoked (some "other") (some sampleFamilyPair.refresh)]
      (sampleTokens [sampleFamilyPair.access, sampleFamilyPair.refresh] [7] .idle) :=
    @TokenStep.revokeIgnored _ _ "r" _ (by decide)
  have hRun : Run (TokenStep sampleTokenServer) (sampleTokens [] [] .idle)
      [[], [.revoked (some "other") (some sampleFamilyPair.refresh)]]
      (sampleTokens [sampleFamilyPair.access, sampleFamilyPair.refresh] [7] .idle) :=
    .cons sampleTokens_exchanged (.cons hIgnored (.nil _))
  exact hAll sampleTokenServer _ _ _ (some "other") sampleFamilyPair.refresh 7
    sampleTokens_opened hRun (by simp [tokenEvents]) rfl sampleFamilyPair.refresh
    (List.mem_cons_of_mem _ List.mem_cons_self) rfl rfl

theorem sampleTokens_written (credentials written : List CredentialRecord)
    (families : List UUID) (p : TokenPhase) :
    { (sampleTokens credentials families p).moved 0 .idle with
      tables := sampleTokenTables written } = sampleTokens written families .idle := by
  rw [sampleTokens_moved]
  rfl

/-- The family once the user has revoked its refresh token. -/
def sampleRevokedTokens : List CredentialRecord :=
  [sampleToken [97] .device (some 30), sampleToken [114] .refreshToken (some 30)]

theorem sampleRevoked_run : Run (TokenStep sampleTokenServer) (sampleTokens [] [] .idle)
    [[], [], [], [], [.revoked none (some sampleFamilyPair.refresh)]]
    (sampleTokens sampleRevokedTokens [7] .idle) := by
  refine .cons sampleTokens_exchanged (.cons (@TokenStep.revokeLocates _ _ 0 "r" none
    sampleFamilyPair.refresh rfl (by decide)) ?_)
  rw [sampleTokens_moved]
  refine .cons (@TokenStep.locks _ _ 0 _ _ rfl ?_) ?_
  · intro other held _ hHeld
    by_cases hId : other = 0 <;> simp [sampleTokens, hId, TokenPhase.family?] at hHeld
  rw [sampleTokens_moved]
  refine .cons (@TokenStep.revokeWorks _ _ 0 "r" none _ 30 rfl) ?_
  rw [sampleTokens_moved]
  refine .cons (@TokenStep.commits _ _ 0 (sampleTokenTables sampleRevokedTokens) (by rfl)) ?_
  rw [sampleTokens_written]
  exact .nil _

theorem refresh_families_over_sample :
    (liveTokens (sampleTokens sampleRevokedTokens [7] .idle).tables 7).length ≤ 1
    ∧ ∀ r ∈ (sampleTokens sampleRevokedTokens [7] .idle).tables.credentials,
        r.refreshFamilyId = some 7 → r.revokedAt ≠ none := by
  obtain ⟨hLive, -, hClosed⟩ :=
    refresh_families_over_run sampleTokens_opened sampleRevoked_run (.nil _)
  refine ⟨hLive 7, (hClosed 7 ⟨.revoked none (some sampleFamilyPair.refresh), ?_, ?_⟩).1⟩
  · simp [tokenEvents]
  · exact ⟨sampleFamilyPair.refresh, rfl, rfl, fun _ h => nomatch h⟩

end TrackAnywhere.Ports
