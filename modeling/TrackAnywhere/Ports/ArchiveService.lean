import TrackAnywhere.Ports.ArchiveNdjson
import TrackAnywhere.Ports.ProtectedContent

/-!
# Stored archives

An archive of an import is brought into canonical form, encrypted and stored with a manifest that
seals its source and its counts.  It is verified later: the seal is computed again, the content is
decrypted, and its canonical form has to be the content itself.

A call sees one state of the two tables: other transactions come before it or after it.
-/

namespace TrackAnywhere.Ports

open TrackAnywhere.Verified.Checked
open TrackAnywhere.Verified.KeyedSum

/-! ## The rows -/

inductive ContentStatus
  | active
  | erased
deriving DecidableEq

/-- The columns of `protected_description_sidecars`, without those of the key. -/
structure StoredContent where
  kind : String
  ciphertext : Option ByteArray
  keyRef : Option String
  nonce : Option ByteArray
  algorithm : String
  contentHash : ByteArray
  status : ContentStatus

structure ProtectedContentSnapshot extends StoredContent where
  bookId : UUID
  sidecarId : UUID

/-- What the seal of an archive covers, with its Book and its id. -/
structure ManifestFacts where
  contractVersion : Int
  sourceDumpHash : ByteArray
  sourceManifestHash : ByteArray
  cardReviewHash : ByteArray
  planHash : ByteArray
  archiveContentCommitment : ByteArray
  recordCounts : Dict String Int

/-- The columns of `import_archive_manifests`, without those of the key. -/
structure StoredManifest extends ManifestFacts where
  archiveSeal : ByteArray

structure ImportArchiveManifestSnapshot extends StoredManifest where
  bookId : UUID
  archiveId : UUID
  sidecar : ProtectedContentSnapshot

structure PrivacyTables where
  contents : Dict (UUID × UUID) StoredContent
  manifests : Dict (UUID × UUID) StoredManifest

inductive ArchiveError
  | conflict (conflict : ProtectedContentConflict)
  | content (error : ProtectedContentError)
  | persistence (message : String)
deriving DecidableEq

/-! ## The repository -/

namespace PrivacyTables

variable (self : PrivacyTables)

/-- `get` -/
def get (bookId sidecarId : UUID) : Option ProtectedContentSnapshot :=
  (self.contents.lookup (bookId, sidecarId)).map fun row =>
    { toStoredContent := row, bookId, sidecarId }

/-- `insert_or_get` -/
def insertOrGet (bookId sidecarId : UUID) (proposed : StoredContent) :
    Except ArchiveError (PrivacyTables × ProtectedContentSnapshot) := do
  let tables : PrivacyTables :=
    match self.contents.lookup (bookId, sidecarId) with
    | none => { self with contents := self.contents.insert (bookId, sidecarId) proposed }
    | some _ => self
  let result ← fetch (tables.get bookId sidecarId)
    (.persistence "protected content persistence failed")
  return (tables, result)

/-- `get_archive_manifest` -/
def getArchiveManifest (bookId archiveId : UUID) : Option ImportArchiveManifestSnapshot := do
  let row ← self.manifests.lookup (bookId, archiveId)
  let sidecar ← self.get bookId archiveId
  return { toStoredManifest := row, bookId, archiveId, sidecar }

/-- `insert_archive_manifest_or_get` -/
def insertArchiveManifestOrGet (bookId archiveId : UUID) (proposed : StoredManifest) :
    Except ArchiveError (PrivacyTables × ImportArchiveManifestSnapshot) := do
  let tables : PrivacyTables :=
    match self.manifests.lookup (bookId, archiveId) with
    | none => { self with manifests := self.manifests.insert (bookId, archiveId) proposed }
    | some _ => self
  let result ← fetch (tables.getArchiveManifest bookId archiveId)
    (.persistence "import archive manifest persistence failed")
  return (tables, result)

end PrivacyTables

/-! ## The seal -/

/-- `_IMPORT_ARCHIVE_SEAL_VERSION` -/
def importArchiveSealVersion : Nat := 1

/-- `_IMPORT_ARCHIVE_COUNT_KEYS` -/
def importArchiveCountKeys : List String :=
  ["classification_audit_records", "investment_activities", "investment_valuations",
    "uncategorized_fx_reporting_facts", "institution_metadata_records", "counterparty_records",
    "omission_records"]

def notSealed : ProtectedContentError := .encryption "import archive could not be sealed"

/-- `record_counts`, as JSON. -/
def countsValue (counts : Dict String Int) : JSONValue :=
  .dict (counts.entries.map fun entry => (entry.1, .int entry.2))

def sealValue (bookId archiveId : UUID) (facts : ManifestFacts) : JSONValue :=
  .dict [("archive_content_commitment", .str (bytesHex facts.archiveContentCommitment)),
    ("archive_id", .uuid archiveId), ("book_id", .uuid bookId),
    ("card_review_hash", .str (bytesHex facts.cardReviewHash)),
    ("context", .str "import-archive-seal"), ("contract_version", .int facts.contractVersion),
    ("plan_hash", .str (bytesHex facts.planHash)),
    ("record_counts", countsValue facts.recordCounts),
    ("source_dump_hash", .str (bytesHex facts.sourceDumpHash)),
    ("source_manifest_hash", .str (bytesHex facts.sourceManifestHash)),
    ("version", .nat importArchiveSealVersion)]

/-- The hashes that a seal covers. -/
def ManifestFacts.hashes (self : ManifestFacts) : List ByteArray :=
  [self.archiveContentCommitment, self.cardReviewHash, self.planHash, self.sourceDumpHash,
    self.sourceManifestHash]

section Service

variable (prim : ContentPrimitives) (keyring : ProtectedContentKeyring)

def commitArchiveSeal (bookId archiveId : UUID) (keyRef : String) (facts : ManifestFacts) :
    Except ProtectedContentError Bytes32 := do
  require (validKeyRef keyRef) notSealed
  require (facts.contractVersion = importArchiveSealVersion) notSealed
  require (∀ hash ∈ facts.hashes, hash.size = 32) notSealed
  require (facts.recordCounts.keys.toFinset = importArchiveCountKeys.toFinset
    ∧ ∀ entry ∈ facts.recordCounts.entries, 0 ≤ entry.2) notSealed
  let masterKey ← keyring.keyFor keyRef
  let bookKey ← (deriveBookKey prim masterKey bookId).mapError fun _ => notSealed
  let material ← (canonicalJsonBytes (sealValue bookId archiveId facts)).mapError
    fun _ => notSealed
  return prim.hmac bookKey material

/-! ## The content -/

def contentConflict : ArchiveError :=
  .conflict ⟨"protected content conflicts with existing data"⟩

/-- `decrypt_active` -/
def decryptActive (content : ProtectedContentSnapshot) (expectedKind : String) :
    Except ArchiveError ByteArray := do
  require (content.status = .active ∧ content.kind = expectedKind) contentConflict
  let ciphertext ← fetch content.ciphertext contentConflict
  let keyRef ← fetch content.keyRef contentConflict
  let nonce ← fetch content.nonce contentConflict
  let presented : SealedProtectedContent :=
    { keyRef, algorithm := content.algorithm, contentHash := content.contentHash, ciphertext,
      nonce }
  (decrypt prim keyring ⟨content.bookId, content.sidecarId, expectedKind⟩ presented).mapError
    fun
    | .decryption _ => contentConflict
    | error => .content error

/-- `_verify_exact` -/
def verifyExact (existing : ProtectedContentSnapshot) (kind : String)
    (canonicalPlaintext : ByteArray) : Except ArchiveError ProtectedContentSnapshot := do
  let decrypted ← decryptActive prim keyring existing kind
  require (decrypted = canonicalPlaintext) contentConflict
  return existing

/-- The row of `create_or_exact_verify`: what is there, or else what is encrypted now. -/
def getOrEncrypt (tables : PrivacyTables) (nonceSource : Option ByteArray)
    (coordinates : ContentCoordinates) (canonicalPlaintext : ByteArray) :
    Except ArchiveError (PrivacyTables × ProtectedContentSnapshot) :=
  match tables.get coordinates.bookId coordinates.sidecarId with
  | some existing => .ok (tables, existing)
  | none => do
      let content ← (encrypt prim keyring nonceSource coordinates canonicalPlaintext).mapError
        .content
      tables.insertOrGet coordinates.bookId coordinates.sidecarId
        { kind := coordinates.kind
          ciphertext := some content.ciphertext
          keyRef := some content.keyRef
          nonce := some content.nonce
          algorithm := content.algorithm
          contentHash := content.contentHash
          status := .active }

/-- `create_or_exact_verify` -/
def createOrExactVerify (tables : PrivacyTables) (nonceSource : Option ByteArray)
    (coordinates : ContentCoordinates) (canonicalPlaintext : ByteArray) :
    Except ArchiveError (PrivacyTables × ProtectedContentSnapshot) := do
  let (tables, existing) ← getOrEncrypt prim keyring tables nonceSource coordinates
    canonicalPlaintext
  let existing ← verifyExact prim keyring existing coordinates.kind canonicalPlaintext
  return (tables, existing)

/-! ## Archives -/

structure ImportArchiveRecordCounts where
  classificationAuditRecords : Nat
  investmentActivities : Nat
  investmentValuations : Nat
  uncategorizedFxReportingFacts : Nat
  institutionMetadataRecords : Nat
  counterpartyRecords : Nat
  omissionRecords : Nat

theorem importArchiveCountKeys_nodup : importArchiveCountKeys.Nodup := by decide

/-- `model_dump` -/
def ImportArchiveRecordCounts.modelDump (self : ImportArchiveRecordCounts) : Dict String Int where
  entries :=
    [⟨"classification_audit_records", self.classificationAuditRecords⟩,
      ⟨"investment_activities", self.investmentActivities⟩,
      ⟨"investment_valuations", self.investmentValuations⟩,
      ⟨"uncategorized_fx_reporting_facts", self.uncategorizedFxReportingFacts⟩,
      ⟨"institution_metadata_records", self.institutionMetadataRecords⟩,
      ⟨"counterparty_records", self.counterpartyRecords⟩,
      ⟨"omission_records", self.omissionRecords⟩]
  nodupKeys := importArchiveCountKeys_nodup

/-- The contract version is 1: the model admits no other. -/
structure ImportArchiveProposal where
  bookId : UUID
  archiveId : UUID
  sourceDumpHash : Bytes32
  sourceManifestHash : Bytes32
  cardReviewHash : Bytes32
  planHash : Bytes32
  recordCounts : ImportArchiveRecordCounts
  canonicalNdjson : ByteArray
  hNdjson : canonicalNdjson.size ≠ 0

def archiveConflict : ArchiveError :=
  .conflict ⟨"import archive conflicts with existing data"⟩

/-- What is stored of an archive, for a commitment to its content. -/
def ImportArchiveProposal.facts (archive : ImportArchiveProposal) (contentHash : ByteArray) :
    ManifestFacts where
  contractVersion := 1
  sourceDumpHash := archive.sourceDumpHash.1
  sourceManifestHash := archive.sourceManifestHash.1
  cardReviewHash := archive.cardReviewHash.1
  planHash := archive.planHash.1
  archiveContentCommitment := contentHash
  recordCounts := archive.recordCounts.modelDump

/-- `_archive_matches`; two dictionaries are equal whatever the order of their keys is. -/
abbrev ArchiveMatches (existing : ImportArchiveManifestSnapshot) (archive : ImportArchiveProposal)
    (contentHash archiveSeal : ByteArray) : Prop :=
  existing.bookId = archive.bookId ∧ existing.archiveId = archive.archiveId
    ∧ existing.contractVersion = 1
    ∧ existing.recordCounts.entries.Perm archive.recordCounts.modelDump.entries
    ∧ existing.sidecar.status = .active ∧ existing.sidecar.kind = "import_archive"
    ∧ existing.sourceDumpHash = archive.sourceDumpHash.1
    ∧ existing.sourceManifestHash = archive.sourceManifestHash.1
    ∧ existing.cardReviewHash = archive.cardReviewHash.1
    ∧ existing.planHash = archive.planHash.1
    ∧ existing.archiveContentCommitment = contentHash ∧ existing.archiveSeal = archiveSeal

/-- `create_or_exact_verify_archive` -/
def createOrExactVerifyArchive (tables : PrivacyTables) (nonceSource : Option ByteArray)
    (archive : ImportArchiveProposal) :
    Except ArchiveError (PrivacyTables × ImportArchiveManifestSnapshot) := do
  let canonicalNdjson ← (canonicalizeNdjson archive.canonicalNdjson).mapError .conflict
  let (tables, sidecar) ← createOrExactVerify prim keyring tables nonceSource
    ⟨archive.bookId, archive.archiveId, "import_archive"⟩ canonicalNdjson
  let keyRef ← fetch sidecar.keyRef archiveConflict
  let facts := archive.facts sidecar.contentHash
  let archiveSeal ← (commitArchiveSeal prim keyring archive.bookId archive.archiveId keyRef
    facts).mapError .content
  let (tables, existing) ← tables.insertArchiveManifestOrGet archive.bookId archive.archiveId
    { toManifestFacts := facts, archiveSeal := archiveSeal.1 }
  require (ArchiveMatches existing archive sidecar.contentHash archiveSeal.1) archiveConflict
  return (tables, existing)

/-- `_is_digest` -/
def isDigest (value : ByteArray) : Bool := value.size = 32

/-- `verify_archive_manifest` -/
def verifyArchiveManifest (manifest : ImportArchiveManifestSnapshot) (includeContent : Bool) :
    Except ArchiveError (Option ByteArray) := do
  let sidecar := manifest.sidecar
  require (sidecar.bookId = manifest.bookId ∧ sidecar.sidecarId = manifest.archiveId
    ∧ sidecar.status = .active ∧ sidecar.kind = "import_archive") contentConflict
  let ciphertext ← fetch sidecar.ciphertext contentConflict
  require (16 ≤ ciphertext.size) contentConflict
  let keyRef ← fetch sidecar.keyRef contentConflict
  let nonce ← fetch sidecar.nonce contentConflict
  require (nonce.size = 12 ∧ sidecar.algorithm = protectedContentAlgorithm
    ∧ isDigest sidecar.contentHash) contentConflict
  require (∀ hash ∈ manifest.archiveSeal :: manifest.hashes, isDigest hash) contentConflict
  require (manifest.archiveContentCommitment = sidecar.contentHash) contentConflict
  let expectedSeal ← (commitArchiveSeal prim keyring manifest.bookId manifest.archiveId keyRef
    manifest.toManifestFacts).mapError fun _ => contentConflict
  require (expectedSeal.1 = manifest.archiveSeal) contentConflict
  let plaintext ← decryptActive prim keyring sidecar "import_archive"
  let canonical ← (canonicalizeNdjson plaintext).mapError .conflict
  require (canonical = plaintext) contentConflict
  return if includeContent then some plaintext else none

end Service

/-! ## The tables after a call -/

section Tables

variable {tables tables' : PrivacyTables} {bookId sidecarId archiveId : UUID}

theorem get_eq_some {content : ProtectedContentSnapshot}
    (h : tables.get bookId sidecarId = some content) :
    content.bookId = bookId ∧ content.sidecarId = sidecarId := by
  unfold PrivacyTables.get at h
  obtain ⟨row, -, rfl⟩ := Option.map_eq_some_iff.1 h
  exact ⟨rfl, rfl⟩

theorem insertOrGet_ok {proposed : StoredContent} {content : ProtectedContentSnapshot}
    (h : tables.insertOrGet bookId sidecarId proposed = .ok (tables', content)) :
    tables'.get bookId sidecarId = some content := by
  simp only [PrivacyTables.insertOrGet, bind_eq_ok, fetch_eq_ok, pure_eq_ok, Prod.mk.injEq] at h
  obtain ⟨found, hGet, rfl, rfl⟩ := h
  exact hGet

theorem getArchiveManifest_eq_some {manifest : ImportArchiveManifestSnapshot} :
    tables.getArchiveManifest bookId archiveId = some manifest ↔
      ∃ row sidecar, tables.manifests.lookup (bookId, archiveId) = some row
        ∧ tables.get bookId archiveId = some sidecar
        ∧ { toStoredManifest := row, bookId, archiveId, sidecar } = manifest := by
  unfold PrivacyTables.getArchiveManifest
  simp only [Option.bind_eq_bind, Option.bind_eq_some_iff, Option.pure_def, Option.some.injEq]
  constructor
  · rintro ⟨row, hRow, sidecar, hSidecar, hManifest⟩
    exact ⟨row, sidecar, hRow, hSidecar, hManifest⟩
  · rintro ⟨row, sidecar, hRow, hSidecar, hManifest⟩
    exact ⟨row, hRow, sidecar, hSidecar, hManifest⟩

theorem insertArchiveManifestOrGet_ok {proposed : StoredManifest}
    {manifest : ImportArchiveManifestSnapshot}
    (h : tables.insertArchiveManifestOrGet bookId archiveId proposed = .ok (tables', manifest)) :
    tables'.getArchiveManifest bookId archiveId = some manifest
      ∧ tables'.contents = tables.contents := by
  simp only [PrivacyTables.insertArchiveManifestOrGet, bind_eq_ok, fetch_eq_ok, pure_eq_ok,
    Prod.mk.injEq] at h
  obtain ⟨found, hGet, rfl, rfl⟩ := h
  refine ⟨hGet, ?_⟩
  cases tables.manifests.lookup (bookId, archiveId) with
  | none => rfl
  | some row => rfl

end Tables

/-! ## What the calls go through -/

section Calls

variable {prim : ContentPrimitives} {keyring later : ProtectedContentKeyring}
  {content : ProtectedContentSnapshot} {kind : String} {plaintext : ByteArray}

/-- The sealed content that a row presents. -/
def ProtectedContentSnapshot.presented (self : ProtectedContentSnapshot) (keyRef : String)
    (ciphertext nonce : ByteArray) : SealedProtectedContent where
  keyRef := keyRef
  algorithm := self.algorithm
  contentHash := self.contentHash
  ciphertext := ciphertext
  nonce := nonce

theorem decryptActive_eq_ok : decryptActive prim keyring content kind = .ok plaintext ↔
    (content.status = .active ∧ content.kind = kind) ∧ ∃ ciphertext keyRef nonce,
      content.ciphertext = some ciphertext ∧ content.keyRef = some keyRef
        ∧ content.nonce = some nonce
        ∧ decrypt prim keyring ⟨content.bookId, content.sidecarId, kind⟩
          (content.presented keyRef ciphertext nonce) = .ok plaintext := by
  simp only [decryptActive, bind_eq_ok, require_eq_ok, fetch_eq_ok, mapError_eq_ok, exists_const]
  constructor
  · rintro ⟨hStatus, ciphertext, hCiphertext, keyRef, hKeyRef, nonce, hNonce, hOk⟩
    exact ⟨hStatus, ciphertext, keyRef, nonce, hCiphertext, hKeyRef, hNonce, hOk⟩
  · rintro ⟨hStatus, ciphertext, keyRef, nonce, hCiphertext, hKeyRef, hNonce, hOk⟩
    exact ⟨hStatus, ciphertext, hCiphertext, keyRef, hKeyRef, nonce, hNonce, hOk⟩

/-- A decryption depends on the keyring for one key. -/
theorem decrypt_later {coordinates : ContentCoordinates} {presented : SealedProtectedContent}
    (hKey : later.key? presented.keyRef = keyring.key? presented.keyRef) :
    decrypt prim later coordinates presented = decrypt prim keyring coordinates presented := by
  unfold decrypt ProtectedContentKeyring.keyFor
  rw [hKey]

theorem decryptActive_later
    (hKey : ∀ keyRef, content.keyRef = some keyRef → later.key? keyRef = keyring.key? keyRef)
    (h : decryptActive prim keyring content kind = .ok plaintext) :
    decryptActive prim later content kind = .ok plaintext := by
  rw [decryptActive_eq_ok] at h ⊢
  obtain ⟨hStatus, ciphertext, keyRef, nonce, hCiphertext, hKeyRef, hNonce, hOk⟩ := h
  refine ⟨hStatus, ciphertext, keyRef, nonce, hCiphertext, hKeyRef, hNonce, ?_⟩
  rw [decrypt_later (hKey keyRef hKeyRef)]
  exact hOk

theorem countsValue_same {counts counts' : Dict String Int}
    (h : counts.entries.Perm counts'.entries) :
    (countsValue counts).Same (countsValue counts') := by
  refine same_of_perm (h.map _) ?_
  rw [List.map_map]
  exact counts.keys_nodup

theorem proveJsonValue_counts {counts counts' : Dict String Int}
    (h : counts.entries.Perm counts'.entries)
    (hProved : proveJsonValue (countsValue counts) = .ok ()) :
    proveJsonValue (countsValue counts') = .ok () := by
  rw [countsValue, proveJsonValue, proveJsonDict_eq_ok] at hProved ⊢
  intro member hMember
  exact hProved member ((h.map _).mem_iff.2 hMember)

/-- The material of a seal does not depend on the order of the counts. -/
theorem sealValue_bytes {bookId archiveId : UUID} {facts : ManifestFacts}
    {counts : Dict String Int} {material : ByteArray}
    (hPerm : facts.recordCounts.entries.Perm counts.entries)
    (h : canonicalJsonBytes (sealValue bookId archiveId facts) = .ok material) :
    canonicalJsonBytes (sealValue bookId archiveId { facts with recordCounts := counts })
      = .ok material := by
  rw [canonicalJsonBytes_row] at h ⊢
  obtain ⟨hProved, hBytes⟩ := h
  have hCounts : (countsValue facts.recordCounts).sortKeys = (countsValue counts).sortKeys :=
    countsValue_same hPerm
  have hSame : (sealValue bookId archiveId { facts with recordCounts := counts }).Same
      (sealValue bookId archiveId facts) := by
    unfold JSONValue.Same sealValue
    simp only [JSONValue.sortKeys, sortKeysDict, hCounts]
  refine ⟨?_, ?_⟩
  · rw [sealValue, proveJsonValue, proveJsonDict_eq_ok] at hProved ⊢
    simp only [List.forall_mem_cons] at hProved ⊢
    obtain ⟨h1, h2, h3, h4, h5, h6, h7, hProvedCounts, hRest⟩ := hProved
    exact ⟨h1, h2, h3, h4, h5, h6, h7, proveJsonValue_counts hPerm hProvedCounts, hRest⟩
  · unfold rowBytes at hBytes ⊢
    rw [render_eq_iff.2 hSame]
    exact hBytes

theorem commitArchiveSeal_eq_ok {bookId archiveId : UUID} {keyRef : String}
    {facts : ManifestFacts} {archiveSeal : Bytes32} :
    commitArchiveSeal prim keyring bookId archiveId keyRef facts = .ok archiveSeal ↔
      validKeyRef keyRef = true ∧ facts.contractVersion = importArchiveSealVersion
        ∧ (∀ hash ∈ facts.hashes, hash.size = 32)
        ∧ (facts.recordCounts.keys.toFinset = importArchiveCountKeys.toFinset
          ∧ ∀ entry ∈ facts.recordCounts.entries, 0 ≤ entry.2)
        ∧ ∃ masterKey bookKey material, keyring.key? keyRef = some masterKey
          ∧ deriveBookKey prim masterKey bookId = .ok bookKey
          ∧ canonicalJsonBytes (sealValue bookId archiveId facts) = .ok material
          ∧ prim.hmac bookKey material = archiveSeal := by
  simp only [commitArchiveSeal, ProtectedContentKeyring.keyFor, bind_eq_ok, require_eq_ok,
    fetch_eq_ok, mapError_eq_ok, pure_eq_ok, exists_const]
  constructor
  · rintro ⟨hRef, hVersion, hHashes, hCounts, masterKey, hKey, bookKey, hDerived, material, hBytes,
      hSeal⟩
    exact ⟨hRef, hVersion, hHashes, hCounts, masterKey, bookKey, material, hKey, hDerived, hBytes,
      hSeal⟩
  · rintro ⟨hRef, hVersion, hHashes, hCounts, masterKey, bookKey, material, hKey, hDerived, hBytes,
      hSeal⟩
    exact ⟨hRef, hVersion, hHashes, hCounts, masterKey, hKey, bookKey, hDerived, material, hBytes,
      hSeal⟩

/-- A seal is computed again under every keyring that has its key, whatever the order of the
counts. -/
theorem commitArchiveSeal_later {bookId archiveId : UUID} {keyRef : String}
    {facts : ManifestFacts} {counts : Dict String Int} {archiveSeal : Bytes32}
    (hKey : later.key? keyRef = keyring.key? keyRef)
    (hPerm : facts.recordCounts.entries.Perm counts.entries)
    (h : commitArchiveSeal prim keyring bookId archiveId keyRef facts = .ok archiveSeal) :
    commitArchiveSeal prim later bookId archiveId keyRef { facts with recordCounts := counts }
      = .ok archiveSeal := by
  rw [commitArchiveSeal_eq_ok] at h ⊢
  obtain ⟨hRef, hVersion, hHashes, ⟨hNames, hNatural⟩, masterKey, bookKey, material, hMaster,
    hDerived, hBytes, hSeal⟩ := h
  refine ⟨hRef, hVersion, hHashes, ⟨?_, ?_⟩, masterKey, bookKey, material, hKey.trans hMaster,
    hDerived, sealValue_bytes hPerm hBytes, hSeal⟩
  · rw [← hNames]
    exact List.toFinset_eq_of_perm _ _ (hPerm.map _).symm
  · intro entry hEntry
    exact hNatural entry (hPerm.mem_iff.2 hEntry)

theorem verifyExact_ok {existing : ProtectedContentSnapshot}
    (h : verifyExact prim keyring existing kind plaintext = .ok content) :
    decryptActive prim keyring existing kind = .ok plaintext ∧ existing = content := by
  simp only [verifyExact, bind_eq_ok, require_eq_ok, pure_eq_ok, exists_const] at h
  obtain ⟨decrypted, hDecrypted, rfl, hSame⟩ := h
  exact ⟨hDecrypted, hSame⟩

/-- What is returned is stored, and decrypts to the plaintext. -/
theorem createOrExactVerify_ok {tables tables' : PrivacyTables} {nonceSource : Option ByteArray}
    {coordinates : ContentCoordinates}
    (h : createOrExactVerify prim keyring tables nonceSource coordinates plaintext
      = .ok (tables', content)) :
    tables'.get coordinates.bookId coordinates.sidecarId = some content
      ∧ decryptActive prim keyring content coordinates.kind = .ok plaintext := by
  unfold createOrExactVerify at h
  obtain ⟨⟨stored, existing⟩, hStored, hRest⟩ := bind_eq_ok.1 h
  obtain ⟨verified, hVerified, hResult⟩ := bind_eq_ok.1 hRest
  obtain ⟨hDecrypted, rfl⟩ := verifyExact_ok hVerified
  obtain ⟨rfl, rfl⟩ := Prod.mk.inj (pure_eq_ok.1 hResult)
  refine ⟨?_, hDecrypted⟩
  unfold getOrEncrypt at hStored
  cases hGet : tables.get coordinates.bookId coordinates.sidecarId with
  | some found =>
      rw [hGet] at hStored
      obtain ⟨rfl, rfl⟩ := Prod.mk.inj (Except.ok.inj hStored)
      exact hGet
  | none =>
      rw [hGet] at hStored
      obtain ⟨sealedContent, -, hInserted⟩ := bind_eq_ok.1 hStored
      exact insertOrGet_ok hInserted

/-! ## Verification -/

/-- All that a verification checks before it decrypts, with the content that it decrypts to. -/
structure Intact (prim : ContentPrimitives) (keyring : ProtectedContentKeyring)
    (manifest : ImportArchiveManifestSnapshot) (plaintext ciphertext nonce : ByteArray)
    (keyRef : String) (archiveSeal : Bytes32) : Prop where
  filed : manifest.sidecar.bookId = manifest.bookId
    ∧ manifest.sidecar.sidecarId = manifest.archiveId
    ∧ manifest.sidecar.status = .active ∧ manifest.sidecar.kind = "import_archive"
  hasCiphertext : manifest.sidecar.ciphertext = some ciphertext
  tagged : 16 ≤ ciphertext.size
  hasKeyRef : manifest.sidecar.keyRef = some keyRef
  hasNonce : manifest.sidecar.nonce = some nonce
  envelope : nonce.size = 12 ∧ manifest.sidecar.algorithm = protectedContentAlgorithm
    ∧ isDigest manifest.sidecar.contentHash = true
  hashes : ∀ hash ∈ manifest.archiveSeal :: manifest.hashes, isDigest hash = true
  commitment : manifest.archiveContentCommitment = manifest.sidecar.contentHash
  expected : commitArchiveSeal prim keyring manifest.bookId manifest.archiveId keyRef
    manifest.toManifestFacts = .ok archiveSeal
  same : archiveSeal.1 = manifest.archiveSeal
  decrypted : decryptActive prim keyring manifest.sidecar "import_archive" = .ok plaintext

/-- An archive is returned when it is intact and its content is its own canonical form. -/
theorem verifyArchiveManifest_eq_ok {manifest : ImportArchiveManifestSnapshot} :
    verifyArchiveManifest prim keyring manifest true = .ok (some plaintext) ↔
      (∃ ciphertext nonce keyRef archiveSeal,
        Intact prim keyring manifest plaintext ciphertext nonce keyRef archiveSeal)
      ∧ canonicalizeNdjson plaintext = .ok plaintext := by
  simp only [verifyArchiveManifest, bind_eq_ok, require_eq_ok, fetch_eq_ok, mapError_eq_ok,
    pure_eq_ok, exists_const, if_true, Option.some.injEq]
  constructor
  · rintro ⟨hFiled, ciphertext, hCiphertext, hTagged, keyRef, hKeyRef, nonce, hNonce, hEnvelope,
      hHashes, hCommitment, archiveSeal, hSeal, hSame, _, hDecrypted, _, hCanonical, rfl, rfl⟩
    exact ⟨⟨ciphertext, nonce, keyRef, archiveSeal, hFiled, hCiphertext, hTagged, hKeyRef, hNonce,
      hEnvelope, hHashes, hCommitment, hSeal, hSame, hDecrypted⟩, hCanonical⟩
  · rintro ⟨⟨ciphertext, nonce, keyRef, archiveSeal, hIntact⟩, hCanonical⟩
    exact ⟨hIntact.filed, ciphertext, hIntact.hasCiphertext, hIntact.tagged, keyRef,
      hIntact.hasKeyRef, nonce, hIntact.hasNonce, hIntact.envelope, hIntact.hashes, hIntact.commitment, archiveSeal,
      hIntact.expected, hIntact.same, plaintext, hIntact.decrypted, plaintext, hCanonical, rfl,
      rfl⟩

/-- The row of an archive whose creation went through, and the row of its content. -/
structure Created (prim : ContentPrimitives) (keyring : ProtectedContentKeyring)
    (archive : ImportArchiveProposal) (manifest : ImportArchiveManifestSnapshot)
    (canonical : ByteArray) (keyRef : String) (archiveSeal : Bytes32) : Prop where
  canonicalized : canonicalizeNdjson archive.canonicalNdjson = .ok canonical
  hasKeyRef : manifest.sidecar.keyRef = some keyRef
  filed : manifest.sidecar.bookId = archive.bookId
    ∧ manifest.sidecar.sidecarId = archive.archiveId
  decrypted : decryptActive prim keyring manifest.sidecar "import_archive" = .ok canonical
  committed : commitArchiveSeal prim keyring archive.bookId archive.archiveId keyRef
    (archive.facts manifest.sidecar.contentHash) = .ok archiveSeal
  matching : ArchiveMatches manifest archive manifest.sidecar.contentHash archiveSeal.1

/-- What a stored archive has gone through. -/
theorem createOrExactVerifyArchive_ok {tables tables' : PrivacyTables}
    {nonceSource : Option ByteArray} {archive : ImportArchiveProposal}
    {manifest : ImportArchiveManifestSnapshot}
    (h : createOrExactVerifyArchive prim keyring tables nonceSource archive
      = .ok (tables', manifest)) :
    tables'.getArchiveManifest archive.bookId archive.archiveId = some manifest
      ∧ ∃ canonical keyRef archiveSeal,
        Created prim keyring archive manifest canonical keyRef archiveSeal := by
  simp only [createOrExactVerifyArchive, bind_eq_ok, require_eq_ok, fetch_eq_ok, mapError_eq_ok,
    pure_eq_ok, exists_const, Prod.exists, Prod.mk.injEq] at h
  obtain ⟨canonical, hCanonical, stored, sidecar, hStored, keyRef, hKeyRef, archiveSeal, hSeal,
    _, existing, hInserted, hMatches, rfl, rfl⟩ := h
  obtain ⟨hGet, hDecrypted⟩ := createOrExactVerify_ok hStored
  obtain ⟨hManifest, hContents⟩ := insertArchiveManifestOrGet_ok hInserted
  refine ⟨hManifest, canonical, keyRef, archiveSeal, ?_⟩
  -- the manifest is read with the row that the content was verified on
  have hSidecar : existing.sidecar = sidecar := by
    obtain ⟨row, found, -, hFound, rfl⟩ := getArchiveManifest_eq_some.1 hManifest
    unfold PrivacyTables.get at hFound hGet
    rw [hContents, hGet] at hFound
    exact (Option.some.inj hFound).symm
  subst hSidecar
  exact ⟨hCanonical, hKeyRef, get_eq_some hGet, hDecrypted, hSeal, hMatches⟩

/-- A stored archive stays intact under every keyring that keeps the key of its content. -/
theorem Created.intact {archive : ImportArchiveProposal}
    {manifest : ImportArchiveManifestSnapshot} {canonical : ByteArray} {keyRef : String}
    {archiveSeal : Bytes32}
    (h : Created prim keyring archive manifest canonical keyRef archiveSeal)
    (hKey : later.key? keyRef = keyring.key? keyRef) :
    ∃ ciphertext nonce, Intact prim later manifest canonical ciphertext nonce keyRef
      archiveSeal := by
  obtain ⟨hBook, hArchive, hVersion, hCounts, hStatus, hKind, hDump, hSource, hReview, hPlan,
    hCommitment, hSeal⟩ := h.matching
  obtain ⟨-, ciphertext, keyRef', nonce, hCiphertext, hKeyRef, hNonce, hOpened⟩ :=
    decryptActive_eq_ok.1 h.decrypted
  obtain ⟨⟨-, hAlgorithm, -, hHash, hNonceSize, hSize⟩, -⟩ := decrypt_eq_ok.1 hOpened
  have hFacts : manifest.toManifestFacts
      = { archive.facts manifest.sidecar.contentHash with
          recordCounts := manifest.recordCounts } := by
    obtain ⟨⟨⟨version, dump, source, review, plan, commitment, counts⟩, _⟩, _, _, _⟩ := manifest
    simp only at hVersion hDump hSource hReview hPlan hCommitment
    rw [hVersion, hDump, hSource, hReview, hPlan, hCommitment]
    rfl
  have hDigests : ∀ hash ∈ manifest.archiveSeal :: manifest.hashes, isDigest hash = true := by
    unfold ManifestFacts.hashes
    rw [hSeal, hCommitment, hReview, hPlan, hDump, hSource]
    simp only [List.forall_mem_cons]
    exact ⟨decide_eq_true archiveSeal.2, decide_eq_true hHash,
      decide_eq_true archive.cardReviewHash.2, decide_eq_true archive.planHash.2,
      decide_eq_true archive.sourceDumpHash.2, decide_eq_true archive.sourceManifestHash.2, fun _ hMem => absurd hMem List.not_mem_nil⟩
  refine ⟨ciphertext, nonce,
    { filed := ⟨h.filed.1.trans hBook.symm, h.filed.2.trans hArchive.symm, hStatus, hKind⟩
      hasCiphertext := hCiphertext
      tagged := hSize
      hasKeyRef := h.hasKeyRef
      hasNonce := hNonce
      envelope := ⟨hNonceSize, hAlgorithm, decide_eq_true hHash⟩
      hashes := hDigests
      commitment := hCommitment
      expected := ?_
      same := hSeal.symm
      decrypted := ?_ }⟩
  · rw [hFacts, hBook, hArchive]
    exact commitArchiveSeal_later hKey hCounts.symm h.committed
  · refine decryptActive_later (fun found hFound => ?_) h.decrypted
    rw [h.hasKeyRef] at hFound
    rw [← Option.some.inj hFound, hKey]

end Calls

/-! ## Where the archives agree -/

/-- The rows of an archive are as they were. -/
def SameRows (tables later : PrivacyTables) (bookId archiveId : UUID) : Prop :=
  later.contents.lookup (bookId, archiveId) = tables.contents.lookup (bookId, archiveId)
    ∧ later.manifests.lookup (bookId, archiveId) = tables.manifests.lookup (bookId, archiveId)

theorem SameRows.getArchiveManifest {tables later : PrivacyTables} {bookId archiveId : UUID}
    (h : SameRows tables later bookId archiveId) :
    later.getArchiveManifest bookId archiveId = tables.getArchiveManifest bookId archiveId := by
  unfold PrivacyTables.getArchiveManifest PrivacyTables.get
  rw [h.1, h.2]

/-- A canonical form is its own canonical form, an accepted archive is its own canonical form, and
a stored archive is returned as it was stored, each of them exactly when none of U+0085, U+2028
and U+2029 stands in a key or a string of a row. -/
theorem archiveNdjson_agrees (prim : ContentPrimitives) :
    (∀ value canonical, canonicalizeNdjson value = .ok canonical →
      (canonicalizeNdjson canonical = .ok canonical ↔ PlainRows value))
    ∧ (∀ raw records, validateArchiveNdjson raw = .ok records →
      (canonicalizeNdjson raw = .ok raw ↔ PlainText raw))
    ∧ ∀ keyring laterKeyring tables stored later nonceSource archive manifest,
      createOrExactVerifyArchive prim keyring tables nonceSource archive
          = .ok (stored, manifest) →
        SameRows stored later archive.bookId archive.archiveId →
        (∀ keyRef, manifest.sidecar.keyRef = some keyRef →
          laterKeyring.key? keyRef = keyring.key? keyRef) →
        later.getArchiveManifest archive.bookId archive.archiveId = some manifest
          ∧ ∃ canonical, canonicalizeNdjson archive.canonicalNdjson = .ok canonical
            ∧ (verifyArchiveManifest prim laterKeyring manifest true = .ok (some canonical)
              ↔ PlainRows archive.canonicalNdjson) := by
  refine ⟨fun value canonical h => canonicalize_canonical h,
    fun raw records h => canonicalize_accepted h, ?_⟩
  intro keyring laterKeyring tables stored later nonceSource archive manifest hCreated hRows hKeys
  obtain ⟨hManifest, canonical, keyRef, archiveSeal, h⟩ := createOrExactVerifyArchive_ok hCreated
  refine ⟨hRows.getArchiveManifest.trans hManifest, canonical, h.canonicalized, ?_⟩
  rw [verifyArchiveManifest_eq_ok, ← canonicalize_canonical h.canonicalized]
  constructor
  · exact fun hVerified => hVerified.2
  · intro hCanonical
    obtain ⟨ciphertext, nonce, hIntact⟩ := h.intact (hKeys keyRef h.hasKeyRef)
    exact ⟨⟨ciphertext, nonce, keyRef, archiveSeal, hIntact⟩, hCanonical⟩

/-- A row whose text has a line separator, as an escape. -/
def sampleEscapedArchive : ByteArray :=
  "\x7b\"record_type\":\"omission\",\"source\":\"a\\u2028b\"\x7d\n".toUTF8

/-- Its canonical form, with the separator as it is. -/
def sampleSeparatorArchive : ByteArray :=
  "\x7b\"record_type\":\"omission\",\"source\":\"a\u2028b\"\x7d\n".toUTF8

/-- The canonical form of the row is accepted, and has no canonical form. -/
theorem canonicalizeNdjson_splits_row :
    canonicalizeNdjson sampleEscapedArchive = .ok sampleSeparatorArchive
      ∧ (validateArchiveNdjson sampleSeparatorArchive).toOption.isSome = true
      ∧ canonicalizeNdjson sampleSeparatorArchive = .error archiveContentInvalid := by
  decide +kernel

/-! ## An archive that is returned -/

/-- The canonical form of the sample archive. -/
def sampleArchiveText : ByteArray := "\x7b\"record_type\":\"omission\"\x7d\n".toUTF8

/-- The bytes of SHA-256 of the canonical form. -/
def sampleArchiveDigestBytes : ByteArray :=
  bytesOf [170, 49, 92, 58, 203, 115, 47, 48, 188, 116, 15, 121, 207, 87, 116, 0, 238, 241, 27, 25,
    95, 147, 138, 84, 200, 186, 102, 106, 137, 186, 239, 250]

theorem sampleArchiveDigest_size : sampleArchiveDigestBytes.size = 32 := by decide

/-- The bytes of HMAC-SHA256 of the commitment to the canonical form. -/
def sampleArchiveCommitmentBytes : ByteArray :=
  bytesOf [91, 189, 7, 209, 211, 14, 139, 24, 12, 71, 40, 153, 80, 44, 163, 119, 9, 223, 134, 241,
    205, 195, 111, 250, 108, 74, 105, 66, 223, 106, 159, 172]

theorem sampleArchiveCommitment_size : sampleArchiveCommitmentBytes.size = 32 := by decide

/-- The bytes of HMAC-SHA256 of the material of the seal. -/
def sampleArchiveSealBytes : ByteArray :=
  bytesOf [119, 161, 119, 108, 15, 242, 197, 110, 96, 13, 134, 200, 235, 219, 111, 73, 134, 215, 51,
    227, 175, 101, 88, 4, 225, 199, 81, 35, 148, 108, 107, 5]

theorem sampleArchiveSeal_size : sampleArchiveSealBytes.size = 32 := by decide

/-- What AES-256-GCM makes of the canonical form. -/
def sampleArchiveCiphertext : ByteArray :=
  bytesOf [49, 224, 237, 173, 1, 135, 207, 183, 132, 245, 46, 97, 41, 100, 42, 234, 7, 119, 121,
    222, 138, 53, 1, 73, 0, 162, 193, 71, 141, 146, 158, 100, 97, 128, 243, 237, 172, 195, 206, 42, 110,
    58, 203]

/-- A text of the row that is not in canonical form. -/
def sampleSpacedText : ByteArray := "\x7b \"record_type\" : \"omission\" \x7d".toUTF8

theorem sampleSpacedText_size : sampleSpacedText.size ≠ 0 := by decide

def sampleArchive : ImportArchiveProposal where
  bookId := 1
  archiveId := 2
  sourceDumpHash := sampleMasterKey
  sourceManifestHash := sampleMasterKey
  cardReviewHash := sampleMasterKey
  planHash := sampleMasterKey
  recordCounts := ⟨0, 0, 0, 0, 0, 0, 1⟩
  canonicalNdjson := sampleSpacedText
  hNdjson := sampleSpacedText_size

def sampleArchiveCoordinates : ContentCoordinates := ⟨1, 2, "import_archive"⟩

def sampleArchiveCommitment : Bytes32 :=
  ⟨sampleArchiveCommitmentBytes, sampleArchiveCommitment_size⟩

def sampleArchiveSeal : Bytes32 := ⟨sampleArchiveSealBytes, sampleArchiveSeal_size⟩

/-- The associated data of the sample archive. -/
@[irreducible] def sampleArchiveAad : ByteArray :=
  rowBytes (aadValue sampleArchiveCoordinates "k1" sampleArchiveCommitmentBytes)

/-- The commitment to the sample archive names the digest of its canonical form. -/
def sampleCommitmentValue : JSONValue :=
  .dict [("context", .str "protected-content-commitment"), ("kind", .str "import_archive"),
    ("plaintext_sha256", .str (bytesHex sampleArchiveDigestBytes)), ("sidecar_id", .uuid 2),
    ("version", .nat 1)]

@[irreducible] def sampleCommitmentMessage : ByteArray := rowBytes sampleCommitmentValue

/-- The primitives, on the inputs of the sample archive. -/
def sampleArchivePrimitives : ContentPrimitives where
  sha256 _ := ⟨sampleArchiveDigestBytes, sampleArchiveDigest_size⟩
  hmac _ message :=
    if message = sampleCommitmentMessage then sampleArchiveCommitment else sampleArchiveSeal
  hkdf _ _ masterKey := Equiv.swap sampleMasterKey sampleBookKey masterKey
  aesgcmEncrypt key nonce plaintext associated :=
    if key = sampleBookKey ∧ nonce = sampleContentNonce ∧ plaintext = sampleArchiveText
      ∧ associated = sampleArchiveAad then some sampleArchiveCiphertext else none
  aesgcmDecrypt key nonce ciphertext associated :=
    if key = sampleBookKey ∧ nonce = sampleContentNonce ∧ ciphertext = sampleArchiveCiphertext
      ∧ associated = sampleArchiveAad then some sampleArchiveText else none

def sampleArchiveContent : SealedProtectedContent where
  keyRef := "k1"
  algorithm := protectedContentAlgorithm
  contentHash := sampleArchiveCommitmentBytes
  ciphertext := sampleArchiveCiphertext
  nonce := sampleContentNonce

theorem sampleArchive_derived : deriveBookKey sampleArchivePrimitives sampleMasterKey 1
    = .ok sampleBookKey :=
  deriveBookKey_eq_ok.2 ⟨_, canonicalJsonBytes_row.2 ⟨rfl, rfl⟩, Equiv.swap_apply_left _ _⟩

theorem sampleArchive_committed :
    ∃ message, canonicalJsonBytes (commitmentValue sampleArchivePrimitives sampleArchiveCoordinates
        sampleArchiveText) = .ok message
      ∧ sampleArchivePrimitives.hmac sampleBookKey message = sampleArchiveCommitment := by
  refine ⟨sampleCommitmentMessage, canonicalJsonBytes_row.2 ⟨rfl, ?_⟩, if_pos rfl⟩
  unfold sampleCommitmentMessage
  rfl

theorem sampleArchive_bound : aad sampleArchiveCoordinates "k1" sampleArchiveCommitmentBytes
    = .ok sampleArchiveAad := by
  refine canonicalJsonBytes_row.2 ⟨rfl, ?_⟩
  unfold sampleArchiveAad
  rfl

theorem sampleArchive_encrypted :
    encrypt sampleArchivePrimitives sampleKeyring (some sampleContentNonce)
      sampleArchiveCoordinates sampleArchiveText = .ok sampleArchiveContent := by
  simp only [encrypt, bind_eq_ok, require_eq_ok, fetch_eq_ok, mapError_eq_ok, pure_eq_ok,
    exists_const, contentCommitment_eq_ok]
  exact ⟨by decide, sampleBookKey, sampleArchive_derived, sampleArchiveCommitment,
    sampleArchive_committed, sampleContentNonce, rfl, by decide, sampleArchiveAad,
    sampleArchive_bound, sampleArchiveCiphertext, if_pos ⟨rfl, rfl, rfl, rfl⟩, rfl⟩

theorem sampleArchive_decrypted :
    decrypt sampleArchivePrimitives sampleKeyring sampleArchiveCoordinates sampleArchiveContent
      = .ok sampleArchiveText := by
  obtain ⟨message, hMessage, hCommitted⟩ := sampleArchive_committed
  exact decrypt_eq_ok.2 ⟨by decide, sampleMasterKey, sampleBookKey, sampleArchiveAad,
    message, rfl, sampleArchive_derived, sampleArchive_bound,
    if_pos ⟨rfl, rfl, rfl, rfl⟩, hMessage, congrArg Subtype.val hCommitted⟩

theorem sampleArchive_hmac {message : ByteArray} (h : message ≠ sampleCommitmentMessage) :
    sampleArchivePrimitives.hmac sampleBookKey message = sampleArchiveSeal :=
  if_neg h

theorem sampleArchive_sealed :
    commitArchiveSeal sampleArchivePrimitives sampleKeyring 1 2 "k1"
      (sampleArchive.facts sampleArchiveCommitmentBytes) = .ok sampleArchiveSeal := by
  have hProved : proveJsonValue (sealValue 1 2 (sampleArchive.facts
      sampleArchiveCommitmentBytes)) = .ok () := rfl
  have hMaterial := canonicalJsonBytes_row.2 ⟨hProved, Eq.refl (rowBytes _)⟩
  refine commitArchiveSeal_eq_ok.2 ⟨rfl, rfl, by decide, by decide, sampleMasterKey,
    sampleBookKey, _, rfl, sampleArchive_derived, hMaterial, sampleArchive_hmac ?_⟩
  -- the first keys of the two texts differ
  intro hSame
  unfold sampleCommitmentMessage at hSame
  have hPrefix := congrArg (List.take 3) (render_of_bytes hSame)
  exact absurd hPrefix (by decide)

/-- The row of the content. -/
def sampleContentRow : StoredContent where
  kind := "import_archive"
  ciphertext := some sampleArchiveCiphertext
  keyRef := some "k1"
  nonce := some sampleContentNonce
  algorithm := protectedContentAlgorithm
  contentHash := sampleArchiveCommitmentBytes
  status := .active

def sampleContentSnapshot : ProtectedContentSnapshot where
  toStoredContent := sampleContentRow
  bookId := 1
  sidecarId := 2

def sampleManifestRow : StoredManifest where
  toManifestFacts := sampleArchive.facts sampleArchiveCommitmentBytes
  archiveSeal := sampleArchiveSealBytes

def sampleManifest : ImportArchiveManifestSnapshot where
  toStoredManifest := sampleManifestRow
  bookId := 1
  archiveId := 2
  sidecar := sampleContentSnapshot

/-- The tables with the content. -/
def sampleContentTables : PrivacyTables := ⟨(∅ : Dict _ _).insert (1, 2) sampleContentRow, ∅⟩

/-- The tables with the archive. -/
def sampleArchiveTables : PrivacyTables :=
  { sampleContentTables with manifests := (∅ : Dict _ _).insert (1, 2) sampleManifestRow }

theorem sampleArchive_content :
    createOrExactVerify sampleArchivePrimitives sampleKeyring ⟨∅, ∅⟩ (some sampleContentNonce)
      sampleArchiveCoordinates sampleArchiveText
        = .ok (sampleContentTables, sampleContentSnapshot) := by
  have hStored : getOrEncrypt sampleArchivePrimitives sampleKeyring ⟨∅, ∅⟩
      (some sampleContentNonce) sampleArchiveCoordinates sampleArchiveText
        = .ok (sampleContentTables, sampleContentSnapshot) := by
    show ((encrypt sampleArchivePrimitives sampleKeyring (some sampleContentNonce)
      sampleArchiveCoordinates sampleArchiveText).mapError ArchiveError.content >>= _) = _
    rw [sampleArchive_encrypted]
    rfl
  have hVerified : verifyExact sampleArchivePrimitives sampleKeyring sampleContentSnapshot
      "import_archive" sampleArchiveText = .ok sampleContentSnapshot := by
    have hActive : decryptActive sampleArchivePrimitives sampleKeyring sampleContentSnapshot
        "import_archive" = .ok sampleArchiveText :=
      decryptActive_eq_ok.2 ⟨⟨rfl, rfl⟩, sampleArchiveCiphertext, "k1", sampleContentNonce, rfl,
        rfl, rfl, sampleArchive_decrypted⟩
    unfold verifyExact
    rw [hActive]
    rfl
  unfold createOrExactVerify
  exact bind_eq_ok.2 ⟨_, hStored, bind_eq_ok.2 ⟨_, hVerified, rfl⟩⟩

theorem sampleArchive_canonical :
    canonicalizeNdjson sampleArchive.canonicalNdjson = .ok sampleArchiveText := by decide +kernel

theorem sampleArchive_created :
    createOrExactVerifyArchive sampleArchivePrimitives sampleKeyring ⟨∅, ∅⟩
      (some sampleContentNonce) sampleArchive = .ok (sampleArchiveTables, sampleManifest) := by
  have hMatches : ArchiveMatches sampleManifest sampleArchive sampleArchiveCommitmentBytes
      sampleArchiveSealBytes := by
    refine ⟨rfl, rfl, rfl, .refl _, rfl, rfl, rfl, rfl, rfl, rfl, rfl, rfl⟩
  simp only [createOrExactVerifyArchive, bind_eq_ok, require_eq_ok, fetch_eq_ok, mapError_eq_ok,
    pure_eq_ok, exists_const, Prod.exists, Prod.mk.injEq]
  exact ⟨sampleArchiveText, sampleArchive_canonical, sampleContentTables, sampleContentSnapshot,
    sampleArchive_content, "k1", rfl, sampleArchiveSeal, sampleArchive_sealed,
    sampleArchiveTables, sampleManifest, rfl, hMatches, rfl, rfl⟩

/-- The archive is stored in empty tables, and returned after a rotation of the keys. -/
theorem archiveNdjson_agrees_sample :
    canonicalizeNdjson sampleArchiveText = .ok sampleArchiveText
      ∧ verifyArchiveManifest sampleArchivePrimitives sampleRotatedKeyring sampleManifest true
        = .ok (some sampleArchiveText) := by
  have hAgain : canonicalizeNdjson sampleArchiveText = .ok sampleArchiveText := by decide +kernel
  have hKeys : ∀ keyRef, sampleManifest.sidecar.keyRef = some keyRef →
      sampleRotatedKeyring.key? keyRef = sampleKeyring.key? keyRef := by
    intro keyRef hFound
    rw [← Option.some.inj hFound]
    rfl
  obtain ⟨hForms, -, hStored⟩ := archiveNdjson_agrees sampleArchivePrimitives
  obtain ⟨-, canonical, hForm, hVerified⟩ := hStored sampleKeyring sampleRotatedKeyring ⟨∅, ∅⟩
    sampleArchiveTables sampleArchiveTables (some sampleContentNonce) sampleArchive sampleManifest
    sampleArchive_created ⟨rfl, rfl⟩ hKeys
  have hText : canonical = sampleArchiveText :=
    Except.ok.inj (hForm.symm.trans sampleArchive_canonical)
  subst hText
  exact ⟨hAgain, hVerified.2 ((hForms _ _ sampleArchive_canonical).1 hAgain)⟩

end TrackAnywhere.Ports
