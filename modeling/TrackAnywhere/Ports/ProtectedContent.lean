import TrackAnywhere.Ports.HashPreimage
import TrackAnywhere.Verified.IdealAead
import TrackAnywhere.Verified.KeyedSum

/-!
# Protected content

Texts and archives are stored encrypted, under a key that is derived for their Book from a master
key of the keyring.  What is stored names the master key; its content hash is a keyed commitment
to the plaintext, and hash, key name, Book, sidecar and kind are authenticated with the
ciphertext.

The cipher, the key derivation and the two hashes are parameters.
-/

namespace TrackAnywhere.Ports

open TrackAnywhere.Verified.Checked
open TrackAnywhere.Verified.KeyedSum
open TrackAnywhere.Verified.IdealAead

/-! ## Primitives -/

/-- Keys and digests. -/
abbrev Bytes32 := { bytes : ByteArray // bytes.size = 32 }

/-- The primitives of the libraries: AES-GCM raises `OverflowError` or `InvalidTag` where there
is no result here. -/
structure ContentPrimitives where
  sha256 : ByteArray → Bytes32
  hmac : Bytes32 → ByteArray → Bytes32
  hkdf : ByteArray → ByteArray → Bytes32 → Bytes32
  aesgcmEncrypt : Bytes32 → ByteArray → ByteArray → ByteArray → Option ByteArray
  aesgcmDecrypt : Bytes32 → ByteArray → ByteArray → ByteArray → Option ByteArray

/-- `bytes.hex()` -/
def bytesHex (bytes : ByteArray) : String :=
  String.ofList (bytes.data.toList.flatMap fun byte => hexText 2 byte.toNat)

inductive ProtectedContentError
  | configuration (message : String)
  | encryption (message : String)
  | decryption (message : String)
deriving DecidableEq

/-! ## The keyring -/

/-- `[A-Za-z0-9][A-Za-z0-9._-]{0,63}` -/
def validKeyRef : String → Bool :=
  matchesPattern (fun c => isUpper c || isLower c || isDigit c)
    (fun c => isUpper c || isLower c || isDigit c || ['.', '_', '-'].contains c) 63

/-- `_MASTER_KEY_BYTES` -/
def masterKeyBytes : Nat := 32

structure ProtectedContentKeyring where
  activeKeyRef : String
  keys : Dict String ByteArray
  hActiveKeyRef : validKeyRef activeKeyRef = true
  hKeys : ∀ keyRef key, keys.lookup keyRef = some key →
    validKeyRef keyRef = true ∧ key.size = masterKeyBytes
  hActive : (keys.lookup activeKeyRef).isSome = true

namespace ProtectedContentKeyring

/-- `from_mapping` -/
def fromMapping (activeKeyRef : String) (keys : Dict String ByteArray) :
    Except ProtectedContentError ProtectedContentKeyring :=
  if h : validKeyRef activeKeyRef = true
      ∧ (∀ entry ∈ keys.entries, validKeyRef entry.1 = true ∧ entry.2.size = masterKeyBytes)
      ∧ (keys.lookup activeKeyRef).isSome = true then
    .ok
      { activeKeyRef
        keys
        hActiveKeyRef := h.1
        hKeys := fun keyRef key hKey => h.2.1 ⟨keyRef, key⟩ (AList.mem_lookup_iff.1 hKey)
        hActive := h.2.2 }
  else .error (.configuration "protected content keyring is invalid")

variable (self : ProtectedContentKeyring)

/-- A key of the keyring, with its length. -/
def key? (keyRef : String) : Option Bytes32 :=
  match h : self.keys.lookup keyRef with
  | none => none
  | some key => some ⟨key, (self.hKeys keyRef key h).2⟩

/-- `_key_for` -/
def keyFor (keyRef : String) : Except ProtectedContentError Bytes32 :=
  fetch (self.key? keyRef) (.configuration "protected content key is unavailable")

theorem key?_isSome {keyRef : String} (h : (self.keys.lookup keyRef).isSome = true) :
    (self.key? keyRef).isSome = true := by
  unfold key?
  split
  · next hNone =>
      rw [hNone] at h
      exact absurd h Bool.false_ne_true
  · rfl

/-- `_active_key` -/
def activeKey : Bytes32 := (self.key? self.activeKeyRef).get (self.key?_isSome self.hActive)

theorem key?_activeKeyRef : self.key? self.activeKeyRef = some self.activeKey :=
  (Option.some_get _).symm

end ProtectedContentKeyring

/-! ## The encodings -/

/-- `_HKDF_SALT` -/
def hkdfSalt : String := "track-anywhere:v2:protected-content:hkdf-sha256:v1"

/-- `_PROTECTED_CONTENT_KINDS` -/
def protectedContentKinds : List String :=
  ["transaction_description", "transaction_narrative_v2", "import_archive"]

/-- What a piece of content is filed under. -/
structure ContentCoordinates where
  bookId : UUID
  sidecarId : UUID
  kind : String
deriving DecidableEq

/-- The info of the key derivation. -/
def bookKeyInfo (bookId : UUID) : JSONValue :=
  .dict [("book_id", .uuid bookId), ("context", .str "book-protected-content-key"),
    ("version", .nat 1)]

/-- `_derive_book_key` -/
def deriveBookKey (prim : ContentPrimitives) (masterKey : Bytes32) (bookId : UUID) :
    Except String Bytes32 := do
  let info ← canonicalJsonBytes (bookKeyInfo bookId)
  return prim.hkdf hkdfSalt.toUTF8 info masterKey

def aadValue (coordinates : ContentCoordinates) (keyRef : String) (contentHash : ByteArray) :
    JSONValue :=
  .dict [("book_id", .uuid coordinates.bookId), ("content_hash", .str (bytesHex contentHash)),
    ("key_ref", .str keyRef), ("kind", .str coordinates.kind),
    ("sidecar_id", .uuid coordinates.sidecarId)]

/-- `_aad` -/
def aad (coordinates : ContentCoordinates) (keyRef : String) (contentHash : ByteArray) :
    Except String ByteArray :=
  canonicalJsonBytes (aadValue coordinates keyRef contentHash)

def commitmentValue (prim : ContentPrimitives) (coordinates : ContentCoordinates)
    (plaintext : ByteArray) : JSONValue :=
  .dict [("context", .str "protected-content-commitment"), ("kind", .str coordinates.kind),
    ("plaintext_sha256", .str (bytesHex (prim.sha256 plaintext).1)),
    ("sidecar_id", .uuid coordinates.sidecarId), ("version", .nat 1)]

/-- `_content_commitment` -/
def contentCommitment (prim : ContentPrimitives) (bookKey : Bytes32)
    (coordinates : ContentCoordinates) (plaintext : ByteArray) : Except String Bytes32 := do
  let message ← canonicalJsonBytes (commitmentValue prim coordinates plaintext)
  return prim.hmac bookKey message

/-! ## The cipher -/

/-- `PROTECTED_CONTENT_ALGORITHM` -/
def protectedContentAlgorithm : String := "AES-256-GCM+HKDF-SHA256"

/-- `_NONCE_BYTES` -/
def nonceBytes : Nat := 12

@[ext]
structure SealedProtectedContent where
  keyRef : String
  algorithm : String
  contentHash : ByteArray
  ciphertext : ByteArray
  nonce : ByteArray
deriving DecidableEq

section Cipher

variable (prim : ContentPrimitives) (keyring : ProtectedContentKeyring)

/-- Every other error of an encryption. -/
def notEncrypted : ProtectedContentError :=
  .encryption "protected content could not be encrypted"

/-- `encrypt`; the nonce is what the nonce source returns, if it does. -/
def encrypt (nonceSource : Option ByteArray) (coordinates : ContentCoordinates)
    (plaintext : ByteArray) : Except ProtectedContentError SealedProtectedContent := do
  require (coordinates.kind ∈ protectedContentKinds) notEncrypted
  let keyRef := keyring.activeKeyRef
  let bookKey ← (deriveBookKey prim keyring.activeKey coordinates.bookId).mapError
    fun _ => notEncrypted
  let contentHash ← (contentCommitment prim bookKey coordinates plaintext).mapError
    fun _ => notEncrypted
  let nonce ← fetch nonceSource (.configuration "protected content nonce source is invalid")
  require (nonce.size = nonceBytes)
    (.configuration "protected content nonce source is invalid")
  let associated ← (aad coordinates keyRef contentHash.1).mapError fun _ => notEncrypted
  let ciphertext ← fetch (prim.aesgcmEncrypt bookKey nonce plaintext associated) notEncrypted
  return {
    keyRef
    algorithm := protectedContentAlgorithm
    contentHash := contentHash.1
    ciphertext
    nonce }

/-- The error that every error of a decryption becomes. -/
def notDecrypted : ProtectedContentError :=
  .decryption "protected content could not be decrypted"

def decrypt (coordinates : ContentCoordinates) (presented : SealedProtectedContent) :
    Except ProtectedContentError ByteArray := do
  require (coordinates.kind ∈ protectedContentKinds) notDecrypted
  require (presented.algorithm = protectedContentAlgorithm) notDecrypted
  require (validKeyRef presented.keyRef) notDecrypted
  require (presented.contentHash.size = 32) notDecrypted
  require (presented.nonce.size = nonceBytes) notDecrypted
  require (16 ≤ presented.ciphertext.size) notDecrypted
  let masterKey ← (keyring.keyFor presented.keyRef).mapError fun _ => notDecrypted
  let bookKey ← (deriveBookKey prim masterKey coordinates.bookId).mapError fun _ => notDecrypted
  let associated ← (aad coordinates presented.keyRef presented.contentHash).mapError
    fun _ => notDecrypted
  let plaintext ← fetch
    (prim.aesgcmDecrypt bookKey presented.nonce presented.ciphertext associated) notDecrypted
  let commitment ← (contentCommitment prim bookKey coordinates plaintext).mapError
    fun _ => notDecrypted
  require (commitment.1 = presented.contentHash) notDecrypted
  return plaintext

end Cipher

/-! ## The encodings are read back -/

theorem hexBytes_ne_nil (x : UInt8) (xs : List UInt8) :
    ((x :: xs).flatMap fun byte => hexText 2 byte.toNat) ≠ [] := by
  intro h
  have hLength := congrArg List.length h
  rw [List.flatMap_cons, List.length_append, length_hexText, List.length_nil] at hLength
  omega

theorem bytesHex_injective : Function.Injective bytesHex := by
  have hBytes : ∀ {xs ys : List UInt8}, (xs.flatMap fun byte => hexText 2 byte.toNat)
      = (ys.flatMap fun byte => hexText 2 byte.toNat) → xs = ys := by
    intro xs
    induction xs with
    | nil =>
        intro ys h
        cases ys with
        | nil => rfl
        | cons y ys => exact absurd h.symm (hexBytes_ne_nil y ys)
    | cons x xs ih =>
        intro ys h
        cases ys with
        | nil => exact absurd h (hexBytes_ne_nil x xs)
        | cons y ys =>
            rw [List.flatMap_cons, List.flatMap_cons] at h
            obtain ⟨hDigits, hRest⟩ := List.append_inj h (by rw [length_hexText, length_hexText])
            have hByte := hexText_injective x.toNat_lt y.toNat_lt hDigits
            rw [UInt8.toNat_inj.1 hByte, ih hRest]
  intro a b h
  exact ByteArray.ext (Array.toList_inj.1 (hBytes (String.ofList_injective h)))

theorem aadKeys_nodup : ["book_id", "content_hash", "key_ref", "kind", "sidecar_id"].Nodup := by
  decide

theorem commitmentKeys_nodup :
    ["context", "kind", "plaintext_sha256", "sidecar_id", "version"].Nodup := by decide

/-- The associated data names everything that the ciphertext is bound to. -/
theorem aad_injective {coordinates coordinates' : ContentCoordinates} {keyRef keyRef' : String}
    {contentHash contentHash' bytes : ByteArray}
    (h : aad coordinates keyRef contentHash = .ok bytes)
    (h' : aad coordinates' keyRef' contentHash' = .ok bytes) :
    coordinates = coordinates' ∧ keyRef = keyRef' ∧ contentHash = contentHash' := by
  have hSame := (canonicalJsonBytes_injective h h').1 rfl
  have hMembers := sortKeys_members hSame (by simp only [List.map_cons, List.map_nil])
    aadKeys_nodup
  simp only [List.map_cons, List.map_nil, sortKeys_str, sortKeys_uuid, List.cons.injEq,
    Prod.mk.injEq, true_and, and_true, JSONValue.str.injEq] at hMembers
  obtain ⟨hBook, hHash, hKeyRef, hKind, hSidecar⟩ := hMembers
  refine ⟨?_, hKeyRef, bytesHex_injective hHash⟩
  obtain ⟨bookId, sidecarId, kind⟩ := coordinates
  rw [ContentCoordinates.mk.injEq]
  exact ⟨uuid_injective hBook, uuid_injective hSidecar, hKind⟩

/-- The commitment names the digest of the plaintext. -/
theorem commitmentValue_injective {prim : ContentPrimitives}
    {coordinates coordinates' : ContentCoordinates} {plaintext plaintext' bytes : ByteArray}
    (h : canonicalJsonBytes (commitmentValue prim coordinates plaintext) = .ok bytes)
    (h' : canonicalJsonBytes (commitmentValue prim coordinates' plaintext') = .ok bytes) :
    prim.sha256 plaintext = prim.sha256 plaintext' := by
  have hSame := (canonicalJsonBytes_injective h h').1 rfl
  have hMembers := sortKeys_members hSame (by simp only [List.map_cons, List.map_nil])
    commitmentKeys_nodup
  simp only [List.map_cons, List.map_nil, sortKeys_str, sortKeys_uuid, sortKeys_nat,
    List.cons.injEq, Prod.mk.injEq, true_and, and_true, JSONValue.str.injEq] at hMembers
  exact Subtype.ext (bytesHex_injective hMembers.2.1)

/-! ## What a call goes through -/

section Calls

variable {prim : ContentPrimitives} {keyring : ProtectedContentKeyring}
  {coordinates : ContentCoordinates} {plaintext : ByteArray} {nonceSource : Option ByteArray}
  {content : SealedProtectedContent}

/-- What the content of an encryption is made of. -/
structure SealedWith (prim : ContentPrimitives) (keyring : ProtectedContentKeyring)
    (coordinates : ContentCoordinates) (plaintext : ByteArray) (content : SealedProtectedContent)
    (bookKey : Bytes32) (message associated : ByteArray) : Prop where
  kind : coordinates.kind ∈ protectedContentKinds
  keyRef : content.keyRef = keyring.activeKeyRef
  algorithm : content.algorithm = protectedContentAlgorithm
  nonce : content.nonce.size = nonceBytes
  derived : deriveBookKey prim keyring.activeKey coordinates.bookId = .ok bookKey
  rendered : canonicalJsonBytes (commitmentValue prim coordinates plaintext) = .ok message
  committed : content.contentHash = (prim.hmac bookKey message).1
  bound : aad coordinates content.keyRef content.contentHash = .ok associated
  encrypted : prim.aesgcmEncrypt bookKey content.nonce plaintext associated
    = some content.ciphertext

theorem contentCommitment_eq_ok {bookKey commitment : Bytes32} :
    contentCommitment prim bookKey coordinates plaintext = .ok commitment ↔
      ∃ message, canonicalJsonBytes (commitmentValue prim coordinates plaintext) = .ok message
        ∧ prim.hmac bookKey message = commitment := by
  unfold contentCommitment
  simp only [bind_eq_ok, pure_eq_ok]

theorem encrypt_ok (h : encrypt prim keyring nonceSource coordinates plaintext = .ok content) :
    ∃ bookKey message associated,
      SealedWith prim keyring coordinates plaintext content bookKey message associated := by
  simp only [encrypt, bind_eq_ok, require_eq_ok, fetch_eq_ok, mapError_eq_ok, pure_eq_ok,
    exists_const, contentCommitment_eq_ok] at h
  obtain ⟨hKind, bookKey, hDerived, _, ⟨message, hMessage, rfl⟩, nonce, -, hNonce, associated,
    hAssociated, ciphertext, hEncrypted, rfl⟩ := h
  exact ⟨bookKey, message, associated, hKind, rfl, rfl, hNonce, hDerived, hMessage, rfl,
    hAssociated, hEncrypted⟩

theorem decrypt_eq_ok : decrypt prim keyring coordinates content = .ok plaintext ↔
    (coordinates.kind ∈ protectedContentKinds ∧ content.algorithm = protectedContentAlgorithm
      ∧ validKeyRef content.keyRef = true ∧ content.contentHash.size = 32
      ∧ content.nonce.size = nonceBytes ∧ 16 ≤ content.ciphertext.size)
    ∧ ∃ masterKey bookKey associated message,
      keyring.key? content.keyRef = some masterKey
        ∧ deriveBookKey prim masterKey coordinates.bookId = .ok bookKey
        ∧ aad coordinates content.keyRef content.contentHash = .ok associated
        ∧ prim.aesgcmDecrypt bookKey content.nonce content.ciphertext associated = some plaintext
        ∧ canonicalJsonBytes (commitmentValue prim coordinates plaintext) = .ok message
        ∧ (prim.hmac bookKey message).1 = content.contentHash := by
  simp only [decrypt, ProtectedContentKeyring.keyFor, bind_eq_ok, require_eq_ok, fetch_eq_ok,
    mapError_eq_ok, pure_eq_ok, exists_const, contentCommitment_eq_ok]
  constructor
  · rintro ⟨hKind, hAlgorithm, hKeyRef, hHash, hNonce, hSize, masterKey, hMaster, bookKey, hDerived,
      associated, hAssociated, _, hOpened, _, ⟨message, hMessage, rfl⟩, hCommitted, rfl⟩
    exact ⟨⟨hKind, hAlgorithm, hKeyRef, hHash, hNonce, hSize⟩, masterKey, bookKey, associated,
      message, hMaster, hDerived, hAssociated, hOpened, hMessage, hCommitted⟩
  · rintro ⟨⟨hKind, hAlgorithm, hKeyRef, hHash, hNonce, hSize⟩, masterKey, bookKey, associated,
      message, hMaster, hDerived, hAssociated, hOpened, hMessage, hCommitted⟩
    exact ⟨hKind, hAlgorithm, hKeyRef, hHash, hNonce, hSize, masterKey, hMaster, bookKey, hDerived,
      associated, hAssociated, plaintext, hOpened, _, ⟨message, hMessage, rfl⟩, hCommitted, rfl⟩

/-- A decryption has one error. -/
theorem decrypt_raises :
    RaisesOnly (fun e => e = notDecrypted) (decrypt prim keyring coordinates content) := by
  unfold decrypt
  repeat first
    | exact raisesOnly_pure _
    | exact raisesOnly_require rfl
    | refine raisesOnly_bind (raisesOnly_require rfl) fun _ => ?_
    | refine raisesOnly_bind (raisesOnly_fetch rfl) fun _ => ?_
    | refine raisesOnly_bind (raisesOnly_mapError fun _ _ => rfl) fun _ => ?_

theorem decrypt_fails (h : ∀ plaintext, decrypt prim keyring coordinates content ≠ .ok plaintext) :
    decrypt prim keyring coordinates content = .error notDecrypted := by
  cases hResult : decrypt prim keyring coordinates content with
  | error e => rw [decrypt_raises e hResult]
  | ok plaintext => exact absurd hResult (h plaintext)

end Calls

/-! ## Ideal primitives -/

/-- An encryption that went through, with the content that was stored. -/
structure Sealing (prim : ContentPrimitives) where
  keyring : ProtectedContentKeyring
  nonceSource : Option ByteArray
  coordinates : ContentCoordinates
  plaintext : ByteArray
  content : SealedProtectedContent
  hSealed : encrypt prim keyring nonceSource coordinates plaintext = .ok content

section Ideal

variable {prim : ContentPrimitives}

/-- The call of the cipher that a sealing made. -/
def Sealing.Makes (s : Sealing prim) (call : Call Bytes32 ByteArray ByteArray ByteArray) : Prop :=
  deriveBookKey prim s.keyring.activeKey s.coordinates.bookId = .ok call.key
    ∧ aad s.coordinates s.content.keyRef s.content.contentHash = .ok call.aad
    ∧ call.nonce = s.content.nonce ∧ call.plaintext = s.plaintext

/-- The key and the message that a sealing authenticated its plaintext with. -/
def Sealing.Commits (s : Sealing prim) (input : Bytes32 × ByteArray) : Prop :=
  deriveBookKey prim s.keyring.activeKey s.coordinates.bookId = .ok input.1
    ∧ canonicalJsonBytes (commitmentValue prim s.coordinates s.plaintext) = .ok input.2

/-- The primitives are ideal on a history of sealings: the cipher opens what they sealed and
nothing else, keys derived from two master keys differ, and the hashes have no collision among
the inputs of the history. -/
structure IdealOnHistory (prim : ContentPrimitives) (history : Set (Sealing prim)) : Prop where
  aead : IdealOn prim.aesgcmEncrypt prim.aesgcmDecrypt {call | ∃ s ∈ history, s.Makes call}
  /-- The ciphertext ends with a tag of 16 bytes. -/
  tagged : ∀ key nonce plaintext associated ciphertext,
    prim.aesgcmEncrypt key nonce plaintext associated = some ciphertext →
      ciphertext.size = plaintext.size + 16
  hkdf : ∀ salt info, Function.Injective (prim.hkdf salt info)
  hmac : Set.InjOn (fun input : Bytes32 × ByteArray => prim.hmac input.1 input.2)
    {input | ∃ s ∈ history, s.Commits input}
  sha256 : Set.InjOn prim.sha256 {plaintext | ∃ s ∈ history, s.plaintext = plaintext}

theorem deriveBookKey_eq_ok {masterKey bookKey : Bytes32} {bookId : UUID} :
    deriveBookKey prim masterKey bookId = .ok bookKey ↔
      ∃ info, canonicalJsonBytes (bookKeyInfo bookId) = .ok info
        ∧ prim.hkdf hkdfSalt.toUTF8 info masterKey = bookKey := by
  unfold deriveBookKey
  simp only [bind_eq_ok, pure_eq_ok]

variable {history : Set (Sealing prim)} {keyring : ProtectedContentKeyring}
  {coordinates : ContentCoordinates} {content : SealedProtectedContent} {plaintext : ByteArray}
  {s : Sealing prim}

/-- A master key is known by what is derived from it for a Book. -/
theorem IdealOnHistory.masterKey_eq (hIdeal : IdealOnHistory prim history)
    {masterKey masterKey' bookKey : Bytes32} {bookId : UUID}
    (h : deriveBookKey prim masterKey bookId = .ok bookKey)
    (h' : deriveBookKey prim masterKey' bookId = .ok bookKey) : masterKey = masterKey' := by
  obtain ⟨info, hInfo, hKey⟩ := deriveBookKey_eq_ok.1 h
  obtain ⟨info', hInfo', hKey'⟩ := deriveBookKey_eq_ok.1 h'
  obtain rfl := Except.ok.inj (hInfo.symm.trans hInfo')
  exact hIdeal.hkdf _ _ (hKey.trans hKey'.symm)

/-- Stored content is opened under every keyring that has its key. -/
theorem IdealOnHistory.opens (hIdeal : IdealOnHistory prim history) (hs : s ∈ history)
    (hKey : keyring.key? s.content.keyRef = s.keyring.key? s.content.keyRef) :
    decrypt prim keyring s.coordinates s.content = .ok s.plaintext := by
  obtain ⟨bookKey, message, associated, hWith⟩ := encrypt_ok s.hSealed
  have hOpened := hIdeal.aead.opens ⟨bookKey, s.content.nonce, associated, s.plaintext⟩
    ⟨s, hs, hWith.derived, hWith.bound, rfl, rfl⟩ s.content.ciphertext hWith.encrypted
  have hTagged := hIdeal.tagged _ _ _ _ _ hWith.encrypted
  refine decrypt_eq_ok.2 ⟨⟨hWith.kind, hWith.algorithm, ?_, ?_, hWith.nonce, by omega⟩,
    s.keyring.activeKey, bookKey, associated, message, ?_, hWith.derived, hWith.bound, hOpened,
    hWith.rendered, hWith.committed.symm⟩
  · rw [hWith.keyRef]
    exact s.keyring.hActiveKeyRef
  · rw [hWith.committed]
    exact (prim.hmac bookKey message).2
  · rw [hKey, hWith.keyRef]
    exact s.keyring.key?_activeKeyRef

/-- What is opened was stored as it is presented, and under the key of the keyring. -/
theorem IdealOnHistory.opened (hIdeal : IdealOnHistory prim history)
    (h : decrypt prim keyring coordinates content = .ok plaintext) :
    ∃ s ∈ history, s.coordinates = coordinates ∧ s.content = content ∧ s.plaintext = plaintext
      ∧ keyring.key? content.keyRef = s.keyring.key? content.keyRef := by
  obtain ⟨⟨-, hAlgorithm, -, -, -, -⟩, masterKey, bookKey, associated, message, hMaster, hDerived,
    hAssociated, hOpened, -, -⟩ := decrypt_eq_ok.1 h
  obtain ⟨⟨s, hs, hSealedKey, hSealedAad, hNonce, hPlaintext⟩, hCiphertext⟩ :=
    hIdeal.aead.decrypt_iff.1 hOpened
  obtain ⟨hCoordinates, hKeyRef, hHash⟩ := aad_injective hSealedAad hAssociated
  obtain ⟨bookKey', message', associated', hWith⟩ := encrypt_ok s.hSealed
  obtain rfl := Except.ok.inj (hWith.derived.symm.trans hSealedKey)
  obtain rfl := Except.ok.inj (hWith.bound.symm.trans hSealedAad)
  have hSame : content.ciphertext = s.content.ciphertext := by
    have hEncrypted := hWith.encrypted
    rw [← hNonce, ← hPlaintext] at hEncrypted
    exact Option.some.inj (hCiphertext.symm.trans hEncrypted)
  refine ⟨s, hs, hCoordinates, ?_, hPlaintext.symm, ?_⟩
  · exact SealedProtectedContent.ext hKeyRef (hWith.algorithm.trans hAlgorithm.symm) hHash
      hSame.symm hNonce.symm
  · rw [hMaster, ← hKeyRef, hWith.keyRef, s.keyring.key?_activeKeyRef]
    rw [← hCoordinates] at hDerived
    rw [hIdeal.masterKey_eq hDerived hWith.derived]

/-- The ciphertext of a sealing is opened as that sealing only. -/
theorem IdealOnHistory.eq_of_ciphertext (hIdeal : IdealOnHistory prim history) (hs : s ∈ history)
    {other : Sealing prim} (hOther : other ∈ history)
    (hSame : other.content.ciphertext = s.content.ciphertext) :
    other.coordinates = s.coordinates ∧ other.content = s.content := by
  obtain ⟨bookKey, message, associated, hWith⟩ := encrypt_ok s.hSealed
  obtain ⟨bookKey', message', associated', hWith'⟩ := encrypt_ok other.hSealed
  have hCalls := hIdeal.aead.apart ⟨bookKey, s.content.nonce, associated, s.plaintext⟩
    ⟨s, hs, hWith.derived, hWith.bound, rfl, rfl⟩
    ⟨bookKey', other.content.nonce, associated', other.plaintext⟩
    ⟨other, hOther, hWith'.derived, hWith'.bound, rfl, rfl⟩ s.content.ciphertext hWith.encrypted
    (hSame ▸ hWith'.encrypted)
  obtain ⟨rfl, hNonce, rfl, -⟩ := Call.mk.inj hCalls
  obtain ⟨hCoordinates, hKeyRef, hHash⟩ := aad_injective hWith'.bound hWith.bound
  exact ⟨hCoordinates, SealedProtectedContent.ext hKeyRef
    (hWith'.algorithm.trans hWith.algorithm.symm) hHash hSame hNonce.symm⟩

/-- Two sealings that agree in everything else have one ciphertext, since their plaintexts are
committed to. -/
theorem IdealOnHistory.ciphertext_eq (hIdeal : IdealOnHistory prim history) (hs : s ∈ history)
    {other : Sealing prim} (hOther : other ∈ history)
    (hCoordinates : other.coordinates = s.coordinates)
    (hKeyRef : other.content.keyRef = s.content.keyRef)
    (hHash : other.content.contentHash = s.content.contentHash)
    (hNonce : other.content.nonce = s.content.nonce) :
    other.content.ciphertext = s.content.ciphertext := by
  obtain ⟨bookKey, message, associated, hWith⟩ := encrypt_ok s.hSealed
  obtain ⟨bookKey', message', associated', hWith'⟩ := encrypt_ok other.hSealed
  have hInputs : (bookKey', message') = (bookKey, message) :=
    hIdeal.hmac ⟨other, hOther, hWith'.derived, hWith'.rendered⟩
      ⟨s, hs, hWith.derived, hWith.rendered⟩
      (Subtype.ext (hWith'.committed.symm.trans (hHash.trans hWith.committed)))
  obtain ⟨rfl, rfl⟩ := Prod.mk.inj hInputs
  have hPlaintext : other.plaintext = s.plaintext :=
    hIdeal.sha256 ⟨other, hOther, rfl⟩ ⟨s, hs, rfl⟩
      (commitmentValue_injective hWith'.rendered hWith.rendered)
  have hBound := hWith'.bound
  rw [hCoordinates, hKeyRef, hHash] at hBound
  obtain rfl := Except.ok.inj (hWith.bound.symm.trans hBound)
  have hEncrypted := hWith'.encrypted
  rw [hNonce, hPlaintext] at hEncrypted
  exact Option.some.inj (hEncrypted.symm.trans hWith.encrypted)

end Ideal

/-- Protected content, on ideal primitives.  What was stored is opened at its coordinates under
every keyring that maps its key name to its key, whatever the active key has become.  What is
presented and was not stored so, with all its coordinates, is not opened under any keyring; with
the ciphertext of some stored content this is so as soon as anything else differs, and with
everything else of it as soon as the ciphertext differs. -/
theorem protectedContent_binds {prim : ContentPrimitives} {history : Set (Sealing prim)}
    (hIdeal : IdealOnHistory prim history) :
    (∀ s ∈ history, ∀ keyring : ProtectedContentKeyring,
      keyring.key? s.content.keyRef = s.keyring.key? s.content.keyRef →
        decrypt prim keyring s.coordinates s.content = .ok s.plaintext)
      ∧ (∀ keyring coordinates content,
        (∀ s ∈ history, (s.coordinates, s.content) ≠ (coordinates, content)) →
          decrypt prim keyring coordinates content = .error notDecrypted)
      ∧ ∀ s ∈ history, ∀ keyring coordinates content,
        (coordinates, content) ≠ (s.coordinates, s.content) →
        (content.ciphertext = s.content.ciphertext
          ∨ (coordinates = s.coordinates ∧ content.keyRef = s.content.keyRef
            ∧ content.contentHash = s.content.contentHash ∧ content.nonce = s.content.nonce)) →
          decrypt prim keyring coordinates content = .error notDecrypted := by
  refine ⟨fun s hs keyring hKey => hIdeal.opens hs hKey, ?_, ?_⟩
  · intro keyring coordinates content hNotStored
    refine decrypt_fails fun plaintext hOpened => ?_
    obtain ⟨s, hs, hCoordinates, hContent, -, -⟩ := hIdeal.opened hOpened
    exact hNotStored s hs (by rw [hCoordinates, hContent])
  · intro s hs keyring coordinates content hDiffers hShares
    refine decrypt_fails fun plaintext hOpened => hDiffers ?_
    obtain ⟨other, hOther, rfl, rfl, -, -⟩ := hIdeal.opened hOpened
    have hCiphertext : other.content.ciphertext = s.content.ciphertext := by
      obtain hCiphertext | ⟨hCoordinates, hKeyRef, hHash, hNonce⟩ := hShares
      · exact hCiphertext
      · exact hIdeal.ciphertext_eq hs hOther hCoordinates hKeyRef hHash hNonce
    obtain ⟨hCoordinates, hContent⟩ := hIdeal.eq_of_ciphertext hs hOther hCiphertext
    rw [hCoordinates, hContent]

/-! ## A note that is opened after a rotation -/

/-- The bytes of a list. -/
def bytesOf (bytes : List UInt8) : ByteArray := ⟨bytes.toArray⟩

theorem sampleMasterKey_size : (bytesOf (List.replicate 32 107)).size = 32 := by decide

def sampleMasterKey : Bytes32 := ⟨bytesOf (List.replicate 32 107), sampleMasterKey_size⟩

/-- The bytes of the key that HKDF-SHA256 derives from the sample key for the Book 1. -/
def sampleBookKeyBytes : ByteArray :=
  bytesOf [190, 54, 239, 140, 81, 185, 223, 180, 111, 156, 1, 72, 89, 202, 81, 94, 183, 216, 102,
    250, 39, 218, 144, 33, 197, 49, 176, 48, 32, 114, 184, 111]

theorem sampleBookKey_size : sampleBookKeyBytes.size = 32 := by decide

def sampleBookKey : Bytes32 := ⟨sampleBookKeyBytes, sampleBookKey_size⟩

/-- The bytes of SHA-256 of the sample plaintext. -/
def samplePlaintextDigestBytes : ByteArray :=
  bytesOf [143, 67, 67, 70, 100, 143, 107, 150, 223, 137, 221, 169, 1, 197, 23, 107, 16, 166, 216,
    57, 97, 221, 60, 26, 200, 139, 89, 178, 220, 50, 122, 164]

theorem samplePlaintextDigest_size : samplePlaintextDigestBytes.size = 32 := by decide

/-- The bytes of HMAC-SHA256 of the sample commitment. -/
def sampleCommitmentBytes : ByteArray :=
  bytesOf [106, 17, 44, 9, 3, 73, 241, 74, 180, 142, 244, 148, 30, 89, 97, 85, 128, 219, 44, 240,
    26, 192, 67, 232, 128, 127, 77, 232, 25, 80, 206, 22]

theorem sampleCommitment_size : sampleCommitmentBytes.size = 32 := by decide

/-- What AES-256-GCM makes of the sample plaintext. -/
def sampleCiphertext : ByteArray :=
  bytesOf [34, 171, 191, 86, 188, 250, 103, 134, 250, 219, 195, 144, 215, 149, 158, 181, 177, 246]

def sampleContentNonce : ByteArray := bytesOf (List.replicate 12 110)

def sampleContentCoordinates : ContentCoordinates := ⟨1, 2, "transaction_description"⟩

/-- The associated data of the sample content. -/
@[irreducible] def sampleAad : ByteArray :=
  (String.ofList (render (aadValue sampleContentCoordinates "k1" sampleCommitmentBytes))).toUTF8

/-- The primitives, on the inputs of the sample. -/
def samplePrimitives : ContentPrimitives where
  sha256 _ := ⟨samplePlaintextDigestBytes, samplePlaintextDigest_size⟩
  hmac _ _ := ⟨sampleCommitmentBytes, sampleCommitment_size⟩
  hkdf _ _ masterKey := Equiv.swap sampleMasterKey sampleBookKey masterKey
  aesgcmEncrypt key nonce plaintext associated :=
    if key = sampleBookKey ∧ nonce = sampleContentNonce ∧ plaintext = "hi".toUTF8
      ∧ associated = sampleAad then some sampleCiphertext else none
  aesgcmDecrypt key nonce ciphertext associated :=
    if key = sampleBookKey ∧ nonce = sampleContentNonce ∧ ciphertext = sampleCiphertext
      ∧ associated = sampleAad then some "hi".toUTF8 else none

def sampleKeys : Dict String ByteArray := AList.singleton "k1" sampleMasterKey.1

theorem sampleKeys_valid : ∀ entry ∈ sampleKeys.entries,
    validKeyRef entry.1 = true ∧ entry.2.size = masterKeyBytes := by decide

theorem sampleKeys_active : (sampleKeys.lookup "k1").isSome = true := by decide

def sampleKeyring : ProtectedContentKeyring where
  activeKeyRef := "k1"
  keys := sampleKeys
  hActiveKeyRef := rfl
  hKeys keyRef key hKey := sampleKeys_valid ⟨keyRef, key⟩ (AList.mem_lookup_iff.1 hKey)
  hActive := sampleKeys_active

/-- The keys after a rotation. -/
def sampleRotatedKeys : Dict String ByteArray := sampleKeys.insert "k2" sampleBookKey.1

theorem sampleRotatedKeys_valid : ∀ entry ∈ sampleRotatedKeys.entries,
    validKeyRef entry.1 = true ∧ entry.2.size = masterKeyBytes := by decide

theorem sampleRotatedKeys_active : (sampleRotatedKeys.lookup "k2").isSome = true := by decide

def sampleRotatedKeyring : ProtectedContentKeyring where
  activeKeyRef := "k2"
  keys := sampleRotatedKeys
  hActiveKeyRef := rfl
  hKeys keyRef key hKey := sampleRotatedKeys_valid ⟨keyRef, key⟩ (AList.mem_lookup_iff.1 hKey)
  hActive := sampleRotatedKeys_active

def sampleSealedContent : SealedProtectedContent where
  keyRef := "k1"
  algorithm := protectedContentAlgorithm
  contentHash := sampleCommitmentBytes
  ciphertext := sampleCiphertext
  nonce := sampleContentNonce

theorem sampleContent_derived : deriveBookKey samplePrimitives sampleMasterKey 1
    = .ok sampleBookKey :=
  deriveBookKey_eq_ok.2 ⟨_, canonicalJsonBytes_eq_ok.2 ⟨rfl, rfl⟩, Equiv.swap_apply_left _ _⟩

theorem sampleContent_bound : aad sampleContentCoordinates "k1" sampleCommitmentBytes
    = .ok sampleAad := by
  refine canonicalJsonBytes_eq_ok.2 ⟨rfl, ?_⟩
  unfold sampleAad
  rfl

theorem sampleSealedContent_sealed :
    encrypt samplePrimitives sampleKeyring (some sampleContentNonce) sampleContentCoordinates
      "hi".toUTF8 = .ok sampleSealedContent := by
  simp only [encrypt, bind_eq_ok, require_eq_ok, fetch_eq_ok, mapError_eq_ok, pure_eq_ok,
    exists_const, contentCommitment_eq_ok]
  exact ⟨by decide, sampleBookKey, sampleContent_derived, _,
    ⟨_, canonicalJsonBytes_eq_ok.2 ⟨rfl, rfl⟩, rfl⟩, sampleContentNonce, rfl,
    by decide, sampleAad, sampleContent_bound, sampleCiphertext, if_pos ⟨rfl, rfl, rfl, rfl⟩, rfl⟩

def sampleSealing : Sealing samplePrimitives where
  keyring := sampleKeyring
  nonceSource := some sampleContentNonce
  coordinates := sampleContentCoordinates
  plaintext := "hi".toUTF8
  content := sampleSealedContent
  hSealed := sampleSealedContent_sealed

/-- The call of the cipher for the sample content. -/
def sampleCipherCall : Call Bytes32 ByteArray ByteArray ByteArray :=
  ⟨sampleBookKey, sampleContentNonce, sampleAad, "hi".toUTF8⟩

theorem sampleSealing_makes {call : Call Bytes32 ByteArray ByteArray ByteArray} :
    (∃ s ∈ ({sampleSealing} : Set (Sealing samplePrimitives)), s.Makes call)
      ↔ call = sampleCipherCall := by
  have hDerived : deriveBookKey samplePrimitives sampleSealing.keyring.activeKey
      sampleSealing.coordinates.bookId = .ok sampleCipherCall.key := sampleContent_derived
  have hAad : aad sampleSealing.coordinates sampleSealing.content.keyRef
      sampleSealing.content.contentHash = .ok sampleCipherCall.aad := sampleContent_bound
  constructor
  · rintro ⟨s, hs, hKey, hAssociated, hNonce, hPlaintext⟩
    rw [Set.mem_singleton_iff.1 hs] at hKey hAssociated hNonce hPlaintext
    obtain ⟨key, nonce, associated, plaintext⟩ := call
    rw [sampleCipherCall, Call.mk.injEq]
    exact ⟨Except.ok.inj (hKey.symm.trans hDerived), hNonce,
      Except.ok.inj (hAssociated.symm.trans hAad), hPlaintext⟩
  · rintro rfl
    exact ⟨sampleSealing, Set.mem_singleton _, hDerived, hAad, rfl, rfl⟩

theorem samplePrimitives_encrypt {key : Bytes32}
    {nonce plaintext associated ciphertext : ByteArray} :
    samplePrimitives.aesgcmEncrypt key nonce plaintext associated = some ciphertext ↔
      Call.mk key nonce associated plaintext = sampleCipherCall
        ∧ sampleCiphertext = ciphertext := by
  unfold samplePrimitives sampleCipherCall
  simp only [Option.ite_none_right_eq_some, Option.some.injEq, Call.mk.injEq]
  tauto

theorem samplePrimitives_decrypt {key : Bytes32}
    {nonce plaintext associated ciphertext : ByteArray} :
    samplePrimitives.aesgcmDecrypt key nonce ciphertext associated = some plaintext ↔
      Call.mk key nonce associated plaintext = sampleCipherCall
        ∧ sampleCiphertext = ciphertext := by
  unfold samplePrimitives sampleCipherCall
  simp only [Option.ite_none_right_eq_some, Option.some.injEq, Call.mk.injEq]
  grind

theorem samplePrimitives_ideal : IdealOnHistory samplePrimitives {sampleSealing} where
  aead :=
    { opens := by
        rintro ⟨key, nonce, associated, plaintext⟩ hCall ciphertext hEncrypted
        exact samplePrimitives_decrypt.2 (samplePrimitives_encrypt.1 hEncrypted)
      authentic := by
        intro key nonce ciphertext associated plaintext hOpened
        have hCall := samplePrimitives_decrypt.1 hOpened
        exact ⟨sampleSealing_makes.2 hCall.1, samplePrimitives_encrypt.2 hCall⟩
      apart := by
        intro call hCall other hOther ciphertext _ _
        exact (sampleSealing_makes.1 hCall).trans (sampleSealing_makes.1 hOther).symm }
  tagged key nonce plaintext associated ciphertext hEncrypted := by
    obtain ⟨hCall, rfl⟩ := samplePrimitives_encrypt.1 hEncrypted
    have hPlaintext : plaintext = "hi".toUTF8 := congrArg Call.plaintext hCall
    rw [hPlaintext]
    decide
  hkdf _ _ := (Equiv.swap sampleMasterKey sampleBookKey).injective
  hmac := by
    rintro ⟨key, message⟩ ⟨s, hs, hKey, hMessage⟩ ⟨key', message'⟩ ⟨s', hs', hKey', hMessage'⟩ -
    rw [Set.mem_singleton_iff.1 hs] at hKey hMessage
    rw [Set.mem_singleton_iff.1 hs'] at hKey' hMessage'
    rw [Prod.mk.injEq]
    exact ⟨Except.ok.inj (hKey.symm.trans hKey'), Except.ok.inj (hMessage.symm.trans hMessage')⟩
  sha256 := by
    rintro _ ⟨s, rfl, rfl⟩ _ ⟨s', rfl, rfl⟩ -
    rfl

theorem protectedContent_binds_sample :
    decrypt samplePrimitives sampleRotatedKeyring sampleContentCoordinates sampleSealedContent
        = .ok "hi".toUTF8
      ∧ decrypt samplePrimitives sampleRotatedKeyring ⟨1, 3, "transaction_description"⟩
        sampleSealedContent = .error notDecrypted := by
  obtain ⟨hOpens, -, hBinds⟩ := protectedContent_binds samplePrimitives_ideal
  refine ⟨hOpens sampleSealing rfl sampleRotatedKeyring (by decide), ?_⟩
  exact hBinds sampleSealing rfl sampleRotatedKeyring _ _ (by decide) (.inl rfl)

end TrackAnywhere.Ports
