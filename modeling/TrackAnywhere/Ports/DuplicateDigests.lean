import TrackAnywhere.Ports.Primitives
import TrackAnywhere.Verified.Checked
import TrackAnywhere.Verified.LengthFrames
import Mathlib

/-!
# Digests for duplicate detection

Private evidence of an entry is kept as a keyed digest: the provider, kind and reference of a
transaction, or the normalised parts of a source fingerprint.  What is authenticated is a tag with
the purpose of the digest, and then every part behind its length in eight bytes.

HMAC-SHA-256 is a parameter.
-/

namespace TrackAnywhere.Ports

open TrackAnywhere.Verified.Checked
open TrackAnywhere.Verified.LengthFrames

/-- `_MIN_KEY_BYTES` -/
def minKeyBytes : Nat := 32

/-- `_MAX_KEY_BYTES` -/
def maxKeyBytes : Nat := 1024

/-- The key, as `__post_init__` admits it. -/
structure DuplicateDetectionKeyProvider where
  key : ByteArray
  hKey : minKeyBytes ≤ key.size ∧ key.size ≤ maxKeyBytes

/-- `length.to_bytes(width, "big")` -/
def toBytesBig (width n : Nat) : Except String ByteArray := do
  require (n < 256 ^ width) "int too big to convert"
  return ⟨(bigEndian width n).toArray⟩

/-- The two updates of the digest for one part. -/
def updatePart (message : ByteArray) (part : String) : Except String ByteArray := do
  let encoded := part.toUTF8
  let length ← toBytesBig 8 encoded.size
  return message ++ length ++ encoded

/-- What the digest has been updated with. -/
def keyedMessage (purpose : String) (parts : List String) : Except String ByteArray := do
  require (∀ part ∈ parts, part ≠ "") "duplicate-detection inputs are invalid"
  parts.foldlM updatePart ("track-anywhere:eeg:".toUTF8 ++ purpose.toUTF8 ++ ":v1".toUTF8)

section Digests

variable (hmac : ByteArray → ByteArray → EventHash)

/-- `_keyed_digest` -/
def keyedDigest (key : ByteArray) (purpose : String) (parts : List String) :
    Except String EventHash := do
  require (minKeyBytes ≤ key.size) "duplicate-detection key is invalid"
  let message ← keyedMessage purpose parts
  return hmac key message

/-- `_hmac_external_reference` -/
def hmacExternalReference (key : ByteArray) (providerCode referenceKind reference : String) :
    Except String EventHash :=
  keyedDigest hmac key "external-reference" [providerCode, referenceKind, reference]

/-- `_hmac_source_fingerprint` -/
def hmacSourceFingerprint (key : ByteArray) (normalizedParts : List String) :
    Except String EventHash := do
  require (normalizedParts ≠ []) "source fingerprint inputs are invalid"
  keyedDigest hmac key "source-fingerprint" normalizedParts

namespace DuplicateDetectionKeyProvider

variable (self : DuplicateDetectionKeyProvider)

def externalReferenceDigest (providerCode referenceKind reference : String) :
    Except String EventHash :=
  hmacExternalReference hmac self.key providerCode referenceKind reference

def sourceFingerprintDigest (normalizedParts : List String) : Except String EventHash :=
  hmacSourceFingerprint hmac self.key normalizedParts

end DuplicateDetectionKeyProvider

end Digests

/-! ## The calls -/

/-- A call of one of the two digests. -/
inductive DigestCall
  | externalReference (providerCode referenceKind reference : String)
  | sourceFingerprint (normalizedParts : List String)
deriving DecidableEq

namespace DigestCall

def digest (hmac : ByteArray → ByteArray → EventHash) (provider : DuplicateDetectionKeyProvider) :
    DigestCall → Except String EventHash
  | externalReference providerCode referenceKind reference =>
      provider.externalReferenceDigest hmac providerCode referenceKind reference
  | sourceFingerprint normalizedParts => provider.sourceFingerprintDigest hmac normalizedParts

def purpose : DigestCall → String
  | externalReference _ _ _ => "external-reference"
  | sourceFingerprint _ => "source-fingerprint"

def parts : DigestCall → List String
  | externalReference providerCode referenceKind reference =>
      [providerCode, referenceKind, reference]
  | sourceFingerprint normalizedParts => normalizedParts

/-- The bytes the call authenticates. -/
def message (call : DigestCall) : Except String ByteArray :=
  keyedMessage call.purpose call.parts

theorem purposes_ne : "external-reference" ≠ "source-fingerprint" := by decide

/-- A call is its purpose and its parts. -/
theorem eq_of_parts {call call' : DigestCall} (hPurpose : call.purpose = call'.purpose)
    (hParts : call.parts = call'.parts) : call = call' := by
  cases call with
  | externalReference providerCode referenceKind reference =>
      cases call' with
      | externalReference providerCode' referenceKind' reference' =>
          simp only [parts, List.cons.injEq, and_true] at hParts
          rw [hParts.1, hParts.2.1, hParts.2.2]
      | sourceFingerprint normalizedParts => exact absurd hPurpose purposes_ne
  | sourceFingerprint normalizedParts =>
      cases call' with
      | externalReference providerCode referenceKind reference =>
          exact absurd hPurpose.symm purposes_ne
      | sourceFingerprint normalizedParts' => exact congrArg sourceFingerprint hParts

end DigestCall

/-! ## The authenticated bytes -/

/-- The bytes of a text. -/
def utf8Bytes (s : String) : List UInt8 := s.toUTF8.data.toList

theorem utf8Bytes_injective : Function.Injective utf8Bytes := by
  intro a b h
  exact String.toByteArray_inj.1 (ByteArray.ext (Array.toList_inj.1 h))

theorem updatePart_eq_ok {message message' : ByteArray} {part : String} :
    updatePart message part = .ok message' ↔ (utf8Bytes part).length < 256 ^ 8
      ∧ message'.data.toList = message.data.toList ++ frame 8 (utf8Bytes part) := by
  have hSize : (utf8Bytes part).length = part.toUTF8.size := by
    unfold utf8Bytes
    rw [Array.length_toList, ByteArray.size_data]
  unfold updatePart toBytesBig
  simp only [bind_eq_ok, require_eq_ok, pure_eq_ok]
  have hBytes : (message ++ ⟨(bigEndian 8 part.toUTF8.size).toArray⟩ ++ part.toUTF8).data.toList
      = message.data.toList ++ frame 8 (utf8Bytes part) := by
    unfold frame
    rw [hSize, ByteArray.data_append, ByteArray.data_append, Array.toList_append,
      Array.toList_append, List.append_assoc]
    rfl
  constructor
  · rintro ⟨_, ⟨_, hBound, rfl⟩, rfl⟩
    exact ⟨hSize ▸ hBound, hBytes⟩
  · rintro ⟨hBound, hMessage⟩
    refine ⟨_, ⟨(), hSize ▸ hBound, rfl⟩, ?_⟩
    exact ByteArray.ext (Array.toList_inj.1 (hBytes.trans hMessage.symm))

theorem foldlM_updatePart_eq_ok {parts : List String} {message message' : ByteArray} :
    parts.foldlM updatePart message = .ok message' ↔
      (∀ part ∈ parts, (utf8Bytes part).length < 256 ^ 8)
        ∧ message'.data.toList
          = message.data.toList ++ (parts.map utf8Bytes).flatMap (frame 8) := by
  induction parts generalizing message with
  | nil =>
      rw [List.foldlM_nil, pure_eq_ok, List.map_nil, List.flatMap_nil, List.append_nil]
      constructor
      · rintro rfl
        exact ⟨fun _ h => absurd h List.not_mem_nil, rfl⟩
      · rintro ⟨-, h⟩
        exact ByteArray.ext (Array.toList_inj.1 h.symm)
  | cons part parts ih =>
      rw [List.foldlM_cons, bind_eq_ok]
      simp only [updatePart_eq_ok, ih, List.forall_mem_cons, List.map_cons, List.flatMap_cons]
      constructor
      · rintro ⟨next, ⟨hPart, hNext⟩, hParts, hMessage⟩
        refine ⟨⟨hPart, hParts⟩, ?_⟩
        rw [hMessage, hNext, List.append_assoc]
      · rintro ⟨⟨hPart, hParts⟩, hMessage⟩
        refine ⟨⟨(message.data.toList ++ frame 8 (utf8Bytes part)).toArray⟩, ⟨hPart, rfl⟩,
          hParts, ?_⟩
        rw [hMessage, ← List.append_assoc]

/-- The authenticated bytes of tags of one length are read back into the purpose and the parts. -/
theorem keyedMessage_injective {purpose purpose' : String} {parts parts' : List String}
    {message : ByteArray} (hLength : (utf8Bytes purpose).length = (utf8Bytes purpose').length)
    (h : keyedMessage purpose parts = .ok message)
    (h' : keyedMessage purpose' parts' = .ok message) : purpose = purpose' ∧ parts = parts' := by
  unfold keyedMessage at h h'
  rw [bind_eq_ok] at h h'
  obtain ⟨-, -, hFold⟩ := h
  obtain ⟨-, -, hFold'⟩ := h'
  obtain ⟨hBound, hBytes⟩ := foldlM_updatePart_eq_ok.1 hFold
  obtain ⟨hBound', hBytes'⟩ := foldlM_updatePart_eq_ok.1 hFold'
  have hTag : ∀ purpose : String,
      ("track-anywhere:eeg:".toUTF8 ++ purpose.toUTF8 ++ ":v1".toUTF8).data.toList
        = utf8Bytes "track-anywhere:eeg:" ++ (utf8Bytes purpose ++ utf8Bytes ":v1") := by
    intro purpose
    rw [ByteArray.data_append, ByteArray.data_append, Array.toList_append, Array.toList_append,
      List.append_assoc]
    rfl
  rw [hBytes, hTag, hTag] at hBytes'
  simp only [List.append_assoc] at hBytes'
  have hRest := List.append_cancel_left hBytes'
  obtain ⟨hPurpose, hFrames⟩ := List.append_inj hRest hLength
  refine ⟨utf8Bytes_injective hPurpose, (List.map_injective_iff.2 utf8Bytes_injective) ?_⟩
  refine frames_injective (by decide) ?_ ?_ (List.append_cancel_left hFrames)
  · exact List.forall_mem_map.2 hBound
  · exact List.forall_mem_map.2 hBound'

namespace DigestCall

/-- The tags of the two purposes have one length. -/
theorem length_purpose (call : DigestCall) : (utf8Bytes call.purpose).length = 18 := by
  cases call with
  | externalReference providerCode referenceKind reference =>
      exact (by decide : (utf8Bytes "external-reference").length = 18)
  | sourceFingerprint normalizedParts =>
      exact (by decide : (utf8Bytes "source-fingerprint").length = 18)

theorem message_injective {call call' : DigestCall} {message : ByteArray}
    (h : call.message = .ok message) (h' : call'.message = .ok message) : call = call' := by
  obtain ⟨hPurpose, hParts⟩ := keyedMessage_injective
    ((length_purpose call).trans (length_purpose call').symm) h h'
  exact eq_of_parts hPurpose hParts

/-- An accepted call gives the digest of its message. -/
theorem digest_eq_ok {hmac : ByteArray → ByteArray → EventHash}
    {provider : DuplicateDetectionKeyProvider} {call : DigestCall} {digest : EventHash}
    (h : call.digest hmac provider = .ok digest) :
    ∃ message, call.message = .ok message ∧ hmac provider.key message = digest := by
  have hKeyed : keyedDigest hmac provider.key call.purpose call.parts = .ok digest := by
    cases call with
    | externalReference providerCode referenceKind reference => exact h
    | sourceFingerprint normalizedParts =>
        obtain ⟨-, -, hKeyed⟩ := bind_eq_ok.1 h
        exact hKeyed
  unfold keyedDigest at hKeyed
  obtain ⟨-, -, hKeyed⟩ := bind_eq_ok.1 hKeyed
  obtain ⟨message, hMessage, hDigest⟩ := bind_eq_ok.1 hKeyed
  exact ⟨message, hMessage, pure_eq_ok.1 hDigest⟩

/-- No two accepted calls share the authenticated bytes.  Where HMAC has no collision among the
messages of some calls under the key, two of them that are accepted have the same digest only when
they are the same call: of the same purpose, with the same parts. -/
theorem digest_eq_iff (hmac : ByteArray → ByteArray → EventHash)
    (provider : DuplicateDetectionKeyProvider) (calls : Set DigestCall)
    (hInjective : Set.InjOn (hmac provider.key)
      {message | ∃ call ∈ calls, call.message = .ok message}) :
    (∀ (call call' : DigestCall) (message : ByteArray),
      call.message = .ok message → call'.message = .ok message → call = call')
      ∧ ∀ call ∈ calls, ∀ call' ∈ calls, ∀ digest digest',
        call.digest hmac provider = .ok digest → call'.digest hmac provider = .ok digest' →
          (digest = digest' ↔ call = call') := by
  refine ⟨fun _ _ _ => message_injective, ?_⟩
  intro call hCall call' hCall' digest digest' h h'
  obtain ⟨message, hMessage, hDigest⟩ := digest_eq_ok h
  obtain ⟨message', hMessage', hDigest'⟩ := digest_eq_ok h'
  constructor
  · intro hSame
    have hBytes : message = message' := hInjective ⟨call, hCall, hMessage⟩
      ⟨call', hCall', hMessage'⟩ (by rw [hDigest, hDigest', hSame])
    exact message_injective hMessage (hBytes ▸ hMessage')
  · rintro rfl
    exact Except.ok.inj (h.symm.trans h')

end DigestCall

/-! ## A reference and a fingerprint with the same parts -/

theorem sampleDetectionKey_size : minKeyBytes ≤ (ByteArray.mk (.replicate 32 107)).size
    ∧ (ByteArray.mk (.replicate 32 107)).size ≤ maxKeyBytes := by decide

def sampleDetectionKey : DuplicateDetectionKeyProvider where
  key := ⟨.replicate 32 107⟩
  hKey := sampleDetectionKey_size

def sampleReferenceCall : DigestCall := .externalReference "bank" "card" "r"

def sampleFingerprintCall : DigestCall := .sourceFingerprint ["bank", "card", "r"]

/-- HMAC-SHA-256 under the sample key, on the messages of the two calls. -/
def sampleHmac (_ message : ByteArray) : EventHash :=
  if sampleReferenceCall.message = .ok message then
    0x4b92b6d10a04a9f5bc6db9145b8e3513add76bd047f06a420b4d81c0e7a5664b
  else 0xb5e29232be36f064dbdc19ead875d854128a408b4e9175c367cf29ed110fe48f

theorem sampleHmac_injOn : Set.InjOn (sampleHmac sampleDetectionKey.key)
    {message | ∃ call ∈ ({sampleReferenceCall, sampleFingerprintCall} : Set DigestCall),
      call.message = .ok message} := by
  have hOther : sampleReferenceCall.message ≠ sampleFingerprintCall.message := by
    decide
  have hDigests : (0x4b92b6d10a04a9f5bc6db9145b8e3513add76bd047f06a420b4d81c0e7a5664b : EventHash)
      ≠ 0xb5e29232be36f064dbdc19ead875d854128a408b4e9175c367cf29ed110fe48f := by decide
  rintro a ⟨call, hCall, hA⟩ b ⟨call', hCall', hB⟩ h
  unfold sampleHmac at h
  obtain rfl | rfl := hCall <;> obtain rfl | rfl := hCall'
  · exact Except.ok.inj (hA.symm.trans hB)
  · rw [if_pos hA, if_neg fun hSame => hOther (hSame.trans hB.symm)] at h
    exact absurd h hDigests
  · rw [if_pos hB, if_neg fun hSame => hOther (hSame.trans hA.symm)] at h
    exact absurd h.symm hDigests
  · exact Except.ok.inj (hA.symm.trans hB)

theorem digest_eq_iff_sample :
    sampleReferenceCall.digest sampleHmac sampleDetectionKey
      ≠ sampleFingerprintCall.digest sampleHmac sampleDetectionKey := by
  intro h
  obtain ⟨-, hDigests⟩ := DigestCall.digest_eq_iff sampleHmac sampleDetectionKey
    {sampleReferenceCall, sampleFingerprintCall} sampleHmac_injOn
  have hReference : sampleReferenceCall.digest sampleHmac sampleDetectionKey
      = .ok 0x4b92b6d10a04a9f5bc6db9145b8e3513add76bd047f06a420b4d81c0e7a5664b := by
    decide
  have hSame := (hDigests _ (.inl rfl) _ (.inr rfl) _ _ hReference (h ▸ hReference)).1 rfl
  exact absurd hSame (by decide)

end TrackAnywhere.Ports
