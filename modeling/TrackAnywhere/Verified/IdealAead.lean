import Mathlib.Data.Set.Function

/-!
# Authenticated encryption as an ideal functionality

An authenticated cipher is ideal on a set of calls when it opens the ciphertexts of these calls
and nothing else, and no two of these calls have one ciphertext.  Whoever presents a ciphertext
has therefore got it from a call, with the key, the nonce and the associated data of that call.
-/

namespace TrackAnywhere.Verified.IdealAead

variable {κ ν α π γ : Type}

/-- The inputs of one encryption. -/
structure Call (κ ν α π : Type) where
  key : κ
  nonce : ν
  aad : α
  plaintext : π

/-- The cipher opens the ciphertexts of the calls and no others, and the calls have ciphertexts
of their own. -/
structure IdealOn (encrypt : κ → ν → π → α → Option γ) (decrypt : κ → ν → γ → α → Option π)
    (calls : Set (Call κ ν α π)) : Prop where
  opens : ∀ call ∈ calls, ∀ ciphertext,
    encrypt call.key call.nonce call.plaintext call.aad = some ciphertext →
      decrypt call.key call.nonce ciphertext call.aad = some call.plaintext
  authentic : ∀ key nonce ciphertext aad plaintext,
    decrypt key nonce ciphertext aad = some plaintext →
      ⟨key, nonce, aad, plaintext⟩ ∈ calls ∧ encrypt key nonce plaintext aad = some ciphertext
  apart : ∀ call ∈ calls, ∀ other ∈ calls, ∀ ciphertext,
    encrypt call.key call.nonce call.plaintext call.aad = some ciphertext →
      encrypt other.key other.nonce other.plaintext other.aad = some ciphertext → call = other

section Ideal

variable {encrypt : κ → ν → π → α → Option γ} {decrypt : κ → ν → γ → α → Option π}
  {calls : Set (Call κ ν α π)} {key : κ} {nonce : ν} {aad : α} {plaintext : π} {ciphertext : γ}

/-- What is opened is what was sealed. -/
theorem IdealOn.decrypt_iff (h : IdealOn encrypt decrypt calls) :
    decrypt key nonce ciphertext aad = some plaintext ↔
      ⟨key, nonce, aad, plaintext⟩ ∈ calls ∧ encrypt key nonce plaintext aad = some ciphertext :=
  ⟨h.authentic key nonce ciphertext aad plaintext,
    fun hCall => h.opens ⟨key, nonce, aad, plaintext⟩ hCall.1 ciphertext hCall.2⟩

end Ideal

end TrackAnywhere.Verified.IdealAead
