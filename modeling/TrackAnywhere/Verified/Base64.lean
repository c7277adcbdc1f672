import Mathlib

/-!
# Base64, URL-safe

Bytes are regrouped into sextets, three bytes into four sextets, and each sextet
is a character.  The encoder writes no padding.  The decoder is the tolerant one:
it skips characters outside the alphabet, and reads padding as the end of a group
that has at least two sextets.
-/

namespace TrackAnywhere.Verified.Base64

/-! ## The alphabet -/

/-- The character of a sextet. -/
def character (sextet : Nat) : Char :=
  if sextet < 26 then Char.ofNat (65 + sextet)
  else if sextet < 52 then Char.ofNat (71 + sextet)
  else if sextet < 62 then Char.ofNat (sextet - 4)
  else if sextet = 62 then '-'
  else '_'

/-- The sextet of a character; both spellings of the last two are read. -/
def sextet? (c : Char) : Option Nat :=
  if 'A' ≤ c ∧ c ≤ 'Z' then some (c.toNat - 65)
  else if 'a' ≤ c ∧ c ≤ 'z' then some (c.toNat - 71)
  else if '0' ≤ c ∧ c ≤ '9' then some (c.toNat + 4)
  else if c = '-' ∨ c = '+' then some 62
  else if c = '_' ∨ c = '/' then some 63
  else none

theorem sextet?_character {sextet : Nat} (h : sextet < 64) :
    sextet? (character sextet) = some sextet := by
  revert sextet
  decide

theorem character_ne_pad {sextet : Nat} (h : sextet < 64) : character sextet ≠ '=' := by
  revert sextet
  decide

/-! ## Encoding -/

/-- Three bytes into four sextets; a shorter last group is filled with zero
bits. -/
def sextets : List Nat → List Nat
  | [] => []
  | [a] => [a / 4, a % 4 * 16]
  | [a, b] => [a / 4, a % 4 * 16 + b / 16, b % 16 * 4]
  | a :: b :: c :: rest =>
      a / 4 :: (a % 4 * 16 + b / 16) :: (b % 16 * 4 + c / 64) :: c % 64 :: sextets rest

def encode (bytes : List Nat) : List Char := (sextets bytes).map character

/-- The length of an encoding. -/
theorem length_encode (bytes : List Nat) :
    (encode bytes).length = (4 * bytes.length + 2) / 3 := by
  unfold encode
  rw [List.length_map]
  induction bytes using sextets.induct with
  | case1 => simp [sextets]
  | case2 => simp [sextets]
  | case3 => simp [sextets]
  | case4 a b c rest ih =>
      simp only [sextets, List.length_cons, ih]
      omega

theorem lt_of_mem_sextets {bytes : List Nat} (h : ∀ b ∈ bytes, b < 256) :
    ∀ sextet ∈ sextets bytes, sextet < 64 := by
  induction bytes using sextets.induct with
  | case1 => simp [sextets]
  | case2 a =>
      have ha := h a List.mem_cons_self
      intro sextet hSextet
      simp only [sextets, List.mem_cons, List.not_mem_nil, or_false] at hSextet
      omega
  | case3 a b =>
      have ha := h a (by simp)
      have hb := h b (by simp)
      intro sextet hSextet
      simp only [sextets, List.mem_cons, List.not_mem_nil, or_false] at hSextet
      omega
  | case4 a b c rest ih =>
      have ha := h a (by simp)
      have hb := h b (by simp)
      have hc := h c (by simp)
      intro sextet hSextet
      simp only [sextets, List.mem_cons] at hSextet
      rcases hSextet with hSextet | hSextet | hSextet | hSextet | hRest
      · omega
      · omega
      · omega
      · omega
      · exact ih (fun byte hByte => h byte (by simp [hByte])) sextet hRest

theorem character_ascii {sextet : Nat} (h : sextet < 64) :
    (character sextet).toNat < 128 := by
  revert sextet
  decide

/-- Encodings are ASCII texts. -/
theorem encode_ascii {bytes : List Nat} (h : ∀ b ∈ bytes, b < 256) :
    ∀ c ∈ encode bytes, c.toNat < 128 := by
  intro c hc
  obtain ⟨sextet, hSextet, rfl⟩ := List.mem_map.1 hc
  exact character_ascii (lt_of_mem_sextets h sextet hSextet)

/-! ## Decoding -/

/-- The decoder, after `quadPos` sextets of a group whose last bits are
`leftover`, and after `pads` padding characters. -/
def decodeFrom (quadPos leftover pads : Nat) : List Char → Option (List Nat)
  | [] => if quadPos = 0 then some [] else none
  | c :: rest =>
      if c = '=' then
        if 2 ≤ quadPos ∧ 4 ≤ quadPos + (pads + 1) then some []
        else decodeFrom quadPos leftover (if 2 ≤ quadPos then pads + 1 else pads) rest
      else
        match sextet? c with
        | none => decodeFrom quadPos leftover pads rest
        | some sextet =>
            if quadPos = 0 then decodeFrom 1 sextet 0 rest
            else if quadPos = 1 then
              (decodeFrom 2 (sextet % 16) 0 rest).map (List.cons (leftover * 4 + sextet / 16))
            else if quadPos = 2 then
              (decodeFrom 3 (sextet % 4) 0 rest).map (List.cons (leftover * 16 + sextet / 4))
            else (decodeFrom 0 0 0 rest).map (List.cons (leftover * 64 + sextet))

def decode (text : List Char) : Option (List Nat) := decodeFrom 0 0 0 text

/-- The padding that makes the length a multiple of four. -/
def padding (length : Nat) : List Char := List.replicate ((4 - length % 4) % 4) '='

/-- A character of the alphabet moves the decoder by its sextet. -/
theorem decodeFrom_character {quadPos leftover pads sextet : Nat} {rest : List Char}
    (h : sextet < 64) :
    decodeFrom quadPos leftover pads (character sextet :: rest)
      = if quadPos = 0 then decodeFrom 1 sextet 0 rest
        else if quadPos = 1 then
          (decodeFrom 2 (sextet % 16) 0 rest).map (List.cons (leftover * 4 + sextet / 16))
        else if quadPos = 2 then
          (decodeFrom 3 (sextet % 4) 0 rest).map (List.cons (leftover * 16 + sextet / 4))
        else (decodeFrom 0 0 0 rest).map (List.cons (leftover * 64 + sextet)) := by
  rw [decodeFrom, if_neg (character_ne_pad h), sextet?_character h]

/-- What is encoded is decoded to the same bytes. -/
theorem decode_encode {bytes : List Nat} (h : ∀ b ∈ bytes, b < 256) :
    decode (encode bytes ++ padding (encode bytes).length) = some bytes := by
  rw [length_encode]
  unfold decode encode
  induction bytes using sextets.induct with
  | case1 => simp [sextets, decodeFrom, padding]
  | case2 a =>
      have ha := h a List.mem_cons_self
      have hPad : padding ((4 * [a].length + 2) / 3) = ['=', '='] := by simp [padding]
      rw [hPad]
      simp only [sextets, List.map_cons, List.map_nil, List.cons_append, List.nil_append]
      rw [decodeFrom_character (by omega), if_pos rfl, decodeFrom_character (by omega),
        if_neg (by omega), if_pos rfl]
      simp only [decodeFrom]
      have hByte : a / 4 * 4 + a % 4 * 16 / 16 = a := by omega
      rw [hByte]
      rfl
  | case3 a b =>
      have ha := h a (by simp)
      have hb := h b (by simp)
      have hPad : padding ((4 * [a, b].length + 2) / 3) = ['='] := by simp [padding]
      rw [hPad]
      simp only [sextets, List.map_cons, List.map_nil, List.cons_append, List.nil_append]
      rw [decodeFrom_character (by omega), if_pos rfl, decodeFrom_character (by omega),
        if_neg (by omega), if_pos rfl, decodeFrom_character (by omega),
        if_neg (by omega), if_neg (by omega), if_pos rfl]
      simp only [decodeFrom]
      have hFirst : a / 4 * 4 + (a % 4 * 16 + b / 16) / 16 = a := by omega
      have hSecond : (a % 4 * 16 + b / 16) % 16 * 16 + b % 16 * 4 / 4 = b := by omega
      rw [hFirst, hSecond]
      rfl
  | case4 a b c rest ih =>
      have ha := h a (by simp)
      have hb := h b (by simp)
      have hc := h c (by simp)
      have hRest := ih fun byte hByte => h byte (by simp [hByte])
      have hPad : padding ((4 * (a :: b :: c :: rest).length + 2) / 3)
          = padding ((4 * rest.length + 2) / 3) := by
        have hDiv : (4 * (rest.length + 1 + 1 + 1) + 2) / 3
            = (4 * rest.length + 2) / 3 + 4 := by omega
        simp only [padding, List.length_cons, hDiv, Nat.add_mod_right]
      rw [hPad]
      simp only [sextets, List.map_cons, List.cons_append]
      rw [decodeFrom_character (by omega), if_pos rfl, decodeFrom_character (by omega),
        if_neg (by omega), if_pos rfl, decodeFrom_character (by omega),
        if_neg (by omega), if_neg (by omega), if_pos rfl, decodeFrom_character (by omega),
        if_neg (by omega), if_neg (by omega), if_neg (by omega), hRest]
      have hFirst : a / 4 * 4 + (a % 4 * 16 + b / 16) / 16 = a := by omega
      have hSecond : (a % 4 * 16 + b / 16) % 16 * 16 + (b % 16 * 4 + c / 64) / 4 = b := by
        omega
      have hThird : (b % 16 * 4 + c / 64) % 4 * 64 + c % 64 = c := by omega
      rw [Option.map_some, Option.map_some, Option.map_some, hFirst, hSecond, hThird]

end TrackAnywhere.Verified.Base64
