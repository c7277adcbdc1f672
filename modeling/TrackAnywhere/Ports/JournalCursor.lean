import TrackAnywhere.Ports.HashPreimage
import TrackAnywhere.Verified.Base64
import Mathlib

/-!
# Journal cursors

A cursor names a place in the order of the journal: effective time, Book
position and transaction id, joined by NUL and written in URL-safe Base64.
Reading it back undoes each of these, and refuses a time that is not in the
canonical form.
-/

namespace TrackAnywhere.Ports

open TrackAnywhere.Verified
open TrackAnywhere.Verified.Checked

/-- The place of a transaction in the journal, in the order of the pages. -/
abbrev JournalKey := Instant ×ₗ (Nat ×ₗ UUID)

namespace JournalKey

abbrev of (effectiveAt : Instant) (position : Nat) (transactionId : UUID) : JournalKey :=
  toLex (effectiveAt, toLex (position, transactionId))

abbrev effectiveAt (key : JournalKey) : Instant := (ofLex key).1
abbrev position (key : JournalKey) : Nat := (ofLex (ofLex key).2).1
abbrev transactionId (key : JournalKey) : UUID := (ofLex (ofLex key).2).2

end JournalKey

/-- `JournalQueryError`: `InvalidJournalCursor`, `ValueError`, `LookupError`. -/
inductive JournalQueryError
  | invalidCursor (message : String)
  | value (message : String)
  | lookup (message : String)
deriving DecidableEq

/-! ## Writing -/

/-- The characters of a cursor, before Base64. -/
def cursorText (key : JournalKey) : List Char :=
  (formatUtcMicroseconds key.effectiveAt).toList
    ++ Char.ofNat 0 :: Nat.toDigits 10 key.position
    ++ Char.ofNat 0 :: key.transactionId.text.toList

/-- `_encode_cursor` -/
def encodeCursor (key : JournalKey) : String :=
  String.ofList (Base64.encode ((cursorText key).map Char.toNat))

/-! ## Reading -/

/-- The value of a hexadecimal digit, in either case. -/
def hexValue? (c : Char) : Option Nat :=
  if '0' ≤ c ∧ c ≤ '9' then some (c.toNat - 48)
  else if 'a' ≤ c ∧ c ≤ 'f' then some (c.toNat - 87)
  else if 'A' ≤ c ∧ c ≤ 'F' then some (c.toNat - 55)
  else none

/-- The number that digits of a base denote. -/
def readDigits (base : Nat) (digits : List Char) : Option Nat :=
  digits.foldlM (fun value c => (hexValue? c).bind fun digit =>
    if digit < base then some (base * value + digit) else none) 0

/-- The instant at the fixed places of a text.  `datetime.fromisoformat` reads
other forms as well; `_decode_cursor` refuses them by writing the result again. -/
def readInstant (text : List Char) : Option Instant := do
  let number := fun start width => readDigits 10 ((text.drop start).take width)
  let year ← number 0 4
  let month ← number 5 2
  let day ← number 8 2
  let hour ← number 11 2
  let minute ← number 14 2
  let second ← number 17 2
  let micros ← number 20 6
  if h : ((1 ≤ year ∧ year ≤ 9999) ∧ (1 ≤ month ∧ month ≤ 12)
      ∧ 1 ≤ day ∧ day ≤ daysInMonth year month)
      ∧ (hour < 24 ∧ minute < 60 ∧ second < 60 ∧ micros < 1000000) then
    some ⟨⟨year, month, day, h.1.1, h.1.2.1, h.1.2.2⟩,
      ⟨((hour * 60 + minute) * 60 + second) * 1000000 + micros, by omega⟩⟩
  else none

/-- `int(text)` of an ASCII text: a sign may stand before the digits, white
space around them, and single underscores between them. -/
def readInt (text : List Char) : Option Int := do
  let isSpace := fun c : Char => decide (c.toNat = 32 ∨ (9 ≤ c.toNat ∧ c.toNat ≤ 13)
    ∨ (28 ≤ c.toNat ∧ c.toNat ≤ 31))
  let bare := ((text.dropWhile isSpace).reverse.dropWhile isSpace).reverse
  let digits := match bare with
    | '-' :: rest => rest
    | '+' :: rest => rest
    | rest => rest
  if digits.head?.all (· = '_') ∨ digits.getLast? = some '_'
      ∨ ['_', '_'] <:+: digits then none
  else
    let value ← readDigits 10 (digits.filter (· ≠ '_'))
    if bare.head? = some '-' then some (-value) else some value

/-- `UUID(text)`: 32 hexadecimal digits, hyphens and one pair of braces apart. -/
def readUuid (text : List Char) : Option UUID := do
  let isBrace := fun c : Char => decide (c = '\x7b' ∨ c = '\x7d')
  let bare := ((text.dropWhile isBrace).reverse.dropWhile isBrace).reverse
  let digits := bare.filter (· ≠ '-')
  if digits.length = 32 then
    let value ← readDigits 16 digits
    if h : value < 2 ^ 128 then some ⟨value, h⟩ else none
  else none

/-- `bytes.decode("ascii")` -/
def decodeAscii (bytes : List Nat) : Option (List Char) :=
  if ∀ b ∈ bytes, b < 128 then some (bytes.map Char.ofNat) else none

/-- The body of `_decode_cursor` whose exceptions are all one. -/
def readCursor (value : String) : Option (Instant × Int × UUID) := do
  let padded := value.toList ++ Base64.padding value.toList.length
  let bytes ← Base64.decode padded
  let decoded ← decodeAscii bytes
  match decoded.splitOn (Char.ofNat 0) with
  | [effectiveRaw, positionRaw, transactionRaw] => do
      let effectiveAt ← readInstant effectiveRaw
      if (formatUtcMicroseconds effectiveAt).toList = effectiveRaw then
        let position ← readInt positionRaw
        let transactionId ← readUuid transactionRaw
        some (effectiveAt, position, transactionId)
      else none
  | _ => none

def invalidCursor : JournalQueryError := .invalidCursor "journal cursor is invalid"

/-- `_decode_cursor` -/
def decodeCursor (value : String) : Except JournalQueryError JournalKey := do
  require (value ≠ "" ∧ value.length ≤ 256) invalidCursor
  -- a character that is not ASCII cannot be encoded for the decoder
  require (∀ c ∈ value.toList, c.toNat < 128) invalidCursor
  let (effectiveAt, position, transactionId) ← fetch (readCursor value) invalidCursor
  require (1 ≤ position) invalidCursor
  pure (.of effectiveAt position.toNat transactionId)

/-! ## Numbers are read back -/

theorem hexValue?_hexDigit {n : Nat} (h : n < 16) : hexValue? (hexDigit n) = some n := by
  revert n
  decide

/-- Digits at fixed places denote their number. -/
theorem readDigits_places {base : Nat} (hBase : 0 < base) (hSmall : base ≤ 16)
    {width n : Nat} (hn : n < base ^ width) :
    readDigits base ((List.range width).reverse.map fun i => hexDigit (n / base ^ i % base))
      = some n := by
  have hFold : ∀ (w value : Nat),
      ((List.range w).reverse.map fun i => hexDigit (n / base ^ i % base)).foldlM
        (fun value c => (hexValue? c).bind fun digit =>
          if digit < base then some (base * value + digit) else none) value
        = some (value * base ^ w + n % base ^ w) := by
    intro w
    induction w with
    | zero => intro value; simp [Nat.mod_one]
    | succ w ih =>
        intro value
        have hDigit : n / base ^ w % base < base := Nat.mod_lt _ hBase
        rw [List.range_succ, List.reverse_append, List.reverse_singleton,
          List.singleton_append, List.map_cons, List.foldlM_cons,
          hexValue?_hexDigit (hDigit.trans_le hSmall), Option.bind_some, if_pos hDigit]
        show List.foldlM _ _ _ = _
        rw [ih, Nat.mod_pow_succ]
        congr 1
        ring
  rw [readDigits, hFold, Nat.zero_mul, Nat.zero_add, Nat.mod_eq_of_lt hn]

theorem readDigits_paddedDecimal {width n : Nat} (h : n < 10 ^ width) :
    readDigits 10 (paddedDecimal width n) = some n :=
  readDigits_places (by decide) (by decide) h

theorem readDigits_hexText {width n : Nat} (h : n < 16 ^ width) :
    readDigits 16 (hexText width n) = some n :=
  readDigits_places (by decide) le_rfl h

/-- A decimal digit. -/
theorem hexValue?_of_isDigit {c : Char} (h : c.isDigit) :
    hexValue? c = some (c.toNat - '0'.toNat) ∧ c.toNat - '0'.toNat < 10 := by
  have hRange : 48 ≤ c.toNat ∧ c.toNat ≤ 57 := by
    simpa [Char.isDigit, UInt32.le_iff_toNat_le] using h
  refine ⟨if_pos ⟨hRange.1, hRange.2⟩, ?_⟩
  show c.toNat - 48 < 10
  omega

theorem readDigits_digits {text : List Char} (h : ∀ c ∈ text, c.isDigit) :
    readDigits 10 text = some (Nat.ofDigitChars 10 text 0) := by
  have hFold : ∀ (digits : List Char) (value : Nat), (∀ c ∈ digits, c.isDigit) →
      digits.foldlM (fun value c => (hexValue? c).bind fun digit =>
          if digit < 10 then some (10 * value + digit) else none) value
        = some (Nat.ofDigitChars 10 digits value) := by
    intro digits
    induction digits with
    | nil => exact fun value _ => rfl
    | cons c rest ih =>
        intro value h
        obtain ⟨hValue, hSmall⟩ := hexValue?_of_isDigit (h c List.mem_cons_self)
        rw [List.foldlM_cons, hValue, Option.bind_some, if_pos hSmall,
          Nat.ofDigitChars_cons]
        exact ih _ fun d hd => h d (List.mem_cons_of_mem _ hd)
  exact hFold text 0 h

/-! ## The parts are kept apart -/

/-- A part of a cursor: ASCII characters, none of them the separator. -/
def CursorPart (text : List Char) : Prop :=
  ∀ c ∈ text, c.toNat < 128 ∧ c ≠ Char.ofNat 0

theorem cursorPart_append {a b : List Char} :
    CursorPart (a ++ b) ↔ CursorPart a ∧ CursorPart b :=
  List.forall_mem_append

theorem cursorPart_cons {c : Char} {text : List Char} :
    CursorPart (c :: text) ↔ (c.toNat < 128 ∧ c ≠ Char.ofNat 0) ∧ CursorPart text :=
  List.forall_mem_cons

theorem hexDigit_cursorPart {n : Nat} (h : n < 16) :
    (hexDigit n).toNat < 128 ∧ hexDigit n ≠ Char.ofNat 0 := by
  revert n
  decide

theorem cursorPart_paddedDecimal (width n : Nat) : CursorPart (paddedDecimal width n) := by
  intro c hc
  obtain ⟨i, -, rfl⟩ := List.mem_map.1 hc
  exact hexDigit_cursorPart ((Nat.mod_lt _ (by decide)).trans (by decide))

theorem cursorPart_hexText (width n : Nat) : CursorPart (hexText width n) := by
  intro c hc
  obtain ⟨i, -, rfl⟩ := List.mem_map.1 hc
  exact hexDigit_cursorPart (Nat.mod_lt _ (by decide))

theorem cursorPart_instant (t : Instant) :
    CursorPart (formatUtcMicroseconds t).toList := by
  unfold formatUtcMicroseconds
  simp only [String.toList_ofList, cursorPart_append, cursorPart_cons,
    cursorPart_paddedDecimal, true_and, and_true]
  simp [CursorPart]

theorem cursorPart_toDigits (n : Nat) : CursorPart (Nat.toDigits 10 n) := by
  intro c hc
  have hDigit := Nat.isDigit_of_mem_toDigits (by decide) le_rfl hc
  have hRange : 48 ≤ c.toNat ∧ c.toNat ≤ 57 := by
    simpa [Char.isDigit, UInt32.le_iff_toNat_le] using hDigit
  refine ⟨by omega, ?_⟩
  rintro rfl
  exact absurd hRange.1 (by decide)

theorem cursorPart_uuidText (id : UUID) : CursorPart id.text.toList := by
  intro c hc
  by_cases hDash : c = '-'
  · subst hDash
    decide
  · refine cursorPart_hexText 32 id.val c ?_
    rw [← filter_uuidText]
    exact List.mem_filter.2 ⟨hc, by simpa using hDash⟩

/-- Between parts, the separator splits. -/
theorem splitOn_cursorText (key : JournalKey) :
    (cursorText key).splitOn (Char.ofNat 0)
      = [(formatUtcMicroseconds key.effectiveAt).toList, Nat.toDigits 10 key.position,
          key.transactionId.text.toList] := by
  have hApart : ∀ {text : List Char}, CursorPart text → Char.ofNat 0 ∉ text :=
    fun hPart hMem => (hPart _ hMem).2 rfl
  unfold cursorText
  rw [List.append_assoc, List.cons_append,
    List.splitOn_append_cons_self_of_not_mem (hApart (cursorPart_instant _)),
    List.splitOn_append_cons_self_of_not_mem (hApart (cursorPart_toDigits _)),
    List.splitOn_eq_singleton (hApart (cursorPart_uuidText _))]

/-! ## The parts are read back -/

theorem readInstant_format (t : Instant) :
    readInstant (formatUtcMicroseconds t).toList = some t := by
  obtain ⟨⟨year, month, day, hYear, hMonth, hDay⟩, micros⟩ := t
  have hDayLe := Date.day_le ⟨year, month, day, hYear, hMonth, hDay⟩
  have hMicros := micros.isLt
  simp only at hDayLe
  have hPlace : ∀ {text : List Char} {start width n : Nat},
      (text.drop start).take width = paddedDecimal width n → n < 10 ^ width →
      readDigits 10 ((text.drop start).take width) = some n := by
    intro text start width n hDigits hn
    rw [hDigits, readDigits_paddedDecimal hn]
  unfold readInstant formatUtcMicroseconds
  rw [String.toList_ofList]
  dsimp only
  rw [hPlace (n := year) rfl (by omega), hPlace (n := month) rfl (by omega),
    hPlace (n := day) rfl (by omega), hPlace (n := micros.val / 1000000 / 3600) rfl (by omega),
    hPlace (n := micros.val / 1000000 / 60 % 60) rfl (by omega),
    hPlace (n := micros.val / 1000000 % 60) rfl (by omega),
    hPlace (n := micros.val % 1000000) rfl (by omega)]
  simp only [Option.bind_eq_bind, Option.bind_some]
  rw [dif_pos ⟨⟨hYear, hMonth, hDay⟩, by omega, by omega, by omega, by omega⟩]
  congr 2
  refine Fin.ext ?_
  show ((micros.val / 1000000 / 3600 * 60 + micros.val / 1000000 / 60 % 60) * 60
    + micros.val / 1000000 % 60) * 1000000 + micros.val % 1000000 = micros.val
  omega

/-- Nothing is taken from the ends of a text without the characters to take. -/
theorem trim_of_forall {p : Char → Bool} {text : List Char} (h : ∀ c ∈ text, p c = false) :
    ((text.dropWhile p).reverse.dropWhile p).reverse = text := by
  have hDrop : ∀ {text : List Char}, (∀ c ∈ text, p c = false) → text.dropWhile p = text := by
    intro text hText
    cases text with
    | nil => rfl
    | cons c rest => rw [List.dropWhile_cons, hText c List.mem_cons_self, if_neg Bool.false_ne_true]
  rw [hDrop h, hDrop fun c hc => h c (List.mem_reverse.1 hc), List.reverse_reverse]

/-- Digits alone are read as the number they denote. -/
theorem readInt_digits {text : List Char} (hNonempty : text ≠ [])
    (h : ∀ c ∈ text, c.isDigit) :
    readInt text = some (Nat.ofDigitChars 10 text 0 : Int) := by
  have hRange : ∀ c ∈ text, 48 ≤ c.toNat ∧ c.toNat ≤ 57 := by
    intro c hc
    simpa [Char.isDigit, UInt32.le_iff_toNat_le] using h c hc
  have hNot : ∀ {d : Char}, ¬(48 ≤ d.toNat ∧ d.toNat ≤ 57) → d ∉ text :=
    fun hd hMem => hd (hRange _ hMem)
  have hUnderscore : '_' ∉ text := hNot (by decide)
  have hMinus : '-' ∉ text := hNot (by decide)
  have hPlus : '+' ∉ text := hNot (by decide)
  have hRead := readDigits_digits h
  unfold readInt
  dsimp only
  rw [trim_of_forall fun c hc => decide_eq_false (by have := hRange c hc; omega)]
  cases text with
  | nil => exact absurd rfl hNonempty
  | cons c rest =>
      have hSign : c ≠ '-' ∧ c ≠ '+' :=
        ⟨fun h => hMinus (h ▸ List.mem_cons_self), fun h => hPlus (h ▸ List.mem_cons_self)⟩
      have hDigits : (match c :: rest with
          | '-' :: rest => rest
          | '+' :: rest => rest
          | rest => rest) = c :: rest := by
        split
        · next h => exact absurd (List.cons.inj h).1 hSign.1
        · next h => exact absurd (List.cons.inj h).1 hSign.2
        · rfl
      have hFilter : (c :: rest).filter (· ≠ '_') = c :: rest :=
        List.filter_eq_self.2 fun d hd => decide_eq_true fun h => hUnderscore (h ▸ hd)
      rw [hDigits, if_neg, hFilter, hRead]
      · show (if some c = some '-' then _ else _) = _
        rw [if_neg fun h => hSign.1 (Option.some.inj h)]
      · rintro (hHead | hLast | hDouble)
        · exact hUnderscore (by simp_all)
        · exact hUnderscore (List.mem_of_getLast? hLast)
        · exact hUnderscore (hDouble.subset (by decide))

theorem readInt_toDigits (n : Nat) : readInt (Nat.toDigits 10 n) = some (n : Int) := by
  rw [readInt_digits Nat.toDigits_ne_nil fun c hc =>
    Nat.isDigit_of_mem_toDigits (by decide) le_rfl hc, Nat.ofDigitChars_ten_toDigits]

theorem readUuid_text (id : UUID) : readUuid id.text.toList = some id := by
  have hBound : (16 : Nat) ^ 32 = 2 ^ 128 := by norm_num
  have hDigit : ∀ n < 16, hexDigit n ≠ '\x7b' ∧ hexDigit n ≠ '\x7d' := by decide
  have hBrace : ∀ c ∈ id.text.toList, decide (c = '\x7b' ∨ c = '\x7d') = false := by
    intro c hc
    by_cases hDash : c = '-'
    · subst hDash
      decide
    · have hHex : c ∈ hexText 32 id.val := by
        rw [← filter_uuidText]
        exact List.mem_filter.2 ⟨hc, by simpa using hDash⟩
      obtain ⟨i, -, rfl⟩ := List.mem_map.1 hHex
      have hNe := hDigit _ (Nat.mod_lt (id.val / 16 ^ i) (by decide))
      exact decide_eq_false (not_or.2 hNe)
  unfold readUuid
  dsimp only
  rw [trim_of_forall hBrace, filter_uuidText, length_hexText, if_pos rfl,
    readDigits_hexText (id.isLt.trans_eq hBound.symm)]
  show (if h : id.val < 2 ^ 128 then some (⟨id.val, h⟩ : UUID) else none) = some id
  rw [dif_pos id.isLt]

/-! ## The cursor is read back -/

theorem cursorPart_bytes {text : List Char} (h : ∀ c ∈ text, c.toNat < 128) :
    decodeAscii (text.map Char.toNat) = some text := by
  have hAscii : ∀ b ∈ text.map Char.toNat, b < 128 := by
    intro b hb
    obtain ⟨c, hc, rfl⟩ := List.mem_map.1 hb
    exact h c hc
  rw [decodeAscii, if_pos hAscii, List.map_map]
  congr 1
  exact (List.map_congr_left fun c _ => Char.ofNat_toNat c).trans (List.map_id _)

theorem cursorText_ascii (key : JournalKey) : ∀ c ∈ cursorText key, c.toNat < 128 := by
  unfold cursorText
  intro c hc
  simp only [List.mem_append, List.mem_cons] at hc
  rcases hc with (hc | rfl | hc) | rfl | hc
  · exact (cursorPart_instant _ c hc).1
  · decide
  · exact (cursorPart_toDigits _ c hc).1
  · decide
  · exact (cursorPart_uuidText _ c hc).1

theorem readCursor_encodeCursor (key : JournalKey) :
    readCursor (encodeCursor key)
      = some (key.effectiveAt, (key.position : Int), key.transactionId) := by
  have hBytes : ∀ b ∈ (cursorText key).map Char.toNat, b < 256 := by
    intro b hb
    obtain ⟨c, hc, rfl⟩ := List.mem_map.1 hb
    exact (cursorText_ascii key c hc).trans (by decide)
  unfold readCursor encodeCursor
  rw [String.toList_ofList]
  dsimp only
  rw [Base64.decode_encode hBytes]
  simp only [Option.bind_eq_bind, Option.bind_some]
  rw [cursorPart_bytes (cursorText_ascii key), Option.bind_some, splitOn_cursorText]
  dsimp only
  rw [readInstant_format, Option.bind_some, if_pos rfl, readInt_toDigits, readUuid_text]
  rfl

/-- The text of a key is short. -/
theorem length_encodeCursor {key : JournalKey} (hPosition : key.position ≤ bigintMax) :
    0 < (encodeCursor key).length ∧ (encodeCursor key).length ≤ 256 := by
  have hDigits : (Nat.toDigits 10 key.position).length ≤ 19 :=
    (Nat.length_toDigits_le_iff (by decide) (by decide)).2
      (Nat.lt_of_le_of_lt hPosition (by decide))
  have hInstant : (formatUtcMicroseconds key.effectiveAt).toList.length = 27 := by
    rw [formatUtcMicroseconds, String.toList_ofList]
    rfl
  have hUuid : key.transactionId.text.toList.length = 36 := by
    rw [UUID.text, String.toList_ofList]
    rfl
  have hLength : (cursorText key).length ≤ 84 ∧ 0 < (cursorText key).length := by
    unfold cursorText
    simp only [List.length_append, List.length_cons, hInstant, hUuid]
    omega
  unfold encodeCursor
  rw [String.length_ofList, Base64.length_encode, List.length_map]
  omega

/-- A cursor is read back to the place it was written for. -/
theorem decodeCursor_encodeCursor {key : JournalKey} (hFirst : 1 ≤ key.position)
    (hPosition : key.position ≤ bigintMax) :
    decodeCursor (encodeCursor key) = .ok key := by
  obtain ⟨hNonempty, hShort⟩ := length_encodeCursor hPosition
  have hAscii : ∀ c ∈ (encodeCursor key).toList, c.toNat < 128 := by
    unfold encodeCursor
    rw [String.toList_ofList]
    refine Base64.encode_ascii fun b hb => ?_
    obtain ⟨c, hc, rfl⟩ := List.mem_map.1 hb
    exact (cursorText_ascii key c hc).trans (by decide)
  have hNe : encodeCursor key ≠ "" := by
    intro h
    rw [h] at hNonempty
    exact absurd hNonempty (by decide)
  have hInt : (1 : Int) ≤ (key.position : Int) := by exact_mod_cast hFirst
  unfold decodeCursor
  rw [readCursor_encodeCursor, require, if_pos ⟨hNe, hShort⟩, require, if_pos hAscii]
  show (require ((1 : Int) ≤ (key.position : Int)) invalidCursor >>= fun _ => _) = _
  rw [require, if_pos hInt]
  rfl

end TrackAnywhere.Ports
