import TrackAnywhere.Ports.CanonicalReading
import TrackAnywhere.Verified.FixedPoint

/-!
# Reading JSON

`json.loads` as the archives use it: keys may not repeat in an object, and there are no `NaN`
and infinities.  What canonical JSON has no value for is refused here already: numbers with a
fraction or an exponent, and surrogates that are not part of a pair.

The reader takes one character after the other.  It keeps the objects and arrays that are open,
and what it expects next.
-/

namespace TrackAnywhere.Ports

open TrackAnywhere.Verified.FixedPoint
open TrackAnywhere.Verified.UniqueReading

/-! ## The reader -/

/-- An array or an object that is open; the member of a key has no value yet. -/
inductive OpenFrame
  | items (items : List JSONValue)
  | members (members : List (String × JSONValue))
  | member (members : List (String × JSONValue)) (key : String)

/-- Where a string is behind a backslash; a high surrogate waits for a low one. -/
inductive TextEscape
  | none
  | backslash
  | hex (high : Option Nat) (digits : List Nat)
  | lowBackslash (high : Nat)
  | lowLetter (high : Nat)

/-- What is expected next. -/
inductive ReadMode
  | value
  | firstItem
  | firstKey
  | key
  | colon
  | after
  | done (value : JSONValue)
  | text (isKey : Bool) (chars : List Char) (escape : TextEscape)
  | number (chars : List Char)
  | word (rest : List Char) (value : JSONValue)

structure ReadState where
  mode : ReadMode
  frames : List OpenFrame

/-- A value has ended. -/
def finishValue (value : JSONValue) : List OpenFrame → Option ReadState
  | [] => some ⟨.done value, []⟩
  | .items items :: frames => some ⟨.after, .items (items ++ [value]) :: frames⟩
  | .member members key :: frames =>
      -- `_unique_json_object`
      if key ∈ members.map Prod.fst then none
      else some ⟨.after, .members (members ++ [(key, value)]) :: frames⟩
  | .members _ :: _ => none

/-- A string has ended. -/
def finishText (isKey : Bool) (chars : List Char) (frames : List OpenFrame) : Option ReadState :=
  if isKey then
    match frames with
    | .members members :: frames => some ⟨.colon, .member members (String.ofList chars) :: frames⟩
    | _ => none
  else finishValue (.str (String.ofList chars)) frames

/-- The blanks between tokens. -/
def isJsonSpace (c : Char) : Bool := c = ' ' || c = '\t' || c = '\n' || c = '\r'

/-- The character that a letter behind a backslash stands for. -/
def simpleEscape (c : Char) : Option Char :=
  if c = '"' || c = '\\' || c = '/' then some c
  else if c = 'b' then some (Char.ofNat 8)
  else if c = 'f' then some (Char.ofNat 12)
  else if c = 'n' then some '\n'
  else if c = 'r' then some '\r'
  else if c = 't' then some '\t'
  else none

/-- The value of a hexadecimal digit. -/
def hexValue (c : Char) : Option Nat :=
  if c.isDigit then some (c.toNat - 48)
  else if 'a' ≤ c ∧ c ≤ 'f' then some (c.toNat - 87)
  else if 'A' ≤ c ∧ c ≤ 'F' then some (c.toNat - 55)
  else none

/-- The number of hexadecimal digits. -/
def hexNumber (digits : List Nat) : Nat := digits.foldl (fun n d => n * 16 + d) 0

/-- The code of an escape is there. -/
def finishEscape (isKey : Bool) (chars : List Char) (high : Option Nat) (code : Nat)
    (frames : List OpenFrame) : Option ReadState :=
  match high with
  | none =>
      if 0xD800 ≤ code ∧ code ≤ 0xDBFF then some ⟨.text isKey chars (.lowBackslash code), frames⟩
      else if 0xDC00 ≤ code ∧ code ≤ 0xDFFF then none
      else some ⟨.text isKey (chars ++ [Char.ofNat code]) .none, frames⟩
  | some high =>
      if 0xDC00 ≤ code ∧ code ≤ 0xDFFF then
        some ⟨.text isKey
          (chars ++ [Char.ofNat (0x10000 + (high - 0xD800) * 0x400 + (code - 0xDC00))]) .none,
          frames⟩
      else none

/-- A character of a string. -/
def readText (isKey : Bool) (chars : List Char) (escape : TextEscape) (frames : List OpenFrame)
    (c : Char) : Option ReadState :=
  match escape with
  | .none =>
      if c = '"' then finishText isKey chars frames
      else if c = '\\' then some ⟨.text isKey chars .backslash, frames⟩
      else if c.toNat < 32 then none
      else some ⟨.text isKey (chars ++ [c]) .none, frames⟩
  | .backslash =>
      if c = 'u' then some ⟨.text isKey chars (.hex none []), frames⟩
      else (simpleEscape c).map fun c => ⟨.text isKey (chars ++ [c]) .none, frames⟩
  | .hex high digits =>
      (hexValue c).bind fun digit =>
        if digits.length = 3 then
          finishEscape isKey chars high (hexNumber (digits ++ [digit])) frames
        else some ⟨.text isKey chars (.hex high (digits ++ [digit])), frames⟩
  | .lowBackslash high =>
      if c = '\\' then some ⟨.text isKey chars (.lowLetter high), frames⟩ else none
  | .lowLetter high =>
      if c = 'u' then some ⟨.text isKey chars (.hex (some high) []), frames⟩ else none

/-- The number of `(?:0|[1-9][0-9]*)`. -/
def naturalNumber (digits : List Char) : Option Nat :=
  if digits ≠ [] ∧ digits.all (·.isDigit) ∧ (digits.length = 1 ∨ digits.head? ≠ some '0') then
    some (units digits)
  else none

/-- The integer of a number without fraction and exponent. -/
def integerNumber : List Char → Option Int
  | '-' :: digits => (naturalNumber digits).map fun n : Nat => -(n : Int)
  | digits => (naturalNumber digits).map fun n : Nat => (n : Int)

/-- The first character of a value. -/
def beginValue (frames : List OpenFrame) (c : Char) : Option ReadState :=
  if c = '"' then some ⟨.text false [] .none, frames⟩
  else if c = '[' then some ⟨.firstItem, .items [] :: frames⟩
  else if c = '\x7b' then some ⟨.firstKey, .members [] :: frames⟩
  else if c = 'n' then some ⟨.word "ull".toList .null, frames⟩
  else if c = 't' then some ⟨.word "rue".toList (.bool true), frames⟩
  else if c = 'f' then some ⟨.word "alse".toList (.bool false), frames⟩
  else if c.isDigit ∨ c = '-' then some ⟨.number [c], frames⟩
  else none

/-- A character behind a value. -/
def readBehind (s : ReadState) (c : Char) : Option ReadState :=
  if isJsonSpace c then some s
  else
    match s.mode, s.frames with
    | .after, .items items :: frames =>
        if c = ',' then some ⟨.value, .items items :: frames⟩
        else if c = ']' then finishValue (.list items) frames
        else none
    | .after, .members members :: frames =>
        if c = ',' then some ⟨.key, .members members :: frames⟩
        else if c = '\x7d' then finishValue (.dict members) frames
        else none
    | _, _ => none

/-- One character. -/
def readChar (s : ReadState) (c : Char) : Option ReadState :=
  match s.mode with
  | .value => if isJsonSpace c then some s else beginValue s.frames c
  | .firstItem =>
      if isJsonSpace c then some s
      else if c = ']' then
        match s.frames with
        | .items items :: frames => finishValue (.list items) frames
        | _ => none
      else beginValue s.frames c
  | .firstKey =>
      if isJsonSpace c then some s
      else if c = '\x7d' then
        match s.frames with
        | .members members :: frames => finishValue (.dict members) frames
        | _ => none
      else if c = '"' then some ⟨.text true [] .none, s.frames⟩
      else none
  | .key =>
      if isJsonSpace c then some s
      else if c = '"' then some ⟨.text true [] .none, s.frames⟩
      else none
  | .colon =>
      if isJsonSpace c then some s
      else if c = ':' then some ⟨.value, s.frames⟩
      else none
  | .text isKey chars escape => readText isKey chars escape s.frames c
  | .number chars =>
      if c.isDigit then some ⟨.number (chars ++ [c]), s.frames⟩
      else (integerNumber chars).bind fun n =>
        (finishValue (.int n) s.frames).bind fun s => readBehind s c
  | .word rest value =>
      match rest with
      | [] => none
      | [last] => if c = last then finishValue value s.frames else none
      | next :: rest => if c = next then some ⟨.word rest value, s.frames⟩ else none
  | .after => readBehind s c
  | .done _ => readBehind s c

/-- The characters, from left to right. -/
def readChars (s : ReadState) (cs : List Char) : Option ReadState := cs.foldlM readChar s

/-- The value of a text that is at its end. -/
def ReadState.result (s : ReadState) : Option JSONValue :=
  match s.mode with
  | .done value => some value
  | .number chars => if s.frames.isEmpty then (integerNumber chars).map .int else none
  | _ => none

/-- `json.loads` -/
def loads (cs : List Char) : Option JSONValue :=
  (readChars ⟨.value, []⟩ cs).bind ReadState.result

/-! ## Where a text ends -/

theorem readChars_append (s : ReadState) (xs ys : List Char) :
    readChars s (xs ++ ys) = (readChars s xs).bind fun s => readChars s ys := by
  unfold readChars
  exact List.foldlM_append

theorem readChars_cons (s : ReadState) (c : Char) (cs : List Char) :
    readChars s (c :: cs) = (readChar s c).bind fun s => readChars s cs := rfl

/-- Behind a whole text only blanks follow. -/
theorem loads_cut {part rest : List Char} {c : Char} (hSpace : isJsonSpace c = false)
    (hDigit : c.isDigit = false) (hGoesOn : (loads (part ++ c :: rest)).isSome = true) :
    loads part = none := by
  unfold loads at hGoesOn ⊢
  rw [readChars_append] at hGoesOn
  cases hPart : readChars ⟨.value, []⟩ part with
  | none => rfl
  | some s =>
      rw [hPart, Option.bind_some, readChars_cons] at hGoesOn
      show s.result = none
      have hStep : readChar s c ≠ none := by
        intro hNone
        rw [hNone] at hGoesOn
        exact absurd hGoesOn Bool.false_ne_true
      obtain ⟨mode, frames⟩ := s
      cases mode with
      | done value =>
          refine absurd ?_ hStep
          unfold readChar readBehind
          rw [hSpace]
          rfl
      | number chars =>
          cases frames with
          | cons frame frames => rfl
          | nil =>
              cases hNumber : integerNumber chars with
              | none =>
                  show (integerNumber chars).map JSONValue.int = none
                  rw [hNumber]
                  rfl
              | some n =>
                  refine absurd ?_ hStep
                  unfold readChar
                  simp only [hDigit, hNumber, Bool.false_eq_true, if_false, Option.bind_some,
                    finishValue, readBehind, hSpace]
      | _ => rfl

/-! ## No key twice -/

/-- No object of the value has a key twice. -/
inductive JSONValue.Distinct : JSONValue → Prop
  | null : JSONValue.Distinct .null
  | bool (b : Bool) : JSONValue.Distinct (.bool b)
  | int (n : Int) : JSONValue.Distinct (.int n)
  | str (s : String) : JSONValue.Distinct (.str s)
  | list {items : List JSONValue} (hItems : ∀ item ∈ items, item.Distinct) :
      JSONValue.Distinct (.list items)
  | dict {items : List (String × JSONValue)} (hKeys : (items.map Prod.fst).Nodup)
      (hItems : ∀ member ∈ items, member.2.Distinct) : JSONValue.Distinct (.dict items)

def OpenFrame.Distinct : OpenFrame → Prop
  | .items read => ∀ item ∈ read, item.Distinct
  | .members read | .member read _ =>
      (read.map Prod.fst).Nodup ∧ ∀ entry ∈ read, entry.2.Distinct

def ReadMode.Distinct : ReadMode → Prop
  | .done read | .word _ read => read.Distinct
  | _ => True

/-- No key twice in what has been read. -/
structure ReadState.Distinct (s : ReadState) : Prop where
  mode : s.mode.Distinct
  frames : ∀ frame ∈ s.frames, frame.Distinct

/-- The next state, if there is one, is as demanded. -/
def LeavesDistinct (next : Option ReadState) : Prop := ∀ s, next = some s → s.Distinct

theorem keeps_none : LeavesDistinct none := fun _ h => nomatch h

theorem keeps_some {s : ReadState} (h : s.Distinct) : LeavesDistinct (some s) :=
  fun _ hState => Option.some.inj hState ▸ h

theorem keeps_ite {p : Prop} [Decidable p] {a b : Option ReadState} (hA : LeavesDistinct a)
    (hB : LeavesDistinct b) : LeavesDistinct (if p then a else b) := by
  split
  · exact hA
  · exact hB

theorem keeps_bind {α : Type} {a : Option α} {f : α → Option ReadState}
    (h : ∀ x, a = some x → LeavesDistinct (f x)) : LeavesDistinct (a.bind f) := by
  cases a with
  | none => exact keeps_none
  | some x => exact h x rfl

section LeavesDistinct

variable {frames : List OpenFrame} (hFrames : ∀ frame ∈ frames, frame.Distinct)

include hFrames

theorem keeps_mode {mode : ReadMode} (hMode : mode.Distinct) :
    LeavesDistinct (some ⟨mode, frames⟩) :=
  keeps_some ⟨hMode, hFrames⟩

theorem keeps_open {mode : ReadMode} {frame : OpenFrame} (hMode : mode.Distinct)
    (hFrame : frame.Distinct) : LeavesDistinct (some ⟨mode, frame :: frames⟩) :=
  keeps_some ⟨hMode, List.forall_mem_cons.2 ⟨hFrame, hFrames⟩⟩

theorem keeps_finishValue {value : JSONValue} (hValue : value.Distinct) :
    LeavesDistinct (finishValue value frames) := by
  cases frames with
  | nil => exact keeps_some ⟨hValue, hFrames⟩
  | cons frame frames =>
      obtain ⟨hFrame, hRest⟩ := List.forall_mem_cons.1 hFrames
      cases frame with
      | items items =>
          refine keeps_open hRest trivial ?_
          intro item hItem
          rw [List.mem_append, List.mem_singleton] at hItem
          obtain hItem | rfl := hItem
          · exact hFrame item hItem
          · exact hValue
      | members members => exact keeps_none
      | member members key =>
          show LeavesDistinct (if _ then _ else _)
          by_cases hKey : key ∈ members.map Prod.fst
          · rw [if_pos hKey]
            exact keeps_none
          · rw [if_neg hKey]
            refine keeps_open hRest trivial ⟨?_, ?_⟩
            · rw [List.map_append, List.nodup_append]
              refine ⟨hFrame.1, List.nodup_singleton key, ?_⟩
              intro a hA b hB hEq
              have hSame : b = key := List.mem_singleton.1 hB
              rw [hEq, hSame] at hA
              exact hKey hA
            · intro member hMember
              rw [List.mem_append, List.mem_singleton] at hMember
              obtain hMember | rfl := hMember
              · exact hFrame.2 member hMember
              · exact hValue

theorem keeps_finishText (isKey : Bool) (chars : List Char) :
    LeavesDistinct (finishText isKey chars frames) := by
  unfold finishText
  cases isKey with
  | false => exact keeps_finishValue hFrames (.str _)
  | true =>
      cases frames with
      | nil => exact keeps_none
      | cons frame frames =>
          obtain ⟨hFrame, hRest⟩ := List.forall_mem_cons.1 hFrames
          cases frame with
          | members members => exact keeps_open hRest trivial hFrame
          | items items => exact keeps_none
          | member members key => exact keeps_none

theorem keeps_finishEscape (isKey : Bool) (chars : List Char) (high : Option Nat) (code : Nat) :
    LeavesDistinct (finishEscape isKey chars high code frames) := by
  unfold finishEscape
  cases high with
  | none =>
      exact keeps_ite (keeps_mode hFrames trivial)
        (keeps_ite keeps_none (keeps_mode hFrames trivial))
  | some high => exact keeps_ite (keeps_mode hFrames trivial) keeps_none

theorem keeps_readText (isKey : Bool) (chars : List Char) (escape : TextEscape) (c : Char) :
    LeavesDistinct (readText isKey chars escape frames c) := by
  unfold readText
  cases escape with
  | none =>
      exact keeps_ite (keeps_finishText hFrames isKey chars)
        (keeps_ite (keeps_mode hFrames trivial)
          (keeps_ite keeps_none (keeps_mode hFrames trivial)))
  | backslash =>
      refine keeps_ite (keeps_mode hFrames trivial) ?_
      cases simpleEscape c with
      | none => exact keeps_none
      | some c => exact keeps_mode hFrames trivial
  | hex high digits =>
      exact keeps_bind fun digit _ => keeps_ite (keeps_finishEscape hFrames isKey chars high _)
        (keeps_mode hFrames trivial)
  | lowBackslash high => exact keeps_ite (keeps_mode hFrames trivial) keeps_none
  | lowLetter high => exact keeps_ite (keeps_mode hFrames trivial) keeps_none

theorem keeps_beginValue (c : Char) : LeavesDistinct (beginValue frames c) := by
  have hNoItems : OpenFrame.Distinct (.items []) := fun _ hItem => nomatch hItem
  have hNoMembers : OpenFrame.Distinct (.members []) :=
    ⟨List.nodup_nil, fun _ hMember => nomatch hMember⟩
  exact keeps_ite (keeps_mode hFrames trivial) (keeps_ite (keeps_open hFrames trivial hNoItems)
    (keeps_ite (keeps_open hFrames trivial hNoMembers)
      (keeps_ite (keeps_mode hFrames .null) (keeps_ite (keeps_mode hFrames (.bool true))
        (keeps_ite (keeps_mode hFrames (.bool false))
          (keeps_ite (keeps_mode hFrames trivial) keeps_none))))))

end LeavesDistinct

theorem keeps_readBehind {s : ReadState} (hs : s.Distinct) (c : Char) :
    LeavesDistinct (readBehind s c) := by
  refine keeps_ite (keeps_some hs) ?_
  obtain ⟨mode, frames⟩ := s
  cases mode with
  | after =>
      cases frames with
      | nil => exact keeps_none
      | cons frame frames =>
          obtain ⟨hFrame, hRest⟩ := List.forall_mem_cons.1 hs.frames
          cases frame with
          | items items =>
              exact keeps_ite (keeps_open hRest trivial hFrame)
                (keeps_ite (keeps_finishValue hRest (.list hFrame)) keeps_none)
          | members members =>
              exact keeps_ite (keeps_open hRest trivial hFrame)
                (keeps_ite (keeps_finishValue hRest (.dict hFrame.1 hFrame.2)) keeps_none)
          | member members key => exact keeps_none
  | _ => exact keeps_none

/-- A character leaves no object with a key twice. -/
theorem keeps_readChar {s : ReadState} (hs : s.Distinct) (c : Char) :
    LeavesDistinct (readChar s c) := by
  obtain ⟨mode, frames⟩ := s
  have hFrames := hs.frames
  cases mode with
  | value => exact keeps_ite (keeps_some hs) (keeps_beginValue hFrames c)
  | firstItem =>
      refine keeps_ite (keeps_some hs) (keeps_ite ?_ (keeps_beginValue hFrames c))
      cases frames with
      | nil => exact keeps_none
      | cons frame frames =>
          obtain ⟨hFrame, hRest⟩ := List.forall_mem_cons.1 hFrames
          cases frame with
          | items items => exact keeps_finishValue hRest (.list hFrame)
          | members members => exact keeps_none
          | member members key => exact keeps_none
  | firstKey =>
      refine keeps_ite (keeps_some hs)
        (keeps_ite ?_ (keeps_ite (keeps_mode hFrames trivial) keeps_none))
      cases frames with
      | nil => exact keeps_none
      | cons frame frames =>
          obtain ⟨hFrame, hRest⟩ := List.forall_mem_cons.1 hFrames
          cases frame with
          | items items => exact keeps_none
          | members members => exact keeps_finishValue hRest (.dict hFrame.1 hFrame.2)
          | member members key => exact keeps_none
  | key =>
      exact keeps_ite (keeps_some hs) (keeps_ite (keeps_mode hFrames trivial) keeps_none)
  | colon =>
      exact keeps_ite (keeps_some hs) (keeps_ite (keeps_mode hFrames trivial) keeps_none)
  | text isKey chars escape => exact keeps_readText hFrames isKey chars escape c
  | number chars =>
      refine keeps_ite (keeps_mode hFrames trivial) (keeps_bind fun n _ => keeps_bind ?_)
      intro s hNext
      exact keeps_readBehind (keeps_finishValue hFrames (.int n) s hNext) c
  | word rest value =>
      cases rest with
      | nil => exact keeps_none
      | cons next rest =>
          cases rest with
          | nil => exact keeps_ite (keeps_finishValue hFrames hs.mode) keeps_none
          | cons following rest => exact keeps_ite (keeps_mode hFrames hs.mode) keeps_none
  | after => exact keeps_readBehind hs c
  | done value => exact keeps_readBehind hs c

theorem keeps_readChars {s : ReadState} (hs : s.Distinct) (cs : List Char) :
    LeavesDistinct (readChars s cs) := by
  induction cs generalizing s with
  | nil => exact keeps_some hs
  | cons c cs ih =>
      rw [readChars_cons]
      exact keeps_bind fun next hNext => ih (keeps_readChar hs c next hNext)

/-- No object that is read has a key twice. -/
theorem distinct_of_loads {cs : List Char} {value : JSONValue} (h : loads cs = some value) :
    value.Distinct := by
  have hStart : ReadState.Distinct ⟨.value, []⟩ := ⟨trivial, fun _ hFrame => nomatch hFrame⟩
  unfold loads at h
  cases hRead : readChars ⟨.value, []⟩ cs with
  | none =>
      rw [hRead] at h
      exact nomatch h
  | some s =>
      have hs := keeps_readChars hStart cs s hRead
      rw [hRead, Option.bind_some] at h
      obtain ⟨mode, frames⟩ := s
      cases mode with
      | done found => exact Option.some.inj h ▸ hs.mode
      | number chars =>
          cases frames with
          | cons frame frames => exact nomatch h
          | nil =>
              have hNumber : (integerNumber chars).map JSONValue.int = some value := h
              obtain ⟨n, -, rfl⟩ := Option.map_eq_some_iff.1 hNumber
              exact .int n
      | _ => exact nomatch h

/-! ## Reading back -/

theorem readChar_finishValue {value : JSONValue} {frames : List OpenFrame} {s : ReadState}
    (h : finishValue value frames = some s) (c : Char) : readChar s c = readBehind s c := by
  unfold finishValue at h
  split at h
  · rw [← Option.some.inj h]
    rfl
  · rw [← Option.some.inj h]
    rfl
  · split_ifs at h with hKey
    rw [← Option.some.inj h]
    rfl
  · exact nomatch h

/-- An escaped character is read as the character. -/
theorem readChars_escapeChar (isKey : Bool) (chars : List Char) (frames : List OpenFrame)
    (c : Char) (rest : List Char) :
    readChars ⟨.text isKey chars .none, frames⟩ (escapeChar c ++ rest)
      = readChars ⟨.text isKey (chars ++ [c]) .none, frames⟩ rest := by
  unfold escapeChar
  split_ifs with hQuote hSlash hN hR hT hF hB hSmall
  · subst hQuote
    rfl
  · subst hSlash
    rfl
  · subst hN
    rfl
  · subst hR
    rfl
  · subst hT
    rfl
  · have hChar : c = Char.ofNat 12 := by rw [← hF, Char.ofNat_toNat]
    subst hChar
    rfl
  · have hChar : c = Char.ofNat 8 := by rw [← hB, Char.ofNat_toNat]
    subst hChar
    rfl
  · -- four digits behind a backslash
    have hChar : c = Char.ofNat c.toNat := (Char.ofNat_toNat c).symm
    generalize c.toNat = n at hSmall hChar
    subst hChar
    interval_cases n <;> rfl
  · rw [List.singleton_append, readChars_cons]
    simp only [readChar, readText, if_neg hQuote, if_neg hSlash, if_neg hSmall, Option.bind_some]

theorem readChars_text (isKey : Bool) (chars cs : List Char) (frames : List OpenFrame)
    (rest : List Char) :
    readChars ⟨.text isKey chars .none, frames⟩ (cs.flatMap escapeChar ++ '"' :: rest)
      = (finishText isKey (chars ++ cs) frames).bind fun s => readChars s rest := by
  induction cs generalizing chars with
  | nil =>
      rw [List.append_nil]
      rfl
  | cons c cs ih =>
      rw [List.flatMap_cons, List.append_assoc, readChars_escapeChar, ih, List.append_assoc,
        List.singleton_append]

theorem readChar_numeral {c : Char} (h : isNumeral c) (frames : List OpenFrame) :
    readChar ⟨.value, frames⟩ c = some ⟨.number [c], frames⟩ := by
  obtain hDigit | rfl := h
  · obtain ⟨hLow, hHigh⟩ := Char.isDigit_iff_toNat.1 hDigit
    have hLow' : 48 ≤ c.toNat := hLow
    have hHigh' : c.toNat ≤ 57 := hHigh
    have hChar : c = Char.ofNat c.toNat := (Char.ofNat_toNat c).symm
    generalize c.toNat = n at hLow' hHigh' hChar
    subst hChar
    interval_cases n <;> rfl
  · rfl

theorem readChars_digits {digits : List Char} (hDigits : Digits digits) (chars : List Char)
    (frames : List OpenFrame) (rest : List Char) :
    readChars ⟨.number chars, frames⟩ (digits ++ rest)
      = readChars ⟨.number (chars ++ digits), frames⟩ rest := by
  induction digits generalizing chars with
  | nil => rw [List.nil_append, List.append_nil]
  | cons c digits ih =>
      have hDigit : c.isDigit = true := hDigits c List.mem_cons_self
      have hRest : Digits digits := fun d hd => hDigits d (List.mem_cons_of_mem _ hd)
      rw [List.cons_append, readChars_cons]
      simp only [readChar, hDigit, if_true, Option.bind_some]
      rw [ih hRest, List.append_assoc, List.singleton_append]

theorem readChars_renderInt (n : Int) (frames : List OpenFrame) (rest : List Char) :
    readChars ⟨.value, frames⟩ (renderInt n ++ rest)
      = readChars ⟨.number (renderInt n), frames⟩ rest := by
  have hText : ∃ c digits, renderInt n = c :: digits ∧ isNumeral c ∧ Digits digits := by
    cases n with
    | ofNat n =>
        have hDigits := digits_toDigits n
        rw [renderInt_ofNat]
        cases hText : Nat.toDigits 10 n with
        | nil => exact absurd hText Nat.toDigits_ne_nil
        | cons c digits =>
            rw [hText] at hDigits
            exact ⟨c, digits, rfl, .inl (hDigits c List.mem_cons_self),
              fun d hd => hDigits d (List.mem_cons_of_mem _ hd)⟩
    | negSucc n => exact ⟨'-', _, renderInt_negSucc n, .inr rfl, digits_toDigits (n + 1)⟩
  obtain ⟨c, digits, hText, hFirst, hDigits⟩ := hText
  rw [hText, List.cons_append, readChars_cons, readChar_numeral hFirst, Option.bind_some,
    readChars_digits hDigits, List.singleton_append]

theorem naturalNumber_toDigits (n : Nat) : naturalNumber (Nat.toDigits 10 n) = some n := by
  have hNonempty : Nat.toDigits 10 n ≠ [] := Nat.toDigits_ne_nil
  have hWritten : wholePart 0 (written 0 n) = Nat.toDigits 10 n := by
    have hLength : 0 < (Nat.toDigits 10 n).length := List.length_pos_of_ne_nil hNonempty
    rw [written, padLeft, show 0 + 1 - (Nat.toDigits 10 n).length = 0 by omega]
    simp [wholePart]
  have hLeading := (canonical_written 0 n).leading
  rw [hWritten] at hLeading
  unfold naturalNumber
  rw [if_pos, units_toDigits]
  refine ⟨hNonempty, List.all_eq_true.2 (digits_toDigits n), ?_⟩
  by_cases hZero : (Nat.toDigits 10 n).head? = some '0'
  · exact .inl (hLeading hZero)
  · exact .inr hZero

theorem integerNumber_renderInt (n : Int) : integerNumber (renderInt n) = some n := by
  cases n with
  | ofNat n =>
      rw [renderInt_ofNat]
      unfold integerNumber
      split
      · next digits hText => exact absurd (hText ▸ List.mem_cons_self) (minus_notMem_toDigits n)
      · rw [naturalNumber_toDigits]
        rfl
  | negSucc n =>
      rw [renderInt_negSucc]
      show (naturalNumber (Nat.toDigits 10 (n + 1))).map _ = _
      rw [naturalNumber_toDigits]
      rfl

/-- A number does not go on. -/
def EndsNumber (rest : List Char) : Prop := ∃ c cs, rest = c :: cs ∧ c.isDigit = false

/-- The text of a value is read as the value with its keys in order. -/
def ReadsBack (value : JSONValue) : Prop :=
  ∀ frames rest, (value.kind = 6 → EndsNumber rest) →
    readChars ⟨.value, frames⟩ (render value ++ rest)
      = (finishValue value.sortKeys frames).bind fun s => readChars s rest

theorem readsBack_int (n : Int) : ReadsBack (.int n) := by
  intro frames rest hRest
  obtain ⟨c, cs, rfl, hDigit⟩ := hRest rfl
  rw [render, readChars_renderInt, readChars_cons]
  simp only [readChar, hDigit, Bool.false_eq_true, if_false, integerNumber_renderInt,
    Option.bind_some, JSONValue.sortKeys]
  cases hNext : finishValue (.int n) frames with
  | none => rfl
  | some s =>
      rw [Option.bind_some, Option.bind_some, readChars_cons, readChar_finishValue hNext]

theorem readsBack_str (s : String) : ReadsBack (.str s) := by
  intro frames rest _
  have hText : render (.str s) ++ rest = '"' :: (s.toList.flatMap escapeChar ++ '"' :: rest) := by
    rw [render, renderText, List.cons_append, List.cons_append, List.append_assoc,
      List.singleton_append]
  rw [hText, readChars_cons]
  show readChars ⟨.text false [] .none, frames⟩ _ = _
  rw [readChars_text, List.nil_append]
  show (finishValue (.str (String.ofList s.toList)) frames).bind _ = _
  rw [String.ofList_toList]
  rfl

/-- A value starts with no blank and with no closing bracket. -/
theorem render_head {value : JSONValue} {c : Char} {text : List Char}
    (h : render value = c :: text) : isJsonSpace c = false ∧ c ≠ ']' := by
  cases value with
  | int n =>
      rw [render] at h
      have hNumeral : isNumeral c := isNumeral_of_renderInt (h ▸ List.mem_cons_self)
      constructor
      · unfold isJsonSpace
        simp only [Bool.or_eq_false_iff, decide_eq_false_iff_not]
        refine ⟨⟨⟨?_, ?_⟩, ?_⟩, ?_⟩ <;> rintro rfl <;>
          exact absurd hNumeral (by unfold isNumeral; decide)
      · rintro rfl
        exact absurd hNumeral (by unfold isNumeral; decide)
  | bool b =>
      cases b with
      | true => exact (List.cons.inj h).1 ▸ ⟨rfl, by decide⟩
      | false => exact (List.cons.inj h).1 ▸ ⟨rfl, by decide⟩
  | null => exact (List.cons.inj h).1 ▸ ⟨rfl, by decide⟩
  | str s =>
      rw [render] at h
      exact (List.cons.inj h).1 ▸ ⟨rfl, by decide⟩
  | list items =>
      rw [render_list] at h
      exact (List.cons.inj h).1 ▸ ⟨rfl, by decide⟩
  | dict items =>
      rw [render_dict] at h
      exact (List.cons.inj h).1 ▸ ⟨rfl, by decide⟩

theorem readChars_firstItem (value : JSONValue) (frames : List OpenFrame) (rest : List Char) :
    readChars ⟨.firstItem, frames⟩ (render value ++ rest)
      = readChars ⟨.value, frames⟩ (render value ++ rest) := by
  obtain ⟨c, text, hText, -⟩ := render_cons value
  obtain ⟨hSpace, hBracket⟩ := render_head hText
  rw [hText, List.cons_append, readChars_cons, readChars_cons]
  simp only [readChar, hSpace, Bool.false_eq_true, if_false, if_neg hBracket]

/-- Items with commas between them are read one by one. -/
theorem readChars_items {items : List JSONValue} (hItems : ∀ item ∈ items, ReadsBack item)
    {item : JSONValue} (hItem : ReadsBack item) (before : List JSONValue)
    (frames : List OpenFrame) (rest : List Char) :
    readChars ⟨.value, .items before :: frames⟩
        (List.intercalate [','] ((item :: items).map render) ++ ']' :: rest)
      = (finishValue (.list (before ++ (item :: items).map JSONValue.sortKeys)) frames).bind
          fun s => readChars s rest := by
  induction items generalizing item before with
  | nil =>
      have hEnds : EndsNumber (']' :: rest) := ⟨']', rest, rfl, rfl⟩
      rw [List.map_cons, intercalate_cons]
      show readChars _ (render item ++ ']' :: rest) = _
      rw [hItem _ _ fun _ => hEnds]
      rfl
  | cons next items ih =>
      obtain ⟨hNext, hRest⟩ := List.forall_mem_cons.1 hItems
      rw [List.map_cons, intercalate_cons]
      show readChars _ (render item ++ ',' :: (List.intercalate [',']
        ((next :: items).map render) ++ ']' :: rest)) = _
      rw [hItem _ _ fun _ => ⟨',', _, rfl, rfl⟩]
      show readChars ⟨.value, .items (before ++ [item.sortKeys]) :: frames⟩ _ = _
      rw [ih hRest hNext, List.append_assoc]
      rfl

theorem readChars_member {member : String × JSONValue} (hMember : ReadsBack member.2)
    (before : List (String × JSONValue)) (frames : List OpenFrame) {rest : List Char}
    (hRest : EndsNumber rest) (hKey : member.1 ∉ before.map Prod.fst) :
    readChars ⟨.key, .members before :: frames⟩ (renderMember member ++ rest)
      = readChars ⟨.after, .members (before ++ [(member.1, member.2.sortKeys)]) :: frames⟩
          rest := by
  have hText : renderMember member ++ rest
      = '"' :: (member.1.toList.flatMap escapeChar
        ++ '"' :: ':' :: (render member.2 ++ rest)) := by
    unfold renderMember renderText
    simp only [List.cons_append, List.append_assoc, List.nil_append]
  rw [hText, readChars_cons]
  show readChars ⟨.text true [] .none, .members before :: frames⟩ _ = _
  rw [readChars_text, List.nil_append]
  show readChars ⟨.value, .member before (String.ofList member.1.toList) :: frames⟩ _ = _
  rw [String.ofList_toList, hMember _ _ fun _ => hRest]
  show Option.bind (if _ then _ else _) _ = _
  rw [if_neg hKey, Option.bind_some]

/-- Members with commas between them are read one by one. -/
theorem readChars_members {members : List (String × JSONValue)}
    (hMembers : ∀ member ∈ members, ReadsBack member.2) {member : String × JSONValue}
    (hMember : ReadsBack member.2) (before : List (String × JSONValue))
    (hKeys : (before.map Prod.fst ++ (member :: members).map Prod.fst).Nodup)
    (frames : List OpenFrame) (rest : List Char) :
    readChars ⟨.key, .members before :: frames⟩
        (List.intercalate [','] ((member :: members).map renderMember) ++ '\x7d' :: rest)
      = (finishValue (.dict (before ++ (member :: members).map fun member =>
            (member.1, member.2.sortKeys))) frames).bind fun s => readChars s rest := by
  have hKey : member.1 ∉ before.map Prod.fst := by
    intro hMem
    exact (List.nodup_append.1 hKeys).2.2 _ hMem _ List.mem_cons_self rfl
  induction members generalizing member before with
  | nil =>
      rw [List.map_cons, intercalate_cons]
      show readChars _ (renderMember member ++ '\x7d' :: rest) = _
      rw [readChars_member hMember before frames ⟨'\x7d', rest, rfl, rfl⟩ hKey]
      rfl
  | cons next members ih =>
      obtain ⟨hNext, hRest⟩ := List.forall_mem_cons.1 hMembers
      have hKeys' : ((before ++ [(member.1, member.2.sortKeys)]).map Prod.fst
          ++ (next :: members).map Prod.fst).Nodup := by
        rw [List.map_append, List.append_assoc]
        exact hKeys
      have hKey' : next.1 ∉ (before ++ [(member.1, member.2.sortKeys)]).map Prod.fst := by
        intro hMem
        exact (List.nodup_append.1 hKeys').2.2 _ hMem _ List.mem_cons_self rfl
      rw [List.map_cons, intercalate_cons]
      show readChars _ (renderMember member ++ ',' :: (List.intercalate [',']
        ((next :: members).map renderMember) ++ '\x7d' :: rest)) = _
      rw [readChars_member hMember before frames ⟨',', _, rfl, rfl⟩ hKey]
      show readChars ⟨.key, .members (before ++ [(member.1, member.2.sortKeys)]) :: frames⟩ _ = _
      rw [ih hRest hNext _ hKeys' hKey', List.append_assoc]
      rfl

theorem readsBack_list {items : List JSONValue} (hItems : ∀ item ∈ items, ReadsBack item) :
    ReadsBack (.list items) := by
  intro frames rest _
  rw [render_list, sortKeys_list, List.cons_append, List.cons_append, List.append_assoc,
    List.singleton_append, readChars_cons]
  show readChars ⟨.firstItem, .items [] :: frames⟩ _ = _
  cases items with
  | nil => rfl
  | cons item items =>
      obtain ⟨hItem, hRest⟩ := List.forall_mem_cons.1 hItems
      have hFirst : readChars ⟨.firstItem, .items [] :: frames⟩
            (List.intercalate [','] ((item :: items).map render) ++ ']' :: rest)
          = readChars ⟨.value, .items [] :: frames⟩
            (List.intercalate [','] ((item :: items).map render) ++ ']' :: rest) := by
        rw [List.map_cons, intercalate_cons, readChars_firstItem]
      rw [hFirst, readChars_items hRest hItem, List.nil_append]

theorem readsBack_dict {items : List (String × JSONValue)} (hKeys : (items.map Prod.fst).Nodup)
    (hItems : ∀ member ∈ items, ReadsBack member.2) : ReadsBack (.dict items) := by
  intro frames rest _
  have hPerm := List.perm_insertionSort keyOrder items
  have hSortedKeys : ((items.insertionSort keyOrder).map Prod.fst).Nodup :=
    (hPerm.map Prod.fst).nodup_iff.2 hKeys
  have hSortedItems : ∀ member ∈ items.insertionSort keyOrder, ReadsBack member.2 :=
    fun member hMember => hItems member (hPerm.mem_iff.1 hMember)
  rw [render_dict, sortKeys_dict, sortedMembers, List.cons_append, List.cons_append,
    List.append_assoc, List.singleton_append, readChars_cons]
  show readChars ⟨.firstKey, .members [] :: frames⟩ _ = _
  cases hSorted : items.insertionSort keyOrder with
  | nil => rfl
  | cons member members =>
      rw [hSorted] at hSortedKeys hSortedItems
      obtain ⟨hMember, hRest⟩ := List.forall_mem_cons.1 hSortedItems
      have hFirst : readChars ⟨.firstKey, .members [] :: frames⟩
            (List.intercalate [','] ((member :: members).map renderMember) ++ '\x7d' :: rest)
          = readChars ⟨.key, .members [] :: frames⟩
            (List.intercalate [','] ((member :: members).map renderMember)
              ++ '\x7d' :: rest) := by
        rw [List.map_cons, intercalate_cons]
        rfl
      rw [hFirst, readChars_members hRest hMember [] hSortedKeys, List.nil_append]

/-- Whatever is open, the text of a value without repeated keys is read as the value. -/
theorem readsBack_of_distinct {value : JSONValue} (h : value.Distinct) : ReadsBack value := by
  induction h with
  | null => exact fun _ _ _ => rfl
  | bool b =>
      cases b with
      | true => exact fun _ _ _ => rfl
      | false => exact fun _ _ _ => rfl
  | int n => exact readsBack_int n
  | str s => exact readsBack_str s
  | list _ ih => exact readsBack_list ih
  | dict hKeys _ ih => exact readsBack_dict hKeys ih

/-- What was rendered of an object is read back, with the keys in order. -/
theorem loads_render {items : List (String × JSONValue)} (h : (JSONValue.dict items).Distinct) :
    loads (render (.dict items)) = some (JSONValue.dict items).sortKeys := by
  have hRead := readsBack_of_distinct h [] [] fun hKind => nomatch hKind
  rw [List.append_nil] at hRead
  unfold loads
  rw [hRead]
  rfl

end TrackAnywhere.Ports
