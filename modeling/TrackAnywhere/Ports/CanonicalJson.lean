import TrackAnywhere.Ports.Primitives
import TrackAnywhere.Verified.Checked
import Mathlib

/-!
# Canonical JSON

The values the frozen protocol admits (`null`, booleans, integers, text, lists,
dictionaries) and the bytes of a value: object keys in order, no blanks, text
in UTF-8 with only quotes, backslashes and control characters escaped.

A Python dictionary keeps its items in insertion order and its keys apart;
`dict` lists the items in that order.
-/

namespace TrackAnywhere.Ports

open TrackAnywhere.Verified.Checked

inductive JSONValue
  | null
  | bool (value : Bool)
  | int (value : Int)
  | str (value : String)
  | list (items : List JSONValue)
  | dict (items : List (String × JSONValue))

/-- `CANONICAL_INTEGER_MAX_DECIMAL_DIGITS`. -/
def canonicalIntegerMaxDecimalDigits : Nat := 512

/-- `_CANONICAL_INTEGER_ABS_LIMIT`, as a product of two powers small enough to
be evaluated. -/
def canonicalIntegerAbsLimit : Nat := 10 ^ 256 * 10 ^ 256

example : canonicalIntegerAbsLimit = 10 ^ canonicalIntegerMaxDecimalDigits := by
  rw [canonicalIntegerMaxDecimalDigits, canonicalIntegerAbsLimit, ← pow_add]

/-! ## Scalars as text -/

/-- A digit below sixteen, in lower case. -/
def hexDigit (n : Nat) : Char :=
  if n < 10 then Char.ofNat (48 + n) else Char.ofNat (87 + n)

/-- `n` in hexadecimal, padded with zeros to `width` digits. -/
def hexText (width n : Nat) : List Char :=
  (List.range width).reverse.map fun i => hexDigit (n / 16 ^ i % 16)

/-- `n` in decimal, padded with zeros to `width` digits. -/
def paddedDecimal (width n : Nat) : List Char :=
  (List.range width).reverse.map fun i => hexDigit (n / 10 ^ i % 10)

/-- `str(uuid)`. -/
def UUID.text (id : UUID) : String :=
  let digits := hexText 32 id.val
  String.ofList (digits.take 8 ++ '-' :: (digits.drop 8).take 4
    ++ '-' :: (digits.drop 12).take 4 ++ '-' :: (digits.drop 16).take 4
    ++ '-' :: digits.drop 20)

/-- `digest.hex()`. -/
def EventHash.hex (digest : EventHash) : String :=
  String.ofList (hexText 64 digest.val)

/-- `format_utc_microseconds`. -/
def formatUtcMicroseconds (value : Instant) : String :=
  let seconds := value.micros.val / 1000000
  String.ofList (paddedDecimal 4 value.date.year
    ++ '-' :: paddedDecimal 2 value.date.month
    ++ '-' :: paddedDecimal 2 value.date.day
    ++ 'T' :: paddedDecimal 2 (seconds / 3600)
    ++ ':' :: paddedDecimal 2 (seconds / 60 % 60)
    ++ ':' :: paddedDecimal 2 (seconds % 60)
    ++ '.' :: paddedDecimal 6 (value.micros.val % 1000000) ++ ['Z'])

/-! ## Rendering -/

/-- One character of a JSON string, with `ensure_ascii=False`. -/
def escapeChar (c : Char) : List Char :=
  if c = '"' then ['\\', '"']
  else if c = '\\' then ['\\', '\\']
  else if c = '\n' then ['\\', 'n']
  else if c = '\r' then ['\\', 'r']
  else if c = '\t' then ['\\', 't']
  else if c.toNat = 12 then ['\\', 'f']
  else if c.toNat = 8 then ['\\', 'b']
  else if c.toNat < 32 then '\\' :: 'u' :: hexText 4 c.toNat
  else [c]

def renderText (s : String) : List Char :=
  '"' :: s.toList.flatMap escapeChar ++ ['"']

def renderInt (n : Int) : List Char := (toString n).toList

/-- The parts between brackets, with commas. -/
def renderItems (opening closing : Char) (parts : List (List Char)) :
    List Char :=
  opening :: (List.intercalate [','] parts) ++ [closing]

/-- The members of an object in the order of their keys. -/
def renderMembers (members : List (String × List Char)) : List Char :=
  renderItems '\x7b' '\x7d'
    ((members.insertionSort fun a b => a.1 ≤ b.1).map fun member =>
      renderText member.1 ++ ':' :: member.2)

mutual

/-- `json.dumps`, with the options of the protocol. -/
def render : JSONValue → List Char
  | .null => "null".toList
  | .bool true => "true".toList
  | .bool false => "false".toList
  | .int n => renderInt n
  | .str s => renderText s
  | .list items => renderItems '[' ']' (renderList items)
  | .dict items => renderMembers (renderDict items)

def renderList : List JSONValue → List (List Char)
  | [] => []
  | item :: items => render item :: renderList items

def renderDict : List (String × JSONValue) → List (String × List Char)
  | [] => []
  | (key, item) :: items => (key, render item) :: renderDict items

end

mutual

/-- `_prove_json_value`.  Values are trees here and Lean strings hold Unicode
scalars only, so the size of the integers is all there is to check. -/
def proveJsonValue : JSONValue → Except String Unit
  | .int n => require (n.natAbs < canonicalIntegerAbsLimit)
      "canonical JSON integer is outside the protocol bound"
  | .list items => proveJsonList items
  | .dict items => proveJsonDict items
  | _ => .ok ()

def proveJsonList : List JSONValue → Except String Unit
  | [] => .ok ()
  | item :: items => do
      proveJsonValue item
      proveJsonList items

def proveJsonDict : List (String × JSONValue) → Except String Unit
  | [] => .ok ()
  | (_, item) :: items => do
      proveJsonValue item
      proveJsonDict items

end

/-- `canonical_json_bytes`. -/
def canonicalJsonBytes (value : JSONValue) : Except String ByteArray := do
  proveJsonValue value
  return (String.ofList (render value)).toUTF8

end TrackAnywhere.Ports
