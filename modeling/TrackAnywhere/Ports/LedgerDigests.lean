import TrackAnywhere.Ports.CanonicalReading
import TrackAnywhere.Ports.EventHash

/-!
# Digests of the rows of a table

The verification hashes the rows of a table as one canonical JSON array without holding them
all: the hasher is given the opening bracket, then row by row a comma and the row, and the
closing bracket when the digest is read.
-/

namespace TrackAnywhere.Ports

open TrackAnywhere.Verified.Checked

/-- `_CanonicalRowArrayHasher`: the bytes its digest has been updated with, and the rows it
has counted. -/
structure CanonicalRowArrayHasher where
  digest : ByteArray
  rowCount : Nat

namespace CanonicalRowArrayHasher

/-- `__init__` -/
def new : CanonicalRowArrayHasher where
  digest := "[".toUTF8
  rowCount := 0

def add (h : CanonicalRowArrayHasher) (row : JSONValue) :
    Except String CanonicalRowArrayHasher := do
  let digest := if h.rowCount ≠ 0 then h.digest ++ ",".toUTF8 else h.digest
  let bytes ← canonicalJsonBytes row
  return { digest := digest ++ bytes, rowCount := h.rowCount + 1 }

/-- The bytes of the copy whose digest is read. -/
def completed (h : CanonicalRowArrayHasher) : ByteArray :=
  h.digest ++ "]".toUTF8

def hexdigest (sha256 : ByteArray → EventHash) (h : CanonicalRowArrayHasher) : String :=
  (sha256 h.completed).hex

end CanonicalRowArrayHasher

/-- `_hash_rows` -/
def hashRows (sha256 : ByteArray → EventHash) (rows : List JSONValue) :
    Except String String := do
  let hasher ← rows.foldlM CanonicalRowArrayHasher.add .new
  return hasher.hexdigest sha256

/-! ## The text that has been streamed -/

/-- The array without its closing bracket. -/
def openArray (rows : List JSONValue) : List Char :=
  '[' :: List.intercalate [','] (rows.map render)

/-- A part behind others comes with a separator. -/
theorem intercalate_snoc {β : Type} {sep part : List β} {parts : List (List β)} :
    List.intercalate sep (parts ++ [part])
      = List.intercalate sep parts ++ (if parts.length ≠ 0 then sep else []) ++ part := by
  induction parts with
  | nil => simp
  | cons first parts ih =>
      cases parts with
      | nil => simp
      | cons second parts =>
          rw [List.cons_append, List.cons_append, List.intercalate_cons_cons,
            List.intercalate_cons_cons, ← List.cons_append, ih]
          simp

theorem openArray_snoc {rows : List JSONValue} {row : JSONValue} :
    openArray (rows ++ [row])
      = openArray rows ++ (if rows.length ≠ 0 then [','] else []) ++ render row := by
  unfold openArray
  rw [List.map_append, List.map_singleton, intercalate_snoc, List.length_map]
  rfl

theorem render_list_eq_openArray (rows : List JSONValue) :
    render (.list rows) = openArray rows ++ [']'] :=
  render_list rows

/-! ## The bytes -/

theorem toUTF8_append (a b : List Char) :
    (String.ofList a).toUTF8 ++ (String.ofList b).toUTF8 = (String.ofList (a ++ b)).toUTF8 := by
  rw [String.ofList_append]
  rfl

theorem proveJsonList_snoc (rows : List JSONValue) (row : JSONValue) :
    proveJsonList (rows ++ [row]) = proveJsonList rows >>= fun _ => proveJsonValue row := by
  induction rows with
  | nil =>
      rw [List.nil_append]
      unfold proveJsonList
      cases proveJsonValue row with
      | error e => rfl
      | ok u => rfl
  | cons first rows ih =>
      rw [List.cons_append, proveJsonList, proveJsonList, ih]
      cases proveJsonValue first with
      | error e => rfl
      | ok u => rfl

/-- What the rows leave in the hasher, when they are all canonical. -/
theorem foldlM_add (rows : List JSONValue) :
    rows.foldlM CanonicalRowArrayHasher.add .new
      = (proveJsonList rows).map fun _ =>
        { digest := (String.ofList (openArray rows)).toUTF8, rowCount := rows.length } := by
  induction rows using List.reverseRecOn with
  | nil => rfl
  | append_singleton rows row ih =>
      rw [List.foldlM_append, ih, proveJsonList_snoc, openArray_snoc]
      cases proveJsonList rows with
      | error e => rfl
      | ok u =>
          show CanonicalRowArrayHasher.add
              ⟨(String.ofList (openArray rows)).toUTF8, rows.length⟩ row >>= pure = _
          unfold CanonicalRowArrayHasher.add canonicalJsonBytes
          cases proveJsonValue row with
          | error e => rfl
          | ok u =>
              have hSeparator : (if rows.length ≠ 0
                    then (String.ofList (openArray rows)).toUTF8 ++ ",".toUTF8
                    else (String.ofList (openArray rows)).toUTF8)
                  = (String.ofList (openArray rows
                    ++ if rows.length ≠ 0 then [','] else [])).toUTF8 := by
                split
                · exact toUTF8_append _ [',']
                · rw [List.append_nil]
              show Except.ok (CanonicalRowArrayHasher.mk
                (_ ++ (String.ofList (render row)).toUTF8) _) = _
              rw [hSeparator, toUTF8_append, List.length_append]
              rfl

/-- The bytes the hasher is given for the rows are the canonical bytes of the list of them, and
where a row has none the list has none. -/
theorem hashRows_eq (sha256 : ByteArray → EventHash) (rows : List JSONValue) :
    (rows.foldlM CanonicalRowArrayHasher.add .new).map CanonicalRowArrayHasher.completed
        = canonicalJsonBytes (.list rows)
      ∧ hashRows sha256 rows
        = (canonicalJsonBytes (.list rows)).map fun bytes => (sha256 bytes).hex := by
  have hBytes : (rows.foldlM CanonicalRowArrayHasher.add .new).map
      CanonicalRowArrayHasher.completed = canonicalJsonBytes (.list rows) := by
    rw [foldlM_add]
    unfold canonicalJsonBytes
    rw [proveJsonValue]
    cases proveJsonList rows with
    | error e => rfl
    | ok u =>
        show Except.ok ((String.ofList (openArray rows)).toUTF8 ++ "]".toUTF8)
          = .ok (String.ofList (render (.list rows))).toUTF8
        rw [render_list_eq_openArray, ← toUTF8_append]
  refine ⟨hBytes, ?_⟩
  rw [← hBytes]
  unfold hashRows
  cases rows.foldlM CanonicalRowArrayHasher.add .new with
  | error e => rfl
  | ok h => rfl

end TrackAnywhere.Ports
