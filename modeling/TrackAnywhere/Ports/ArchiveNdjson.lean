import TrackAnywhere.Ports.JsonReading
import TrackAnywhere.Ports.EntryContracts
import TrackAnywhere.Ports.LedgerDigests
import TrackAnywhere.Verified.Lines

/-!
# The rows of an archive

An archive is a text of one JSON object per line.  It is brought into canonical form line by line,
where a line ends at every boundary that `str.splitlines` knows; the archives of an import are
checked line by line as well, but there a line ends at a line feed only.

Canonical JSON writes U+0085, U+2028 and U+2029 as they are, and `str.splitlines` ends a line at
them.
-/

namespace TrackAnywhere.Ports

open TrackAnywhere.Verified.Checked
open TrackAnywhere.Verified.Lines

/-! ## Lines -/

/-- Where `str.splitlines()` ends a line. -/
def isLineBoundary (c : Char) : Bool :=
  decide ((10 ≤ c.toNat ∧ c.toNat ≤ 13) ∨ (28 ≤ c.toNat ∧ c.toNat ≤ 30)
    ∨ c.toNat ∈ [0x85, 0x2028, 0x2029])

/-- `str.splitlines()` -/
def splitlines (text : List Char) : List (List Char) := splitLines isLineBoundary '\r' '\n' text

/-- `ProtectedContentConflict` -/
structure ProtectedContentConflict where
  message : String
deriving DecidableEq

def archiveContentInvalid : ProtectedContentConflict := ⟨"import archive content is invalid"⟩

def JSONValue.isDict : JSONValue → Bool
  | .dict _ => true
  | _ => false

/-- A line of `_canonicalize_ndjson`. -/
def canonicalLine (line : List Char) : Except ProtectedContentConflict ByteArray := do
  let parsed ← fetch (loads line) archiveContentInvalid
  require parsed.isDict archiveContentInvalid
  (canonicalJsonBytes parsed).mapError fun _ => archiveContentInvalid

/-- `b"\n".join(lines) + b"\n"` -/
def joinedLines (lines : List ByteArray) : ByteArray :=
  ⟨(List.intercalate [10] (lines.map fun line : ByteArray => line.data.toList) ++ [10]).toArray⟩

/-- `_canonicalize_ndjson` -/
def canonicalizeNdjson (value : ByteArray) : Except ProtectedContentConflict ByteArray := do
  let decoded ← fetch (String.fromUTF8? value) archiveContentInvalid
  let lines := splitlines decoded.toList
  require (lines ≠ [] ∧ lines.all fun line => !line.all isPythonSpace) archiveContentInvalid
  let canonicalLines ← lines.mapM canonicalLine
  return joinedLines canonicalLines

/-! ## The check of an import -/

mutual

/-- `_contains_key` -/
def containsKey (forbidden : String) : JSONValue → Bool
  | .list items => listContainsKey forbidden items
  | .dict items => dictContainsKey forbidden items
  | _ => false

def listContainsKey (forbidden : String) : List JSONValue → Bool
  | [] => false
  | item :: items => containsKey forbidden item || listContainsKey forbidden items

def dictContainsKey (forbidden : String) : List (String × JSONValue) → Bool
  | [] => false
  | (key, item) :: items =>
      key = forbidden || containsKey forbidden item || dictContainsKey forbidden items

end

/-- `get`, where a text is wanted. -/
def JSONValue.text? (key : String) : JSONValue → Option String
  | .dict items =>
      match items.lookup key with
      | some (.str s) => some s
      | _ => none
  | _ => none

def frozenArchiveInvalid : String := "frozen financial history archive content is invalid"

/-- A line of `_validate_archive_ndjson`. -/
def validateArchiveLine (line : List UInt8) : Except String JSONValue := do
  let text ← fetch (String.fromUTF8? ⟨line.toArray⟩) frozenArchiveInvalid
  let parsed ← fetch (loads text.toList) frozenArchiveInvalid
  require parsed.isDict frozenArchiveInvalid
  let canonical ← (canonicalJsonBytes parsed).mapError fun _ => frozenArchiveInvalid
  require (canonical.data.toList = line) frozenArchiveInvalid
  require (!containsKey "plan_hash" parsed) frozenArchiveInvalid
  let recordType ← fetch (parsed.text? "record_type") frozenArchiveInvalid
  require (recordType ≠ "") frozenArchiveInvalid
  return parsed

/-- `_validate_archive_ndjson` -/
def validateArchiveNdjson (raw : ByteArray) : Except String (List JSONValue) := do
  let bytes := raw.data.toList
  require ([10].isSuffixOf bytes && !([10, 10].isSuffixOf bytes)) frozenArchiveInvalid
  let lines := bytes.dropLast.splitOn 10
  require (lines ≠ [] ∧ lines.all (· ≠ [])) frozenArchiveInvalid
  lines.mapM validateArchiveLine

/-! ## The characters of a text -/

/-- The keys and the strings of a value. -/
inductive JSONValue.HasText : JSONValue → String → Prop
  | str (s : String) : JSONValue.HasText (.str s) s
  | item {items : List JSONValue} {item : JSONValue} {s : String} (hItem : item ∈ items)
      (hText : item.HasText s) : JSONValue.HasText (.list items) s
  | key {items : List (String × JSONValue)} {member : String × JSONValue}
      (hMember : member ∈ items) : JSONValue.HasText (.dict items) member.1
  | member {items : List (String × JSONValue)} {member : String × JSONValue} {s : String}
      (hMember : member ∈ items) (hText : member.2.HasText s) : JSONValue.HasText (.dict items) s

def isPrintableAscii (c : Char) : Bool := decide (32 ≤ c.toNat ∧ c.toNat < 127)

/-- Printable ASCII, or a character of a string that is written as it is. -/
def WrittenFrom (texts : String → Prop) (b : Char) : Prop :=
  32 ≤ b.toNat ∧ (127 ≤ b.toNat → ∃ s, texts s ∧ b ∈ s.toList)

theorem writtenFrom_ascii {texts : String → Prop} {b : Char} (h : isPrintableAscii b = true) :
    WrittenFrom texts b := by
  obtain ⟨hLow, hHigh⟩ := of_decide_eq_true h
  exact ⟨hLow, fun hLarge => absurd hHigh (Nat.not_lt.2 hLarge)⟩

theorem WrittenFrom.mono {texts texts' : String → Prop} {b : Char} (h : WrittenFrom texts b)
    (hTexts : ∀ s, texts s → texts' s) : WrittenFrom texts' b := by
  refine ⟨h.1, fun hHigh => ?_⟩
  obtain ⟨s, hs, hMem⟩ := h.2 hHigh
  exact ⟨s, hTexts s hs, hMem⟩

theorem mem_escapeChar {b c : Char} (h : b ∈ escapeChar c) :
    32 ≤ b.toNat ∧ (127 ≤ b.toNat → b = c) := by
  have hAscii : ∀ {text : List Char}, text.all isPrintableAscii = true → b ∈ text →
      32 ≤ b.toNat ∧ (127 ≤ b.toNat → b = c) := by
    intro text hText hMem
    obtain ⟨hLow, hHigh⟩ := of_decide_eq_true (List.all_eq_true.1 hText b hMem)
    exact ⟨hLow, fun hLarge => absurd hHigh (Nat.not_lt.2 hLarge)⟩
  unfold escapeChar at h
  split_ifs at h with hQuote hSlash hN hR hT hF hB hSmall
  · exact hAscii (by decide) h
  · exact hAscii (by decide) h
  · exact hAscii (by decide) h
  · exact hAscii (by decide) h
  · exact hAscii (by decide) h
  · exact hAscii (by decide) h
  · exact hAscii (by decide) h
  · refine hAscii ?_ h
    clear h
    generalize c.toNat = n at hSmall
    interval_cases n <;> decide
  · rw [List.mem_singleton.1 h]
    exact ⟨Nat.not_lt.1 hSmall, fun _ => rfl⟩

theorem escapeChar_of_ge {c : Char} (h : 127 ≤ c.toNat) : escapeChar c = [c] := by
  have hNe : ∀ d : Char, d.toNat < 127 → c ≠ d := by
    rintro d hd rfl
    omega
  unfold escapeChar
  rw [if_neg (hNe '"' (by decide)), if_neg (hNe '\\' (by decide)), if_neg (hNe '\n' (by decide)),
    if_neg (hNe '\r' (by decide)), if_neg (hNe '\t' (by decide)), if_neg (by omega),
    if_neg (by omega), if_neg (by omega)]

theorem mem_renderText {s : String} {b : Char} (h : b ∈ renderText s) : WrittenFrom (· = s) b := by
  unfold renderText at h
  rw [List.mem_append, List.mem_cons, List.mem_flatMap, List.mem_singleton] at h
  obtain (rfl | ⟨c, hc, hMem⟩) | rfl := h
  · exact writtenFrom_ascii (by decide)
  · obtain ⟨hLow, hSame⟩ := mem_escapeChar hMem
    exact ⟨hLow, fun hHigh => ⟨s, rfl, (hSame hHigh).symm ▸ hc⟩⟩
  · exact writtenFrom_ascii (by decide)

theorem renderText_of_mem {s : String} {b : Char} (hHigh : 127 ≤ b.toNat) (h : b ∈ s.toList) :
    b ∈ renderText s := by
  unfold renderText
  rw [List.mem_append, List.mem_cons, List.mem_flatMap]
  refine .inl (.inr ⟨b, h, ?_⟩)
  rw [escapeChar_of_ge hHigh]
  exact List.mem_singleton_self b

theorem mem_intercalate {b : Char} {parts : List (List Char)} :
    b ∈ List.intercalate [','] parts → b = ',' ∨ ∃ part ∈ parts, b ∈ part := by
  induction parts with
  | nil => exact fun h => absurd h List.not_mem_nil
  | cons part parts ih =>
      cases parts with
      | nil =>
          intro h
          exact .inr ⟨part, List.mem_cons_self, by simpa [List.intercalate] using h⟩
      | cons next parts =>
          intro h
          rw [List.intercalate_cons_cons, List.mem_append, List.mem_append, List.mem_singleton]
            at h
          obtain (hFirst | hSep) | hRest := h
          · exact .inr ⟨part, List.mem_cons_self, hFirst⟩
          · exact .inl hSep
          · obtain hSep | ⟨found, hFound, hMem⟩ := ih hRest
            · exact .inl hSep
            · exact .inr ⟨found, List.mem_cons_of_mem part hFound, hMem⟩

theorem intercalate_of_mem {b : Char} {part : List Char} {parts : List (List Char)}
    (hPart : part ∈ parts) (h : b ∈ part) : b ∈ List.intercalate [','] parts := by
  induction parts with
  | nil => exact absurd hPart List.not_mem_nil
  | cons first parts ih =>
      cases parts with
      | nil =>
          rw [List.mem_singleton] at hPart
          rw [hPart] at h
          simpa [List.intercalate] using h
      | cons next parts =>
          rw [List.intercalate_cons_cons, List.mem_append, List.mem_append]
          obtain rfl | hRest := List.mem_cons.1 hPart
          · exact .inl (.inl h)
          · exact .inr (ih hRest)

theorem mem_render (value : JSONValue) : ∀ b ∈ render value, WrittenFrom value.HasText b := by
  induction value using JSONValue.induction with
  | null =>
      intro b h
      have hAscii : "null".toList.all isPrintableAscii = true := by decide
      exact writtenFrom_ascii (List.all_eq_true.1 hAscii b h)
  | bool value =>
      intro b h
      have hAscii : ("true".toList ++ "false".toList).all isPrintableAscii = true := by decide
      have hMem : b ∈ "true".toList ++ "false".toList := by
        cases value with
        | true => exact List.mem_append_left _ h
        | false => exact List.mem_append_right _ h
      exact writtenFrom_ascii (List.all_eq_true.1 hAscii b hMem)
  | int n =>
      intro b h
      rw [render] at h
      obtain hDigit | rfl := isNumeral_of_renderInt h
      · obtain ⟨hLow, hHigh⟩ := Char.isDigit_iff_toNat.1 hDigit
        have hLow' : 48 ≤ b.toNat := hLow
        have hHigh' : b.toNat ≤ 57 := hHigh
        exact writtenFrom_ascii (decide_eq_true ⟨by omega, by omega⟩)
      · exact writtenFrom_ascii (by decide)
  | str s =>
      intro b h
      rw [render] at h
      refine (mem_renderText h).mono ?_
      intro text hText
      rw [hText]
      exact .str s
  | list items ih =>
      intro b h
      rw [render_list, List.mem_append, List.mem_cons, List.mem_singleton] at h
      obtain (rfl | hMem) | rfl := h
      · exact writtenFrom_ascii (by decide)
      · obtain rfl | ⟨part, hPart, hMem⟩ := mem_intercalate hMem
        · exact writtenFrom_ascii (by decide)
        · obtain ⟨item, hItem, rfl⟩ := List.mem_map.1 hPart
          exact (ih item hItem b hMem).mono fun s hs => .item hItem hs
      · exact writtenFrom_ascii (by decide)
  | dict items ih =>
      intro b h
      rw [render_dict, List.mem_append, List.mem_cons, List.mem_singleton] at h
      obtain (rfl | hMem) | rfl := h
      · exact writtenFrom_ascii (by decide)
      · obtain rfl | ⟨part, hPart, hMem⟩ := mem_intercalate hMem
        · exact writtenFrom_ascii (by decide)
        · obtain ⟨member, hSorted, rfl⟩ := List.mem_map.1 hPart
          have hMember := (List.mem_insertionSort keyOrder).1 hSorted
          unfold renderMember at hMem
          rw [List.mem_append, List.mem_cons] at hMem
          obtain hKey | rfl | hItem := hMem
          · refine (mem_renderText hKey).mono ?_
            rintro _ rfl
            exact .key hMember
          · exact writtenFrom_ascii (by decide)
          · exact (ih member hMember b hItem).mono fun s hs => .member hMember hs
      · exact writtenFrom_ascii (by decide)

theorem render_of_text {value : JSONValue} {s : String} (hText : value.HasText s) {b : Char}
    (hHigh : 127 ≤ b.toNat) (h : b ∈ s.toList) : b ∈ render value := by
  induction hText with
  | str s =>
      rw [render]
      exact renderText_of_mem hHigh h
  | item hItem _ ih =>
      rw [render_list]
      exact List.mem_append_left _ (List.mem_cons_of_mem _
        (intercalate_of_mem (List.mem_map_of_mem hItem) (ih h)))
  | @key items member hMember =>
      have hSorted := (List.mem_insertionSort keyOrder).2 hMember
      rw [render_dict]
      refine List.mem_append_left _ (List.mem_cons_of_mem _
        (intercalate_of_mem (List.mem_map_of_mem hSorted) ?_))
      exact List.mem_append_left _ (renderText_of_mem hHigh h)
  | @member items member s hMember _ ih =>
      have hSorted := (List.mem_insertionSort keyOrder).2 hMember
      rw [render_dict]
      refine List.mem_append_left _ (List.mem_cons_of_mem _
        (intercalate_of_mem (List.mem_map_of_mem hSorted) ?_))
      exact List.mem_append_right _ (List.mem_cons_of_mem _ (ih h))

/-! ## The rows of a text -/

/-- U+0085, U+2028 and U+2029. -/
def isRawBoundary (c : Char) : Bool := decide (c.toNat ∈ [0x85, 0x2028, 0x2029])

/-- No key and no string of the value has one of the three characters. -/
def JSONValue.Plain (value : JSONValue) : Prop :=
  ∀ s, value.HasText s → ∀ c ∈ s.toList, isRawBoundary c = false

theorem isRawBoundary_iff {c : Char} :
    isRawBoundary c = true ↔ c.toNat = 0x85 ∨ c.toNat = 0x2028 ∨ c.toNat = 0x2029 := by
  unfold isRawBoundary
  simp

theorem isLineBoundary_of_raw {c : Char} (h : isRawBoundary c = true) :
    isLineBoundary c = true := by
  unfold isLineBoundary
  exact decide_eq_true (.inr (.inr (of_decide_eq_true h)))

/-- The text of a plain value is one line, and of another value it is not. -/
theorem plain_iff {value : JSONValue} :
    value.Plain ↔ ∀ c ∈ render value, isLineBoundary c = false := by
  constructor
  · intro hPlain c hc
    by_contra hBoundary
    rw [Bool.not_eq_false] at hBoundary
    obtain ⟨hLow, hText⟩ := mem_render value c hc
    have hRaw : isRawBoundary c = true := by
      obtain hControl | hControl | hRaw := of_decide_eq_true hBoundary
      · omega
      · omega
      · exact decide_eq_true hRaw
    have hHigh : 127 ≤ c.toNat := by
      have := isRawBoundary_iff.1 hRaw
      omega
    obtain ⟨s, hs, hMem⟩ := hText hHigh
    exact absurd (hPlain s hs c hMem) (by rw [hRaw]; decide)
  · intro hLine s hs c hc
    by_contra hRaw
    rw [Bool.not_eq_false] at hRaw
    have hHigh : 127 ≤ c.toNat := by
      have := isRawBoundary_iff.1 hRaw
      omega
    have hBoundary := hLine c (render_of_text hs hHigh hc)
    rw [isLineBoundary_of_raw hRaw] at hBoundary
    exact Bool.false_ne_true hBoundary.symm

theorem isJsonSpace_of_boundary {c : Char} (h : isLineBoundary c = true) (hLow : 32 ≤ c.toNat) :
    isJsonSpace c = false ∧ c.isDigit = false := by
  have hHigh : 127 ≤ c.toNat := by
    obtain hControl | hControl | hRaw := of_decide_eq_true h
    · omega
    · omega
    · have := isRawBoundary_iff.1 (decide_eq_true hRaw)
      omega
  have hNe : ∀ d : Char, d.toNat < 127 → decide (c = d) = false := by
    intro d hd
    refine decide_eq_false ?_
    rintro rfl
    omega
  constructor
  · unfold isJsonSpace
    rw [hNe ' ' (by decide), hNe '\t' (by decide), hNe '\n' (by decide), hNe '\r' (by decide)]
    rfl
  · by_contra hDigit
    rw [Bool.not_eq_false] at hDigit
    have hNine : c.toNat ≤ 57 := (Char.isDigit_iff_toNat.1 hDigit).2
    omega

/-- The bytes of a row. -/
def rowBytes (row : JSONValue) : ByteArray := (String.ofList (render row)).toUTF8

/-- A row for each line. -/
def archiveText (rows : List JSONValue) : List Char := rows.flatMap fun row => render row ++ ['\n']

def archiveBytes (rows : List JSONValue) : ByteArray := (String.ofList (archiveText rows)).toUTF8

/-- The object that a line is read as. -/
structure ReadRow (line : List Char) (row : JSONValue) : Prop where
  read : loads line = some row
  dict : row.isDict = true
  proved : proveJsonValue row = .ok ()

theorem fromUTF8?_toUTF8 (s : String) : String.fromUTF8? s.toUTF8 = some s := by
  unfold String.fromUTF8?
  exact dif_pos s.isValidUTF8

theorem canonicalJsonBytes_row {row : JSONValue} {bytes : ByteArray} :
    canonicalJsonBytes row = .ok bytes ↔ proveJsonValue row = .ok () ∧ rowBytes row = bytes :=
  canonicalJsonBytes_eq_ok

theorem canonicalLine_eq_ok {line : List Char} {bytes : ByteArray} :
    canonicalLine line = .ok bytes ↔ ∃ row, ReadRow line row ∧ rowBytes row = bytes := by
  simp only [canonicalLine, bind_eq_ok, fetch_eq_ok, require_eq_ok, mapError_eq_ok,
    canonicalJsonBytes_row, exists_const]
  constructor
  · rintro ⟨row, hRead, hDict, hProved, hBytes⟩
    exact ⟨row, ⟨hRead, hDict, hProved⟩, hBytes⟩
  · rintro ⟨row, ⟨hRead, hDict, hProved⟩, hBytes⟩
    exact ⟨row, hRead, hDict, hProved, hBytes⟩

theorem mapM_canonicalLine {lines : List (List Char)} {results : List ByteArray} :
    lines.mapM canonicalLine = .ok results
      ↔ ∃ rows, List.Forall₂ ReadRow lines rows ∧ rows.map rowBytes = results := by
  rw [mapM_eq_ok]
  constructor
  · intro h
    induction h with
    | nil => exact ⟨[], .nil, rfl⟩
    | cons hLine _ ih =>
        obtain ⟨row, hRow, hBytes⟩ := canonicalLine_eq_ok.1 hLine
        obtain ⟨rows, hRows, hResults⟩ := ih
        exact ⟨row :: rows, .cons hRow hRows, by rw [List.map_cons, hBytes, hResults]⟩
  · rintro ⟨rows, hRows, rfl⟩
    induction hRows with
    | nil => exact .nil
    | cons hRow _ ih => exact .cons (canonicalLine_eq_ok.2 ⟨_, hRow, rfl⟩) ih

theorem data_rowBytes_flatMap (rows : List JSONValue) :
    ((rows.map fun row => (rowBytes row).data.toList).flatMap (· ++ [10]))
      = (archiveBytes rows).data.toList := by
  induction rows with
  | nil => rfl
  | cons row rows ih =>
      have hCons : archiveBytes (row :: rows)
          = rowBytes row ++ "\n".toUTF8 ++ archiveBytes rows := by
        unfold archiveBytes archiveText rowBytes
        rw [List.flatMap_cons, ← toUTF8_append, ← toUTF8_append]
      rw [List.map_cons, List.flatMap_cons, ih, hCons, ByteArray.data_append,
        ByteArray.data_append, Array.toList_append, Array.toList_append]
      rfl

theorem joinedLines_rowBytes {rows : List JSONValue} (h : rows ≠ []) :
    joinedLines (rows.map rowBytes) = archiveBytes rows := by
  have hLines : rows.map (fun row => (rowBytes row).data.toList) ≠ [] := by
    rw [Ne, List.map_eq_nil_iff]
    exact h
  refine ByteArray.ext (Array.toList_inj.1 ?_)
  unfold joinedLines
  rw [List.map_map]
  show List.intercalate [10] (rows.map fun row => (rowBytes row).data.toList) ++ [10] = _
  rw [intercalate_append_sep hLines, data_rowBytes_flatMap]

/-- The canonical form is the text of the rows that were read, line by line. -/
theorem canonicalizeNdjson_ok {value canonical : ByteArray}
    (h : canonicalizeNdjson value = .ok canonical) :
    ∃ text rows, String.fromUTF8? value = some text
      ∧ List.Forall₂ ReadRow (splitlines text.toList) rows
      ∧ rows ≠ [] ∧ canonical = archiveBytes rows := by
  simp only [canonicalizeNdjson, bind_eq_ok, fetch_eq_ok, require_eq_ok, exists_const,
    mapM_canonicalLine, pure_eq_ok] at h
  obtain ⟨text, hText, ⟨hLines, -⟩, _, ⟨rows, hRows, rfl⟩, rfl⟩ := h
  have hNonempty : rows ≠ [] := by
    rintro rfl
    exact hLines (List.forall₂_nil_right_iff.1 hRows)
  exact ⟨text, rows, hText, hRows, hNonempty, joinedLines_rowBytes hNonempty⟩

/-- What a canonical form is the text of. -/
structure CanonicalRows (rows : List JSONValue) : Prop where
  nonempty : rows ≠ []
  dict : ∀ row ∈ rows, row.isDict = true
  distinct : ∀ row ∈ rows, row.Distinct
  proved : ∀ row ∈ rows, proveJsonValue row = .ok ()

theorem canonicalRows_of_read {rows : List JSONValue}
    (hEach : ∀ row ∈ rows, ∃ line, ReadRow line row) (hNonempty : rows ≠ []) :
    CanonicalRows rows := by
  refine ⟨hNonempty, ?_, ?_, ?_⟩
  · intro row hRow
    obtain ⟨line, hLine⟩ := hEach row hRow
    exact hLine.dict
  · intro row hRow
    obtain ⟨line, hLine⟩ := hEach row hRow
    exact distinct_of_loads hLine.read
  · intro row hRow
    obtain ⟨line, hLine⟩ := hEach row hRow
    exact hLine.proved

theorem exists_line_of_row {lines : List (List Char)} {rows : List JSONValue}
    (h : List.Forall₂ ReadRow lines rows) : ∀ row ∈ rows, ∃ line ∈ lines, ReadRow line row := by
  intro row hRow
  exact exists_of_forall₂ h.flip row hRow

/-! ## The form of a canonical form -/

theorem proveJsonList_eq_ok {items : List JSONValue} :
    proveJsonList items = .ok () ↔ ∀ item ∈ items, proveJsonValue item = .ok () := by
  induction items with
  | nil => simp [proveJsonList]
  | cons item items ih => simp [proveJsonList, ih, Unique.exists_iff]

theorem proveJsonDict_eq_ok {items : List (String × JSONValue)} :
    proveJsonDict items = .ok () ↔ ∀ member ∈ items, proveJsonValue member.2 = .ok () := by
  induction items with
  | nil => simp [proveJsonDict]
  | cons member items ih =>
      obtain ⟨key, item⟩ := member
      simp [proveJsonDict, ih, Unique.exists_iff]

theorem proveJsonValue_sortKeys {value : JSONValue} (h : proveJsonValue value = .ok ()) :
    proveJsonValue value.sortKeys = .ok () := by
  induction value using JSONValue.induction with
  | list items ih =>
      rw [proveJsonValue, proveJsonList_eq_ok] at h
      rw [sortKeys_list, proveJsonValue, proveJsonList_eq_ok]
      intro item hItem
      obtain ⟨found, hFound, rfl⟩ := List.mem_map.1 hItem
      exact ih found hFound (h found hFound)
  | dict items ih =>
      rw [proveJsonValue, proveJsonDict_eq_ok] at h
      rw [sortKeys_dict, proveJsonValue, proveJsonDict_eq_ok]
      intro member hMember
      obtain ⟨found, hSorted, rfl⟩ := List.mem_map.1 hMember
      have hFound := (List.mem_insertionSort keyOrder).1 hSorted
      exact ih found hFound (h found hFound)
  | _ => exact h

theorem loads_row {row : JSONValue} (hDict : row.isDict = true) (hDistinct : row.Distinct) :
    loads (render row) = some row.sortKeys := by
  cases row with
  | dict items => exact loads_render hDistinct
  | _ => exact absurd hDict Bool.false_ne_true

/-- The line of a row is read as the row, with its keys in order. -/
theorem readRow_render {row : JSONValue} (hDict : row.isDict = true) (hDistinct : row.Distinct)
    (hProved : proveJsonValue row = .ok ()) : ReadRow (render row) row.sortKeys := by
  refine ⟨loads_row hDict hDistinct, ?_, proveJsonValue_sortKeys hProved⟩
  cases row with
  | dict items =>
      rw [sortKeys_dict]
      rfl
  | _ => exact absurd hDict Bool.false_ne_true

theorem render_not_blank {row : JSONValue} (hDict : row.isDict = true) :
    (render row).all isPythonSpace = false := by
  cases row with
  | dict items =>
      rw [render_dict]
      rfl
  | _ => exact absurd hDict Bool.false_ne_true

theorem archiveText_cons (row : JSONValue) (rows : List JSONValue) :
    archiveText (row :: rows) = render row ++ '\n' :: archiveText rows := by
  unfold archiveText
  rw [List.flatMap_cons, List.append_assoc, List.singleton_append]

theorem splitlines_archiveText {rows : List JSONValue} (h : ∀ row ∈ rows, row.Plain) :
    splitlines (archiveText rows) = rows.map render := by
  have hLines : ∀ line ∈ rows.map render, ∀ c ∈ line, isLineBoundary c = false := by
    intro line hLine
    obtain ⟨row, hRow, rfl⟩ := List.mem_map.1 hLine
    exact plain_iff.1 (h row hRow)
  have hText : archiveText rows = (rows.map render).flatMap (· ++ ['\n']) ++ [] := by
    unfold archiveText
    rw [List.append_nil, List.flatMap_map]
  unfold splitlines
  rw [hText, splitLines_flatMap hLines (by decide) (by decide)]
  exact List.append_nil _

/-- The text of a row with one of the three characters breaks off at the first of them, and what
stands before it is no row. -/
theorem plain_of_lines {rows : List JSONValue} (hDict : ∀ row ∈ rows, row.isDict = true)
    (hDistinct : ∀ row ∈ rows, row.Distinct)
    (h : ∀ line ∈ splitlines (archiveText rows), loads line ≠ none) :
    ∀ row ∈ rows, row.Plain := by
  induction rows with
  | nil => exact fun row hRow => absurd hRow List.not_mem_nil
  | cons row rows ih =>
      obtain ⟨hFirst, hRest⟩ := List.forall_mem_cons.1 hDict
      obtain ⟨hFirst', hRest'⟩ := List.forall_mem_cons.1 hDistinct
      have hPlain : row.Plain := by
        by_contra hNot
        have hBreaks : ∃ c ∈ render row, isLineBoundary c = true := by
          by_contra hNone
          refine hNot (plain_iff.2 fun c hc => ?_)
          by_contra hBoundary
          exact hNone ⟨c, hc, by simpa using hBoundary⟩
        obtain ⟨c, hc, hBoundary⟩ := hBreaks
        obtain ⟨part, sep, rest, hText, hPart, hSep⟩ := exists_first_end hc hBoundary
        have hLine : part ∈ splitlines (archiveText (row :: rows)) := by
          rw [archiveText_cons, hText, List.append_assoc, List.cons_append]
          unfold splitlines splitLines
          rw [linesFrom_append hPart hSep]
          exact List.mem_cons_self
        have hMem : sep ∈ render row := by
          rw [hText]
          exact List.mem_append_right _ List.mem_cons_self
        obtain ⟨hSpace, hDigit⟩ := isJsonSpace_of_boundary hSep (mem_render row sep hMem).1
        have hWhole : (loads (part ++ sep :: rest)).isSome = true := by
          rw [← hText, loads_row hFirst hFirst']
          rfl
        exact h part hLine (loads_cut hSpace hDigit hWhole)
      refine List.forall_mem_cons.2 ⟨hPlain, ih hRest hRest' fun line hLine => h line ?_⟩
      have hSplit : splitlines (archiveText (row :: rows))
          = render row :: splitlines (archiveText rows) := by
        rw [archiveText_cons]
        exact splitLines_append (plain_iff.1 hPlain) (by decide) (by decide) _
      rw [hSplit]
      exact List.mem_cons_of_mem _ hLine

/-- A canonical form is its own canonical form exactly when its rows are plain. -/
theorem canonicalize_archiveBytes {rows : List JSONValue} (h : CanonicalRows rows) :
    canonicalizeNdjson (archiveBytes rows) = .ok (archiveBytes rows)
      ↔ ∀ row ∈ rows, row.Plain := by
  have hDecoded : String.fromUTF8? (archiveBytes rows) = some (String.ofList (archiveText rows)) :=
    fromUTF8?_toUTF8 _
  constructor
  · intro hOk
    obtain ⟨text, found, hText, hFound, -, -⟩ := canonicalizeNdjson_ok hOk
    rw [hDecoded] at hText
    rw [← Option.some.inj hText, String.toList_ofList] at hFound
    refine plain_of_lines h.dict h.distinct fun line hLine => ?_
    obtain ⟨row, -, hRow⟩ := exists_of_forall₂ hFound line hLine
    rw [hRow.read]
    exact Option.some_ne_none row
  · intro hPlain
    have hLines := splitlines_archiveText hPlain
    have hRows : List.Forall₂ ReadRow (rows.map render) (rows.map JSONValue.sortKeys) := by
      rw [List.forall₂_map_left_iff, List.forall₂_map_right_iff, List.forall₂_same]
      exact fun row hRow =>
        readRow_render (h.dict row hRow) (h.distinct row hRow) (h.proved row hRow)
    have hBytes : (rows.map JSONValue.sortKeys).map rowBytes = rows.map rowBytes := by
      rw [List.map_map]
      refine List.map_congr_left fun row _ => ?_
      show (String.ofList (render row.sortKeys)).toUTF8 = _
      rw [render_sortKeys]
      rfl
    have hBlank : ∀ line ∈ rows.map render, (!line.all isPythonSpace) = true := by
      intro line hLine
      obtain ⟨row, hRow, rfl⟩ := List.mem_map.1 hLine
      rw [render_not_blank (h.dict row hRow)]
      rfl
    simp only [canonicalizeNdjson, bind_eq_ok, fetch_eq_ok, require_eq_ok, exists_const,
      mapM_canonicalLine, pure_eq_ok]
    refine ⟨_, hDecoded, ?_, _, ⟨_, ?_, hBytes⟩, joinedLines_rowBytes h.nonempty⟩
    · rw [String.toList_ofList, hLines]
      refine ⟨?_, List.all_eq_true.2 hBlank⟩
      rw [Ne, List.map_eq_nil_iff]
      exact h.nonempty
    · rw [String.toList_ofList, hLines]
      exact hRows

/-- The rows of a text are plain: what `json.loads` reads in its lines has none of the three
characters in a key or a string. -/
def PlainRows (value : ByteArray) : Prop :=
  ∀ text, String.fromUTF8? value = some text → ∀ line ∈ splitlines text.toList,
    ∀ row, loads line = some row → row.Plain

/-- None of the three characters stands in the text. -/
def PlainText (value : ByteArray) : Prop :=
  ∀ text, String.fromUTF8? value = some text → ∀ c ∈ text.toList, isRawBoundary c = false

theorem canonicalize_canonical {value canonical : ByteArray}
    (h : canonicalizeNdjson value = .ok canonical) :
    canonicalizeNdjson canonical = .ok canonical ↔ PlainRows value := by
  obtain ⟨text, rows, hText, hRows, hNonempty, rfl⟩ := canonicalizeNdjson_ok h
  have hEach : ∀ row ∈ rows, ∃ line, ReadRow line row := by
    intro row hRow
    obtain ⟨line, -, hLine⟩ := exists_line_of_row hRows row hRow
    exact ⟨line, hLine⟩
  rw [canonicalize_archiveBytes (canonicalRows_of_read hEach hNonempty)]
  constructor
  · intro hPlain other hOther line hLine row hRead
    rw [hText] at hOther
    rw [← Option.some.inj hOther] at hLine
    obtain ⟨found, hFound, hRow⟩ := exists_of_forall₂ hRows line hLine
    rw [hRow.read] at hRead
    exact Option.some.inj hRead ▸ hPlain found hFound
  · intro hPlain row hRow
    obtain ⟨line, hLine, hRead⟩ := exists_line_of_row hRows row hRow
    exact hPlain text hText line hLine row hRead.read

/-! ## Accepted archives -/

theorem validateArchiveLine_ok {line : List UInt8} {row : JSONValue}
    (h : validateArchiveLine line = .ok row) :
    (∃ text, ReadRow text row) ∧ (rowBytes row).data.toList = line := by
  simp only [validateArchiveLine, bind_eq_ok, fetch_eq_ok, require_eq_ok, mapError_eq_ok,
    canonicalJsonBytes_row, exists_const, pure_eq_ok] at h
  obtain ⟨text, -, _, hRead, hDict, _, ⟨hProved, rfl⟩, hLine, -, _, -, -, rfl⟩ := h
  exact ⟨⟨text.toList, hRead, hDict, hProved⟩, hLine⟩

/-- An accepted archive is the text of its rows. -/
theorem validateArchiveNdjson_ok {raw : ByteArray} {records : List JSONValue}
    (h : validateArchiveNdjson raw = .ok records) :
    CanonicalRows records ∧ raw = archiveBytes records := by
  simp only [validateArchiveNdjson, bind_eq_ok, require_eq_ok, exists_const] at h
  obtain ⟨hEnd, ⟨hLines, -⟩, hRecords⟩ := h
  have hEach := mapM_eq_ok.1 hRecords
  have hBytes : records.map (fun row => (rowBytes row).data.toList)
      = raw.data.toList.dropLast.splitOn 10 := by
    clear hRecords hLines
    generalize raw.data.toList.dropLast.splitOn 10 = lines at hEach
    induction hEach with
    | nil => rfl
    | cons hLine _ ih => rw [List.map_cons, (validateArchiveLine_ok hLine).2, ih]
  have hNonempty : records ≠ [] := by
    rintro rfl
    exact hLines hBytes.symm
  have hRead : ∀ row ∈ records, ∃ text, ReadRow text row := by
    intro row hRow
    obtain ⟨line, -, hLine⟩ := mapM_result_ok hRecords row hRow
    exact (validateArchiveLine_ok hLine).1
  refine ⟨canonicalRows_of_read hRead hNonempty, ?_⟩
  obtain ⟨before, hBefore⟩ : ∃ before, raw.data.toList = before ++ [10] := by
    rw [Bool.and_eq_true, List.isSuffixOf_iff_suffix] at hEnd
    obtain ⟨before, hBefore⟩ := hEnd.1
    exact ⟨before, hBefore.symm⟩
  refine ByteArray.ext (Array.toList_inj.1 ?_)
  rw [← data_rowBytes_flatMap, hBytes, ← intercalate_append_sep hLines, List.intercalate_splitOn,
    hBefore, List.dropLast_concat]

theorem canonicalize_accepted {raw : ByteArray} {records : List JSONValue}
    (h : validateArchiveNdjson raw = .ok records) :
    canonicalizeNdjson raw = .ok raw ↔ PlainText raw := by
  obtain ⟨hRows, rfl⟩ := validateArchiveNdjson_ok h
  have hDecoded : String.fromUTF8? (archiveBytes records)
      = some (String.ofList (archiveText records)) := fromUTF8?_toUTF8 _
  rw [canonicalize_archiveBytes hRows]
  constructor
  · intro hPlain text hText c hc
    rw [hDecoded] at hText
    rw [← Option.some.inj hText, String.toList_ofList] at hc
    obtain ⟨row, hRow, hMem⟩ := List.mem_flatMap.1 hc
    rw [List.mem_append, List.mem_singleton] at hMem
    obtain hMem | rfl := hMem
    · by_contra hRaw
      rw [Bool.not_eq_false] at hRaw
      have hBoundary := plain_iff.1 (hPlain row hRow) c hMem
      rw [isLineBoundary_of_raw hRaw] at hBoundary
      exact Bool.false_ne_true hBoundary.symm
    · decide
  · intro hPlain row hRow s hs c hc
    by_contra hRaw
    rw [Bool.not_eq_false] at hRaw
    have hHigh : 127 ≤ c.toNat := by
      have := isRawBoundary_iff.1 hRaw
      omega
    have hMem : c ∈ archiveText records :=
      List.mem_flatMap.2 ⟨row, hRow, List.mem_append_left _ (render_of_text hs hHigh hc)⟩
    have hNone := hPlain _ hDecoded c (by rw [String.toList_ofList]; exact hMem)
    rw [hNone] at hRaw
    exact Bool.false_ne_true hRaw

end TrackAnywhere.Ports
