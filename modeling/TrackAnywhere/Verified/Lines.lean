import TrackAnywhere.Verified.UniqueReading

/-!
# Lines

A text is split at the boundaries of its lines.  A boundary is one letter, or two: `feed` directly
behind `ret` belongs to the same boundary.  What comes behind the last boundary is a line only if
there is something.
-/

namespace TrackAnywhere.Verified.Lines

variable {β : Type}

section Splitting

variable [DecidableEq β] (ends : β → Bool) (ret feed : β)

/-- The lines of the rest of a text, behind a part of the first line; `returned` says that the
letter before was `ret`. -/
def linesFrom (returned : Bool) (line : List β) : List β → List (List β)
  | [] => if line.isEmpty then [] else [line]
  | b :: bs =>
      if returned ∧ b = feed then linesFrom false line bs
      else if ends b then line :: linesFrom (b = ret) [] bs
      else linesFrom false (line ++ [b]) bs

def splitLines (text : List β) : List (List β) := linesFrom ends ret feed false [] text

variable {ends ret feed}

theorem linesFrom_append {part : List β} (hPart : ∀ b ∈ part, ends b = false) {sep : β}
    (hSep : ends sep = true) (line rest : List β) :
    linesFrom ends ret feed false line (part ++ sep :: rest)
      = (line ++ part) :: linesFrom ends ret feed (sep = ret) [] rest := by
  induction part generalizing line with
  | nil =>
      rw [List.nil_append, List.append_nil, linesFrom, if_neg (fun h => Bool.false_ne_true h.1),
        if_pos hSep]
  | cons b part ih =>
      obtain ⟨hFirst, hRest⟩ := List.forall_mem_cons.1 hPart
      rw [List.cons_append, linesFrom, if_neg (fun h => Bool.false_ne_true h.1), hFirst,
        if_neg Bool.false_ne_true, ih hRest, List.append_assoc, List.singleton_append]

/-- The first line ends at the first boundary. -/
theorem splitLines_append {part : List β} (hPart : ∀ b ∈ part, ends b = false) {sep : β}
    (hSep : ends sep = true) (hRet : sep ≠ ret) (rest : List β) :
    splitLines ends ret feed (part ++ sep :: rest) = part :: splitLines ends ret feed rest := by
  unfold splitLines
  rw [linesFrom_append hPart hSep, List.nil_append, decide_eq_false hRet]

/-- Lines that were ended one by one are read back. -/
theorem splitLines_flatMap {lines : List (List β)}
    (hLines : ∀ line ∈ lines, ∀ b ∈ line, ends b = false) {sep : β} (hSep : ends sep = true)
    (hRet : sep ≠ ret) (rest : List β) :
    splitLines ends ret feed (lines.flatMap (· ++ [sep]) ++ rest)
      = lines ++ splitLines ends ret feed rest := by
  induction lines with
  | nil => rfl
  | cons line lines ih =>
      obtain ⟨hLine, hRest⟩ := List.forall_mem_cons.1 hLines
      rw [List.flatMap_cons, List.append_assoc, List.append_assoc, List.singleton_append,
        splitLines_append hLine hSep hRet, ih hRest, List.cons_append]

end Splitting

/-- A text with a boundary has a first one. -/
theorem exists_first_end {ends : β → Bool} {text : List β} {b : β} (hMem : b ∈ text)
    (hEnd : ends b = true) :
    ∃ part sep rest, text = part ++ sep :: rest ∧ (∀ b ∈ part, ends b = false)
      ∧ ends sep = true := by
  obtain ⟨sep, hFind⟩ := Option.isSome_iff_exists.1 (List.find?_isSome.2 ⟨b, hMem, hEnd⟩)
  obtain ⟨hSep, part, rest, hText, hPart⟩ := List.find?_eq_some_iff_append.1 hFind
  exact ⟨part, sep, rest, hText, fun b hb => by simpa using hPart b hb, hSep⟩

/-- Lines with a separator between them, and one behind. -/
theorem intercalate_append_sep {lines : List (List β)} (h : lines ≠ []) (sep : β) :
    List.intercalate [sep] lines ++ [sep] = lines.flatMap (· ++ [sep]) := by
  induction lines with
  | nil => exact absurd rfl h
  | cons line lines ih =>
      rw [UniqueReading.intercalate_cons, List.flatMap_cons]
      cases lines with
      | nil => simp
      | cons next lines =>
          show line ++ sep :: (List.intercalate [sep] (next :: lines) ++ [sep]) = _
          rw [ih (List.cons_ne_nil _ _), List.append_assoc, List.singleton_append]

end TrackAnywhere.Verified.Lines
