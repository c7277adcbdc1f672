import Mathlib

/-!
# Fields behind their lengths

A field is framed by its length, written with a fixed number of bytes.  Frames that follow each
other are read in one way only, whatever the fields hold: the first bytes are a length, the
length says where the field ends, and the next frame starts there.
-/

namespace TrackAnywhere.Verified.LengthFrames

/-! ## Numbers of fixed width -/

/-- The low `width` bytes of a number, the highest of them first. -/
def bigEndian : Nat → Nat → List UInt8
  | 0, _ => []
  | width + 1, n => bigEndian width (n / 256) ++ [UInt8.ofNat n]

@[simp] theorem length_bigEndian (width n : Nat) : (bigEndian width n).length = width := by
  induction width generalizing n with
  | zero => rfl
  | succ width ih => rw [bigEndian, List.length_append, ih, List.length_singleton]

theorem bigEndian_injective {width m n : Nat} (hM : m < 256 ^ width) (hN : n < 256 ^ width)
    (h : bigEndian width m = bigEndian width n) : m = n := by
  induction width generalizing m n with
  | zero => omega
  | succ width ih =>
      rw [bigEndian, bigEndian] at h
      obtain ⟨hHigh, hLow⟩ := List.append_inj' h rfl
      have hLowByte : m % 256 = n % 256 := by
        have hByte := congrArg UInt8.toNat (List.singleton_inj.1 hLow)
        rwa [UInt8.toNat_ofNat', UInt8.toNat_ofNat'] at hByte
      rw [Nat.pow_succ] at hM hN
      have hQuotient := ih (by omega) (by omega) hHigh
      omega

/-! ## Frames -/

/-- A field behind its length. -/
def frame (width : Nat) (field : List UInt8) : List UInt8 :=
  bigEndian width field.length ++ field

section Frames

variable {width : Nat} {field other rest rest' : List UInt8}

/-- The first frame is read back, and what follows it. -/
theorem frame_reads (hField : field.length < 256 ^ width) (hOther : other.length < 256 ^ width)
    (h : frame width field ++ rest = frame width other ++ rest') :
    field = other ∧ rest = rest' := by
  unfold frame at h
  rw [List.append_assoc, List.append_assoc] at h
  obtain ⟨hHeader, hBody⟩ := List.append_inj h (by rw [length_bigEndian, length_bigEndian])
  exact List.append_inj hBody (bigEndian_injective hField hOther hHeader)

/-- Where lengths take up room, no frame is empty. -/
theorem frame_ne_nil (hWidth : 0 < width) : frame width field ≠ [] := by
  intro h
  have hLength := congrArg List.length h
  rw [frame, List.length_append, length_bigEndian, List.length_nil] at hLength
  omega

/-- Equal runs of frames are of equal lists of fields. -/
theorem frames_injective (hWidth : 0 < width) {fields others : List (List UInt8)}
    (hFields : ∀ field ∈ fields, field.length < 256 ^ width)
    (hOthers : ∀ field ∈ others, field.length < 256 ^ width)
    (h : fields.flatMap (frame width) = others.flatMap (frame width)) : fields = others := by
  induction fields generalizing others with
  | nil =>
      cases others with
      | nil => rfl
      | cons other others =>
          rw [List.flatMap_nil, List.flatMap_cons, eq_comm] at h
          exact absurd (List.append_eq_nil_iff.1 h).1 (frame_ne_nil hWidth)
  | cons field fields ih =>
      cases others with
      | nil =>
          rw [List.flatMap_nil, List.flatMap_cons] at h
          exact absurd (List.append_eq_nil_iff.1 h).1 (frame_ne_nil hWidth)
      | cons other others =>
          rw [List.flatMap_cons, List.flatMap_cons] at h
          obtain ⟨rfl, hRest⟩ := frame_reads (hFields field List.mem_cons_self)
            (hOthers other List.mem_cons_self) h
          rw [ih (fun f hf => hFields f (List.mem_cons_of_mem _ hf))
            (fun f hf => hOthers f (List.mem_cons_of_mem _ hf)) hRest]

end Frames

end TrackAnywhere.Verified.LengthFrames
