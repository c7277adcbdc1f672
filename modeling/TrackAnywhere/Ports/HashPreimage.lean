import TrackAnywhere.Ports.CanonicalReading
import TrackAnywhere.Ports.EventHash

/-!
# What the hash of an event is taken of

The bytes behind an event hash determine every hashed field of the envelope and
the payload: the scalars are written without loss, the envelope has fixed
distinct keys, and no canonical text contains the NUL between the parts.
-/

namespace TrackAnywhere.Ports

open TrackAnywhere.Verified.Checked
open TrackAnywhere.Verified.UniqueReading

/-! ## Digits of fixed width -/

theorem hexDigit_injective {a b : Nat} (ha : a < 16) (hb : b < 16)
    (h : hexDigit a = hexDigit b) : a = b := by
  have hAll : ∀ a < 16, ∀ b < 16, hexDigit a = hexDigit b → a = b := by decide
  exact hAll a ha b hb h

/-- The digits at all places determine a number below the power. -/
theorem eq_of_digits {base width a b : Nat} (ha : a < base ^ width)
    (hb : b < base ^ width)
    (h : ∀ i < width, a / base ^ i % base = b / base ^ i % base) : a = b := by
  have hMod : ∀ w ≤ width, a % base ^ w = b % base ^ w := by
    intro w hw
    induction w with
    | zero => simp [Nat.mod_one]
    | succ w ih =>
        rw [Nat.mod_pow_succ, Nat.mod_pow_succ, ih (by omega), h w (by omega)]
  have hAll := hMod width le_rfl
  rwa [Nat.mod_eq_of_lt ha, Nat.mod_eq_of_lt hb] at hAll

/-- Digits written at fixed places are read back. -/
theorem digits_injective {base width a b : Nat} (hBase : 0 < base)
    (hSmall : base ≤ 16) (ha : a < base ^ width) (hb : b < base ^ width)
    (h : ((List.range width).reverse.map fun i => hexDigit (a / base ^ i % base))
      = (List.range width).reverse.map fun i =>
        hexDigit (b / base ^ i % base)) : a = b := by
  refine eq_of_digits ha hb fun i hi => ?_
  have hMem : i ∈ (List.range width).reverse := by simpa using hi
  have hDigit := (List.map_inj_left.1 h) i hMem
  exact hexDigit_injective ((Nat.mod_lt _ hBase).trans_le hSmall)
    ((Nat.mod_lt _ hBase).trans_le hSmall) hDigit

theorem hexText_injective {width a b : Nat} (ha : a < 16 ^ width)
    (hb : b < 16 ^ width) (h : hexText width a = hexText width b) : a = b :=
  digits_injective (by decide) le_rfl ha hb h

theorem paddedDecimal_injective {width a b : Nat} (ha : a < 10 ^ width)
    (hb : b < 10 ^ width) (h : paddedDecimal width a = paddedDecimal width b) :
    a = b :=
  digits_injective (by decide) (by decide) ha hb h

@[simp] theorem length_paddedDecimal (width n : Nat) :
    (paddedDecimal width n).length = width := by
  simp [paddedDecimal]

@[simp] theorem length_hexText (width n : Nat) :
    (hexText width n).length = width := by
  simp [hexText]

theorem hexDigit_ne_dash {n : Nat} (h : n < 16) : hexDigit n ≠ '-' := by
  revert n
  decide

/-- Digits contain no dash. -/
theorem dash_notMem_hexText (width n : Nat) : '-' ∉ hexText width n := by
  intro h
  obtain ⟨i, -, hDigit⟩ := List.mem_map.1 h
  exact hexDigit_ne_dash (Nat.mod_lt _ (by decide)) hDigit

/-! ## Scalars -/

/-- The digits of a UUID are its text without the dashes. -/
theorem filter_uuidText (id : UUID) :
    id.text.toList.filter (· ≠ '-') = hexText 32 id.val := by
  have hDigits := dash_notMem_hexText 32 id.val
  have hKeep : ∀ part : List Char, part ⊆ hexText 32 id.val →
      part.filter (· ≠ '-') = part := by
    intro part hPart
    refine List.filter_eq_self.2 fun c hc => ?_
    simpa using fun hDash : c = '-' => hDigits (hDash ▸ hPart hc)
  unfold UUID.text
  generalize hexText 32 id.val = digits at hKeep
  have hTake : ∀ k l, ((digits.drop k).take l) ⊆ digits := fun k l =>
    fun _ hc => List.drop_subset k _ (List.take_subset l _ hc)
  simp only [String.toList_ofList, List.filter_append, List.filter_cons,
    hKeep _ (List.take_subset 8 digits), hKeep _ (hTake 8 4),
    hKeep _ (hTake 12 4), hKeep _ (hTake 16 4),
    hKeep _ (List.drop_subset 20 digits)]
  simp only [ne_eq, not_true_eq_false, decide_false, Bool.false_eq_true,
    if_false]
  have hJoin : ∀ k l, (digits.drop k).take l ++ digits.drop (k + l)
      = digits.drop k := fun k l => by
    rw [← List.drop_drop, List.take_append_drop]
  simp only [List.append_assoc]
  rw [hJoin 16 4, hJoin 12 4, hJoin 8 4, List.take_append_drop]

theorem uuidText_injective {a b : UUID} (h : a.text = b.text) : a = b := by
  have hDigits : hexText 32 a.val = hexText 32 b.val := by
    rw [← filter_uuidText, ← filter_uuidText, h]
  have hBound : (16 : Nat) ^ 32 = 2 ^ 128 := by norm_num
  exact Fin.ext (hexText_injective (a.isLt.trans_eq hBound.symm)
    (b.isLt.trans_eq hBound.symm) hDigits)

theorem hashHex_injective {a b : EventHash} (h : a.hex = b.hex) : a = b := by
  have hDigits : hexText 64 a.val = hexText 64 b.val :=
    String.ofList_injective h
  have hBound : (16 : Nat) ^ 64 = 2 ^ 256 := by norm_num
  exact Fin.ext (hexText_injective (a.isLt.trans_eq hBound.symm)
    (b.isLt.trans_eq hBound.symm) hDigits)

/-- A padded number in front is read back. -/
theorem paddedDecimal_append {width a b : Nat} {r r' : List Char}
    (ha : a < 10 ^ width) (hb : b < 10 ^ width)
    (h : paddedDecimal width a ++ r = paddedDecimal width b ++ r') :
    a = b ∧ r = r' := by
  obtain ⟨hDigits, hRest⟩ := List.append_inj h (by simp)
  exact ⟨paddedDecimal_injective ha hb hDigits, hRest⟩

theorem formatUtcMicroseconds_injective {a b : Instant}
    (h : formatUtcMicroseconds a = formatUtcMicroseconds b) : a = b := by
  unfold formatUtcMicroseconds at h
  have hText := String.ofList_injective h
  simp only [List.append_assoc, List.cons_append] at hText
  obtain ⟨⟨ya, ma, da, hya, hma, hda⟩, ua⟩ := a
  obtain ⟨⟨yb, mb, db, hyb, hmb, hdb⟩, ub⟩ := b
  have hDayA := Date.day_le ⟨ya, ma, da, hya, hma, hda⟩
  have hDayB := Date.day_le ⟨yb, mb, db, hyb, hmb, hdb⟩
  have hA := ua.isLt
  have hB := ub.isLt
  simp only at hText hDayA hDayB
  obtain ⟨hYear, hText⟩ := paddedDecimal_append (by omega) (by omega) hText
  obtain ⟨hMonth, hText⟩ := paddedDecimal_append (by omega) (by omega)
    (List.cons.inj hText).2
  obtain ⟨hDay, hText⟩ := paddedDecimal_append (by omega) (by omega)
    (List.cons.inj hText).2
  obtain ⟨hHour, hText⟩ := paddedDecimal_append (by omega) (by omega)
    (List.cons.inj hText).2
  obtain ⟨hMinute, hText⟩ := paddedDecimal_append (by omega) (by omega)
    (List.cons.inj hText).2
  obtain ⟨hSecond, hText⟩ := paddedDecimal_append (by omega) (by omega)
    (List.cons.inj hText).2
  obtain ⟨hMicros, -⟩ := paddedDecimal_append (by omega) (by omega)
    (List.cons.inj hText).2
  subst hYear hMonth hDay
  have hSame : ua = ub := Fin.ext (by omega)
  rw [hSame]

/-! ## The envelope -/

/-- The envelopes agree in every field that is hashed. -/
def EventHashEnvelope.SameHashed (a b : EventHashEnvelope) : Prop :=
  b = { a with globalSequence := b.globalSequence, recordedAt := b.recordedAt }

@[simp] theorem same_str {a b : String} :
    (JSONValue.str a).Same (.str b) ↔ a = b := by
  unfold JSONValue.Same
  simp [JSONValue.sortKeys]

@[simp] theorem sortKeys_str (s : String) :
    (JSONValue.str s).sortKeys = .str s := by simp [JSONValue.sortKeys]

@[simp] theorem sortKeys_nat (n : Nat) :
    (JSONValue.nat n).sortKeys = JSONValue.nat n := by
  simp [JSONValue.sortKeys, JSONValue.nat]

@[simp] theorem sortKeys_uuid (id : UUID) :
    (JSONValue.uuid id).sortKeys = JSONValue.uuid id := by
  simp [JSONValue.uuid]

@[simp] theorem sortKeys_optional_uuid (id : Option UUID) :
    (JSONValue.optional JSONValue.uuid id).sortKeys
      = JSONValue.optional JSONValue.uuid id := by
  cases id <;> simp [JSONValue.optional, JSONValue.sortKeys]

theorem uuid_injective {a b : UUID}
    (h : JSONValue.uuid a = JSONValue.uuid b) : a = b :=
  uuidText_injective (JSONValue.str.inj h)

theorem nat_injective {a b : Nat} (h : JSONValue.nat a = JSONValue.nat b) :
    a = b :=
  Int.ofNat.inj (JSONValue.int.inj h)

theorem optional_uuid_injective {a b : Option UUID}
    (h : JSONValue.optional JSONValue.uuid a
      = JSONValue.optional JSONValue.uuid b) : a = b := by
  cases a with
  | none =>
      cases b with
      | none => rfl
      | some b => exact nomatch h
  | some a =>
      cases b with
      | none => exact nomatch h
      | some b => rw [uuid_injective h]

/-- The keys of the envelope, in the order of the source. -/
def envelopeKeys : List String :=
  ["event_id", "book_id", "book_position", "stream_type", "stream_id",
    "stream_version", "event_type", "event_schema_version", "command_id",
    "actor_subject_id", "correlation_id", "causation_event_id", "effective_at",
    "previous_hash"]

theorem envelopeKeys_nodup : envelopeKeys.Nodup := by decide

/-- The value of an envelope determines its hashed fields. -/
theorem canonicalEnvelopeValue_injective {a b : EventHashEnvelope}
    (h : (canonicalEnvelopeValue a).Same (canonicalEnvelopeValue b)) :
    a.SameHashed b := by
  have hMembers := sortKeys_members h (by simp only [List.map_cons, List.map_nil])
    envelopeKeys_nodup
  simp only [List.map_cons, List.map_nil, sortKeys_str, sortKeys_nat,
    sortKeys_uuid, sortKeys_optional_uuid, List.cons.injEq, Prod.mk.injEq,
    true_and, and_true] at hMembers
  obtain ⟨hEvent, hBook, hPosition, hStreamType, hStream, hVersion, hType,
    hSchema, hCommand, hActor, hCorrelation, hCause, hEffective,
    hPrevious⟩ := hMembers
  obtain ⟨⟩ := a
  obtain ⟨⟩ := b
  simp only [EventHashEnvelope.SameHashed, EventHashEnvelope.mk.injEq]
  exact ⟨(uuid_injective hEvent).symm, (uuid_injective hBook).symm,
    (nat_injective hPosition).symm, trivial, (JSONValue.str.inj hStreamType).symm,
    (uuid_injective hStream).symm, (nat_injective hVersion).symm,
    (JSONValue.str.inj hType).symm, (nat_injective hSchema).symm,
    (uuid_injective hCommand).symm, (JSONValue.str.inj hActor).symm,
    (uuid_injective hCorrelation).symm, (optional_uuid_injective hCause).symm,
    (formatUtcMicroseconds_injective (JSONValue.str.inj hEffective)).symm, trivial,
    (hashHex_injective (JSONValue.str.inj hPrevious)).symm⟩

/-! ## The preimage -/

theorem hashPreimage_text (a b : String) :
    hashPreimage (a.toUTF8, b.toUTF8)
      = (String.ofList (hashDomainV1.toList ++ Char.ofNat 0 :: (a.toList
        ++ Char.ofNat 0 :: b.toList))).toUTF8 := by
  have hNul : (⟨#[0]⟩ : ByteArray) = (String.ofList [Char.ofNat 0]).toUTF8 := by
    decide
  have hText : String.ofList (hashDomainV1.toList ++ Char.ofNat 0 :: (a.toList
        ++ Char.ofNat 0 :: b.toList))
      = hashDomainV1 ++ String.ofList [Char.ofNat 0] ++ a
        ++ String.ofList [Char.ofNat 0] ++ b := by
    rw [← String.toList_inj]
    simp [String.toList_append]
  rw [hText, hashPreimage, hNul]
  rfl

/-- The bytes behind a hash are read back into the envelope and the payload. -/
theorem hashPreimage_injective {a b : EventHashEnvelope}
    {payload payload' : JSONValue} {x x' y y' : ByteArray}
    (hA : canonicalJsonBytes (canonicalEnvelopeValue a) = .ok x)
    (hPayload : canonicalJsonBytes payload = .ok y)
    (hB : canonicalJsonBytes (canonicalEnvelopeValue b) = .ok x')
    (hPayload' : canonicalJsonBytes payload' = .ok y')
    (h : hashPreimage (x, y) = hashPreimage (x', y')) :
    a.SameHashed b ∧ payload.Same payload' := by
  rw [canonicalJsonBytes_ok hA, canonicalJsonBytes_ok hB,
    canonicalJsonBytes_ok hPayload, canonicalJsonBytes_ok hPayload',
    hashPreimage_text, hashPreimage_text] at h
  have hText := String.ofList_injective (String.toByteArray_inj.1 h)
  simp only [String.toList_ofList] at hText
  have hParts := (List.cons.inj (List.append_cancel_left hText)).2
  obtain ⟨hEnvelope, hRest⟩ := append_inj_of_stop (nul_notMem_render _)
    (nul_notMem_render _) hParts
  exact ⟨canonicalEnvelopeValue_injective (render_injective hEnvelope),
    render_injective hRest⟩

/-- Canonical JSON is injective on what it accepts, up to the order of
dictionary keys, and so is what an event hash is taken of, on the hashed fields
of the envelope and the payload together. -/
theorem canonicalJson_and_hashPreimage_injective :
    (∀ (v w : JSONValue) (bytes bytes' : ByteArray),
      canonicalJsonBytes v = .ok bytes → canonicalJsonBytes w = .ok bytes' →
        (bytes = bytes' ↔ v.Same w))
      ∧ ∀ (a b : EventHashEnvelope) (payload payload' : JSONValue)
        (x x' y y' : ByteArray),
        canonicalJsonBytes (canonicalEnvelopeValue a) = .ok x →
        canonicalJsonBytes payload = .ok y →
        canonicalJsonBytes (canonicalEnvelopeValue b) = .ok x' →
        canonicalJsonBytes payload' = .ok y' →
        hashPreimage (x, y) = hashPreimage (x', y') →
          a.SameHashed b ∧ payload.Same payload' :=
  ⟨fun _ _ _ _ hV hW => canonicalJsonBytes_injective hV hW,
    fun _ _ _ _ _ _ _ _ hA hPayload hB hPayload' h =>
      hashPreimage_injective hA hPayload hB hPayload' h⟩

/-- A list of two digits is not a number of two digits. -/
theorem canonicalJson_injective_over_sample :
    ¬(JSONValue.dict [("a", .int 12)]).Same
      (.dict [("a", .list [.int 1, .int 2])]) := by
  intro h
  have hBytes := (canonicalJson_and_hashPreimage_injective.1
    (.dict [("a", .int 12)]) (.dict [("a", .list [.int 1, .int 2])])
    (String.ofList (render (.dict [("a", .int 12)]))).toUTF8
    (String.ofList (render (.dict [("a", .list [.int 1, .int 2])]))).toUTF8
    rfl rfl).2 h
  have hText := String.ofList_injective (String.toByteArray_inj.1 hBytes)
  exact absurd hText (by decide)

end TrackAnywhere.Ports
