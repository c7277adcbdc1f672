import TrackAnywhere.Ports.CanonicalJson
import TrackAnywhere.Verified.UniqueReading
import Mathlib

/-!
# Canonical JSON is read in one way only

Two values with the same canonical text are the same value, up to the order in
which the keys of their dictionaries were inserted: `sortKeys` puts the members
of every dictionary in the order of their keys, which is the order they are
rendered in.
-/

namespace TrackAnywhere.Ports

open TrackAnywhere.Verified.Checked
open TrackAnywhere.Verified.UniqueReading

/-! ## Values -/

/-- Induction on a value: the items of a list and the members of a dictionary
are parts of it. -/
theorem JSONValue.induction {motive : JSONValue → Prop}
    (null : motive .null) (bool : ∀ b, motive (.bool b))
    (int : ∀ n, motive (.int n)) (str : ∀ s, motive (.str s))
    (list : ∀ items, (∀ item ∈ items, motive item) → motive (.list items))
    (dict : ∀ items, (∀ member ∈ items, motive member.2) →
      motive (.dict items)) (value : JSONValue) : motive value :=
  match value with
  | .null => null
  | .bool b => bool b
  | .int n => int n
  | .str s => str s
  | .list items => list items fun item _ =>
      JSONValue.induction null bool int str list dict item
  | .dict items => dict items fun member _ =>
      JSONValue.induction null bool int str list dict member.2
termination_by sizeOf value
decreasing_by
  · rename_i hMem
    have := List.sizeOf_lt_of_mem hMem
    simp only [JSONValue.list.sizeOf_spec]
    omega
  · rename_i hMem
    have := List.sizeOf_lt_of_mem hMem
    obtain ⟨key, item⟩ := member
    simp only [JSONValue.dict.sizeOf_spec, Prod.mk.sizeOf_spec] at *
    omega

theorem renderList_eq (items : List JSONValue) :
    renderList items = items.map render := by
  induction items with
  | nil => rfl
  | cons item items ih => rw [renderList, ih, List.map_cons]

theorem renderDict_eq (items : List (String × JSONValue)) :
    renderDict items = items.map fun member => (member.1, render member.2) := by
  induction items with
  | nil => rfl
  | cons member items ih => rw [renderDict, ih, List.map_cons]

/-- The order of the keys. -/
def keyOrder {α : Type} (a b : String × α) : Prop := a.1 ≤ b.1

instance {α : Type} : DecidableRel (@keyOrder α) := fun a b =>
  inferInstanceAs (Decidable (a.1 ≤ b.1))

mutual

/-- The value with the members of its dictionaries in the order of their
keys. -/
def JSONValue.sortKeys : JSONValue → JSONValue
  | .list items => .list (sortKeysList items)
  | .dict items => .dict ((sortKeysDict items).insertionSort keyOrder)
  | value => value

def sortKeysList : List JSONValue → List JSONValue
  | [] => []
  | item :: items => item.sortKeys :: sortKeysList items

def sortKeysDict : List (String × JSONValue) → List (String × JSONValue)
  | [] => []
  | (key, item) :: items => (key, item.sortKeys) :: sortKeysDict items

end

theorem sortKeysList_eq (items : List JSONValue) :
    sortKeysList items = items.map JSONValue.sortKeys := by
  induction items with
  | nil => rfl
  | cons item items ih => rw [sortKeysList, ih, List.map_cons]

theorem sortKeysDict_eq (items : List (String × JSONValue)) :
    sortKeysDict items
      = items.map fun member => (member.1, member.2.sortKeys) := by
  induction items with
  | nil => rfl
  | cons member items ih => rw [sortKeysDict, ih, List.map_cons]

/-- Mapping the values of members does not change their order. -/
theorem insertionSort_mapValues {α β : Type} (f : α → β)
    (items : List (String × α)) :
    (items.map fun member => (member.1, f member.2)).insertionSort keyOrder
      = (items.insertionSort keyOrder).map fun member =>
        (member.1, f member.2) :=
  (List.map_insertionSort keyOrder keyOrder
    (fun member : String × α => (member.1, f member.2)) items
    fun _ _ _ _ => Iff.rfl).symm

/-! ## Scalars -/

/-- The letters of a number. -/
def isNumeral (c : Char) : Prop := c.isDigit = true ∨ c = '-'

/-- What may follow a value. -/
def Ends (r : List Char) : Prop := ∀ c ∈ r.head?, ¬isNumeral c

theorem ends_cons {c : Char} (h : ¬isNumeral c) (r : List Char) :
    Ends (c :: r) := by
  intro b hb
  rw [List.head?_cons] at hb
  exact Option.some.inj hb ▸ h

theorem renderInt_ofNat (n : Nat) : renderInt (Int.ofNat n) = Nat.toDigits 10 n :=
  Nat.toList_repr

theorem renderInt_negSucc (n : Nat) :
    renderInt (Int.negSucc n) = '-' :: Nat.toDigits 10 (n + 1) := by
  show ("-" ++ Nat.repr (n + 1)).toList = _
  rw [String.toList_append, Nat.toList_repr]
  rfl

theorem isNumeral_of_toDigits {n : Nat} {c : Char} (h : c ∈ Nat.toDigits 10 n) :
    isNumeral c :=
  .inl (Nat.isDigit_of_mem_toDigits (by decide) (by decide) h)

theorem isNumeral_of_renderInt {n : Int} {c : Char} (h : c ∈ renderInt n) :
    isNumeral c := by
  cases n with
  | ofNat n =>
      rw [renderInt_ofNat] at h
      exact isNumeral_of_toDigits h
  | negSucc n =>
      rw [renderInt_negSucc, List.mem_cons] at h
      obtain rfl | hDigits := h
      · exact .inr rfl
      · exact isNumeral_of_toDigits hDigits

theorem toDigits_injective {m n : Nat}
    (h : Nat.toDigits 10 m = Nat.toDigits 10 n) : m = n := by
  rw [← Nat.ofDigitChars_ten_toDigits (n := m), h,
    Nat.ofDigitChars_ten_toDigits]

/-- A sign is not a digit. -/
theorem minus_notMem_toDigits (n : Nat) : '-' ∉ Nat.toDigits 10 n := by
  intro h
  have hDigit : '-'.isDigit = true :=
    Nat.isDigit_of_mem_toDigits (by decide) (by decide) h
  exact absurd hDigit (by decide)

theorem renderInt_injective {a b : Int} (h : renderInt a = renderInt b) :
    a = b := by
  cases a with
  | ofNat m =>
      cases b with
      | ofNat n =>
          rw [renderInt_ofNat, renderInt_ofNat] at h
          rw [toDigits_injective h]
      | negSucc n =>
          rw [renderInt_ofNat, renderInt_negSucc] at h
          exact absurd (h ▸ List.mem_cons_self) (minus_notMem_toDigits m)
  | negSucc m =>
      cases b with
      | ofNat n =>
          rw [renderInt_ofNat, renderInt_negSucc] at h
          exact absurd (h ▸ List.mem_cons_self) (minus_notMem_toDigits n)
      | negSucc n =>
          rw [renderInt_negSucc, renderInt_negSucc] at h
          have hDigits := toDigits_injective (List.cons.inj h).2
          rw [Nat.succ.inj hDigits]

theorem renderInt_ne_nil (n : Int) : renderInt n ≠ [] := by
  cases n with
  | ofNat n =>
      rw [renderInt_ofNat]
      exact Nat.toDigits_ne_nil
  | negSucc n =>
      rw [renderInt_negSucc]
      exact List.cons_ne_nil _ _

/-- The character an escape stands for, and what comes behind it. -/
def unescape : List Char → Option (Char × List Char)
  | '\\' :: 'n' :: r => some ('\n', r)
  | '\\' :: 'r' :: r => some ('\r', r)
  | '\\' :: 't' :: r => some ('\t', r)
  | '\\' :: 'f' :: r => some (Char.ofNat 12, r)
  | '\\' :: 'b' :: r => some (Char.ofNat 8, r)
  | '\\' :: 'u' :: '0' :: '0' :: a :: b :: r =>
      (((List.range 32).find? fun n => hexText 4 n = ['0', '0', a, b]).map
        Char.ofNat).map fun c => (c, r)
  | '\\' :: c :: r => some (c, r)
  | c :: r => some (c, r)
  | [] => none

theorem unescape_escapeChar (c : Char) (r : List Char) :
    unescape (escapeChar c ++ r) = some (c, r) := by
  unfold escapeChar
  split_ifs with hQuote hSlash hN hR hT hF hB hSmall
  · subst hQuote
    rfl
  · subst hSlash
    rfl
  · subst hN
    rfl
  · subst hR
    rfl
  · subst hT
    rfl
  · have : c = Char.ofNat 12 := by rw [← hF, Char.ofNat_toNat]
    subst this
    rfl
  · have : c = Char.ofNat 8 := by rw [← hB, Char.ofNat_toNat]
    subst this
    rfl
  · have hChar : c = Char.ofNat c.toNat := (Char.ofNat_toNat c).symm
    generalize c.toNat = n at hSmall hChar
    subst hChar
    interval_cases n <;> rfl
  · rw [List.singleton_append]
    unfold unescape
    split <;> simp_all

theorem escapeChar_cons (c : Char) :
    ∃ b rest, escapeChar c = b :: rest ∧ b ≠ '"' := by
  unfold escapeChar
  split_ifs with hQuote
  all_goals first
    | exact ⟨_, _, rfl, by decide⟩
    | exact ⟨_, _, rfl, hQuote⟩

/-- Two escaped characters that start alike are the same. -/
theorem escapeChar_inj {c c' : Char} {r r' : List Char}
    (h : escapeChar c ++ r = escapeChar c' ++ r') : c = c' ∧ r = r' := by
  have hRead := congrArg unescape h
  rw [unescape_escapeChar, unescape_escapeChar] at hRead
  exact Prod.mk.inj (Option.some.inj hRead)

/-- The closing quote does not start an escaped character. -/
theorem quote_ne_escaped {c : Char} {cs r r' : List Char} :
    '"' :: r ≠ (c :: cs).flatMap escapeChar ++ '"' :: r' := by
  obtain ⟨b, rest, hText, hNe⟩ := escapeChar_cons c
  rw [List.flatMap_cons, hText]
  exact fun h => hNe (List.cons.inj h).1.symm

theorem escaped_reads {cs cs' r r' : List Char}
    (h : cs.flatMap escapeChar ++ '"' :: r
      = cs'.flatMap escapeChar ++ '"' :: r') : cs = cs' ∧ r = r' := by
  induction cs generalizing cs' with
  | nil =>
      cases cs' with
      | nil => exact ⟨rfl, (List.cons.inj h).2⟩
      | cons c' cs' => exact absurd h quote_ne_escaped
  | cons c cs ih =>
      cases cs' with
      | nil => exact absurd h.symm quote_ne_escaped
      | cons c' cs' =>
          rw [List.flatMap_cons, List.flatMap_cons, List.append_assoc,
            List.append_assoc] at h
          obtain ⟨rfl, hRest⟩ := escapeChar_inj h
          obtain ⟨rfl, hEnd⟩ := ih hRest
          exact ⟨rfl, hEnd⟩

theorem renderText_reads {s s' : String} {r r' : List Char}
    (h : renderText s ++ r = renderText s' ++ r') : s = s' ∧ r = r' := by
  unfold renderText at h
  simp only [List.cons_append, List.append_assoc, List.nil_append] at h
  obtain ⟨hChars, hEnd⟩ := escaped_reads (List.cons.inj h).2
  exact ⟨String.toList_inj.1 hChars, hEnd⟩

/-! ## Values, by their first letter -/

/-- The constructors. -/
def JSONValue.kind : JSONValue → Nat
  | .null => 0
  | .bool true => 1
  | .bool false => 2
  | .str _ => 3
  | .list _ => 4
  | .dict _ => 5
  | .int _ => 6

/-- The constructor a text starts with. -/
def leadingKind (c : Char) : Nat :=
  if c = 'n' then 0
  else if c = 't' then 1
  else if c = 'f' then 2
  else if c = '"' then 3
  else if c = '[' then 4
  else if c = '\x7b' then 5
  else 6

theorem leadingKind_numeral {c : Char} (h : isNumeral c) : leadingKind c = 6 := by
  unfold leadingKind
  split_ifs with hN hT hF hQ hL hD
  all_goals first
    | rfl
    | (subst_vars; exact absurd h (by unfold isNumeral; decide))

/-- The first letter of a value tells its constructor. -/
theorem render_cons (value : JSONValue) :
    ∃ c rest, render value = c :: rest ∧ leadingKind c = value.kind := by
  cases value with
  | null => exact ⟨'n', "ull".toList, rfl, rfl⟩
  | bool b =>
      cases b with
      | true => exact ⟨'t', "rue".toList, rfl, rfl⟩
      | false => exact ⟨'f', "alse".toList, rfl, rfl⟩
  | int n =>
      rw [render]
      cases hText : renderInt n with
      | nil => exact absurd hText (renderInt_ne_nil n)
      | cons c rest =>
          refine ⟨c, rest, rfl, leadingKind_numeral ?_⟩
          exact isNumeral_of_renderInt (hText ▸ List.mem_cons_self)
  | str s => exact ⟨'"', _, by rw [render]; rfl, rfl⟩
  | list items => exact ⟨'[', _, by rw [render]; rfl, rfl⟩
  | dict items => exact ⟨'\x7b', _, by rw [render]; rfl, rfl⟩

/-- Texts that start alike are of values with the same constructor. -/
theorem kind_eq_of_render {v w : JSONValue} {r r' : List Char}
    (h : render v ++ r = render w ++ r') : v.kind = w.kind := by
  obtain ⟨c, rest, hV, hKind⟩ := render_cons v
  obtain ⟨c', rest', hW, hKind'⟩ := render_cons w
  rw [hV, hW] at h
  rw [← hKind, ← hKind', (List.cons.inj h).1]

/-! ## Reading a value back -/

/-- The values agree up to the order of keys. -/
def JSONValue.Same (v w : JSONValue) : Prop := v.sortKeys = w.sortKeys

/-- A value is read back in one way. -/
abbrev RendersOnce (v : JSONValue) : Prop := Reads render JSONValue.Same Ends v

/-- The text of a member of a dictionary. -/
def renderMember (member : String × JSONValue) : List Char :=
  renderText member.1 ++ ':' :: render member.2

/-- The members agree. -/
def SameMember (a b : String × JSONValue) : Prop := a.1 = b.1 ∧ a.2.Same b.2

theorem renderMember_reads {member : String × JSONValue}
    (h : RendersOnce member.2) : Reads renderMember SameMember Ends member := by
  intro other r r' hR hR' hText
  unfold renderMember at hText
  rw [List.append_assoc, List.append_assoc] at hText
  obtain ⟨hKey, hRest⟩ := renderText_reads hText
  obtain ⟨hSame, hEnd⟩ := h other.2 r r' hR hR' (List.cons.inj hRest).2
  exact ⟨⟨hKey, hSame⟩, hEnd⟩

theorem render_dict (items : List (String × JSONValue)) :
    render (.dict items) = '\x7b' :: List.intercalate [',']
      ((items.insertionSort keyOrder).map renderMember) ++ ['\x7d'] := by
  rw [render, renderDict_eq]
  unfold renderMembers renderItems
  have hSort : ((items.map fun member => (member.1, render member.2)).insertionSort
        fun a b => a.1 ≤ b.1)
      = (items.insertionSort keyOrder).map fun member =>
        (member.1, render member.2) := insertionSort_mapValues render items
  rw [hSort, List.map_map]
  rfl

theorem render_list (items : List JSONValue) :
    render (.list items)
      = '[' :: List.intercalate [','] (items.map render) ++ [']'] := by
  rw [render, renderList_eq]
  rfl

private theorem ends_comma (r : List Char) : Ends (',' :: r) :=
  ends_cons (by unfold isNumeral; decide) r

/-- Members that agree are the same once their values are sorted. -/
theorem map_sortKeys_of_sameMember {xs ys : List (String × JSONValue)}
    (h : List.Forall₂ SameMember xs ys) :
    (xs.map fun member => (member.1, member.2.sortKeys))
      = ys.map fun member => (member.1, member.2.sortKeys) := by
  induction h with
  | nil => rfl
  | cons hSame _ ih =>
      rw [List.map_cons, List.map_cons, ih, hSame.1, hSame.2]

theorem map_sortKeys_of_same {xs ys : List JSONValue}
    (h : List.Forall₂ JSONValue.Same xs ys) :
    xs.map JSONValue.sortKeys = ys.map JSONValue.sortKeys := by
  induction h with
  | nil => rfl
  | cons hSame _ ih => rw [List.map_cons, List.map_cons, ih, hSame]

/-- Whatever follows it, the text of a value is of no other value. -/
theorem render_reads (v : JSONValue) : RendersOnce v := by
  induction v using JSONValue.induction with
  | null =>
      intro w r r' _ _ h
      have hKind := kind_eq_of_render h
      cases w with
      | null => exact ⟨rfl, List.append_cancel_left h⟩
      | bool b => cases b <;> exact nomatch hKind
      | _ => exact nomatch hKind
  | bool b =>
      intro w r r' _ _ h
      have hKind := kind_eq_of_render h
      cases w with
      | bool b' =>
          have hSame : b = b' := by
            cases b <;> cases b' <;> first | rfl | exact nomatch hKind
          subst hSame
          exact ⟨rfl, List.append_cancel_left h⟩
      | _ => cases b <;> exact nomatch hKind
  | int n =>
      intro w r r' hR hR' h
      have hKind := kind_eq_of_render h
      cases w with
      | int n' =>
          rw [render, render] at h
          obtain ⟨hText, hEnd⟩ := append_inj_of_class
            (fun _ hc => isNumeral_of_renderInt hc)
            (fun _ hc => isNumeral_of_renderInt hc) hR hR' h
          exact ⟨by rw [renderInt_injective hText]; rfl, hEnd⟩
      | bool b => cases b <;> exact nomatch hKind
      | _ => exact nomatch hKind
  | str s =>
      intro w r r' _ _ h
      have hKind := kind_eq_of_render h
      cases w with
      | str s' =>
          rw [render, render] at h
          obtain ⟨rfl, hEnd⟩ := renderText_reads h
          exact ⟨rfl, hEnd⟩
      | bool b => cases b <;> exact nomatch hKind
      | _ => exact nomatch hKind
  | list items ih =>
      intro w r r' _ _ h
      have hKind := kind_eq_of_render h
      cases w with
      | list items' =>
          rw [render_list, render_list, List.cons_append, List.cons_append,
            List.append_assoc, List.append_assoc] at h
          obtain ⟨hItems, hEnd⟩ := separated_reads ends_comma
            (ends_cons (c := ']') (by unfold isNumeral; decide)) (by decide)
            (fun x => by
              obtain ⟨c, rest, hText, hFirst⟩ := render_cons x
              refine ⟨c, rest, hText, ?_⟩
              rintro rfl
              cases x with
              | bool b => cases b <;> exact nomatch hFirst
              | int n =>
                  rw [render] at hText
                  have hDigit := isNumeral_of_renderInt
                    (hText ▸ List.mem_cons_self : ']' ∈ renderInt n)
                  exact absurd hDigit (by unfold isNumeral; decide)
              | _ => exact nomatch hFirst)
            ih (List.cons.inj h).2
          refine ⟨?_, hEnd⟩
          show JSONValue.sortKeys _ = JSONValue.sortKeys _
          rw [JSONValue.sortKeys, JSONValue.sortKeys, sortKeysList_eq,
            sortKeysList_eq, map_sortKeys_of_same hItems]
      | bool b => cases b <;> exact nomatch hKind
      | _ => exact nomatch hKind
  | dict items ih =>
      intro w r r' _ _ h
      have hKind := kind_eq_of_render h
      cases w with
      | dict items' =>
          rw [render_dict, render_dict, List.cons_append, List.cons_append,
            List.append_assoc, List.append_assoc] at h
          obtain ⟨hMembers, hEnd⟩ := separated_reads ends_comma
            (ends_cons (c := '\x7d') (by unfold isNumeral; decide)) (by decide)
            (fun x => ⟨'"', _, rfl, by decide⟩)
            (fun member hMember => renderMember_reads (ih member
              ((List.mem_insertionSort keyOrder).1 hMember)))
            (List.cons.inj h).2
          refine ⟨?_, hEnd⟩
          show JSONValue.sortKeys _ = JSONValue.sortKeys _
          rw [JSONValue.sortKeys, JSONValue.sortKeys, sortKeysDict_eq,
            sortKeysDict_eq, insertionSort_mapValues, insertionSort_mapValues,
            map_sortKeys_of_sameMember hMembers]
      | bool b => cases b <;> exact nomatch hKind
      | _ => exact nomatch hKind

/-- Equal texts are of equal values, up to the order of keys. -/
theorem render_injective {v w : JSONValue} (h : render v = render w) :
    v.Same w := by
  have hEnds : Ends [] := fun _ hc => nomatch hc
  exact (render_reads v w [] [] hEnds hEnds (by rw [h])).1

/-! ## The order of keys -/

/-- The members as they are rendered: in order, with their values sorted. -/
def sortedMembers (items : List (String × JSONValue)) :
    List (String × JSONValue) :=
  (items.insertionSort keyOrder).map fun member =>
    (member.1, member.2.sortKeys)

theorem sortKeys_dict (items : List (String × JSONValue)) :
    JSONValue.sortKeys (.dict items) = .dict (sortedMembers items) := by
  rw [JSONValue.sortKeys, sortKeysDict_eq, insertionSort_mapValues]
  rfl

theorem sortKeys_list (items : List JSONValue) :
    JSONValue.sortKeys (.list items) = .list (items.map JSONValue.sortKeys) := by
  rw [JSONValue.sortKeys, sortKeysList_eq]

instance {α : Type} : Std.Total (@keyOrder α) :=
  ⟨fun a b => le_total a.1 b.1⟩

instance {α : Type} : IsTrans (String × α) keyOrder :=
  ⟨fun _ _ _ hAB hBC => le_trans hAB hBC⟩

/-- A dictionary with the same members, inserted in another order, is the
same value. -/
theorem same_of_perm {items items' : List (String × JSONValue)}
    (hPerm : items.Perm items') (hDistinct : (items.map Prod.fst).Nodup) :
    (JSONValue.dict items).Same (.dict items') := by
  show JSONValue.sortKeys _ = JSONValue.sortKeys _
  have hSorted : items.insertionSort keyOrder
      = items'.insertionSort keyOrder := by
    have hPerms : (items.insertionSort keyOrder).Perm
        (items'.insertionSort keyOrder) :=
      (List.perm_insertionSort keyOrder items).trans
        (hPerm.trans (List.perm_insertionSort keyOrder items').symm)
    refine eq_of_perm_of_keys hPerms ?_ ?_
    · refine (hPerms.map Prod.fst).eq_of_pairwise
        (fun key key' _ _ (h : key ≤ key') => le_antisymm h) ?_ ?_
      · exact List.pairwise_map.2 (List.pairwise_insertionSort keyOrder items)
      · exact List.pairwise_map.2 (List.pairwise_insertionSort keyOrder items')
    · exact ((List.perm_insertionSort keyOrder items).map Prod.fst).nodup_iff.2
        hDistinct
  rw [sortKeys_dict, sortKeys_dict, sortedMembers, sortedMembers, hSorted]

/-- Dictionaries with the same keys in the same order that are the same value
have the same values under each key. -/
theorem sortKeys_members {items items' : List (String × JSONValue)}
    (h : (JSONValue.dict items).Same (.dict items'))
    (hKeys : items.map Prod.fst = items'.map Prod.fst)
    (hDistinct : (items.map Prod.fst).Nodup) :
    (items.map fun member => (member.1, member.2.sortKeys))
      = items'.map fun member => (member.1, member.2.sortKeys) := by
  have hSorted : sortedMembers items = sortedMembers items' := by
    have hValues : JSONValue.sortKeys (.dict items)
        = JSONValue.sortKeys (.dict items') := h
    rw [sortKeys_dict, sortKeys_dict] at hValues
    exact JSONValue.dict.inj hValues
  have hPerm : ∀ items : List (String × JSONValue), (sortedMembers items).Perm
      (items.map fun member => (member.1, member.2.sortKeys)) :=
    fun items => (List.perm_insertionSort keyOrder items).map _
  refine eq_of_perm_of_keys ((hPerm items).symm.trans (hSorted ▸ hPerm items'))
    ?_ ?_
  · rw [List.map_map, List.map_map]
    exact hKeys
  · rw [List.map_map]
    exact hDistinct

/-- A value renders like the same value with its keys sorted. -/
theorem render_sortKeys (v : JSONValue) : render v.sortKeys = render v := by
  induction v using JSONValue.induction with
  | list items ih =>
      rw [sortKeys_list, render_list, render_list, List.map_map]
      congr 3
      exact List.map_congr_left ih
  | dict items ih =>
      have hSorted : (sortedMembers items).insertionSort keyOrder
          = sortedMembers items := by
        refine List.Pairwise.insertionSort_eq ?_
        refine List.pairwise_map.2 ?_
        exact List.pairwise_insertionSort keyOrder items
      rw [sortKeys_dict, render_dict, render_dict, hSorted, sortedMembers,
        List.map_map]
      congr 3
      refine List.map_congr_left fun member hMember => ?_
      show renderText member.1 ++ ':' :: render member.2.sortKeys = _
      rw [ih member ((List.mem_insertionSort keyOrder).1 hMember)]
      rfl
  | _ => rfl

theorem render_eq_iff {v w : JSONValue} : render v = render w ↔ v.Same w := by
  constructor
  · exact render_injective
  · intro h
    rw [← render_sortKeys v, h, render_sortKeys w]

/-! ## Bytes -/

theorem canonicalJsonBytes_eq_ok {v : JSONValue} {bytes : ByteArray} :
    canonicalJsonBytes v = .ok bytes ↔
      proveJsonValue v = .ok () ∧ (String.ofList (render v)).toUTF8 = bytes := by
  unfold canonicalJsonBytes
  rw [bind_eq_ok]
  constructor
  · rintro ⟨_, hProved, hBytes⟩
    exact ⟨hProved, pure_eq_ok.1 hBytes⟩
  · rintro ⟨hProved, rfl⟩
    exact ⟨(), hProved, rfl⟩

theorem canonicalJsonBytes_ok {v : JSONValue} {bytes : ByteArray}
    (h : canonicalJsonBytes v = .ok bytes) :
    bytes = (String.ofList (render v)).toUTF8 :=
  (canonicalJsonBytes_eq_ok.1 h).2.symm

theorem render_of_bytes {v w : JSONValue}
    (h : (String.ofList (render v)).toUTF8 = (String.ofList (render w)).toUTF8) :
    render v = render w :=
  String.ofList_injective (String.toByteArray_inj.1 h)

/-- Accepted values have equal bytes exactly when they are the same, up to the
order of keys. -/
theorem canonicalJsonBytes_injective {v w : JSONValue} {a b : ByteArray}
    (hV : canonicalJsonBytes v = .ok a) (hW : canonicalJsonBytes w = .ok b) :
    a = b ↔ v.Same w := by
  rw [canonicalJsonBytes_ok hV, canonicalJsonBytes_ok hW, ← render_eq_iff]
  constructor
  · exact render_of_bytes
  · exact fun h => by rw [h]

/-- No text contains the separator of the hash. -/
theorem nul_notMem_render (v : JSONValue) : Char.ofNat 0 ∉ render v := by
  have hJoin : ∀ {α : Type} (text : α → List Char) (xs : List α),
      (∀ x ∈ xs, Char.ofNat 0 ∉ text x) →
        Char.ofNat 0 ∉ List.intercalate [','] (xs.map text) := by
    intro α text xs h
    induction xs with
    | nil => simp [List.intercalate]
    | cons x xs ih =>
        have hFirst := h x List.mem_cons_self
        have hRest := ih fun y hy => h y (List.mem_cons_of_mem _ hy)
        cases xs with
        | nil => simpa [List.intercalate] using hFirst
        | cons y xs =>
            rw [List.map_cons, List.map_cons] at *
            simp only [List.intercalate, List.intersperse, List.flatten_cons,
              List.mem_append, not_or] at *
            exact ⟨hFirst, by decide, hRest⟩
  have hText : ∀ s, Char.ofNat 0 ∉ renderText s := by
    intro s h
    unfold renderText at h
    simp only [List.mem_cons, List.mem_append, List.not_mem_nil, or_false] at h
    obtain (h | h) | h := h
    · exact absurd h (by decide)
    · obtain ⟨c, -, hChar⟩ := List.mem_flatMap.1 h
      unfold escapeChar at hChar
      split_ifs at hChar with hQ hS hN hR hT hF hB hSmall
      all_goals try (revert hChar; decide)
      · simp only [List.mem_cons] at hChar
        obtain hChar | hChar | hChar := hChar
        · exact absurd hChar (by decide)
        · exact absurd hChar (by decide)
        · generalize c.toNat = n at hSmall hChar
          interval_cases n <;> revert hChar <;> decide
      · rw [List.mem_singleton] at hChar
        exact hSmall (hChar ▸ by decide)
    · exact absurd h (by decide)
  induction v using JSONValue.induction with
  | null => decide
  | bool b => cases b <;> decide
  | int n =>
      rw [render]
      intro h
      exact absurd (isNumeral_of_renderInt h) (by unfold isNumeral; decide)
  | str s =>
      rw [render]
      exact hText s
  | list items ih =>
      rw [render_list]
      simp only [List.mem_cons, List.mem_append, List.not_mem_nil, or_false,
        not_or]
      exact ⟨⟨by decide, hJoin render items ih⟩, by decide⟩
  | dict items ih =>
      rw [render_dict]
      simp only [List.mem_cons, List.mem_append, List.not_mem_nil, or_false,
        not_or]
      refine ⟨⟨by decide, hJoin renderMember _ fun member hMember h => ?_⟩,
        by decide⟩
      unfold renderMember at h
      rw [List.mem_append, List.mem_cons] at h
      obtain h | h | h := h
      · exact hText _ h
      · exact absurd h (by decide)
      · exact ih member ((List.mem_insertionSort keyOrder).1 hMember) h

end TrackAnywhere.Ports
