import AlertConsole.Proofs.Json.Composition
import AlertConsole.Proofs.Json.CompactText
import AlertConsole.Proofs.Json.ExactIntegers
import AlertConsole.Proofs.Json.Reordering
set_option autoImplicit false

/-!
# Reading what was printed

The compact text of a value spells a tree, and if there are no doubles in the value and no object
repeats a key, that tree stands for the value again and is as deep (`Value.exists_printed`).  So
nothing of such a value is lost when it is printed: no string by its escapes, no integer at the
limits of its range, and no order of members.
-/

namespace AlertConsole.Json

/-! ## Strings -/

/-- The digit that the printer writes is one that the reader knows. -/
theorem exists_digit_byte {n : Nat} (h : n < 16) :
    ∃ b, String.utf8EncodeChar (hexDigit n) = [b] ∧ Byte.hexDigit? b = some n := by
  have hdigits : ∀ n < 16, String.utf8EncodeChar (hexDigit n) =
      [UInt8.ofNat (hexDigit n).toNat] ∧
      Byte.hexDigit? (UInt8.ofNat (hexDigit n).toNat) = some n := by decide
  exact ⟨_, hdigits n h⟩

/-- What is printed for a character is a spelling of it. -/
theorem spellsChar_escape (c : Char) : SpellsChar (Utf8.bytes (escape c)) c := by
  unfold escape
  -- the escapes that are a letter behind a backslash, then those by number, then the rest
  iterate 7 (split; · subst c; exact SpellsChar.short (by decide))
  split
  · rename_i hcontrol
    obtain ⟨a, ha, hhigh⟩ := exists_digit_byte (show c.toNat / 16 < 16 by omega)
    obtain ⟨b, hb, hlow⟩ := exists_digit_byte (Nat.mod_lt c.toNat (show 16 > 0 by decide))
    have hzero : Byte.hexDigit? Byte.zero = some 0 := rfl
    have hunit := SpellsUnit.mk hzero hzero hhigh hlow
    rw [show 0 * 0x1000 + 0 * 0x100 + c.toNat / 16 * 0x10 + c.toNat % 16 = c.toNat by omega]
      at hunit
    have hchar := SpellsChar.unit hunit
    rw [Utf8.bytes, String.toList_ofList]
    simp only [Utf8.encode_cons, Utf8.encode_nil, ha, hb]
    exact hchar
  · rename_i hquote hbackslash _ _ _ _ _ hcontrol
    have hchar := SpellsChar.raw (Nat.le_of_not_lt hcontrol) hquote hbackslash
    rw [Utf8.bytes, String.toList_singleton, Utf8.encode_cons, Utf8.encode_nil, List.append_nil]
    exact hchar

theorem spellsChars_escape (cs : List Char) :
    SpellsChars (Utf8.encode (cs.flatMap fun c => (escape c).toList)) cs := by
  induction cs with
  | nil => exact .nil
  | cons c cs ih =>
    rw [List.flatMap_cons, Utf8.encode_append]
    exact .cons (spellsChar_escape c) ih

/-- A string in quotes, with its escapes, is a spelling of that string. -/
theorem spellsString_quotedText (s : String) : SpellsString (Utf8.bytes (quotedText s)) s := by
  have hencode : Utf8.bytes (quotedText s) = Byte.quote ::
      (Utf8.encode (s.toList.flatMap fun c => (escape c).toList) ++ [Byte.quote]) := by
    rw [Utf8.bytes, toList_quotedText, Utf8.encode_cons, Utf8.encode_append]
    rfl
  rw [hencode]
  exact .mk (spellsChars_escape s.toList)

/-! ## Arrays and objects -/

theorem encode_intercalate (sep : List Char) (parts : List (List Char)) :
    Utf8.encode (sep.intercalate parts) =
      (Utf8.encode sep).intercalate (parts.map Utf8.encode) := by
  induction parts with
  | nil => rfl
  | cons part parts ih =>
    cases parts with
    | nil => simp only [List.map_cons, List.map_nil, List.intercalate_singleton]
    | cons next parts =>
      rw [List.intercalate_cons_cons, Utf8.encode_append, Utf8.encode_append, ih]
      simp only [List.map_cons, List.intercalate_cons_cons]

/-- The bytes of parts with commas between them and one mark on each side. -/
theorem bytes_enclosed {s : String} {left right : Char} {parts : List (List Char)}
    (hs : s.toList = left :: ([','].intercalate parts ++ [right])) :
    Utf8.bytes s = String.utf8EncodeChar left ++
      ([Byte.comma].intercalate (parts.map Utf8.encode) ++ String.utf8EncodeChar right) := by
  have hcomma : Utf8.encode [','] = [Byte.comma] := rfl
  rw [Utf8.bytes, hs, Utf8.encode_cons, Utf8.encode_append, encode_intercalate, hcomma,
    Utf8.encode_cons, Utf8.encode_nil, List.append_nil]

/-- Members with commas between them, in braces, are an object. -/
theorem spells_object_intercalate {texts : List (List UInt8)} {ms : List (String × Tree)}
    (h : List.Forall₂ (SpellsMember Spells) texts ms) :
    Spells (Byte.openBrace :: ([Byte.comma].intercalate texts ++ [Byte.closeBrace]))
      (.object ms) := by
  cases h with
  | nil => exact .emptyObject blanks_nil
  | cons hx hxs => exact .object (listed_intercalate (.cons hx hxs) (List.cons_ne_nil _ _))

/-! ## Values without doubles -/

/-- Every number in a value is an integer. -/
inductive Value.NoDoubles : Value → Prop where
  | null : NoDoubles .null
  | bool (b : Bool) : NoDoubles (.bool b)
  | integer {i : Int} (inRange : -0x8000000000000000 ≤ i ∧ i < 0x10000000000000000) :
      NoDoubles (.number (.integer i inRange))
  | string (s : String) : NoDoubles (.string s)
  | array {vs : List Value} : (∀ v ∈ vs, NoDoubles v) → NoDoubles (.array vs)
  | object {ms : List (String × Value)} : (∀ m ∈ ms, NoDoubles m.2) → NoDoubles (.object ms)

theorem itemsDepth_eq {ts : List Tree} {vs : List Value}
    (h : List.Forall₂ (fun t v => t.depth = v.depth) ts vs) : itemsDepth ts = valuesDepth vs := by
  induction h with
  | nil => rfl
  | cons htv _ ih => rw [itemsDepth, valuesDepth, htv, ih]

theorem membersDepth_eq {ms : List (String × Tree)} {ns : List (String × Value)}
    (h : List.Forall₂ (Keyed fun t v => t.depth = v.depth) ms ns) :
    membersDepth ms = fieldsDepth ns := by
  induction h with
  | nil => rfl
  | @cons m n _ _ hmn _ ih =>
    obtain ⟨key, t⟩ := m
    obtain ⟨key', v⟩ := n
    rw [membersDepth, fieldsDepth, hmn.2, ih]

/-- A value is printed as a tree that stands for it again and is as deep. -/
structure Printed (v : Value) (t : Tree) : Prop where
  spelled : Spells (Utf8.bytes v.text) t
  standsFor : t.StandsFor v
  depth_eq : t.depth = v.depth

theorem printed_integer {i : Int}
    (inRange : -0x8000000000000000 ≤ i ∧ i < 0x10000000000000000) :
    Printed (.number (.integer i inRange)) (.number (integerLiteral i)) where
  spelled := by
    rw [Value.text, Value.append, String.empty_append]
    exact .number (spellsLiteral_integer i)
  standsFor := standsFor_number_iff.mpr ⟨_, rfl, number_integerLiteral inRange⟩
  depth_eq := rfl

theorem printed_array {vs : List Value} {ts : List Tree} (h : List.Forall₂ Printed vs ts) :
    Printed (.array vs) (.array ts) where
  spelled := by
    have htexts : List.Forall₂ SpellsText (vs.map fun v => Utf8.bytes v.text) ts :=
      List.forall₂_map_left_iff.mpr (h.imp fun v t hvt => Padded.bare hvt.spelled)
    have hspells := spells_array_intercalate htexts
    rw [bytes_enclosed (toList_text_array vs), List.map_map]
    exact hspells
  standsFor := standsFor_array_iff.mpr
    ⟨vs, rfl, .flip (h.imp fun _ _ hvt => hvt.standsFor)⟩
  depth_eq := congrArg (· + 1) (itemsDepth_eq (.flip (h.imp fun _ _ hvt => hvt.depth_eq)))

/-- The text of a member is its key, a colon and the text of its value. -/
theorem spellsMember_memberText {m : String × Value} {t : Tree}
    (h : Spells (Utf8.bytes m.2.text) t) :
    SpellsMember Spells (Utf8.bytes (memberText m)) (m.1, t) := by
  have hmember := SpellsMember.mk (Padded.bare (spellsString_quotedText m.1)) (Padded.bare h)
  rw [memberText, Utf8.bytes, String.toList_append, String.toList_append, List.append_assoc,
    Utf8.encode_append, Utf8.encode_append]
  exact hmember

theorem printed_object {ms : Members} {ts : List (String × Tree)} (hkeys : ms.keys.Nodup)
    (h : List.Forall₂ (Keyed Printed) ms ts) : Printed (.object ms) (.object ts) where
  spelled := by
    have htexts : List.Forall₂ (SpellsMember Spells)
        (ms.map fun m => Utf8.bytes (memberText m)) ts := by
      refine List.forall₂_map_left_iff.mpr (h.imp fun m n hmn => ?_)
      obtain ⟨key, t⟩ := n
      obtain ⟨hkey, hprinted⟩ := hmn
      dsimp only at hkey hprinted
      rw [← hkey]
      exact spellsMember_memberText hprinted.spelled
    have hspells := spells_object_intercalate htexts
    rw [bytes_enclosed (toList_text_object ms), List.map_map]
    exact hspells
  standsFor := by
    refine standsFor_object_iff.mpr ⟨ms, ?_, ?_⟩
    · rw [Members.ofList_of_nodup hkeys]
    · exact .flip (h.imp fun _ _ hmn => ⟨hmn.1.symm, hmn.2.standsFor⟩)
  depth_eq := congrArg (· + 1)
    (membersDepth_eq (.flip (h.imp fun _ _ hmn => ⟨hmn.1.symm, hmn.2.depth_eq⟩)))

/-- If each of some things is related to something, they are all together. -/
theorem exists_forall₂ {α β : Type} {R : α → β → Prop} {xs : List α}
    (h : ∀ x ∈ xs, ∃ y, R x y) : ∃ ys, List.Forall₂ R xs ys := by
  induction xs with
  | nil => exact ⟨[], .nil⟩
  | cons x xs ih =>
    obtain ⟨⟨y, hy⟩, hxs⟩ := List.forall_mem_cons.mp h
    obtain ⟨ys, hys⟩ := ih hxs
    exact ⟨y :: ys, .cons hy hys⟩

/-- The compact text of a value without doubles and without repeated keys spells a tree that stands
for that value. -/
theorem Value.exists_printed {v : Value} (hdoubles : v.NoDoubles) (hkeys : v.DistinctKeys) :
    ∃ t, Printed v t := by
  induction v using Value.inductionOn with
  | null => exact ⟨.null, .nullWord, rfl, rfl⟩
  | bool b =>
    cases b with
    | false => exact ⟨.bool false, .falseWord, rfl, rfl⟩
    | true => exact ⟨.bool true, .trueWord, rfl, rfl⟩
  | number n =>
    obtain _ | _ | inRange := hdoubles
    exact ⟨_, printed_integer inRange⟩
  | string s => exact ⟨.string s, .string (spellsString_quotedText s), rfl, rfl⟩
  | array vs ih =>
    obtain _ | _ | _ | _ | hitems := hdoubles
    have hdistinct := distinctKeys_array_iff.mp hkeys
    obtain ⟨ts, hts⟩ := exists_forall₂ fun v hv => ih v hv (hitems v hv) (hdistinct v hv)
    exact ⟨.array ts, printed_array hts⟩
  | object ms ih =>
    obtain _ | _ | _ | _ | _ | hmembers := hdoubles
    obtain ⟨hnodup, hdistinct⟩ := distinctKeys_object_iff.mp hkeys
    have hmember (m : String × Value) (hm : m ∈ ms) : ∃ n, Keyed Printed m n := by
      obtain ⟨t, ht⟩ := ih m hm (hmembers m hm) (hdistinct m hm)
      exact ⟨(m.1, t), rfl, ht⟩
    obtain ⟨ts, hts⟩ := exists_forall₂ hmember
    exact ⟨.object ts, printed_object hnodup hts⟩

/-- What is printed as a tree that is not too deep is read back. -/
theorem Printed.accepted {v : Value} {t : Tree} (h : Printed v t) (hdepth : v.depth ≤ 127) :
    Accepted (Utf8.bytes v.text) t where
  spelled := .bare h.spelled
  shallow := by
    rw [h.depth_eq]
    exact hdepth
  inRange := h.standsFor.inRange

/-! ## Other spellings -/

/-- A tree that repeats no key is as deep as its value.  One that repeats a key may be deeper, in a
value that is written over. -/
theorem Tree.DistinctKeys.depth_eq {t : Tree} {v : Value} (h : t.DistinctKeys)
    (hv : t.StandsFor v) : t.depth = v.depth := by
  induction t using Tree.inductionOn generalizing v with
  | null => obtain rfl := Option.some.inj hv; rfl
  | bool b => obtain rfl := Option.some.inj hv; rfl
  | string s => obtain rfl := Option.some.inj hv; rfl
  | number l =>
    obtain ⟨n, rfl, -⟩ := standsFor_number_iff.mp hv
    rfl
  | array ts ih =>
    obtain ⟨vs, rfl, hvs⟩ := standsFor_array_iff.mp hv
    have hts := Json.distinctKeys_array_iff.mp h
    have hall : ∀ t ∈ ts, ∀ v, t.StandsFor v → t.depth = v.depth := by
      intro t ht v hv
      exact ih t ht (hts t ht) hv
    have hdepths := (List.forall₂_and_left _ _).mpr ⟨hall, hvs⟩
    exact congrArg (· + 1) (itemsDepth_eq (hdepths.imp fun _ _ htv => htv.1 _ htv.2))
  | object ms ih =>
    obtain ⟨written, rfl, hms⟩ := standsFor_object_iff.mp hv
    obtain ⟨hnodup, hdistinct⟩ := Json.distinctKeys_object_iff.mp h
    have hkeys : (Members.keys written).Nodup := by
      rw [Members.keys, ← (forall₂_keyed_iff.mp hms).1]
      exact hnodup
    have hall : ∀ m ∈ ms, ∀ v, m.2.StandsFor v → m.2.depth = v.depth := by
      intro m hm v hv
      exact ih m hm (hdistinct m hm) hv
    have hdepths := (List.forall₂_and_left _ _).mpr ⟨hall, hms⟩
    rw [Members.ofList_of_nodup hkeys]
    exact congrArg (· + 1)
      (membersDepth_eq (hdepths.imp fun _ _ hmn => ⟨hmn.2.1, hmn.1 _ hmn.2.2⟩))

end AlertConsole.Json
