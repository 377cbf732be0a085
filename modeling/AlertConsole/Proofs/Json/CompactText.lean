import AlertConsole.Json.Text
set_option autoImplicit false

/-!
# The compact text of a value

The printer appends to the text that is already there.  Here the same text is put together from the
texts of the parts (`toList_text_array`, `toList_text_object`), and with that what holds of all its
characters is shown by induction over values: none of them is below U+0020 (`Value.printable_text`).
-/

namespace AlertConsole.Json

/-! ## Induction over values -/

mutual

/-- How deep arrays and objects are nested in a value. -/
def Value.depth : Value → Nat
  | .array vs => valuesDepth vs + 1
  | .object ms => fieldsDepth ms + 1
  | _ => 0

/-- The greatest depth among some values. -/
def valuesDepth : List Value → Nat
  | [] => 0
  | v :: vs => max v.depth (valuesDepth vs)

/-- The greatest depth among the values of some members. -/
def fieldsDepth : List (String × Value) → Nat
  | [] => 0
  | (_, v) :: ms => max v.depth (fieldsDepth ms)

end

theorem valuesDepth_le_iff {d : Nat} {vs : List Value} :
    valuesDepth vs ≤ d ↔ ∀ v ∈ vs, v.depth ≤ d := by
  induction vs with
  | nil => simp [valuesDepth]
  | cons v vs ih => rw [valuesDepth, Nat.max_le, ih, List.forall_mem_cons]

theorem fieldsDepth_le_iff {d : Nat} {ms : List (String × Value)} :
    fieldsDepth ms ≤ d ↔ ∀ m ∈ ms, m.2.depth ≤ d := by
  induction ms with
  | nil => simp [fieldsDepth]
  | cons m ms ih => rw [fieldsDepth, Nat.max_le, ih, List.forall_mem_cons]

/-- Induction over values. -/
@[elab_as_elim]
theorem Value.inductionOn {P : Value → Prop} (v : Value) (null : P .null)
    (bool : ∀ b, P (.bool b)) (number : ∀ n, P (.number n)) (string : ∀ s, P (.string s))
    (array : ∀ vs : List Value, (∀ v ∈ vs, P v) → P (.array vs))
    (object : ∀ ms : List (String × Value), (∀ m ∈ ms, P m.2) → P (.object ms)) : P v := by
  induction hd : v.depth using Nat.strongRecOn generalizing v with
  | ind d ih =>
    cases v with
    | null => exact null
    | bool b => exact bool b
    | number n => exact number n
    | string s => exact string s
    | array vs =>
      refine array vs fun v hv => ih v.depth ?_ v rfl
      have hle : v.depth ≤ valuesDepth vs := valuesDepth_le_iff.mp (Nat.le_refl _) v hv
      rw [← hd, Value.depth]
      omega
    | object ms =>
      refine object ms fun m hm => ih m.2.depth ?_ m.2 rfl
      have hle : m.2.depth ≤ fieldsDepth ms := fieldsDepth_le_iff.mp (Nat.le_refl _) m hm
      rw [← hd, Value.depth]
      omega

/-! ## The text from its parts -/

/-- A string in quotes. -/
def quotedText (s : String) : String := appendQuoted "" s

/-- A member: its key in quotes, a colon and its value. -/
def memberText (m : String × Value) : String := quotedText m.1 ++ ":" ++ m.2.text

theorem toList_quotedText (s : String) :
    (quotedText s).toList = '"' :: (s.toList.flatMap (fun c => (escape c).toList) ++ ['"']) := by
  have hfold (cs : List Char) (out : String) :
      (cs.foldl (fun out c => out ++ escape c) out).toList =
        out.toList ++ cs.flatMap fun c => (escape c).toList := by
    induction cs generalizing out with
    | nil => simp
    | cons c cs ih => simp [ih]
  rw [quotedText, appendQuoted, String.toList_push, hfold]
  rfl

theorem toList_appendItems (v : Value) (vs : List Value) :
    v.text.toList ++ (appendItems "" vs).toList =
      [','].intercalate ((v :: vs).map fun v => v.text.toList) := by
  induction vs generalizing v with
  | nil => simp [appendItems]
  | cons w ws ih =>
    rw [appendItems, appendItems_eq, Value.append_eq, ← Value.text, String.toList_append,
      String.toList_append, List.append_assoc, ih]
    simp only [List.map_cons, List.intercalate_cons_cons, List.append_assoc]
    rfl

theorem toList_appendMembers (m : String × Value) (ms : List (String × Value)) :
    (memberText m).toList ++ (appendMembers "" ms).toList =
      [','].intercalate ((m :: ms).map fun m => (memberText m).toList) := by
  induction ms generalizing m with
  | nil => simp [appendMembers]
  | cons n ns ih =>
    obtain ⟨key, w⟩ := n
    have hstep : (appendMembers "" ((key, w) :: ns)) =
        "," ++ memberText (key, w) ++ appendMembers "" ns := by
      rw [appendMembers, appendMembers_eq, Value.append_eq, ← Value.text, appendQuoted_eq,
        memberText, quotedText, String.push_eq_append, String.push_eq_append]
      simp only [String.append_assoc, String.empty_append]
      rfl
    rw [hstep, String.toList_append, String.toList_append, List.append_assoc, ih]
    simp only [List.map_cons, List.intercalate_cons_cons, List.append_assoc]
    rfl

/-- The text of an array: the texts of its elements, with commas between them, in brackets. -/
theorem toList_text_array (vs : List Value) :
    (Value.array vs).text.toList =
      '[' :: ([','].intercalate (vs.map fun v => v.text.toList) ++ [']']) := by
  cases vs with
  | nil => rfl
  | cons v vs =>
    rw [Value.text, Value.append, appendItems_eq, Value.append_eq, ← Value.text,
      String.toList_push, String.toList_append, String.toList_append, ← toList_appendItems]
    simp only [List.append_assoc]
    rfl

/-- The text of an object: the texts of its members, with commas between them, in braces. -/
theorem toList_text_object (ms : Members) :
    (Value.object ms).text.toList =
      '\x7b' :: ([','].intercalate (ms.map fun m => (memberText m).toList) ++ ['\x7d']) := by
  cases ms with
  | nil => rfl
  | cons m ms =>
    obtain ⟨key, v⟩ := m
    have hfirst : v.append ((appendQuoted ("".push '\x7b') key).push ':') =
        "\x7b" ++ memberText (key, v) := by
      rw [Value.append_eq, ← Value.text, appendQuoted_eq, memberText, quotedText,
        String.push_eq_append]
      simp only [String.append_assoc]
      rfl
    rw [Value.text, Value.append, appendMembers_eq, hfirst, String.toList_push,
      String.toList_append, String.toList_append, ← toList_appendMembers]
    simp only [List.append_assoc]
    rfl

end AlertConsole.Json

namespace AlertConsole

/-! ## Characters below U+0020 -/

/-- No character of a text is below U+0020. -/
def Printable (s : String) : Prop := ∀ c ∈ s.toList, 0x20 ≤ c.toNat

instance (s : String) : Decidable (Printable s) :=
  List.decidableBAll (fun c : Char => 0x20 ≤ c.toNat) s.toList

@[simp] theorem printable_append_iff {s t : String} :
    Printable (s ++ t) ↔ Printable s ∧ Printable t := by
  simp [Printable, or_imp, forall_and]

theorem printable_ofList_iff {cs : List Char} :
    Printable (String.ofList cs) ↔ ∀ c ∈ cs, 0x20 ≤ c.toNat := by
  rw [Printable, String.toList_ofList]

theorem le_of_mem_toDigits {n : Nat} {c : Char} (h : c ∈ Nat.toDigits 10 n) : 0x20 ≤ c.toNat := by
  have hdigit := Nat.isDigit_of_mem_toDigits (by decide) (by decide) h
  rw [Char.isDigit, Bool.and_eq_true, decide_eq_true_eq, ge_iff_le, UInt32.le_iff_toNat_le]
    at hdigit
  exact Nat.le_trans (by decide) hdigit.1

theorem le_of_mem_zeros {n : Nat} {c : Char} (h : c ∈ List.replicate n '0') : 0x20 ≤ c.toNat := by
  rw [List.eq_of_mem_replicate h]
  decide

theorem printable_toString (n : Nat) : Printable (toString n) := by
  rw [Nat.toString_eq_ofList_toDigits, printable_ofList_iff]
  exact fun _ => le_of_mem_toDigits

theorem Decimal.printable_text (d : Decimal) : Printable d.text := by
  have hdigits : ∀ c ∈ Nat.toDigits 10 d.digits, 0x20 ≤ c.toNat := fun _ => le_of_mem_toDigits
  have htake (n : Nat) : Printable (String.ofList ((Nat.toDigits 10 d.digits).take n)) :=
    printable_ofList_iff.mpr fun c hc => hdigits c (List.mem_of_mem_take hc)
  have hdrop (n : Nat) : Printable (String.ofList ((Nat.toDigits 10 d.digits).drop n)) :=
    printable_ofList_iff.mpr fun c hc => hdigits c (List.mem_of_mem_drop hc)
  unfold text
  dsimp only
  split
  · split
    · refine printable_append_iff.mpr ⟨by decide, printable_ofList_iff.mpr ?_⟩
      exact List.forall_mem_append.mpr ⟨fun _ => le_of_mem_zeros, hdigits⟩
    · split
      · refine printable_append_iff.mpr ⟨printable_ofList_iff.mpr ?_, by decide⟩
        exact List.forall_mem_append.mpr ⟨hdigits, fun _ => le_of_mem_zeros⟩
      · simp only [printable_append_iff, htake, hdrop]
        decide
  · simp only [printable_append_iff]
    refine ⟨⟨⟨⟨htake 1, ?_⟩, by decide⟩, ?_⟩, printable_toString _⟩
    · split
      · decide
      · exact printable_append_iff.mpr ⟨by decide, hdrop 1⟩
    · split <;> decide

namespace Json

theorem Number.printable_intText (i : Int) : Printable (intText i) := by
  rw [intText, printable_append_iff, printable_ofList_iff]
  refine ⟨?_, fun _ => le_of_mem_toDigits⟩
  split <;> decide

theorem Number.printable_text (n : Number) : Printable n.text := by
  cases n with
  | integer i _ => exact printable_intText i
  | double x =>
    rw [text, Binary64.text, printable_append_iff]
    constructor
    · split <;> decide
    · split
      · decide
      · exact x.magnitude.shortest.printable_text

/-- Whatever the character, what stands for it in quotes has none below U+0020. -/
theorem printable_escape (c : Char) : Printable (escape c) := by
  have hdigit : ∀ n < 16, 0x20 ≤ (hexDigit n).toNat := by decide
  unfold escape
  -- the escapes that are a letter behind a backslash, then those by number, then the rest
  iterate 7 (split; · decide)
  split
  · rw [printable_ofList_iff]
    have hhigh := hdigit (c.toNat / 16) (by omega)
    have hlow := hdigit (c.toNat % 16) (by omega)
    simp [hhigh, hlow]
  · rw [String.singleton_eq_ofList, printable_ofList_iff]
    simpa using ‹¬ c.toNat < 0x20›

theorem printable_quotedText (s : String) : Printable (quotedText s) := by
  have hquote : 0x20 ≤ ('"' : Char).toNat := by decide
  rw [Printable, toList_quotedText, List.forall_mem_cons, List.forall_mem_append,
    List.forall_mem_singleton]
  refine ⟨hquote, fun c hc => ?_, hquote⟩
  obtain ⟨d, -, hd⟩ := List.mem_flatMap.mp hc
  exact printable_escape d c hd

/-- What holds of the separator and of all parts holds of the whole. -/
theorem forall_mem_intercalate {α : Type} {P : α → Prop} {sep : List α} {parts : List (List α)}
    (hsep : ∀ x ∈ sep, P x) (hparts : ∀ part ∈ parts, ∀ x ∈ part, P x) :
    ∀ x ∈ sep.intercalate parts, P x := by
  induction parts with
  | nil => simp
  | cons part parts ih =>
    obtain ⟨hpart, hparts⟩ := List.forall_mem_cons.mp hparts
    cases parts with
    | nil => rwa [List.intercalate_singleton]
    | cons next parts =>
      rw [List.intercalate_cons_cons, List.forall_mem_append, List.forall_mem_append]
      exact ⟨⟨hpart, hsep⟩, ih hparts⟩

/-- Parts with commas between them and one mark on each side. -/
theorem printable_enclosed {s : String} {left right : Char} {parts : List (List Char)}
    (hs : s.toList = left :: ([','].intercalate parts ++ [right])) (hleft : 0x20 ≤ left.toNat)
    (hright : 0x20 ≤ right.toNat) (hparts : ∀ part ∈ parts, ∀ c ∈ part, 0x20 ≤ c.toNat) :
    Printable s := by
  have hcomma : ∀ c ∈ [','], 0x20 ≤ c.toNat := List.forall_mem_singleton.mpr (by decide)
  rw [Printable, hs, List.forall_mem_cons, List.forall_mem_append, List.forall_mem_singleton]
  exact ⟨hleft, forall_mem_intercalate hcomma hparts, hright⟩

/-- The text of a value has no character below U+0020, whatever strings are in it. -/
theorem Value.printable_text (v : Value) : Printable v.text := by
  induction v using Value.inductionOn with
  | null => decide
  | bool b => cases b <;> decide
  | number n =>
    rw [text, append, String.empty_append]
    exact n.printable_text
  | string s => exact printable_quotedText s
  | array vs ih =>
    refine printable_enclosed (toList_text_array vs) (by decide) (by decide) ?_
    intro part hpart
    obtain ⟨v, hv, rfl⟩ := List.mem_map.mp hpart
    exact ih v hv
  | object ms ih =>
    refine printable_enclosed (toList_text_object ms) (by decide) (by decide) ?_
    intro part hpart
    obtain ⟨m, hm, rfl⟩ := List.mem_map.mp hpart
    have hcolon : Printable ":" := by decide
    exact printable_append_iff.mpr
      ⟨printable_append_iff.mpr ⟨printable_quotedText m.1, hcolon⟩, ih m hm⟩

end Json

end AlertConsole
