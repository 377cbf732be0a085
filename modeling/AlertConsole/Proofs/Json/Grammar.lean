import AlertConsole.Json.Document
set_option autoImplicit false

/-!
# The grammar of JSON texts

What a JSON text says, without how it is spelled, is a `Tree`: number literals, strings, arrays and
objects, whose members may repeat a key.  A tree has many spellings, and `Spells` is the relation
between the two: blanks may stand between any two tokens, and each character of a string may be
written raw or by an escape.

The relation is made of one relation for each kind of token, and of three that take a relation for
the things in them: `Padded` for blanks on both sides, `Listed` for commas between, `SpellsMember`
for a key and a value.  No reader is mentioned here.
-/

namespace AlertConsole.Json

/-! ## Trees -/

/-- What a JSON text says. -/
inductive Tree where
  | null
  | bool (b : Bool)
  | number (l : Literal)
  | string (s : String)
  | array (items : List Tree)
  | object (members : List (String × Tree))
  deriving Inhabited

mutual

/-- How deep arrays and objects are nested. -/
def Tree.depth : Tree → Nat
  | .array ts => itemsDepth ts + 1
  | .object ms => membersDepth ms + 1
  | _ => 0

/-- The greatest depth among some elements. -/
def itemsDepth : List Tree → Nat
  | [] => 0
  | t :: ts => max t.depth (itemsDepth ts)

/-- The greatest depth among some members. -/
def membersDepth : List (String × Tree) → Nat
  | [] => 0
  | (_, t) :: ms => max t.depth (membersDepth ms)

end

theorem itemsDepth_le_iff {d : Nat} {ts : List Tree} :
    itemsDepth ts ≤ d ↔ ∀ t ∈ ts, t.depth ≤ d := by
  induction ts with
  | nil => simp [itemsDepth]
  | cons t ts ih => rw [itemsDepth, Nat.max_le, ih, List.forall_mem_cons]

theorem membersDepth_le_iff {d : Nat} {ms : List (String × Tree)} :
    membersDepth ms ≤ d ↔ ∀ m ∈ ms, m.2.depth ≤ d := by
  induction ms with
  | nil => simp [membersDepth]
  | cons m ms ih => rw [membersDepth, Nat.max_le, ih, List.forall_mem_cons]

/-- Induction over trees. -/
@[elab_as_elim]
theorem Tree.inductionOn {P : Tree → Prop} (t : Tree) (null : P .null) (bool : ∀ b, P (.bool b))
    (number : ∀ l, P (.number l)) (string : ∀ s, P (.string s))
    (array : ∀ ts : List Tree, (∀ t ∈ ts, P t) → P (.array ts))
    (object : ∀ ms : List (String × Tree), (∀ m ∈ ms, P m.2) → P (.object ms)) : P t := by
  induction hd : t.depth using Nat.strongRecOn generalizing t with
  | ind d ih =>
    cases t with
    | null => exact null
    | bool b => exact bool b
    | number l => exact number l
    | string s => exact string s
    | array ts =>
      refine array ts fun t ht => ih t.depth ?_ t rfl
      have hle : t.depth ≤ itemsDepth ts := itemsDepth_le_iff.mp (Nat.le_refl _) t ht
      rw [← hd, Tree.depth]
      omega
    | object ms =>
      refine object ms fun m hm => ih m.2.depth ?_ m.2 rfl
      have hle : m.2.depth ≤ membersDepth ms := membersDepth_le_iff.mp (Nat.le_refl _) m hm
      rw [← hd, Tree.depth]
      omega

/-- What kind of value a tree stands for, as a reader is told. -/
def Tree.kindName : Tree → String
  | .null => "null"
  | .bool _ => "a boolean"
  | .number _ => "a number"
  | .string _ => "a string"
  | .array _ => "an array"
  | .object _ => "an object"

/-! ## Blanks and lists -/

/-- Bytes that may stand between any two tokens. -/
def Blanks (w : List UInt8) : Prop :=
  ∀ b ∈ w, b = Byte.space ∨ b = Byte.newline ∨ b = Byte.tab ∨ b = Byte.carriageReturn

/-- A thing with blanks on both sides. -/
inductive Padded {α : Type} (G : List UInt8 → α → Prop) : List UInt8 → α → Prop where
  | mk {u s w : List UInt8} {x : α} : Blanks u → G s x → Blanks w → Padded G (u ++ (s ++ w)) x

/-- One thing or more, with commas between them. -/
inductive Listed {α : Type} (G : List UInt8 → α → Prop) : List UInt8 → List α → Prop where
  | one {s : List UInt8} {x : α} : G s x → Listed G s [x]
  | more {s s' : List UInt8} {x : α} {xs : List α} :
      G s x → Listed G s' xs → Listed G (s ++ Byte.comma :: s') (x :: xs)

/-! ## Number literals -/

/-- One decimal digit or more. -/
def Digits (ds : List UInt8) : Prop := ds ≠ [] ∧ ∀ d ∈ ds, Byte.isDigit d = true

/-- The digits of a whole part: a zero alone, or digits of which the first is not zero. -/
def WholeDigits (ds : List UInt8) : Prop :=
  ds = [Byte.zero] ∨ Digits ds ∧ ds.head? ≠ some Byte.zero

/-- The digits of a fraction behind its point, or none without a point. -/
inductive SpellsFraction : List UInt8 → List UInt8 → Prop where
  | absent : SpellsFraction [] []
  | point {ds : List UInt8} : Digits ds → SpellsFraction (Byte.point :: ds) ds

/-- The letters in front of an exponent. -/
def IsExponentLetter (b : UInt8) : Prop := b = Byte.lowerE ∨ b = Byte.upperE

/-- An exponent behind its letter, with a sign or without. -/
inductive SpellsExponent : List UInt8 → Option Exponent → Prop where
  | absent : SpellsExponent [] none
  | unsigned {e : UInt8} {ds : List UInt8} : IsExponentLetter e → Digits ds →
      SpellsExponent (e :: ds) (some ⟨false, ds⟩)
  | plus {e : UInt8} {ds : List UInt8} : IsExponentLetter e → Digits ds →
      SpellsExponent (e :: Byte.plus :: ds) (some ⟨false, ds⟩)
  | minus {e : UInt8} {ds : List UInt8} : IsExponentLetter e → Digits ds →
      SpellsExponent (e :: Byte.minus :: ds) (some ⟨true, ds⟩)

/-- A literal without its sign. -/
inductive SpellsUnsigned : List UInt8 → Literal → Prop where
  | mk {negative : Bool} {whole fraction f e : List UInt8} {exponent : Option Exponent} :
      WholeDigits whole → SpellsFraction f fraction → SpellsExponent e exponent →
      SpellsUnsigned (whole ++ (f ++ e)) ⟨negative, whole, fraction, exponent⟩

/-- A literal, behind a minus if it is negative. -/
inductive SpellsLiteral : List UInt8 → Literal → Prop where
  | plain {s : List UInt8} {l : Literal} : l.negative = false → SpellsUnsigned s l →
      SpellsLiteral s l
  | minus {s : List UInt8} {l : Literal} : l.negative = true → SpellsUnsigned s l →
      SpellsLiteral (Byte.minus :: s) l

/-! ## Strings -/

/-- The letters that stand for a character behind a backslash. -/
def shortEscapes : List (UInt8 × Char) :=
  [(Byte.quote, '"'), (Byte.backslash, '\\'), (Byte.slash, '/'), (Byte.lowerB, '\x08'),
    (Byte.lowerF, '\x0c'), (Byte.lowerN, '\n'), (Byte.lowerR, '\r'), (Byte.lowerT, '\t')]

/-- A code unit in four hexadecimal digits of either case. -/
inductive SpellsUnit : List UInt8 → Nat → Prop where
  | mk {a b c d : UInt8} {w x y z : Nat} : Byte.hexDigit? a = some w → Byte.hexDigit? b = some x →
      Byte.hexDigit? c = some y → Byte.hexDigit? d = some z →
      SpellsUnit [a, b, c, d] (w * 0x1000 + x * 0x100 + y * 0x10 + z)

/-- A character in a quoted string.  The code units of a character above `0xFFFF` are those of its
surrogate pair. -/
inductive SpellsChar : List UInt8 → Char → Prop where
  | raw {c : Char} : 0x20 ≤ c.toNat → c ≠ '"' → c ≠ '\\' → SpellsChar (String.utf8EncodeChar c) c
  | short {b : UInt8} {c : Char} : (b, c) ∈ shortEscapes → SpellsChar [Byte.backslash, b] c
  | unit {ds : List UInt8} {c : Char} : SpellsUnit ds c.toNat →
      SpellsChar (Byte.backslash :: Byte.lowerU :: ds) c
  | pair {hs ls : List UInt8} {c : Char} : 0x10000 ≤ c.toNat →
      SpellsUnit hs (0xD800 + (c.toNat - 0x10000) / 0x400) →
      SpellsUnit ls (0xDC00 + (c.toNat - 0x10000) % 0x400) →
      SpellsChar (Byte.backslash :: Byte.lowerU :: (hs ++ Byte.backslash :: Byte.lowerU :: ls)) c

/-- The characters of a quoted string. -/
inductive SpellsChars : List UInt8 → List Char → Prop where
  | nil : SpellsChars [] []
  | cons {s s' : List UInt8} {c : Char} {cs : List Char} : SpellsChar s c → SpellsChars s' cs →
      SpellsChars (s ++ s') (c :: cs)

/-- A string in its quotes. -/
inductive SpellsString : List UInt8 → String → Prop where
  | mk {s : List UInt8} {t : String} : SpellsChars s t.toList →
      SpellsString (Byte.quote :: (s ++ [Byte.quote])) t

/-! ## Values and texts -/

/-- A member of an object, the value in it as `G` has it. -/
inductive SpellsMember {α : Type} (G : List UInt8 → α → Prop) :
    List UInt8 → String × α → Prop where
  | mk {s s' : List UInt8} {key : String} {x : α} : Padded SpellsString s key → Padded G s' x →
      SpellsMember G (s ++ Byte.colon :: s') (key, x)

/-- A value, without the blanks around it. -/
inductive Spells : List UInt8 → Tree → Prop where
  | nullWord : Spells (Utf8.bytes "null") .null
  | trueWord : Spells (Utf8.bytes "true") (.bool true)
  | falseWord : Spells (Utf8.bytes "false") (.bool false)
  | number {s : List UInt8} {l : Literal} : SpellsLiteral s l → Spells s (.number l)
  | string {s : List UInt8} {t : String} : SpellsString s t → Spells s (.string t)
  | emptyArray {w : List UInt8} : Blanks w →
      Spells (Byte.openBracket :: (w ++ [Byte.closeBracket])) (.array [])
  | array {s : List UInt8} {ts : List Tree} : Listed (Padded Spells) s ts →
      Spells (Byte.openBracket :: (s ++ [Byte.closeBracket])) (.array ts)
  | emptyObject {w : List UInt8} : Blanks w →
      Spells (Byte.openBrace :: (w ++ [Byte.closeBrace])) (.object [])
  | object {s : List UInt8} {ms : List (String × Tree)} : Listed (SpellsMember Spells) s ms →
      Spells (Byte.openBrace :: (s ++ [Byte.closeBrace])) (.object ms)

/-- A text: one value with blanks around it. -/
def SpellsText (s : List UInt8) (t : Tree) : Prop := Padded Spells s t

end AlertConsole.Json
