import AlertConsole.Pattern.Cursor
import AlertConsole.Pattern.Tree
set_option autoImplicit false

/-!
# Escapes

What a backslash and the characters behind it stand for: a character, a class, a property or an
assertion.
-/

namespace AlertConsole.Pattern

namespace Escape

/-- The value of a hexadecimal digit. -/
def hexDigit? (c : Char) : Option Nat :=
  if c.isDigit then some (c.toNat - '0'.toNat)
  else if 'a' ≤ c && c ≤ 'f' then some (c.toNat - 'a'.toNat + 10)
  else if 'A' ≤ c && c ≤ 'F' then some (c.toNat - 'A'.toNat + 10)
  else none

/-- Whether an escaped character stands for itself. -/
def isPlain (c : Char) : Bool :=
  c.toNat ≤ CharSet.lastAscii && !c.isAlphanum && c != '<' && c != '>'

/-- The control character that an escaped letter stands for. -/
def control? (c : Char) : Option Char :=
  let named : List (Char × Char) :=
    [('a', '\x07'), ('f', '\x0c'), ('t', '\t'), ('n', '\n'), ('r', '\r'), ('v', '\x0b')]
  named.lookup c

/-- The assertion that an escaped character stands for, that of a boundary left out. -/
def anchor? (c : Char) : Option Anchor :=
  let named : List (Char × Anchor) := [('A', .textStart), ('z', .textEnd), ('B', .noBoundary),
    ('<', .wordStart), ('>', .wordEnd)]
  named.lookup c

/-- The assertion of a name in braces. -/
def boundary? (name : List Char) : Option Anchor :=
  let named : List (String × Anchor) := [("start", .wordStart), ("end", .wordEnd),
    ("start-half", .wordStartHalf), ("end-half", .wordEndHalf)]
  named.lookup (String.ofList name)

/-- The number of hexadecimal digits behind an escaped letter. -/
def width (c : Char) : Nat := if c = 'x' then 2 else if c = 'u' then 4 else 8

/-! ## Numbers of characters -/

/-- The value of so many hexadecimal digits. -/
def readDigits : (n : Nat) → (value : Nat) → Cursor → Except Fault (Nat × Cursor)
  | 0, value, c => .ok (value, c)
  | n + 1, value, c =>
    match c.char? with
    | none => fail .openEscape c.here
    | some d =>
      match hexDigit? d with
      | none => fail .badHexadecimalDigit c.charSpan
      | some x => readDigits n (value * 16 + x) c.advance

/-- The character with a number. -/
def character (value : Nat) (span : Span) : Except Fault Char :=
  if value.isValidChar then .ok (Char.ofNat value) else fail .badHexadecimal span

/-- A character by its number, from the letter behind the backslash on. -/
def readNumbered (start : Place) (letter : Char) (c : Cursor) : Except Fault (Tree × Cursor) := do
  let c := c.advance
  if c.char? = some '\x7b' then
    let brace := c.place
    let inside := c.charSpan.stop
    let (digits, c) := c.advance.gather fun d => (hexDigit? d).isSome
    match c.char? with
    | none => fail .openEscape (c.spanFrom brace)
    | some '\x7d' =>
      let stop := c.place
      let c := c.advance
      if digits.isEmpty then
        fail .noHexadecimal (c.spanFrom brace)
      else
        let value := digits.foldl (fun v d => v * 16 + (hexDigit? d).getD 0) 0
        let d ← character value ⟨inside, stop⟩
        return (.literal ⟨c.spanFrom start, d, false⟩, c)
    | some _ => fail .badHexadecimalDigit c.charSpan
  else
    let first := c.place
    let (value, c) ← readDigits (width letter) 0 c
    let d ← character value (c.spanFrom first)
    return (.literal ⟨c.spanFrom start, d, letter = 'x'⟩, c)

/-! ## Properties -/

/-- A property, from the letter behind the backslash on. -/
def readProperty (start : Place) (c : Cursor) : Except Fault (Tree × Cursor) :=
  let c := c.advance
  match c.char? with
  | none => fail .openEscape c.here
  | some '\x7b' =>
    let (name, c) := c.advance.gather (· != '\x7d')
    if c.atEnd then fail .openEscape c.here
    else .ok (.property ⟨c.step.spanFrom start, name⟩, c.step)
  | some '\\' => fail .badProperty c.charSpan
  | some d =>
    let c := c.advance
    .ok (.property ⟨c.spanFrom start, [d]⟩, c)

/-! ## Boundaries of words -/

/-- Whether a character can stand in the name of an assertion about words. -/
def isBoundaryChar (c : Char) : Bool := c.isAlpha || c = '-'

/-- The assertion about a boundary, from behind its letter on.  What stands in braces is its name,
unless it starts as a count does. -/
def readBoundary (start : Place) (c : Cursor) : Except Fault (Anchor × Cursor) :=
  if c.char? = some '\x7b' then
    let inside := c.advance
    match inside.char? with
    | none => fail .openBoundaryOrCount (inside.spanFrom start)
    | some d =>
      if isBoundaryChar d then
        let (name, behind) := inside.gather isBoundaryChar
        if behind.char? = some '\x7d' then
          match boundary? name with
          | none => fail .unknownBoundary (behind.spanFrom inside.place)
          | some a => .ok (a, behind.step)
        else fail .openBoundary (behind.spanFrom c.place)
      else .ok (.boundary, c)
  else .ok (.boundary, c)

end Escape

/-- What an escape stands for, and the cursor behind it. -/
def readEscape (c : Cursor) : Except Fault (Tree × Cursor) :=
  let start := c.place
  let c := c.step
  match c.char? with
  | none => fail .openEscape (c.spanFrom start)
  | some d =>
    let behind := c.step
    let span := behind.spanFrom start
    if d.isDigit then fail .backreference span
    else if d = 'x' || d = 'u' || d = 'U' then Escape.readNumbered start d c
    else if d = 'p' || d = 'P' then Escape.readProperty start c
    else if d = 'b' then
      (Escape.readBoundary start behind).map fun (a, c) => (.anchor (c.spanFrom start) a, c)
    else
      match Named.ofLetter? d with
      | some set => .ok (.shorthand ⟨span, set, d.isUpper⟩, behind)
      | none =>
        if Escape.isPlain d then .ok (.literal ⟨span, d, false⟩, behind)
        else
          match Escape.control? d, Escape.anchor? d with
          | some e, _ => .ok (.literal ⟨span, e, false⟩, behind)
          | none, some a => .ok (.anchor span a, behind)
          | none, none => fail .unknownEscape span

end AlertConsole.Pattern
