import AlertConsole.Pattern.Fault
import AlertConsole.Text.Blank
set_option autoImplicit false

/-!
# Walking through a pattern

A cursor stands before the part of a pattern that is still to be read.  It can be told to pass
blanks and comments, which run from `#` to the end of the line; then they may stand between any two
characters that belong together.
-/

namespace AlertConsole.Pattern

/-- A place in a pattern and what follows it. -/
structure Cursor where
  rest : List Char
  place : Place
  /-- whether blanks and comments are passed -/
  spaced : Bool
  deriving DecidableEq, Repr, Inhabited

namespace Cursor

/-- The cursor before a whole text. -/
def start (text : List Char) : Cursor := ⟨text, .first, false⟩

/-- The character behind the cursor. -/
def char? (c : Cursor) : Option Char := c.rest.head?

/-- Whether nothing is left. -/
def atEnd (c : Cursor) : Bool := c.rest.isEmpty

/-- The empty stretch at the cursor. -/
def here (c : Cursor) : Span := .ofPlace c.place

/-- The stretch of the character behind the cursor. -/
def charSpan (c : Cursor) : Span :=
  match c.rest with
  | [] => c.here
  | d :: _ => ⟨c.place, c.place.after d⟩

/-- The stretch from a place up to the cursor. -/
def spanFrom (c : Cursor) (p : Place) : Span := ⟨p, c.place⟩

/-- The cursor behind one more character. -/
def step (c : Cursor) : Cursor :=
  match c.rest with
  | [] => c
  | d :: s => { c with rest := s, place := c.place.after d }

/-- What follows blanks and comments, and its place. -/
def passBlanks (inComment : Bool) (p : Place) : List Char → Place × List Char
  | [] => (p, [])
  | c :: s =>
    if inComment then passBlanks (c != '\n') (p.after c) s
    else if Text.isBlank c then passBlanks false (p.after c) s
    else if c = '#' then passBlanks true (p.after c) s
    else (p, c :: s)

/-- The cursor behind the blanks and comments that are passed. -/
def pass (c : Cursor) : Cursor :=
  if c.spaced then
    let (place, rest) := passBlanks false c.place c.rest
    { c with rest, place }
  else c

/-- The cursor behind one more character and what is passed behind it. -/
def advance (c : Cursor) : Cursor := c.step.pass

/-- The cursor behind a text, if the pattern goes on with it. -/
def behind? (text : List Char) (c : Cursor) : Option Cursor :=
  if text.isPrefixOf c.rest then some (text.foldl (fun c _ => c.step) c) else none

/-- The character behind the next one, blanks and one `#` between them passed. -/
def peek? (c : Cursor) : Option Char :=
  let rest := c.rest.tail
  if c.spaced then
    match rest.dropWhile Text.isBlank with
    | '#' :: s => (s.dropWhile Text.isBlank).head?
    | s => s.head?
  else rest.head?

/-- The characters with a property from the cursor on, no more than some, and the cursor behind
them. -/
def gatherUpTo (p : Char → Bool) : (n : Nat) → Cursor → List Char × Cursor
  | 0, c => ([], c)
  | n + 1, c =>
    match c.char? with
    | none => ([], c)
    | some d =>
      if p d then
        let (s, c) := gatherUpTo p n c.advance
        (d :: s, c)
      else ([], c)

/-- The characters with a property from the cursor on, and the cursor behind them. -/
def gather (p : Char → Bool) (c : Cursor) : List Char × Cursor :=
  c.gatherUpTo p c.rest.length

end Cursor

end AlertConsole.Pattern
