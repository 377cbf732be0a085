set_option autoImplicit false

/-!
# Places in a pattern

A fault in a pattern is shown by marks below the characters that it is about, so every part of a
pattern keeps the places at which it starts and stops.
-/

namespace AlertConsole.Pattern

/-- A place in a pattern, by line and column, both counted from one. -/
structure Place where
  line : Nat
  column : Nat
  deriving DecidableEq, Repr, Inhabited

namespace Place

/-- The place before the first character. -/
def first : Place := ⟨1, 1⟩

/-- The place behind a character that stands at a place. -/
def after (p : Place) (c : Char) : Place :=
  if c = '\n' then ⟨p.line + 1, 1⟩ else ⟨p.line, p.column + 1⟩

/-- Whether a place comes before another. -/
def isBefore (p q : Place) : Bool := p.line < q.line || (p.line = q.line && p.column < q.column)

end Place

/-- A stretch of a pattern, from a place up to another. -/
structure Span where
  start : Place
  stop : Place
  deriving DecidableEq, Repr, Inhabited

namespace Span

/-- The empty stretch at a place. -/
def ofPlace (p : Place) : Span := ⟨p, p⟩

/-- Whether a stretch stays on the line on which it starts. -/
def isOneLine (s : Span) : Bool := s.start.line = s.stop.line

/-- Whether a stretch comes before another: by its start and then by its stop. -/
def isBefore (s t : Span) : Bool :=
  s.start.isBefore t.start || (s.start = t.start && s.stop.isBefore t.stop)

end Span

end AlertConsole.Pattern
