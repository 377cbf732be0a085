import AlertConsole.Pattern.Escape
set_option autoImplicit false

/-!
# Brackets

A set of characters in brackets: characters, ranges, classes and further brackets side by side, and
the operations on sets between them, which are done from left to right.
-/

namespace AlertConsole.Pattern

namespace Brackets

/-- What stands side by side, the last first. -/
structure Row where
  span : Span
  items : List Members
  deriving Repr, Inhabited

/-- A row with nothing in it. -/
def Row.empty (span : Span) : Row := ⟨span, []⟩

/-- A row with one more member. -/
def Row.push (r : Row) (m : Members) : Row :=
  ⟨⟨if r.items.isEmpty then m.span.start else r.span.start, m.span.stop⟩, m :: r.items⟩

/-- The members of a row as one. -/
def Row.members (r : Row) : Members :=
  match r.items with
  | [] => .blank r.span
  | [m] => m
  | ms => .union r.span ms.reverse

/-- What is still to be finished: brackets, with the row that they stand in, or an operation. -/
inductive Level where
  | opened (outer : Row) (span : Span) (negated : Bool)
  | operation (op : SetOperation) (left : Members)
  deriving Repr, Inhabited

/-- Where the reading of brackets stands. -/
structure State where
  cursor : Cursor
  levels : List Level
  row : Row
  deriving Repr, Inhabited

/-- The fault of brackets that are not closed: it is about the innermost. -/
def unclosed {α : Type} (c : Cursor) (levels : List Level) : Except Fault α :=
  let opened := levels.findSome? fun l =>
    match l with
    | .opened _ span _ => some span
    | .operation .. => none
  fail .openBrackets (opened.getD c.here)

/-! ## Members -/

/-- The character behind the cursor as it is. -/
def plain (c : Cursor) (d : Char) : Literal := ⟨c.charSpan, d, false⟩

/-- An escape or a character as it is. -/
def readItem (c : Cursor) (d : Char) : Except Fault (Tree × Cursor) :=
  if d = '\\' then readEscape c else .ok (.literal (plain c d), c.step)

/-- The range between two items. -/
def rangeOf : Tree → Tree → Except Fault Members
  | .literal a, .literal b =>
    let span : Span := ⟨a.span.start, b.span.stop⟩
    if a.char ≤ b.char then .ok (.range span a b) else fail .rangeOrder span
  | .literal _, last => fail .rangeEnd last.span
  | first, _ => fail .rangeEnd first.span

/-- An item, or a range of which it is the start. -/
def readMember (levels : List Level) (c : Cursor) (d : Char) :
    Except Fault (Members × Cursor) := do
  let (first, c) ← readItem c d
  let c := c.pass
  if c.atEnd then
    unclosed c levels
  else if c.char? != some '-' || c.peek? = some ']' || c.peek? = some '-' then
    match Members.ofTree? first with
    | some m => return (m, c)
    | none => fail .escapeInBrackets first.span
  else
    let c := c.advance
    match c.char? with
    | none => unclosed c levels
    | some d =>
      let (last, c) ← readItem c d
      return (← rangeOf first last, c)

/-- A named class, such as `[:alpha:]`. -/
def readNamed? (c : Cursor) : Option (Named × Cursor) := do
  let inside ← c.behind? ['[', ':']
  let (negated, inside) := match inside.behind? ['^'] with
    | some inside => (true, inside)
    | none => (false, inside)
  let name := inside.rest.takeWhile (· != ':')
  let behind ← (name.foldl (fun c _ => c.step) inside).behind? [':', ']']
  let set ← Named.ofName? name
  return (⟨behind.spanFrom c.place, set, negated⟩, behind)

/-! ## Opening -/

/-- The dashes at the start of a row, which stand for themselves. -/
def readDashes : (n : Nat) → Row → Cursor → Row × Cursor
  | 0, row, c => (row, c)
  | n + 1, row, c =>
    if c.char? = some '-' then readDashes n (row.push (.literal (plain c '-'))) c.advance
    else (row, c)

/-- The start of brackets, and the level that it opens.  A bracket that would close them at once
stands for itself. -/
def readOpening (c : Cursor) (outer : Row) : Except Fault (Level × Row × Cursor) :=
  let start := c.place
  let c := c.advance
  let negated := c.char? = some '^'
  let c := if negated then c.advance else c
  if c.atEnd then fail .openBrackets (c.spanFrom start)
  else
    let (row, c) := readDashes c.rest.length (.empty c.here) c
    if c.atEnd then fail .openBrackets (.ofPlace start)
    else if row.items.isEmpty && c.char? = some ']' then
      let row := row.push (.literal (plain c ']'))
      let c := c.advance
      if c.atEnd then fail .openBrackets (c.spanFrom start)
      else .ok (.opened outer (c.spanFrom start) negated, row, c)
    else .ok (.opened outer (c.spanFrom start) negated, row, c)

/-! ## Closing -/

/-- The levels without an operation that is the innermost, done with what stands on its right. -/
def settle (levels : List Level) (right : Members) : List Level × Members :=
  match levels with
  | .operation op left :: levels =>
    (levels, .operation ⟨left.span.start, right.span.stop⟩ op left right)
  | levels => (levels, right)

/-- The operation that a doubled character writes. -/
def operation? (c : Char) : Option SetOperation :=
  let named : List (Char × SetOperation) := [('&', .inter), ('-', .diff), ('~', .symmDiff)]
  named.lookup c

/-- One step: further on, or the brackets as a whole and the cursor behind them. -/
def step (s : State) : Except Fault (State ⊕ (Tree × Cursor)) := do
  let c := s.cursor.pass
  match c.char? with
  | none => unclosed c s.levels
  | some '[' =>
    match if s.levels.isEmpty then none else readNamed? c with
    | some (named, c) => return .inl ⟨c, s.levels, s.row.push (.named named)⟩
    | none =>
      let (level, row, c) ← readOpening c s.row
      return .inl ⟨c, level :: s.levels, row⟩
  | some ']' =>
    let (levels, inside) := settle s.levels s.row.members
    match levels with
    | .opened outer span negated :: levels =>
      let c := c.step
      let span := c.spanFrom span.start
      if levels.isEmpty then return .inr (.brackets span negated inside, c)
      else return .inl ⟨c, levels, outer.push (.brackets span negated inside)⟩
    | _ => unclosed c levels
  | some d =>
    match if c.rest.tail.head? = some d then operation? d else none with
    | some op =>
      let (levels, left) := settle s.levels s.row.members
      let c := c.step.step
      return .inl ⟨c, .operation op left :: levels, .empty c.here⟩
    | none =>
      let (m, c) ← readMember s.levels c d
      return .inl ⟨c, s.levels, s.row.push m⟩

/-- Some steps. -/
def run : (n : Nat) → State → Except Fault (Tree × Cursor)
  | 0, s => unclosed s.cursor s.levels
  | n + 1, s =>
    match step s with
    | .error f => .error f
    | .ok (.inl s) => run n s
    | .ok (.inr result) => .ok result

end Brackets

/-- The brackets that open behind the cursor, and the cursor behind them. -/
def readBrackets (c : Cursor) : Except Fault (Tree × Cursor) :=
  Brackets.run (c.rest.length + 1) ⟨c, [], .empty c.here⟩

end AlertConsole.Pattern
