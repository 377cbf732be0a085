import AlertConsole.Pattern.Brackets
import AlertConsole.Text.Alphanumeric
set_option autoImplicit false

/-!
# Reading patterns

From the text of a pattern to its tree: items side by side with repetitions behind them,
alternatives between bars and groups in parentheses.  What is not yet closed waits on a stack, so
that the depth of a pattern does not bound what can be read.
-/

namespace AlertConsole.Pattern

namespace Reading

/-- Items side by side, from a place on, the last first. -/
structure Row where
  start : Place
  items : List Tree
  deriving Repr, Inhabited

/-- The items of a row that stops at a place as one. -/
def Row.tree (r : Row) (stop : Place) : Tree :=
  match r.items with
  | [] => .blank ⟨r.start, stop⟩
  | [t] => t
  | ts => .sequence ⟨r.start, stop⟩ ts.reverse

/-- What is not yet closed: a group, with the row that it stands in and whether blanks are passed
there, or alternatives, with those that are done, the last first. -/
inductive Level where
  | group (outer : Row) (opening : Span) (kind : GroupKind) (spaced : Bool)
  | alternatives (start : Place) (done : List Tree)
  deriving Repr, Inhabited

/-- A name that a group has been given. -/
structure GivenName where
  name : List Char
  span : Span
  deriving DecidableEq, Repr, Inhabited

/-- Where the reading of a pattern stands. -/
structure State where
  cursor : Cursor
  levels : List Level
  row : Row
  names : List GivenName
  /-- how many groups there are that are remembered -/
  kept : Nat
  deriving Repr, Inhabited

/-! ## Repetitions -/

/-- What stands before a repetition, and the items before that. -/
def repeated (s : State) : Except Fault (Tree × List Tree) :=
  match s.row.items with
  | [] | .blank _ :: _ | .flags _ _ :: _ => fail .nothingRepeated s.cursor.here
  | t :: ts => .ok (t, ts)

/-- The state behind a repetition, whose sign stops where the cursor stands. -/
def withRepetition (s : State) (t : Tree) (ts : List Tree) (count : Count) (c : Cursor) : State :=
  { s with cursor := c, row.items := .repetition ⟨t.span.start, c.place⟩ count t :: ts }

/-- The cursor behind a question mark, if there is one. -/
def readMark (c : Cursor) : Bool × Cursor :=
  if c.char? = some '?' then (true, c.step) else (false, c)

/-- A repetition by one sign. -/
def readSign (s : State) (least : Nat) (most : Option Nat) : Except Fault State := do
  let (t, ts) ← repeated s
  let (marked, c) := readMark s.cursor.step
  return withRepetition s t ts ⟨least, most, marked⟩ c

/-- The greatest number in a count. -/
def greatest : Nat := 0xFFFFFFFF

/-- A number in a count, blanks around it passed, and the cursor behind it. -/
def readNumber (c : Cursor) : Except Fault Nat × Cursor :=
  let c := (c.rest.takeWhile Text.isBlank).foldl (fun c _ => c.step) c
  let start := c.place
  let (digits, c) := c.gather Char.isDigit
  let span := c.spanFrom start
  let (_, c) := c.gather Text.isBlank
  if digits.isEmpty then (fail .noCount span, c)
  else
    let n := digits.foldl (fun n d => n * 10 + (d.toNat - '0'.toNat)) 0
    (if n ≤ greatest then .ok n else fail .badDecimal span, c)

/-- The numbers of a count from behind the first one on. -/
def readBounds (start : Place) (least : Except Fault Nat) (c : Cursor) :
    Except Fault (Nat × Option Nat × Cursor) := do
  if c.atEnd then
    fail .openCount (c.spanFrom start)
  else if c.char? = some ',' then
    let c := c.advance
    if c.atEnd then
      fail .openCount (c.spanFrom start)
    else if c.char? = some '\x7d' then
      return (← least, none, c)
    else
      let least ← least
      let (most, c) := readNumber c
      return (least, some (← most), c)
  else
    let n ← least
    return (n, some n, c)

/-- A repetition by a count in braces. -/
def readCount (s : State) : Except Fault State := do
  let start := s.cursor.place
  let (t, ts) ← repeated s
  let c := s.cursor.advance
  if c.atEnd then
    fail .openCount (c.spanFrom start)
  else
    let (least, c) := readNumber c
    let (least, most, c) ← readBounds start least c
    if c.char? != some '\x7d' then
      fail .openCount (c.spanFrom start)
    else
      let (marked, c) := readMark c.advance
      if most.all (least ≤ ·) then return withRepetition s t ts ⟨least, most, marked⟩ c
      else fail .countOrder (c.spanFrom start)

/-! ## Openings of groups -/

/-- Whether a character can stand in a name, at its start or later. -/
def isNameChar (first : Bool) (c : Char) : Bool :=
  c = '_' || Text.isAlphabetic c ||
    (!first && (c = '.' || c = '[' || c = ']' || Text.isNumeric c))

/-- The characters of a name, up to and without the bracket behind it. -/
def readNameChars : (n : Nat) → (first : Bool) → Cursor → Except Fault (List Char × Cursor)
  | 0, _, c => .ok ([], c)
  | n + 1, first, c =>
    match c.char? with
    | none => .ok ([], c)
    | some d =>
      if d = '>' then .ok ([], c)
      else if isNameChar first d then
        match readNameChars n false c.step with
        | .error f => .error f
        | .ok (name, c) => .ok (d :: name, c)
      else fail .badName c.charSpan

/-- A name that no earlier group has, and the cursor behind the bracket that closes it. -/
def readName (names : List GivenName) (c : Cursor) : Except Fault (GivenName × Cursor) := do
  let start := c.place
  let (name, c) ← readNameChars c.rest.length true c
  let span := c.spanFrom start
  if c.atEnd then
    fail .openName c.here
  else if name.isEmpty then
    fail .noName (.ofPlace start)
  else
    match names.find? (·.name = name) with
    | some given => .error ⟨.repeatedName, span, some given.span⟩
    | none => return (⟨name, span⟩, c.step)

/-- One sign among flags: a flag, or nothing for the minus sign. -/
structure FlagSign where
  flag : Option Flag
  span : Span
  deriving DecidableEq, Repr, Inhabited

/-- The sign that a character among flags stands for. -/
def flagSign (d : Char) (span : Span) : Except Fault FlagSign :=
  if d = '-' then .ok ⟨none, span⟩
  else
    match Flag.ofChar? d with
    | some flag => .ok ⟨some flag, span⟩
    | none => fail .unknownFlag span

/-- Signs among flags, up to and without what ends them; `seen` are those before, the last first. -/
def readFlagSigns : (n : Nat) → (seen : List FlagSign) → Cursor →
    Except Fault (List FlagSign × Cursor)
  | 0, seen, c => .ok (seen, c)
  | n + 1, seen, c =>
    match c.char? with
    | none => fail .openFlags c.here
    | some d =>
      if d = ':' || d = ')' then .ok (seen, c)
      else
        match flagSign d c.charSpan with
        | .error f => .error f
        | .ok sign =>
          match seen.find? (·.flag = sign.flag) with
          | some given =>
            let cause := if sign.flag.isNone then Cause.repeatedMinus else .repeatedFlag
            .error ⟨cause, sign.span, some given.span⟩
          | none => readFlagSigns n (sign :: seen) c.step

/-- The flags that signs set: to true before the minus sign and to false behind it. -/
def flagsOf (signs : List FlagSign) : List (Flag × Bool) :=
  let on := signs.takeWhile (·.flag.isSome)
  let off := signs.drop on.length
  on.filterMap (fun s => s.flag.map (·, true)) ++ off.filterMap (fun s => s.flag.map (·, false))

/-- The flags behind a question mark, and whether there is any sign. -/
def readFlags (c : Cursor) : Except Fault (List (Flag × Bool) × Bool × Cursor) := do
  let (seen, c) ← readFlagSigns (c.rest.length + 1) [] c
  match seen with
  | ⟨none, span⟩ :: _ => fail .danglingMinus span
  | _ => return (flagsOf seen.reverse, !seen.isEmpty, c)

/-- The value that flags give to the passing of blanks, if they set it. -/
def spacedOf (flags : List (Flag × Bool)) (was : Bool) : Bool :=
  (flags.lookup .spaced).getD was

/-- The state in a group. -/
def enter (s : State) (opening : Span) (kind : GroupKind) (spaced : Bool) (c : Cursor) : State :=
  let c' := { c with spaced }
  { s with cursor := c', levels := .group s.row opening kind c.spaced :: s.levels
           row := ⟨c.place, []⟩ }

/-- The state in a group that is remembered. -/
def enterKept (s : State) (opening : Span) (c : Cursor) : State :=
  let index := s.kept + 1
  enter { s with kept := index } opening (.kept index) c.spaced c

/-- The parenthesis that opens a group, with what belongs to it, or flags in parentheses. -/
def openGroup (s : State) : Except Fault State := do
  let opening := s.cursor.charSpan
  let c := s.cursor.advance
  let looks := ["?=", "?!", "?<=", "?<!"]
  match looks.findSome? fun text => c.behind? text.toList with
  | some behind => fail .lookAround (behind.spanFrom opening.start)
  | none =>
    match (c.behind? "?P<".toList).or (c.behind? "?<".toList) with
    | some behind =>
      if behind.atEnd then
        fail .openName behind.here
      else
        let (given, behind) ← readName s.names behind
        return enterKept { s with names := given :: s.names } opening behind
    | none =>
      if c.char? != some '?' then
        return enterKept s opening c
      else
        let inside := c.step
        if inside.atEnd then
          fail .openGroup opening
        else
          let (flags, any, last) ← readFlags inside
          let behind := last.step
          if last.char? = some ':' then
            return enter s opening (.plain flags) (spacedOf flags behind.spaced) behind
          else if any then
            let t : Tree := .flags (behind.spanFrom opening.start) flags
            return { s with cursor := { behind with spaced := spacedOf flags behind.spaced }
                            row.items := t :: s.row.items }
          else fail .nothingRepeated c.here

/-! ## Bars and closings -/

/-- The state behind a bar. -/
def bar (s : State) : State :=
  let c := s.cursor
  let t := s.row.tree c.place
  let levels : List Level := match s.levels with
    | .alternatives start done :: levels => .alternatives start (t :: done) :: levels
    | levels => .alternatives s.row.start [t] :: levels
  { s with cursor := c.step, levels, row := ⟨c.step.place, []⟩ }

/-- The tree of all that stands in the innermost group, which stops at a place, and the levels
around it. -/
def closed (levels : List Level) (row : Row) (stop : Place) : Tree × List Level :=
  match levels with
  | .alternatives start done :: levels =>
    (.alternatives ⟨start, stop⟩ (row.tree stop :: done).reverse, levels)
  | levels => (row.tree stop, levels)

/-- The state behind the parenthesis that closes a group. -/
def closeGroup (s : State) : Except Fault State :=
  let (item, levels) := closed s.levels s.row s.cursor.place
  match levels with
  | .group outer opening kind spaced :: levels =>
    let c := s.cursor.step
    let t : Tree := .group (c.spanFrom opening.start) kind item
    .ok { s with cursor := { c with spaced }, levels
                 row := { outer with items := t :: outer.items } }
  | _ => fail .unopenedGroup s.cursor.charSpan

/-! ## Steps -/

/-- The state behind an item. -/
def withItem (s : State) (t : Tree) (c : Cursor) : State :=
  { s with cursor := c, row.items := t :: s.row.items }

/-- The state behind what starts with a character. -/
def step (s : State) (d : Char) : Except Fault State := do
  let c := s.cursor
  if d = '(' then openGroup s
  else if d = ')' then closeGroup s
  else if d = '|' then return bar s
  else if d = '*' then readSign s 0 none
  else if d = '+' then readSign s 1 none
  else if d = '?' then readSign s 0 (some 1)
  else if d = '\x7b' then readCount s
  else if d = '[' then
    let (t, c) ← readBrackets c
    return withItem s t c
  else if d = '\\' then
    let (t, c) ← readEscape c
    return withItem s t c
  else if d = '.' then return withItem s (.dot c.charSpan) c.step
  else if d = '^' then return withItem s (.anchor c.charSpan .lineStart) c.step
  else if d = '$' then return withItem s (.anchor c.charSpan .lineEnd) c.step
  else return withItem s (.literal ⟨c.charSpan, d, false⟩) c.step

/-- The tree of a state in which nothing is left to read. -/
def finish (s : State) : Except Fault Tree :=
  let (t, levels) := closed s.levels s.row s.cursor.place
  match levels.findSome? fun l =>
    match l with
    | .group _ opening _ _ => some opening
    | .alternatives .. => none with
  | some opening => fail .openGroup opening
  | none => .ok t

/-- Some steps, up to the end of the text. -/
def run : (n : Nat) → State → Except Fault Tree
  | 0, s => finish s
  | n + 1, s =>
    let c := s.cursor.pass
    match c.char? with
    | none => finish { s with cursor := c }
    | some d =>
      match step { s with cursor := c } d with
      | .error f => .error f
      | .ok s => run n s

end Reading

/-- The tree of a text. -/
def Tree.ofText (text : List Char) : Except Fault Tree :=
  match Reading.run (text.length + 1) ⟨.start text, [], ⟨.first, []⟩, [], 0⟩ with
  | .error f => .error f
  | .ok t =>
    match t.tooDeep? deepest with
    | some span => fail .tooDeep span
    | none => .ok t

end AlertConsole.Pattern
