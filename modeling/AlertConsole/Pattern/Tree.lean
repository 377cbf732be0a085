import AlertConsole.Pattern.CharSet
import AlertConsole.Pattern.Place
set_option autoImplicit false

/-!
# The parts of a pattern

A pattern as it is written: every part with its stretch of the text, and nothing decided yet about
what it means.
-/

namespace AlertConsole.Pattern

/-! ## Leaves -/

/-- A character that stands for itself or for another by an escape. -/
structure Literal where
  span : Span
  char : Char
  /-- whether it is written as a byte: `\x` with two digits -/
  isByte : Bool
  deriving DecidableEq, Repr, Inhabited

/-- What can be asked of a place: whether it is at an edge of a line, of the text or of a word. -/
inductive Anchor where
  | lineStart
  | lineEnd
  | textStart
  | textEnd
  | boundary
  | noBoundary
  | wordStart
  | wordEnd
  /-- no part of a word stands before -/
  | wordStartHalf
  /-- no part of a word stands behind -/
  | wordEndHalf
  deriving DecidableEq, Repr, Inhabited

/-- A switch that a pattern can turn on and off. -/
inductive Flag where
  /-- both cases of letters are meant -/
  | caseless
  /-- lines have edges of their own -/
  | lines
  /-- the dot stands for ends of lines too -/
  | dotAll
  /-- repetitions are as short as they can be -/
  | short
  /-- classes go beyond ASCII -/
  | unicode
  /-- carriage returns end lines too -/
  | returns
  /-- blanks and comments are passed -/
  | spaced
  deriving DecidableEq, Repr, Inhabited

/-- The flag of a letter. -/
def Flag.ofChar? (c : Char) : Option Flag :=
  let named : List (Char × Flag) := [('i', .caseless), ('m', .lines), ('s', .dotAll), ('U', .short),
    ('u', .unicode), ('R', .returns), ('x', .spaced)]
  named.lookup c

/-- A class of ASCII characters, or all but its characters. -/
structure Named where
  span : Span
  set : CharSet
  negated : Bool
  deriving DecidableEq, Repr, Inhabited

namespace Named

/-- The ranges of ASCII digits. -/
def digits : List (Nat × Nat) := [('0'.toNat, '9'.toNat)]

/-- The ranges of ASCII capitals. -/
def capitals : List (Nat × Nat) := [('A'.toNat, 'Z'.toNat)]

/-- The ranges of ASCII letters that are no capitals. -/
def smalls : List (Nat × Nat) := [('a'.toNat, 'z'.toNat)]

/-- The ranges of ASCII blanks. -/
def spaces : List (Nat × Nat) := [('\t'.toNat, '\r'.toNat), (' '.toNat, ' '.toNat)]

/-- The ranges of the ASCII characters of words. -/
def wordly : List (Nat × Nat) := digits ++ capitals ++ [('_'.toNat, '_'.toNat)] ++ smalls

/-- The set of a name. -/
def ofName? (name : List Char) : Option CharSet :=
  let named : List (String × List (Nat × Nat)) :=
    [("alnum", digits ++ capitals ++ smalls), ("alpha", capitals ++ smalls),
      ("ascii", [(0, CharSet.lastAscii)]),
      ("blank", [('\t'.toNat, '\t'.toNat), (' '.toNat, ' '.toNat)]),
      ("cntrl", [(0, 0x1F), (0x7F, 0x7F)]), ("digit", digits), ("graph", [('!'.toNat, '~'.toNat)]),
      ("lower", smalls), ("print", [(' '.toNat, '~'.toNat)]),
      ("punct", [('!'.toNat, '/'.toNat), (':'.toNat, '@'.toNat), ('['.toNat, '\x60'.toNat),
        ('\x7b'.toNat, '~'.toNat)]),
      ("space", spaces), ("upper", capitals), ("word", wordly),
      ("xdigit", digits ++ [('A'.toNat, 'F'.toNat), ('a'.toNat, 'f'.toNat)])]
  (named.lookup (String.ofList name)).map CharSet.ofRanges

/-- The set of an escaped letter, whose capital stands for all but its characters. -/
def ofLetter? (c : Char) : Option CharSet :=
  let named : List (Char × List (Nat × Nat)) := [('d', digits), ('s', spaces), ('w', wordly)]
  (named.lookup c.toLower).map CharSet.ofRanges

end Named

/-- A property of characters. -/
structure Property where
  span : Span
  /-- its name, with the value that it is to have if there is one -/
  name : List Char
  deriving DecidableEq, Repr, Inhabited

/-! ## Brackets -/

/-- How two sets are put together. -/
inductive SetOperation where
  | inter
  | diff
  | symmDiff
  deriving DecidableEq, Repr, Inhabited

/-- What stands in brackets. -/
inductive Members where
  | blank (span : Span)
  | literal (l : Literal)
  | range (span : Span) (first last : Literal)
  | named (c : Named)
  /-- an escaped letter that stands for a class -/
  | shorthand (c : Named)
  | property (p : Property)
  | brackets (span : Span) (negated : Bool) (inside : Members)
  | union (span : Span) (items : List Members)
  | operation (span : Span) (op : SetOperation) (left right : Members)
  deriving Repr, Inhabited

/-- The stretch of what stands in brackets. -/
def Members.span : Members → Span
  | .blank span => span
  | .literal l => l.span
  | .range span _ _ => span
  | .named c => c.span
  | .shorthand c => c.span
  | .property p => p.span
  | .brackets span _ _ => span
  | .union span _ => span
  | .operation span _ _ _ => span

/-! ## Trees -/

/-- How a group is opened. -/
inductive GroupKind where
  /-- as one that is remembered, by a number from one -/
  | kept (index : Nat)
  /-- as one that is not, with flags for what is in it -/
  | plain (flags : List (Flag × Bool))
  deriving DecidableEq, Repr, Inhabited

/-- How often something is repeated, and whether a question mark follows. -/
structure Count where
  least : Nat
  /-- the greatest number, if there is one -/
  most : Option Nat
  marked : Bool
  deriving DecidableEq, Repr, Inhabited

/-- A part of a pattern. -/
inductive Tree where
  | blank (span : Span)
  /-- flags for what follows -/
  | flags (span : Span) (flags : List (Flag × Bool))
  | literal (l : Literal)
  | dot (span : Span)
  | anchor (span : Span) (a : Anchor)
  /-- an escaped letter that stands for a class -/
  | shorthand (c : Named)
  | property (p : Property)
  | brackets (span : Span) (negated : Bool) (inside : Members)
  | repetition (span : Span) (count : Count) (item : Tree)
  | group (span : Span) (kind : GroupKind) (item : Tree)
  | alternatives (span : Span) (items : List Tree)
  | sequence (span : Span) (items : List Tree)
  deriving Repr, Inhabited

/-- The stretch of a part of a pattern. -/
def Tree.span : Tree → Span
  | .blank span => span
  | .flags span _ => span
  | .literal l => l.span
  | .dot span => span
  | .anchor span _ => span
  | .shorthand c => c.span
  | .property p => p.span
  | .brackets span _ _ => span
  | .repetition span _ _ => span
  | .group span _ _ => span
  | .alternatives span _ => span
  | .sequence span _ => span

/-- A leaf as it stands in brackets, if it stands for a set there. -/
def Members.ofTree? : Tree → Option Members
  | .literal l => some (.literal l)
  | .shorthand c => some (.shorthand c)
  | .property p => some (.property p)
  | _ => none

/-! ## Depth -/

mutual

/-- The stretch of the first part that is nested too deep, if some nesting is still allowed. -/
def Members.tooDeep? (left : Nat) : Members → Option Span
  | .brackets span _ inside =>
    match left with
    | 0 => some span
    | left + 1 => inside.tooDeep? left
  | .union span items =>
    match left with
    | 0 => some span
    | left + 1 => Members.anyTooDeep? left items
  | .operation span _ a b =>
    match left with
    | 0 => some span
    | left + 1 => (a.tooDeep? left).or (b.tooDeep? left)
  | _ => none

/-- The stretch of the first part that is nested too deep in one of some. -/
def Members.anyTooDeep? (left : Nat) : List Members → Option Span
  | [] => none
  | m :: ms => (m.tooDeep? left).or (Members.anyTooDeep? left ms)

end

mutual

/-- The stretch of the first part that is nested too deep, if some nesting is still allowed. -/
def Tree.tooDeep? (left : Nat) : Tree → Option Span
  | .brackets span _ inside =>
    match left with
    | 0 => some span
    | left + 1 => inside.tooDeep? left
  | .repetition span _ item =>
    match left with
    | 0 => some span
    | left + 1 => item.tooDeep? left
  | .group span _ item =>
    match left with
    | 0 => some span
    | left + 1 => item.tooDeep? left
  | .alternatives span items =>
    match left with
    | 0 => some span
    | left + 1 => Tree.anyTooDeep? left items
  | .sequence span items =>
    match left with
    | 0 => some span
    | left + 1 => Tree.anyTooDeep? left items
  | _ => none

/-- The stretch of the first part that is nested too deep in one of some. -/
def Tree.anyTooDeep? (left : Nat) : List Tree → Option Span
  | [] => none
  | t :: ts => (t.tooDeep? left).or (Tree.anyTooDeep? left ts)

end

end AlertConsole.Pattern
