import AlertConsole.Pattern.Place
set_option autoImplicit false

/-!
# Faults of patterns

Why a text is no pattern, and the picture of the text that shows where: below each line the marks
of the stretches on it, and behind the lines a note for each stretch that spreads over lines.
-/

namespace AlertConsole.Pattern

/-- How deep groups and brackets may be nested. -/
def deepest : Nat := 250

/-- Why a text is no pattern. -/
inductive Cause where
  /-- an escape that stands for no set in brackets -/
  | escapeInBrackets
  /-- a range whose start comes behind its end -/
  | rangeOrder
  /-- a range with an end that is no character -/
  | rangeEnd
  | openBrackets
  | noDecimal
  /-- a number that is too large -/
  | badDecimal
  | noHexadecimal
  /-- a number that is no character's -/
  | badHexadecimal
  | badHexadecimalDigit
  /-- an escape that the text ends in -/
  | openEscape
  | unknownEscape
  /-- a minus sign that no flag follows -/
  | danglingMinus
  | repeatedFlag
  | repeatedMinus
  | openFlags
  | unknownFlag
  | repeatedName
  | noName
  | badName
  | openName
  | openGroup
  /-- a parenthesis that closes no group -/
  | unopenedGroup
  | tooDeep
  /-- a count whose least number is more than its greatest -/
  | countOrder
  /-- a count without a number -/
  | noCount
  | openCount
  /-- a repetition of nothing -/
  | nothingRepeated
  | openBoundary
  | unknownBoundary
  /-- an assertion about a word, or a count, that the text ends in -/
  | openBoundaryOrCount
  | badProperty
  | backreference
  | lookAround
  /-- a set of bytes where only ASCII characters are allowed -/
  | onlyBytes
  /-- something that would match half a character -/
  | halfCharacters
  | unknownProperty
  | unknownPropertyValue
  /-- a class of characters for which there is no table -/
  | noClassTable
  /-- the other case of a character, for which there is no table -/
  | noCaseTable
  deriving DecidableEq, Repr, Inhabited

/-- A cause in words. -/
def Cause.message : Cause → String
  | .escapeInBrackets => "invalid escape sequence found in character class"
  | .rangeOrder => "invalid character class range, the start must be <= the end"
  | .rangeEnd => "invalid range boundary, must be a literal"
  | .openBrackets => "unclosed character class"
  | .noDecimal => "decimal literal empty"
  | .badDecimal => "decimal literal invalid"
  | .noHexadecimal => "hexadecimal literal empty"
  | .badHexadecimal => "hexadecimal literal is not a Unicode scalar value"
  | .badHexadecimalDigit => "invalid hexadecimal digit"
  | .openEscape => "incomplete escape sequence, reached end of pattern prematurely"
  | .unknownEscape => "unrecognized escape sequence"
  | .danglingMinus => "dangling flag negation operator"
  | .repeatedFlag => "duplicate flag"
  | .repeatedMinus => "flag negation operator repeated"
  | .openFlags => "expected flag but got end of regex"
  | .unknownFlag => "unrecognized flag"
  | .repeatedName => "duplicate capture group name"
  | .noName => "empty capture group name"
  | .badName => "invalid capture group character"
  | .openName => "unclosed capture group name"
  | .openGroup => "unclosed group"
  | .unopenedGroup => "unopened group"
  | .tooDeep =>
    s!"exceed the maximum number of nested parentheses/brackets ({deepest})"
  | .countOrder => "invalid repetition count range, the start must be <= the end"
  | .noCount => "repetition quantifier expects a valid decimal"
  | .openCount => "unclosed counted repetition"
  | .nothingRepeated => "repetition operator missing expression"
  | .openBoundary =>
    "special word boundary assertion is either unclosed or contains an invalid character"
  | .unknownBoundary => "unrecognized special word boundary assertion, valid choices are: " ++
    "start, end, start-half or end-half"
  | .openBoundaryOrCount => "found either the beginning of a special word boundary or a bounded " ++
    "repetition on a \\b with an opening brace, but no closing brace"
  | .badProperty => "invalid Unicode character class"
  | .backreference => "backreferences are not supported"
  | .lookAround => "look-around, including look-ahead and look-behind, is not supported"
  | .onlyBytes => "Unicode not allowed here"
  | .halfCharacters => "pattern can match invalid UTF-8"
  | .unknownProperty => "Unicode property not found"
  | .unknownPropertyValue => "Unicode property value not found"
  | .noClassTable => "Unicode-aware Perl class not found " ++
    "(make sure the unicode-perl feature is enabled)"
  | .noCaseTable => "Unicode-aware case insensitivity matching is not available " ++
    "(make sure the unicode-case feature is enabled)"

/-- A fault in a pattern: its cause, the stretch that it is about and, for something that is
repeated, the stretch of the first. -/
structure Fault where
  cause : Cause
  span : Span
  earlier : Option Span
  deriving DecidableEq, Repr, Inhabited

/-- The result of a fault at a stretch. -/
def fail {α : Type} (cause : Cause) (span : Span) : Except Fault α := .error ⟨cause, span, none⟩

/-! ## The picture -/

namespace Picture

/-- A text made of one character some times. -/
def line (c : Char) (n : Nat) : String := String.ofList (List.replicate n c)

/-- A line without the carriage return at its end. -/
def withoutReturn (s : String) : String :=
  match s.toList.reverse with
  | '\r' :: s => String.ofList s.reverse
  | _ => s

/-- The lines of a text, without what ends them; nothing stands behind the last end of a line. -/
def linesOf (text : String) : List String :=
  match (text.splitOn "\n").reverse with
  | [] => []
  | last :: before =>
    (before.map withoutReturn).reverse ++ if last = "" then [] else [last]

/-- The marks below a line, for stretches on it in their order, behind a margin. -/
def marks (margin : Nat) (spans : List Span) : String :=
  spans.foldl (fun out s =>
    let gap := margin + (s.start.column - 1) - out.length
    out ++ line ' ' gap ++ line '^' (max 1 (s.stop.column - s.start.column))) (line ' ' margin)

/-- The number of a line, as wide as the widest. -/
def label (width n : Nat) : String :=
  let n := toString n
  line ' ' (width - n.length) ++ n ++ ": "

/-- The lines of a text with the marks of stretches below them. -/
def notated (text : String) (width : Nat) (spans : List Span) : List String :=
  let margin := if width = 0 then 4 else width + 2
  (linesOf text).zipIdx.flatMap fun (s, i) =>
    let here := spans.filter fun t => t.isOneLine && t.start.line = i + 1
    let head := if width = 0 then line ' ' 4 else label width (i + 1)
    (head ++ s) :: if here.isEmpty then [] else [marks margin here]

/-- The note for a stretch that spreads over lines. -/
def note (s : Span) : String :=
  s!"on line {s.start.line} (column {s.start.column}) " ++
    s!"through line {s.stop.line} (column {s.stop.column - 1})"

end Picture

namespace Fault

/-- The stretches of a fault, in order. -/
def spans (f : Fault) : List Span :=
  match f.earlier with
  | none => [f.span]
  | some e => if e.isBefore f.span then [e, f.span] else [f.span, e]

/-- The lines that show a fault in a text. -/
def lines (f : Fault) (text : String) : List String :=
  let last := "error: " ++ f.cause.message
  if text.toList.contains '\n' then
    let count := (Picture.linesOf text).length + if text.toList.getLast? = some '\n' then 1 else 0
    let rule := Picture.line '~' 79
    ["regex parse error:", rule] ++ Picture.notated text (toString count).length f.spans ++
      [rule] ++ (f.spans.filter fun s => !s.isOneLine).map Picture.note ++ [last]
  else
    ["regex parse error:"] ++ Picture.notated text 0 f.spans ++ [last]

end Fault

end AlertConsole.Pattern
