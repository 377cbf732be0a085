import AlertConsole.Log
import AlertConsole.Pattern
import AlertConsole.Text.Blank
set_option autoImplicit false

/-!
# Which log records are shown

A filter is written as directives between commas and, behind a slash, a pattern that the message of
a record must match.  A directive names a level for all sources, or a source or the start of its
name and a level for it.  Of the directives that fit a source the one with the longest name
decides; if none fits, nothing is shown.
-/

namespace AlertConsole.Log

/-! ## Levels and directives -/

/-- How much is shown: nothing, or records up to a level. -/
inductive Threshold where
  | off
  | upTo (level : Level)
  deriving DecidableEq, Repr, Inhabited

namespace Threshold

/-- Whether records of a level are shown. -/
def admits : Threshold → Level → Bool
  | .off, _ => false
  | .upTo l, level => level.rank ≤ l.rank

/-- The threshold that a word names, in capitals or not. -/
def ofText? (word : String) : Option Threshold :=
  let named : List (String × Threshold) :=
    [("off", .off), ("error", .upTo .error), ("warn", .upTo .warn), ("info", .upTo .info),
      ("debug", .upTo .debug), ("trace", .upTo .trace)]
  named.lookup (String.ofList (word.toList.map Char.toLower))

/-- Everything is shown. -/
def all : Threshold := .upTo .trace

end Threshold

/-- One directive: the start of the names of the sources that it is for, or nothing for all
sources. -/
structure Directive where
  source : Option String
  threshold : Threshold
  deriving DecidableEq, Repr, Inhabited

/-- A filter. -/
structure Filter where
  directives : List Directive
  pattern : Option Pattern
  deriving Repr, Inhabited

/-! ## Showing -/

namespace Directive

/-- The length of the name, which counts for nothing if there is none. -/
def width (d : Directive) : Nat :=
  match d.source with
  | some name => name.utf8ByteSize
  | none => 0

/-- Whether the directive is for a source. -/
def fits (d : Directive) (source : String) : Bool :=
  match d.source with
  | some name => name.toList.isPrefixOf source.toList
  | none => true

/-- The later of the directives that fit a source with the longest name. -/
def deciding? (source : String) (ds : List Directive) : Option Directive :=
  (ds.filter (·.fits source)).foldl (fun best d =>
    match best with
    | none => some d
    | some b => if b.width ≤ d.width then some d else best) none

end Directive

/-- Whether a record is shown. -/
def Filter.admits (f : Filter) (r : LogRecord) : Bool :=
  (match Directive.deciding? r.source.name f.directives with
    | some d => d.threshold.admits r.level
    | none => false) &&
  match f.pattern with
  | some p => p.isFoundIn r.text
  | none => true

/-! ## Reading -/

/-- The warning about a part of a filter that cannot be read. -/
def ignoring (part : String) : String := s!"warning: invalid logging spec '{part}', ignoring it"

/-- The warning about a text that is no pattern, by lines. -/
def refusing (text : String) (r : Pattern.Refusal) : List String :=
  match r.lines text with
  | [] => []
  | first :: more => ("warning: invalid regex filter - " ++ first) :: more

/-- What comes of one directive: nothing, a directive, or a warning. -/
def readDirective (text : String) : Option (Except String Directive) :=
  if text = "" then none
  else some (match text.splitOn "=" with
    | [word] =>
      match Threshold.ofText? word with
      | some t => .ok ⟨none, t⟩
      | none => .ok ⟨some word, .all⟩
    | [name, word] =>
      let word := Text.trimBlanks word
      if word = "" then .ok ⟨some name, .all⟩
      else
        match Threshold.ofText? word with
        | some t => .ok ⟨some name, t⟩
        | none => .error (ignoring word)
    | _ => .error (ignoring text))

/-- Puts a directive in the place of the one for the same source, or behind the others. -/
def insertDirective (d : Directive) : List Directive → List Directive
  | [] => [d]
  | e :: es => if e.source = d.source then d :: es else e :: insertDirective d es

/-- The filter that shows errors only, which is used if there are no directives. -/
def errorsOnly : List Directive := [⟨none, .upTo .error⟩]

/-- The pattern that a text writes, and the warnings about it. -/
def readPattern (text : String) : Option Pattern × List String :=
  match Pattern.ofText text with
  | .ok p => (some p, [])
  | .error r => (none, refusing text r)

/-- The directives that a text writes, and the warnings about what cannot be read in it. -/
def readDirectives (text : String) : List Directive × List String :=
  let parts := ((text.splitOn ",").map Text.trimBlanks).filterMap readDirective
  let read := parts.foldl (fun ds part =>
    match part with
    | .ok d => insertDirective d ds
    | .error _ => ds) []
  let warnings := parts.filterMap fun part =>
    match part with
    | .ok _ => none
    | .error warning => some warning
  (if read = [] then errorsOnly else read, warnings.flatMap (·.splitOn "\n"))

/-- The filter that a text writes, and the lines of the warnings about what cannot be read in
it. -/
def Filter.ofText (text : String) : Filter × List String :=
  match text.splitOn "/" with
  | [directives, pattern] =>
    let (ds, warnings) := readDirectives directives
    let (p, more) := readPattern pattern
    (⟨ds, p⟩, warnings ++ more)
  | [directives] =>
    let (ds, warnings) := readDirectives directives
    (⟨ds, none⟩, warnings)
  | _ => (⟨errorsOnly, none⟩, (ignoring text ++ " (too many '/'s)").splitOn "\n")

end AlertConsole.Log
