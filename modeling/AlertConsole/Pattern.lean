import AlertConsole.Pattern.Matching
import AlertConsole.Pattern.Meaning
import AlertConsole.Pattern.Reading
import AlertConsole.Pattern.Size
set_option autoImplicit false

/-!
# Patterns

Regular expressions as they are common on command lines.  A pattern is found in a text if it
matches some part of it.  Classes beyond ASCII and the cases of letters have no tables here: a
pattern that asks for them is refused.
-/

namespace AlertConsole

/-- A pattern that can be looked for. -/
structure Pattern where
  expression : Pattern.Expression
  deriving Repr, Inhabited

namespace Pattern

/-- The most room that a machine may take, in bytes. -/
def roomLimit : Nat := 10 * 1024 * 1024

/-- Why a text cannot be used as a pattern. -/
inductive Refusal where
  | fault (f : Fault)
  /-- its machines take too much room -/
  | tooLarge
  /-- it asks for edges of words with letters of all kinds -/
  | noWordTable
  deriving DecidableEq, Repr, Inhabited

/-- The lines that tell about a refusal of a text. -/
def Refusal.lines (r : Refusal) (text : String) : List String :=
  match r with
  | .fault f => f.lines text
  | .tooLarge => [s!"Compiled regex exceeds size limit of {roomLimit} bytes."]
  | .noWordTable => ["error building NFA"]

/-- The pattern of an expression, if machines can be built for it. -/
def ofExpression (e : Expression) : Except Refusal Pattern :=
  if roomLimit < e.forwardSize then .error .tooLarge
  else if e.asksForWords then .error .noWordTable
  else if roomLimit < e.backwardSize then .error .tooLarge
  else .ok ⟨e⟩

/-- The expression of a text. -/
def Expression.ofText (text : String) : Except Fault Expression := do
  let t ← Tree.ofText text.toList
  let (e, _) ← t.expression .start
  return e

/-- The pattern of a text. -/
def ofText (text : String) : Except Refusal Pattern :=
  match Expression.ofText text with
  | .error f => .error (.fault f)
  | .ok e => ofExpression e

/-- Whether a pattern is found in a text. -/
def isFoundIn (p : Pattern) (text : String) : Bool := p.expression.isFoundIn text.toList

end Pattern

end AlertConsole
