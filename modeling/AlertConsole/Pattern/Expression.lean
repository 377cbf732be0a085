import AlertConsole.Pattern.CharSet
set_option autoImplicit false

/-!
# Regular expressions

What a pattern means.  Expressions are built by functions that put literals together, flatten what
is nested without need, make one set of alternatives that are single characters or sets, and take
out what all alternatives start with.
-/

namespace AlertConsole.Pattern

/-! ## Looking around -/

/-- How a place lies to the words of a text. -/
inductive WordEdge where
  | boundary
  | noBoundary
  | wordStart
  | wordEnd
  /-- no part of a word stands before -/
  | startHalf
  /-- no part of a word stands behind -/
  | endHalf
  deriving DecidableEq, Repr, Inhabited

/-- What is asked of a place by what stands before and behind it. -/
inductive Look where
  | textStart
  | textEnd
  /-- the start of a line; lines may also end in carriage returns -/
  | lineStart (returns : Bool)
  | lineEnd (returns : Bool)
  /-- an edge of words, of letters of all kinds or of ASCII alone -/
  | word (unicode : Bool) (edge : WordEdge)
  deriving DecidableEq, Repr, Inhabited

/-- Whether an ASCII character can be part of a word. -/
def isWordChar (c : Char) : Bool := c.isAlphanum || c = '_'

/-- Whether a place with characters before and behind it lies so to ASCII words. -/
def WordEdge.holds (before behind : Option Char) : WordEdge → Bool :=
  let left := before.any isWordChar
  let right := behind.any isWordChar
  fun
  | .boundary => left != right
  | .noBoundary => left == right
  | .wordStart => !left && right
  | .wordEnd => left && !right
  | .startHalf => !left
  | .endHalf => !right

/-- Whether a place with characters before and behind it is as asked. -/
def Look.holds (before behind : Option Char) : Look → Bool
  | .textStart => before.isNone
  | .textEnd => behind.isNone
  | .lineStart false => before.all (· = '\n')
  | .lineEnd false => behind.all (· = '\n')
  | .lineStart true => before.all fun c => c = '\n' || (c = '\r' && behind != some '\n')
  | .lineEnd true => behind.all fun c => c = '\r' || (c = '\n' && before != some '\r')
  | .word _ edge => edge.holds before behind

/-! ## Expressions -/

/-- A regular expression. -/
inductive Expression where
  /-- nothing, anywhere -/
  | blank
  /-- some characters in a row, at least one -/
  | literal (chars : List Char)
  /-- one character of a set -/
  | set (s : CharSet)
  /-- nothing, at some places -/
  | look (l : Look)
  | repetition (least : Nat) (most : Option Nat) (greedy : Bool) (item : Expression)
  /-- what is remembered under a number -/
  | kept (index : Nat) (item : Expression)
  | sequence (items : List Expression)
  | alternatives (items : List Expression)
  deriving Repr, Inhabited

namespace Expression

mutual

/-- Whether two expressions are the same. -/
def same : Expression → Expression → Bool
  | .blank, .blank => true
  | .literal a, .literal b => a = b
  | .set a, .set b => a = b
  | .look a, .look b => a = b
  | .repetition l m g a, .repetition l' m' g' b => l = l' && m = m' && g = g' && a.same b
  | .kept i a, .kept j b => i = j && a.same b
  | .sequence as, .sequence bs => sameAll as bs
  | .alternatives as, .alternatives bs => sameAll as bs
  | _, _ => false

/-- Whether two lists have the same expressions. -/
def sameAll : List Expression → List Expression → Bool
  | [], [] => true
  | a :: as, b :: bs => a.same b && sameAll as bs
  | _, _ => false

end

mutual

/-- Whether only nothing can be matched, as far as can be seen. -/
def isWidthless : Expression → Bool
  | .blank => true
  | .literal _ => false
  | .set _ => false
  | .look _ => true
  | .repetition _ most _ item => most.isSome && item.isWidthless
  | .kept _ item => item.isWidthless
  | .sequence items => allWidthless items
  | .alternatives items => allWidthless items

/-- Whether each of some expressions matches only nothing. -/
def allWidthless : List Expression → Bool
  | [] => true
  | e :: es => e.isWidthless && allWidthless es

end

mutual

/-- The least number of characters that can be matched, if anything can. -/
def leastWidth? : Expression → Option Nat
  | .blank => some 0
  | .literal chars => some chars.length
  | .set s => if s.isEmpty then none else some 1
  | .look _ => some 0
  | .repetition least _ _ item => item.leastWidth?.map (least * ·)
  | .kept _ item => item.leastWidth?
  | .sequence items => widthOfAll? items
  | .alternatives items => widthOfAny? items

/-- The least width of some expressions in a row. -/
def widthOfAll? : List Expression → Option Nat
  | [] => some 0
  | e :: es =>
    match e.leastWidth?, widthOfAll? es with
    | some m, some n => some (m + n)
    | _, _ => none

/-- The least width of one of some expressions, if each can match. -/
def widthOfAny? : List Expression → Option Nat
  | [] => none
  | [e] => e.leastWidth?
  | e :: es =>
    match e.leastWidth?, widthOfAny? es with
    | some m, some n => some (min m n)
    | _, _ => none

end

/-! ## Building -/

/-- One character of a set. -/
def ofSet (s : CharSet) : Expression :=
  match s.char? with
  | some c => .literal [c]
  | none => .set s

/-- A repetition.  Nothing is repeated at most once. -/
def repeated (least : Nat) (most : Option Nat) (greedy : Bool) (item : Expression) : Expression :=
  let least := if item.isWidthless then min least 1 else least
  let most := if item.isWidthless then some (min (most.getD 1) 1) else most
  if most = some 0 then .blank
  else if least = 1 && most = some 1 then item
  else .repetition least most greedy item

/-- The parts of an expression that stand in a row. -/
def parts : Expression → List Expression
  | .blank => []
  | .sequence items => items
  | e => [e]

/-- An expression before others, put together with the first if both are literals. -/
def before (e : Expression) (es : List Expression) : List Expression :=
  match e, es with
  | .literal a, .literal b :: es => .literal (a ++ b) :: es
  | _, _ => e :: es

/-- Some expressions in a row. -/
def inRow (items : List Expression) : Expression :=
  match (items.flatMap parts).foldr before [] with
  | [] => .blank
  | [e] => e
  | es => .sequence es

/-- The alternatives of an expression. -/
def branches : Expression → List Expression
  | .alternatives items => items
  | e => [e]

/-- The character of an expression that is one. -/
def char? : Expression → Option Char
  | .literal [c] => some c
  | _ => none

/-- The set of an expression that is one. -/
def set? : Expression → Option CharSet
  | .set s => some s
  | _ => none

/-- The expression that some alternatives make if they are single characters or sets, or if there
is no more than one. -/
def united? (items : List Expression) : Option Expression :=
  match items with
  | [] => some (.set .empty)
  | [e] => some e
  | items =>
    match items.mapM char?, items.mapM set? with
    | some chars, _ => some (ofSet (.ofRanges (chars.map fun c => (c.toNat, c.toNat))))
    | none, some sets => some (ofSet (sets.foldl CharSet.union .empty))
    | none, none => none

/-- What two rows start with. -/
def sharedLead : List Expression → List Expression → List Expression
  | a :: as, b :: bs => if a.same b then a :: sharedLead as bs else []
  | _, _ => []

/-- The row of an expression that is one. -/
def row? : Expression → Option (List Expression)
  | .sequence items => some items
  | _ => none

/-- What all of some alternatives start with, if all are rows. -/
def leadOf (items : List Expression) : List Expression :=
  match items.mapM row? with
  | some (row :: rows) => rows.foldl sharedLead row
  | _ => []

/-- Any of some expressions. -/
def anyOf (items : List Expression) : Expression :=
  let items := items.flatMap branches
  match united? items with
  | some e => e
  | none =>
    match leadOf items with
    | [] => .alternatives items
    | lead =>
      let rests := (items.map fun e => inRow (e.parts.drop lead.length)).flatMap branches
      inRow (lead ++ [(united? rests).getD (.alternatives rests)])

/-! ## Words -/

mutual

/-- Whether an edge of words with letters of all kinds is asked for. -/
def asksForWords : Expression → Bool
  | .look (.word true _) => true
  | .repetition _ _ _ item => item.asksForWords
  | .kept _ item => item.asksForWords
  | .sequence items => anyAsksForWords items
  | .alternatives items => anyAsksForWords items
  | _ => false

/-- Whether one of some expressions asks for such an edge. -/
def anyAsksForWords : List Expression → Bool
  | [] => false
  | e :: es => e.asksForWords || anyAsksForWords es

end

end Expression

end AlertConsole.Pattern
