import AlertConsole.Pattern.ByteRanges
import AlertConsole.Pattern.Expression
import AlertConsole.Utf8
set_option autoImplicit false

/-!
# How much room an expression takes

An expression is run as a machine that reads bytes, one machine forwards and one backwards.  A
count repeats the states of what it counts, so a short pattern can take more room than there is.
This module says how many bytes the states of both machines take.
-/

namespace AlertConsole.Pattern

namespace Size

/-- The room for a state. -/
def state : Nat := 32

/-- The room for a step from a state that has steps for several ranges of bytes. -/
def move : Nat := 8

/-- The room for a step from a state that has steps without a byte. -/
def branch : Nat := 4

/-- The room for all of some things. -/
def total (rooms : List Nat) : Nat := rooms.foldl (· + ·) 0

/-! ## Sets and literals -/

/-- The room for a set of characters that are not all ASCII, forwards: what ends alike is kept
once. -/
def wideForwards (sequences : List ByteRanges) : Nat :=
  let states := (ByteRanges.remainders 4 sequences).eraseDups
  state + total (states.map fun ss => state + move * (ByteRanges.heads ss).length)

/-- The room for a set of characters that are not all ASCII, backwards: what starts alike is kept
once. -/
def wideBackwards (sequences : List ByteRanges) : Nat :=
  2 * state + branch * sequences.length +
    state * (sequences.flatMap ByteRanges.beginnings).eraseDups.length

/-- The room for a set. -/
def ofSet (backwards : Bool) (s : CharSet) : Nat :=
  if s.isAscii then 2 * state + move * s.ranges.length
  else if backwards then wideBackwards (ByteRanges.ofSet s)
  else wideForwards (ByteRanges.ofSet s)

/-- Byte strings between those that are empty, of which the first ones count as one. -/
def betweenEmpty (strings : List (List UInt8)) : List (List (List UInt8)) :=
  let lead := strings.takeWhile (·.isEmpty)
  ((lead.take 1) ++ strings.drop lead.length).foldr (fun s out =>
    match s, out with
    | [], out => [] :: out
    | s, chunk :: out => (s :: chunk) :: out
    | s, [] => [[s]]) [[]]

/-- What follows each first byte in some byte strings. -/
def tails (strings : List (List UInt8)) : List (List (List UInt8)) :=
  (strings.filterMap (·.head?)).eraseDups.map fun b =>
    strings.filterMap fun s => if s.head? = some b then some s.tail else none

/-- The room for the states that tell byte strings apart, their end left out, no deeper than
`depth`. -/
def ofTree : (depth : Nat) → (strings : List (List UInt8)) → Nat
  | 0, _ => 0
  | depth + 1, strings =>
    let chunks := betweenEmpty strings
    let full := chunks.filter (!·.isEmpty)
    let own := full.map fun chunk =>
      let next := tails chunk
      let below := next.filter fun t => t.any (!·.isEmpty)
      (if next.length = 1 then state else state + move * next.length) +
        total (below.map (ofTree depth))
    state + branch * (full.length + (chunks.length - 1)) + total own

/-- The room for some byte strings as alternatives. -/
def ofStrings (strings : List (List UInt8)) : Nat :=
  state + ofTree ((strings.map (·.length)).foldl max 0 + 1) strings

/-- The room for a repetition of what takes some room; `some` says that it never is nothing. -/
def ofRepetition (item : Nat) (wide : Bool) (least : Nat) (most : Option Nat) : Nat :=
  match most with
  | none =>
    if least = 0 then
      if wide then item + state + 2 * branch else item + 3 * state + 4 * branch
    else least * item + state + 2 * branch
  | some most =>
    if least = 0 && most = 1 then item + 2 * state + 2 * branch
    else if least = most then least * item
    else
      (if least = 0 then state else least * item) + state +
        (most - least) * (item + state + 2 * branch)

end Size

namespace Expression

/-- The characters of a literal. -/
def literal? : Expression → Option (List Char)
  | .literal chars => some chars
  | _ => none

mutual

/-- The room for an expression. -/
def size (backwards : Bool) : Expression → Nat
  | .blank => Size.state
  | .literal chars => Size.state * (Utf8.encode chars).length
  | .set s => Size.ofSet backwards s
  | .look _ => Size.state
  | .repetition least most _ item =>
    Size.ofRepetition (item.size backwards) (item.leastWidth?.any (0 < ·)) least most
  | .kept _ item => (if backwards then 0 else 2 * Size.state) + item.size backwards
  | .sequence items => sizeOfAll backwards items
  | .alternatives items =>
    match items.mapM literal? with
    | some literals =>
      Size.ofStrings (literals.map fun chars =>
        if backwards then (Utf8.encode chars).reverse else Utf8.encode chars)
    | none =>
      2 * Size.state + Size.branch * items.length + sizeOfAll backwards items

/-- The room for some expressions. -/
def sizeOfAll (backwards : Bool) : List Expression → Nat
  | [] => 0
  | e :: es => e.size backwards + sizeOfAll backwards es

end

/-! ## Anchors -/

mutual

/-- Whether an expression matches only from the start of a text on. -/
def isAnchored : Expression → Bool
  | .look l => l = .textStart
  | .repetition least _ _ item => 0 < least && item.isAnchored
  | .kept _ item => item.isAnchored
  | .sequence items => isAnchoredRow items
  | .alternatives items => allAnchored items
  | _ => false

/-- Whether a row matches only from the start of a text on. -/
def isAnchoredRow : List Expression → Bool
  | [] => false
  | e :: es => e.isAnchored || (e.isWidthless && isAnchoredRow es)

/-- Whether each of some expressions does. -/
def allAnchored : List Expression → Bool
  | [] => true
  | e :: es => e.isAnchored && allAnchored es

end

mutual

/-- Whether an expression matches only up to the end of a text. -/
def isAnchoredBehind : Expression → Bool
  | .look l => l = .textEnd
  | .repetition least _ _ item => 0 < least && item.isAnchoredBehind
  | .kept _ item => item.isAnchoredBehind
  | .sequence items => isAnchoredRowBehind items
  | .alternatives items => allAnchoredBehind items
  | _ => false

/-- Whether a row matches only up to the end of a text. -/
def isAnchoredRowBehind : List Expression → Bool
  | [] => false
  | e :: es => isAnchoredRowBehind es || (allWidthless es && e.isAnchoredBehind)

/-- Whether each of some expressions does. -/
def allAnchoredBehind : List Expression → Bool
  | [] => true
  | e :: es => e.isAnchoredBehind && allAnchoredBehind es

end

/-! ## Machines -/

/-- The room for what skips the bytes before a match, if a match can stand anywhere. -/
def skipSize (anchored : Bool) : Nat :=
  if anchored then Size.state else 3 * Size.state + Size.move + 2 * Size.branch

/-- The room for the machine that reads forwards, which also keeps where a match starts and
stops. -/
def forwardSize (e : Expression) : Nat :=
  skipSize e.isAnchored + 2 * Size.state + e.size false + Size.state

/-- The room for the machine that reads backwards. -/
def backwardSize (e : Expression) : Nat :=
  skipSize e.isAnchoredBehind + e.size true + Size.state

end Expression

end AlertConsole.Pattern
