import AlertConsole.Binary64.Shortest
set_option autoImplicit false

/-!
# JSON numbers

A number is kept as an integer if it is written as one and lies in the range that signed or
unsigned words of 64 bits can hold; any other number is kept as a binary64 number.  The two kinds
are never equal, not even `1` and `1.0`.
-/

namespace AlertConsole.Json

/-- A JSON number. -/
inductive Number where
  | integer (value : Int)
      (inRange : -0x8000000000000000 ≤ value ∧ value < 0x10000000000000000)
  | double (value : Binary64)
  deriving DecidableEq, Repr

namespace Number

/-- An integer that is kept as such, if it is in range. -/
def ofInt? (i : Int) : Option Number :=
  if h : -0x8000000000000000 ≤ i ∧ i < 0x10000000000000000 then some (.integer i h) else none

/-- The value, if it is an integer that an unsigned word of 64 bits can hold. -/
def toNat? : Number → Option Nat
  | .integer i _ => if 0 ≤ i then some i.toNat else none
  | .double _ => none

/-- Equality: two integers of one value, or two doubles of one value. -/
def same : Number → Number → Bool
  | .integer i _, .integer j _ => i == j
  | .double x, .double y => x.same y
  | _, _ => false

/-- The text of an integer. -/
def intText (i : Int) : String :=
  (if i < 0 then "-" else "") ++ String.ofList (Nat.toDigits 10 i.natAbs)

/-- The compact text of a number. -/
def text : Number → String
  | .integer i _ => intText i
  | .double x => x.text

end Number

end AlertConsole.Json
