import AlertConsole.Json.Fault
import AlertConsole.Json.Number
set_option autoImplicit false

/-!
# Number literals

A literal is a sign, the digits of a whole part, digits behind a point if there is one, and an
exponent if there is one.  Reading a literal and finding its number are two things: a literal that
is well formed may still have no number, because it is out of range.

The number of a literal is not always the binary64 number nearest to it.  Its leading digits are
gathered into a significand below `2 ^ 64`; digits of the whole part beyond that count as factors
of ten, digits behind the point beyond that do not count; and the significand is then multiplied or
divided by a power of ten in binary64 arithmetic.
-/

namespace AlertConsole.Json

/-- The exponent of a literal. -/
structure Exponent where
  negative : Bool
  digits : List UInt8
  deriving DecidableEq, Repr, Inhabited

/-- A number literal.  No digits of a fraction means no point. -/
structure Literal where
  negative : Bool
  whole : List UInt8
  fraction : List UInt8
  exponent : Option Exponent
  deriving DecidableEq, Repr, Inhabited

namespace Literal

/-! ## Reading -/

/-- Reads the digits of a whole part, which are a zero alone or do not start with one. -/
def readWhole : Step (List UInt8)
  | [] => .error ⟨.eofValue, []⟩
  | b :: s =>
    if b = Byte.zero then
      match s with
      | [] => .ok ([b], [])
      | d :: t => if Byte.isDigit d then .error ⟨.invalidNumber, t⟩ else .ok ([b], s)
    else if Byte.isDigit b then
      .ok (b :: s.takeWhile Byte.isDigit, s.dropWhile Byte.isDigit)
    else
      .error ⟨.invalidNumber, s⟩

/-- Reads one digit or more. -/
def readDigits : Step (List UInt8)
  | [] => .error ⟨.eofValue, []⟩
  | b :: s =>
    if Byte.isDigit b then
      .ok (b :: s.takeWhile Byte.isDigit, s.dropWhile Byte.isDigit)
    else
      .error ⟨.invalidNumber, s⟩

/-- Reads a point and the digits behind it, if there is a point. -/
def readFraction : Step (List UInt8)
  | [] => .ok ([], [])
  | b :: s => if b = Byte.point then readDigits s else .ok ([], b :: s)

/-- Reads a sign, if there is one: whether it is a minus. -/
def readSign : List UInt8 → Bool × List UInt8
  | [] => (false, [])
  | b :: s =>
    if b = Byte.minus then (true, s) else if b = Byte.plus then (false, s) else (false, b :: s)

/-- Reads an exponent, if there is one. -/
def readExponent : Step (Option Exponent)
  | [] => .ok (none, [])
  | b :: s =>
    if b = Byte.lowerE ∨ b = Byte.upperE then
      let (negative, s) := readSign s
      match readDigits s with
      | .error stop => .error stop
      | .ok (digits, s) => .ok (some ⟨negative, digits⟩, s)
    else
      .ok (none, b :: s)

/-- Reads a literal behind its sign. -/
def read (negative : Bool) : Step Literal := fun s => do
  let (whole, s) ← readWhole s
  let (fraction, s) ← readFraction s
  let (exponent, s) ← readExponent s
  .ok (⟨negative, whole, fraction, exponent⟩, s)

/-! ## The number -/

/-- Appends digits to a number as long as it stays up to `limit`.  The digits from the first one
on that would take it above are left over. -/
def gather (limit : Nat) (n : Nat) : List UInt8 → Nat × List UInt8
  | [] => (n, [])
  | d :: ds =>
    let m := n * 10 + Byte.digit d
    if m ≤ limit then gather limit m ds else (n, d :: ds)

/-- The greatest significand. -/
def maxSignificand : Nat := 0xFFFFFFFFFFFFFFFF

/-- The greatest exponent that is read to its end. -/
def maxExponent : Nat := 0x7FFFFFFF

/-- The double that a significand and a power of ten make, sign last. -/
def scaled? (negative : Bool) (significand : Nat) (exponent : Int) : Option Number :=
  ((Magnitude.nearest? significand 1).bind (·.scale? exponent)).map
    fun x => .double ⟨negative, x⟩

/-- The number of an integer literal whose digits fit into a significand.  A negative zero is a
double, and so is an integer that is out of range. -/
def integer? (negative : Bool) (n : Nat) : Option Number :=
  if negative then
    if n = 0 then scaled? true 0 0 else (Number.ofInt? (-n)).orElse fun _ => scaled? true n 0
  else
    Number.ofInt? n

/-- A number, or the literal left the range at its end. -/
def orOutOfRange : Option Number → Except (List UInt8) Number
  | some n => .ok n
  | none => .error []

/-- The number that a significand and an exponent make, if the digits of the significand amount to
the power of ten `shift`.  Zero is zero with any exponent, and so is a number with an exponent that
is too far below zero to be read to its end. -/
def withExponent (negative : Bool) (significand : Nat) (shift : Int) (e : Exponent) :
    Except (List UInt8) Number :=
  match gather maxExponent 0 e.digits with
  | (n, []) =>
    orOutOfRange (scaled? negative significand (if e.negative then shift - n else shift + n))
  | (_, _ :: ds) =>
    if significand ≠ 0 ∧ ¬ e.negative then .error ds else orOutOfRange (scaled? negative 0 0)

/-- The number of a literal.  If it has none, the literal left the range at the end, or before the
given last digits of its exponent, if that is too great to be read to its end. -/
def number (l : Literal) : Except (List UInt8) Number :=
  let (head, rest) := gather maxSignificand 0 l.whole
  let (significand, unused) := gather maxSignificand head l.fraction
  let shift : Int := rest.length - (l.fraction.length - unused.length : Nat)
  match l.exponent with
  | none =>
    if rest = [] ∧ l.fraction = [] then orOutOfRange (integer? l.negative head)
    else orOutOfRange (scaled? l.negative significand shift)
  | some e => withExponent l.negative significand shift e

end Literal

/-- Reads a number behind its sign. -/
def number (negative : Bool) : Step Number := fun s => do
  let (literal, s) ← Literal.read negative s
  match literal.number with
  | .ok n => .ok (n, s)
  | .error unread => .error ⟨.numberOutOfRange, unread ++ s⟩

end AlertConsole.Json
