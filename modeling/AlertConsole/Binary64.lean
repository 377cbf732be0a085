set_option autoImplicit false

/-!
# Finite binary64 numbers

The magnitudes of finite binary64 numbers, in order of size, are numbered from zero: number `r` is
the `r`-th smallest.  Below `2 ^ 53` the number of a magnitude is its size in units of
`2 ^ -1074`, and from there on each further `2 ^ 52` numbers have twice the spacing of those before
them.  Rounding, products and quotients are exact integer arithmetic on these units followed by
one rounding to the nearest magnitude, an exact half going to the even number.

There are no infinities and no NaN: an operation whose result is above every magnitude has none.
-/

namespace AlertConsole

/-- The number of magnitudes between one doubling of their spacing and the next, `2 ^ 52`. -/
abbrev Magnitude.perDoubling : Nat := 0x10000000000000

/-- The number of finite magnitudes, which is also the number that infinity would have. -/
def Magnitude.count : Nat := 2047 * Magnitude.perDoubling

/-- A finite binary64 magnitude, by its place in the order of size. -/
structure Magnitude where
  rank : Nat
  rank_lt : rank < Magnitude.count
  deriving DecidableEq, Repr

namespace Magnitude

/-- The quotient rounded to the nearest integer, an exact half to the even one. -/
def roundHalfEven (num den : Nat) : Nat :=
  let q := num / den
  let twice := 2 * (num % den)
  if twice < den then q else if den < twice then q + 1 else q + q % 2

/-- Rounding does not go below the integer part. -/
theorem div_le_roundHalfEven (num den : Nat) : num / den ≤ roundHalfEven num den := by
  simp only [roundHalfEven]
  split
  · exact Nat.le_refl _
  · split <;> omega

/-- The size of magnitude number `rank` in units of `2 ^ -1074`. -/
def unitsOf (rank : Nat) : Nat :=
  let doublings := rank / perDoubling - 1
  (rank - doublings * perDoubling) * Nat.pow 2 doublings

/-- The size in units of `2 ^ -1074`. -/
def units (x : Magnitude) : Nat := unitsOf x.rank

/-- The number that the magnitude nearest to `num / den` would have if magnitudes went on for
ever.  With `num / den` at least `2 ^ (52 + k)` and below `2 ^ (53 + k)` units, magnitudes stand
`2 ^ k` units apart there. -/
def nearestRank (num den : Nat) : Nat :=
  let scaled := num * Nat.pow 2 1074
  let doublings := (scaled / den).log2 - 52
  doublings * perDoubling + roundHalfEven scaled (den * Nat.pow 2 doublings)

/-- The magnitude nearest to `num / den`, unless that lies above all of them. -/
def nearest? (num den : Nat) : Option Magnitude :=
  if h : nearestRank num den < count then some ⟨nearestRank num den, h⟩ else none

/-- The magnitude zero. -/
def zero : Magnitude := ⟨0, by decide⟩

instance : Inhabited Magnitude := ⟨zero⟩

/-- Whether it is zero. -/
def isZero (x : Magnitude) : Bool := x.rank == 0

/-- The rounded product. -/
def mul? (x y : Magnitude) : Option Magnitude := nearest? (x.units * y.units) (Nat.pow 2 2148)

/-- The rounded quotient. -/
def div? (x y : Magnitude) : Option Magnitude := nearest? x.units y.units

/-- The integer part. -/
def floor (x : Magnitude) : Nat := x.units / Nat.pow 2 1074

/-- The magnitude nearest to a power of ten. -/
def tenPow? (n : Nat) : Option Magnitude := nearest? (Nat.pow 10 n) 1

/-- The greatest exponent of a power of ten that is in range. -/
def tenPowMax : Nat := 308

/-- Divides by the greatest power of ten, `times` times, rounding each time.  Once zero, the
magnitude stays zero. -/
def divTopTenPow? (x : Magnitude) : (times : Nat) → Option Magnitude
  | 0 => some x
  | times + 1 =>
    if x.isZero then
      some x
    else
      ((tenPow? tenPowMax).bind x.div?).bind fun y => divTopTenPow? y times

/-- Divides by `10 ^ n`: by the greatest power of ten while more than that is left, and then by
the power that is left. -/
def divTenPow? (x : Magnitude) (n : Nat) : Option Magnitude :=
  let times := (n - 1) / tenPowMax
  (divTopTenPow? x times).bind fun y => (tenPow? (n - times * tenPowMax)).bind y.div?

/-- Multiplies by `10 ^ e` in binary64 arithmetic.  Only zero can be multiplied by a power
that is out of range itself. -/
def scale? (x : Magnitude) : Int → Option Magnitude
  | .ofNat e =>
    if e ≤ tenPowMax then (tenPow? e).bind x.mul? else if x.isZero then some x else none
  | .negSucc e => divTenPow? x (e + 1)

end Magnitude

/-- A finite binary64 number: a sign and a magnitude.  The two zeros differ in their sign. -/
structure Binary64 where
  negative : Bool
  magnitude : Magnitude
  deriving DecidableEq, Repr, Inhabited

namespace Binary64

/-- Whether it is one of the two zeros. -/
def isZero (x : Binary64) : Bool := x.magnitude.isZero

/-- Numeric equality, which does not tell the two zeros apart. -/
def same (x y : Binary64) : Bool := x == y || (x.isZero && y.isZero)

/-- The integer part, found by rounding toward zero. -/
def truncate (x : Binary64) : Int :=
  if x.negative then -(x.magnitude.floor : Int) else x.magnitude.floor

end Binary64

end AlertConsole
