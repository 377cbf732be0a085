import AlertConsole.Binary64
set_option autoImplicit false

/-!
# The shortest decimal that reads back

A positive magnitude is printed with the fewest digits that still single it out.  The decimals
that round to a magnitude fill the interval between the midpoints to its two neighbours, ends
included if its number is even.  A grid of decimals is the multiples of one power of ten; the
coarsest grid with a point in the interval has the fewest digits, and on it the point nearest to
the magnitude is taken, the even one of two that are equally near.

If a grid has a point in the interval, then one of the two grid points next to the magnitude is in
it, so no others are tried.
-/

namespace AlertConsole

/-- The decimal `digits * 10 ^ exponent`. -/
structure Decimal where
  digits : Nat
  exponent : Int
  deriving DecidableEq, Repr, Inhabited

namespace Decimal

/-- The power of ten above the line of `10 ^ e`. -/
def aboveLine (e : Int) : Nat := Nat.pow 10 e.toNat

/-- The power of ten below the line of `10 ^ e`. -/
def belowLine (e : Int) : Nat := Nat.pow 10 (-e).toNat

end Decimal

namespace Magnitude

/-- Whether the decimal lies in the interval that rounds to magnitude number `rank`.  Both sides
are counted in units of `2 ^ -1075`. -/
def absorbs (rank : Nat) (d : Decimal) : Bool :=
  let x := d.digits * Nat.pow 2 1075 * Decimal.aboveLine d.exponent
  let low := (unitsOf (rank - 1) + unitsOf rank) * Decimal.belowLine d.exponent
  let high := (unitsOf rank + unitsOf (rank + 1)) * Decimal.belowLine d.exponent
  if rank % 2 = 0 then low ≤ x && x ≤ high else low < x && x < high

/-- The point of the grid of `10 ^ e` that is nearest to magnitude number `rank` among those that
round to it. -/
def onGrid? (rank : Nat) (e : Int) : Option Decimal :=
  let num := unitsOf rank * Decimal.belowLine e
  let den := Nat.pow 2 1074 * Decimal.aboveLine e
  let below : Decimal := ⟨num / den, e⟩
  let above : Decimal := ⟨num / den + 1, e⟩
  match absorbs rank below, absorbs rank above with
  | true, true => some ⟨roundHalfEven num den, e⟩
  | true, false => some below
  | false, true => some above
  | false, false => none

/-- The first hit on the grids of `10 ^ e`, `10 ^ (e - 1)` and so on, `tries` of them. -/
def shortestFrom (rank : Nat) : (tries : Nat) → (e : Int) → Decimal
  | 0, e => ⟨0, e⟩
  | tries + 1, e =>
    match onGrid? rank e with
    | some d => d
    | none => shortestFrom rank tries (e - 1)

/-- An exponent whose power of ten is above half the magnitude, so that no coarser grid has a hit:
`30103 / 100000` is just above the logarithm of two. -/
def topExponent (x : Magnitude) : Nat := x.floor.log2 * 30103 / 100000 + 1

/-- The shortest decimal that rounds to a positive magnitude.  A grid finer than half a unit always
has a hit, and the grid of `10 ^ -399`, which is tried last, is finer than that by far. -/
def shortest (x : Magnitude) : Decimal :=
  shortestFrom x.rank (x.topExponent + 400) x.topExponent

end Magnitude

/-! ## Its text -/

namespace Decimal

/-- The lower bound, not included, and the upper bound, included, of the place of the point
(counted from the front of the digits) in positional notation: `0.00001` is the smallest power of
ten written so and `1000000000000000.0` the greatest. -/
def positionalAbove : Int := -5

@[inherit_doc positionalAbove]
def positionalUpTo : Int := 16

/-- Writes a decimal with digits to both sides of the point, or with an exponent if the point is
far away from the digits. -/
def text (d : Decimal) : String :=
  let digits := Nat.toDigits 10 d.digits
  let point : Int := digits.length + d.exponent
  if positionalAbove < point && point ≤ positionalUpTo then
    if point ≤ 0 then
      "0." ++ String.ofList (List.replicate (-point).toNat '0' ++ digits)
    else if 0 ≤ d.exponent then
      String.ofList (digits ++ List.replicate d.exponent.toNat '0') ++ ".0"
    else
      String.ofList (digits.take point.toNat) ++ "." ++ String.ofList (digits.drop point.toNat)
  else
    let fraction := if digits.length ≤ 1 then "" else "." ++ String.ofList (digits.drop 1)
    let exponent := point - 1
    String.ofList (digits.take 1) ++ fraction ++ "e" ++
      (if exponent < 0 then "-" else "+") ++ toString exponent.natAbs

end Decimal

/-- The text of a number: the sign, also that of a zero, and the shortest decimal. -/
def Binary64.text (x : Binary64) : String :=
  (if x.negative then "-" else "") ++ if x.isZero then "0.0" else x.magnitude.shortest.text

end AlertConsole
