import AlertConsole.Json.Number
import AlertConsole.Proofs.Binary64.Bounds
import AlertConsole.Proofs.Binary64.Rounding
import Mathlib.Data.Rat.Floor
set_option autoImplicit false

/-!
# The exact value of a number

A binary64 number is a rational number, and its integer part is that rational number rounded toward
zero (`Binary64.truncate_eq`).  Rounding toward zero does not take a number across an integer
(`le_natAbs_towardZero_iff`).
-/

namespace AlertConsole

/-- The integer part of a rational number, found by rounding toward zero. -/
def towardZero (q : ℚ) : Int := if 0 ≤ q then ⌊q⌋ else ⌈q⌉

theorem towardZero_neg (q : ℚ) : towardZero (-q) = -towardZero q := by
  rcases lt_trichotomy q 0 with hneg | rfl | hpos
  · rw [towardZero, towardZero, if_pos (by linarith), if_neg (by linarith), Int.floor_neg]
  · rfl
  · rw [towardZero, towardZero, if_neg (by linarith), if_pos hpos.le, Int.ceil_neg]

/-- A magnitude reaches a natural number exactly if its integer part does. -/
theorem le_natAbs_towardZero_iff (n : Nat) (q : ℚ) : n ≤ (towardZero q).natAbs ↔ (n : ℚ) ≤ |q| := by
  have hnonneg {p : ℚ} (hp : 0 ≤ p) : n ≤ (towardZero p).natAbs ↔ (n : ℚ) ≤ |p| := by
    have hfloor : 0 ≤ ⌊p⌋ := Int.floor_nonneg.mpr hp
    have hcast : ((n : Int) : ℚ) = (n : ℚ) := Int.cast_natCast n
    rw [towardZero, if_pos hp, abs_of_nonneg hp, ← hcast, ← Int.le_floor]
    omega
  rcases le_total 0 q with hq | hq
  · exact hnonneg hq
  · have hneg := hnonneg (neg_nonneg.mpr hq)
    rwa [towardZero_neg, Int.natAbs_neg, abs_neg] at hneg

theorem Magnitude.towardZero_value (x : Magnitude) : towardZero x.value = x.floor := by
  have hnonneg : 0 ≤ x.value := valueOf_nonneg x.rank
  have hfloor := Rat.floor_intCast_div_natCast (x.units : Int) (Nat.pow 2 1074)
  rw [Int.cast_natCast] at hfloor
  rw [towardZero, if_pos hnonneg, floor, Int.natCast_ediv]
  exact hfloor

namespace Binary64

/-- The exact value. -/
def value (x : Binary64) : ℚ :=
  if x.negative then -((x.magnitude.units : ℚ) / (Nat.pow 2 1074 : Nat))
  else (x.magnitude.units : ℚ) / (Nat.pow 2 1074 : Nat)

theorem value_eq (x : Binary64) :
    x.value = if x.negative then -x.magnitude.value else x.magnitude.value := rfl

/-- The integer part is the exact value rounded toward zero. -/
theorem truncate_eq (x : Binary64) : x.truncate = towardZero x.value := by
  rw [truncate, value_eq]
  split
  · rw [towardZero_neg, Magnitude.towardZero_value]
  · rw [Magnitude.towardZero_value]

end Binary64

/-- The exact value. -/
def Json.Number.value : Json.Number → ℚ
  | .integer i _ => i
  | .double x => x.value

end AlertConsole
