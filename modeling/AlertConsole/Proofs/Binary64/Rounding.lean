import AlertConsole.Proofs.Binary64.Nearest
import Mathlib.Algebra.Order.Field.Rat
import Mathlib.Order.Interval.Set.OrdConnected
import Mathlib.Tactic.Linarith
import Mathlib.Tactic.Positivity
set_option autoImplicit false

/-!
# Rounding to the nearest magnitude

The rational numbers that are rounded to one magnitude are its cell: the interval between the
midpoints to its two neighbours, ends included if its number is even.  A quotient is rounded to the
magnitude in whose cell it lies (`nearestRank_eq_iff`), so no other is nearer to it
(`nearest?_nearest`), and if another one is as near, the number of the one taken is even
(`nearest?_even`).
-/

namespace AlertConsole.Magnitude

/-! ## Cells -/

/-- The size of magnitude number `rank`. -/
def valueOf (rank : Nat) : ℚ := (unitsOf rank : ℚ) / (Nat.pow 2 1074 : Nat)

/-- The exact value. -/
def value (x : Magnitude) : ℚ := valueOf x.rank

/-- The midpoint between two magnitudes. -/
def middle (r s : Nat) : ℚ := (valueOf r + valueOf s) / 2

/-- The rational numbers that are rounded to magnitude number `rank`. -/
def cell (rank : Nat) : Set ℚ :=
  if rank % 2 = 0 then Set.Icc (middle (rank - 1) rank) (middle rank (rank + 1))
  else Set.Ioo (middle (rank - 1) rank) (middle rank (rank + 1))

theorem valueOf_strictMono : StrictMono valueOf := fun r s h => by
  have hunit : (0 : ℚ) < (Nat.pow 2 1074 : Nat) := Nat.cast_pos.mpr (pow_pos 1074)
  exact div_lt_div_of_pos_right (Nat.cast_lt.mpr (unitsOf_strictMono h)) hunit

/-- Numbers between two of a cell are in it. -/
theorem ordConnected_cell (rank : Nat) : (cell rank).OrdConnected := by
  rw [cell]
  split
  · exact Set.ordConnected_Icc
  · exact Set.ordConnected_Ioo

theorem middle_le_of_mem_cell {rank : Nat} {q : ℚ} (h : q ∈ cell rank) :
    middle (rank - 1) rank ≤ q ∧ q ≤ middle rank (rank + 1) := by
  rw [cell] at h
  split at h
  · exact h
  · exact ⟨h.1.le, h.2.le⟩

theorem mem_cell_of_lt {rank : Nat} {q : ℚ} (hlow : middle (rank - 1) rank < q)
    (hhigh : q < middle rank (rank + 1)) : q ∈ cell rank := by
  rw [cell]
  split
  · exact ⟨hlow.le, hhigh.le⟩
  · exact ⟨hlow, hhigh⟩

theorem valueOf_nonneg (rank : Nat) : 0 ≤ valueOf rank :=
  div_nonneg (Nat.cast_nonneg _) (Nat.cast_nonneg _)

theorem lt_middle_succ (rank : Nat) : valueOf rank < middle rank (rank + 1) := by
  have hlt := valueOf_strictMono (Nat.lt_succ_self rank)
  rw [middle]
  linarith

section

variable {rank : Nat} (hrank : 0 < rank)
include hrank

theorem middle_pred_lt : middle (rank - 1) rank < valueOf rank := by
  have hlt := valueOf_strictMono (Nat.sub_one_lt_of_lt hrank)
  rw [middle]
  linarith

/-- A positive magnitude is inside its cell. -/
theorem valueOf_mem_cell : valueOf rank ∈ cell rank :=
  mem_cell_of_lt (middle_pred_lt hrank) (lt_middle_succ rank)

theorem pos_of_mem_cell {q : ℚ} (h : q ∈ cell rank) : 0 < q := by
  have hlow := (middle_le_of_mem_cell h).1
  have hpred := valueOf_nonneg (rank - 1)
  have hlt := valueOf_strictMono (Nat.sub_one_lt_of_lt hrank)
  rw [middle] at hlow
  linarith

end

/-! ## Quotients -/

theorem natDiv_lt_natDiv_iff {a b c d : Nat} (hb : 0 < b) (hd : 0 < d) :
    (a : ℚ) / b < (c : ℚ) / d ↔ a * d < c * b := by
  rw [div_lt_div_iff₀ (Nat.cast_pos.mpr hb) (Nat.cast_pos.mpr hd), ← Nat.cast_mul, ← Nat.cast_mul,
    Nat.cast_lt]

theorem twice_unit_pos : 0 < 2 * Nat.pow 2 1074 := Nat.mul_pos Nat.two_pos (pow_pos 1074)

theorem middle_eq (r s : Nat) :
    middle r s = (unitsOf r + unitsOf s : Nat) / (2 * Nat.pow 2 1074 : Nat) := by
  rw [middle, valueOf, valueOf, ← add_div, div_div, Nat.cast_mul, Nat.cast_add, mul_comm]
  rfl

section

variable {num den : Nat} (hden : 0 < den)
include hden

theorem middle_lt_iff {r s : Nat} :
    middle r s < (num : ℚ) / den ↔
      (unitsOf r + unitsOf s) * den < 2 * (num * Nat.pow 2 1074) := by
  rw [middle_eq, natDiv_lt_natDiv_iff twice_unit_pos hden, Nat.mul_left_comm]

theorem middle_le_iff {r s : Nat} :
    middle r s ≤ (num : ℚ) / den ↔
      (unitsOf r + unitsOf s) * den ≤ 2 * (num * Nat.pow 2 1074) := by
  rw [← not_lt, ← Nat.not_lt, middle_eq, natDiv_lt_natDiv_iff hden twice_unit_pos,
    Nat.mul_left_comm]

theorem le_middle_iff {r s : Nat} :
    (num : ℚ) / den ≤ middle r s ↔
      2 * (num * Nat.pow 2 1074) ≤ (unitsOf r + unitsOf s) * den := by
  rw [← not_lt, middle_lt_iff hden, Nat.not_lt]

theorem lt_middle_iff {r s : Nat} :
    (num : ℚ) / den < middle r s ↔
      2 * (num * Nat.pow 2 1074) < (unitsOf r + unitsOf s) * den := by
  rw [← not_le, middle_le_iff hden, Nat.not_le]

theorem pastMidpoint_iff {rank : Nat} :
    PastMidpoint num den rank ↔
      if rank % 2 = 0 then middle rank (rank + 1) < (num : ℚ) / den
      else middle rank (rank + 1) ≤ (num : ℚ) / den := by
  rw [PastMidpoint, middle_lt_iff hden, middle_le_iff hden]

/-- A quotient is rounded to the magnitude in whose cell it lies. -/
theorem nearestRank_eq_iff {rank : Nat} :
    nearestRank num den = rank ↔ (num : ℚ) / den ∈ cell rank := by
  cases rank with
  | zero =>
    have hnonneg : middle 0 0 ≤ (num : ℚ) / den := by
      have hzero : unitsOf 0 = 0 := rfl
      rw [middle_le_iff hden, hzero, Nat.zero_mul]
      exact Nat.zero_le _
    rw [← Nat.le_zero, ← Nat.not_lt, lt_nearestRank_iff hden, pastMidpoint_iff hden, cell,
      if_pos rfl, if_pos rfl, not_lt]
    exact (and_iff_right hnonneg).symm
  | succ r =>
    have hsucc : nearestRank num den = r + 1 ↔
        r < nearestRank num den ∧ ¬ r + 1 < nearestRank num den := by omega
    rw [hsucc, lt_nearestRank_iff hden, lt_nearestRank_iff hden, pastMidpoint_iff hden,
      pastMidpoint_iff hden, cell, Nat.add_sub_cancel]
    rcases Nat.mod_two_eq_zero_or_one r with hr | hr
    · have hr' : (r + 1) % 2 ≠ 0 := by omega
      rw [if_pos hr, if_neg hr', if_neg hr', not_le]
      rfl
    · have hr' : (r + 1) % 2 = 0 := by omega
      rw [if_neg (by omega), if_pos hr', if_pos hr', not_lt]
      rfl

end

/-! ## Nearest magnitudes -/

theorem abs_sub_le_abs_sub_iff {a b q : ℚ} (h : a < b) :
    |b - q| ≤ |a - q| ↔ (a + b) / 2 ≤ q := by
  have hsquares : (a - q) ^ 2 - (b - q) ^ 2 = 2 * (b - a) * (q - (a + b) / 2) := by ring
  rw [← sq_le_sq, ← sub_nonneg, hsquares, mul_nonneg_iff_of_pos_left (by linarith), sub_nonneg]

theorem abs_sub_lt_abs_sub_iff {a b q : ℚ} (h : a < b) :
    |b - q| < |a - q| ↔ (a + b) / 2 < q := by
  have hsquares : (a - q) ^ 2 - (b - q) ^ 2 = 2 * (b - a) * (q - (a + b) / 2) := by ring
  rw [← sq_lt_sq, ← sub_pos, hsquares, mul_pos_iff_of_pos_left (by linarith), sub_pos]

/-- No integer is nearer to a quotient than the one it is rounded to. -/
theorem abs_roundHalfEven_sub_le {num den : Nat} (hden : 0 < den) (n : Nat) :
    |(roundHalfEven num den : ℚ) - num / den| ≤ |(n : ℚ) - num / den| := by
  have hden' : (0 : ℚ) < den := Nat.cast_pos.mpr hden
  rcases Nat.lt_trichotomy n (roundHalfEven num den) with hlt | heq | hgt
  · rw [abs_sub_le_abs_sub_iff (Nat.cast_lt.mpr hlt), div_le_div_iff₀ two_pos hden']
    have hreached : (n + roundHalfEven num den) * den ≤ num * 2 := by
      have hpred := le_of_lt_roundHalfEven hden (Nat.sub_one_lt_of_lt hlt)
      exact (Nat.mul_le_mul_right den (by omega)).trans (hpred.trans_eq (Nat.mul_comm 2 num))
    exact_mod_cast hreached
  · rw [heq]
  · rw [← not_lt, abs_sub_lt_abs_sub_iff (Nat.cast_lt.mpr hgt), not_lt,
      div_le_div_iff₀ hden' two_pos]
    have hbefore : num * 2 ≤ (roundHalfEven num den + n) * den := by
      have hself := le_roundHalfEven_self num hden
      exact (Nat.mul_comm num 2).trans_le (hself.trans (Nat.mul_le_mul_right den (by omega)))
    exact_mod_cast hbefore

theorem middle_mono {r r' s s' : Nat} (hr : r ≤ r') (hs : s ≤ s') : middle r s ≤ middle r' s' := by
  have hr := valueOf_strictMono.monotone hr
  have hs := valueOf_strictMono.monotone hs
  rw [middle, middle]
  linarith

/-- No magnitude is nearer to a number than the one in whose cell it lies. -/
theorem abs_valueOf_sub_le {rank : Nat} {q : ℚ} (h : q ∈ cell rank) (r : Nat) :
    |valueOf rank - q| ≤ |valueOf r - q| := by
  obtain ⟨hlow, hhigh⟩ := middle_le_of_mem_cell h
  rcases Nat.lt_trichotomy r rank with hlt | rfl | hgt
  · rw [abs_sub_le_abs_sub_iff (valueOf_strictMono hlt)]
    exact (middle_mono (by omega) le_rfl).trans hlow
  · exact le_rfl
  · rw [← not_lt, abs_sub_lt_abs_sub_iff (valueOf_strictMono hgt), not_lt]
    exact hhigh.trans (middle_mono le_rfl hgt)

/-- If another magnitude is as near, the number of the cell is even. -/
theorem even_of_tie {rank r : Nat} {q : ℚ} (h : q ∈ cell rank) (hne : r ≠ rank)
    (htie : |valueOf rank - q| = |valueOf r - q|) : rank % 2 = 0 := by
  by_contra hodd
  rw [cell, if_neg hodd] at h
  rcases Nat.lt_or_gt_of_ne hne with hlt | hgt
  · have hpast : middle r rank < q := (middle_mono (by omega) le_rfl).trans_lt h.1
    exact htie.not_lt ((abs_sub_lt_abs_sub_iff (valueOf_strictMono hlt)).mpr hpast)
  · have hbefore : q < middle rank r := h.2.trans_le (middle_mono le_rfl hgt)
    exact hbefore.not_ge ((abs_sub_le_abs_sub_iff (valueOf_strictMono hgt)).mp htie.ge)

/-- No magnitude is nearer to a quotient than the one it is rounded to. -/
theorem nearest?_nearest {num den : Nat} {x : Magnitude} (hden : 0 < den)
    (h : nearest? num den = some x) (y : Magnitude) :
    |x.value - num / den| ≤ |y.value - num / den| :=
  abs_valueOf_sub_le ((nearestRank_eq_iff hden).mp (nearest?_eq_some_iff.mp h)) y.rank

/-- If another magnitude is as near to a quotient as the one it is rounded to, that one has an even
number. -/
theorem nearest?_even {num den : Nat} {x y : Magnitude} (hden : 0 < den)
    (h : nearest? num den = some x) (hne : y ≠ x)
    (htie : |x.value - num / den| = |y.value - num / den|) : x.rank % 2 = 0 := by
  have hrank : y.rank ≠ x.rank := fun hrank => hne (by rwa [Magnitude.mk.injEq])
  exact even_of_tie ((nearestRank_eq_iff hden).mp (nearest?_eq_some_iff.mp h)) hrank htie

end AlertConsole.Magnitude
