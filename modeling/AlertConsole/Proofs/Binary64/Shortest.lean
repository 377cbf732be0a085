import AlertConsole.Binary64.Shortest
import AlertConsole.Proofs.Binary64.Rounding
import Mathlib.Algebra.Order.Field.Power
set_option autoImplicit false

/-!
# The shortest decimal is the shortest

A positive magnitude is printed as the decimal that `Magnitude.shortest` finds.  That decimal is
rounded to the magnitude again (`nearest?_shortest`), none with fewer digits is
(`length_shortest_le`), and of the decimals with its exponent that are rounded to the magnitude it
is the nearest (`shortest_spec`).  The decimals that are rounded to a magnitude are those in its
cell, and as a cell is an interval around the magnitude, a grid that has any of them has one next
to the magnitude (`onGrid?_spec`).  The search begins above all grids with a hit and ends below the
spacing of the smallest magnitudes, so it finds the coarsest one.
-/

namespace AlertConsole

namespace Decimal

/-- The exact value. -/
def value (d : Decimal) : ℚ := d.digits * (10 : ℚ) ^ d.exponent

theorem belowLine_pos (e : Int) : 0 < belowLine e := Nat.pow_pos (by decide)

theorem aboveLine_pos (e : Int) : 0 < aboveLine e := Nat.pow_pos (by decide)

theorem line_eq (e : Int) : (10 : ℚ) ^ e = (aboveLine e : ℚ) / belowLine e := by
  have hne : (10 : ℚ) ≠ 0 := by norm_num
  have hcast (n : Nat) : ((Nat.pow 10 n : Nat) : ℚ) = (10 : ℚ) ^ n := Nat.cast_pow 10 n
  rw [aboveLine, belowLine, hcast, hcast, ← zpow_natCast, ← zpow_natCast, ← zpow_sub₀ hne,
    Int.toNat_sub_toNat_neg]

theorem value_eq (d : Decimal) :
    d.value = (d.digits * aboveLine d.exponent : Nat) / (belowLine d.exponent : Nat) := by
  rw [value, line_eq, Nat.cast_mul, mul_div_assoc]

theorem value_ten_pow (e : Int) (k : Nat) :
    (⟨1, e + k⟩ : Decimal).value = (10 : ℚ) ^ k * (10 : ℚ) ^ e := by
  rw [value, zpow_add₀ (by norm_num), zpow_natCast, Nat.cast_one, one_mul, mul_comm]

end Decimal

namespace Magnitude

open Decimal

/-! ## Decimals in a cell -/

theorem twice_units (a b : Nat) {k : Nat} :
    a * Nat.pow 2 (k + 1) * b = 2 * (a * b * Nat.pow 2 k) := by
  rw [← pow_mul_pow k 1]
  show a * (Nat.pow 2 k * 2) * b = _
  ring

/-- The decimals that round to a magnitude are those of its cell. -/
theorem absorbs_iff {rank : Nat} {d : Decimal} : absorbs rank d = true ↔ d.value ∈ cell rank := by
  have hden := belowLine_pos d.exponent
  rw [value_eq, cell, absorbs, twice_units (k := 1074)]
  split
  · rw [Bool.and_eq_true, decide_eq_true_iff, decide_eq_true_iff, Set.mem_Icc, middle_le_iff hden,
      le_middle_iff hden]
  · rw [Bool.and_eq_true, decide_eq_true_iff, decide_eq_true_iff, Set.mem_Ioo, middle_lt_iff hden,
      lt_middle_iff hden]

/-- They are those that rounding takes to it. -/
theorem absorbs_iff_nearestRank_eq {rank : Nat} {d : Decimal} :
    absorbs rank d = true ↔
      nearestRank (d.digits * aboveLine d.exponent) (belowLine d.exponent) = rank := by
  rw [absorbs_iff, nearestRank_eq_iff (belowLine_pos d.exponent), value_eq]

/-! ## One grid -/

section

variable {rank : Nat} {e : Int}

/-- The magnitude, counted in steps of a grid. -/
theorem valueOf_eq_steps (rank : Nat) (e : Int) :
    valueOf rank = ((unitsOf rank * belowLine e : Nat) : ℚ) /
      (Nat.pow 2 1074 * aboveLine e : Nat) * (10 : ℚ) ^ e := by
  have habove : (aboveLine e : ℚ) ≠ 0 := Nat.cast_ne_zero.mpr (aboveLine_pos e).ne'
  have hbelow : (belowLine e : ℚ) ≠ 0 := Nat.cast_ne_zero.mpr (belowLine_pos e).ne'
  rw [line_eq, valueOf, Nat.cast_mul, Nat.cast_mul, mul_div_mul_comm, mul_assoc, div_mul_div_comm,
    mul_comm (aboveLine e : ℚ), div_self (mul_ne_zero hbelow habove), mul_one]

/-- The points of a grid are in order. -/
theorem value_le_value_iff {m n : Nat} :
    (⟨m, e⟩ : Decimal).value ≤ (⟨n, e⟩ : Decimal).value ↔ m ≤ n := by
  rw [Decimal.value, Decimal.value, mul_le_mul_iff_of_pos_right (zpow_pos (by norm_num) e),
    Nat.cast_le]

/-- The last point of a grid up to the magnitude. -/
theorem value_le_valueOf_iff {n : Nat} :
    (⟨n, e⟩ : Decimal).value ≤ valueOf rank ↔
      n ≤ unitsOf rank * belowLine e / (Nat.pow 2 1074 * aboveLine e) := by
  have hden : 0 < Nat.pow 2 1074 * aboveLine e := Nat.mul_pos (pow_pos 1074) (aboveLine_pos e)
  rw [Decimal.value, valueOf_eq_steps rank e,
    mul_le_mul_iff_of_pos_right (zpow_pos (by norm_num) e), le_div_iff₀ (Nat.cast_pos.mpr hden),
    ← Nat.cast_mul, Nat.cast_le, Nat.le_div_iff_mul_le hden]

/-- The magnitude is between two points of a grid that are next to each other. -/
theorem exists_adjacent (rank : Nat) (e : Int) :
    ∃ n, n = unitsOf rank * belowLine e / (Nat.pow 2 1074 * aboveLine e) ∧
      (⟨n, e⟩ : Decimal).value ≤ valueOf rank ∧ valueOf rank < (⟨n + 1, e⟩ : Decimal).value := by
  refine ⟨_, rfl, value_le_valueOf_iff.mpr le_rfl, ?_⟩
  rw [← not_le, value_le_valueOf_iff]
  exact Nat.not_succ_le_self _

/-- A decimal is the point of a grid that is nearest to a magnitude among those that round to it. -/
structure NearestOnGrid (rank : Nat) (e : Int) (d : Decimal) : Prop where
  onGrid : d.exponent = e
  absorbed : absorbs rank d = true
  nearest : ∀ n, absorbs rank ⟨n, e⟩ = true →
    |d.value - valueOf rank| ≤ |(⟨n, e⟩ : Decimal).value - valueOf rank|

/-- The nearest point if both points next to the magnitude round to it. -/
theorem nearestOnGrid_of_both {num den n : Nat} (hden : 0 < den)
    (hsteps : valueOf rank = (num : ℚ) / den * (10 : ℚ) ^ e) (hn : n = num / den)
    (hbelow : absorbs rank ⟨n, e⟩ = true) (habove : absorbs rank ⟨n + 1, e⟩ = true) :
    NearestOnGrid rank e ⟨roundHalfEven num den, e⟩ where
  onGrid := rfl
  absorbed := by
    have hle : n ≤ roundHalfEven num den := hn ▸ div_le_roundHalfEven num den
    have hle' : roundHalfEven num den ≤ n + 1 :=
      roundHalfEven_le (hn ▸ Nat.lt_mul_div_succ num hden)
    exact absorbs_iff.mpr ((ordConnected_cell rank).out (absorbs_iff.mp hbelow)
      (absorbs_iff.mp habove) ⟨value_le_value_iff.mpr hle, value_le_value_iff.mpr hle'⟩)
  nearest := fun m _ => by
    rw [Decimal.value, Decimal.value, hsteps, ← sub_mul, ← sub_mul, abs_mul, abs_mul]
    exact mul_le_mul_of_nonneg_right (abs_roundHalfEven_sub_le hden m) (abs_nonneg _)

/-- The nearest point if only points up to one below the magnitude round to it. -/
theorem nearestOnGrid_of_last {n : Nat} (h : absorbs rank ⟨n, e⟩ = true)
    (hn : (⟨n, e⟩ : Decimal).value ≤ valueOf rank)
    (hlast : ∀ m, absorbs rank ⟨m, e⟩ = true → m ≤ n) : NearestOnGrid rank e ⟨n, e⟩ where
  onGrid := rfl
  absorbed := h
  nearest := fun m hm => by
    have hle := value_le_value_iff (e := e).mpr (hlast m hm)
    rw [abs_of_nonpos (by linarith), abs_of_nonpos (by linarith)]
    linarith

/-- The nearest point if only points from one above the magnitude on round to it. -/
theorem nearestOnGrid_of_first {n : Nat} (h : absorbs rank ⟨n, e⟩ = true)
    (hn : valueOf rank ≤ (⟨n, e⟩ : Decimal).value)
    (hfirst : ∀ m, absorbs rank ⟨m, e⟩ = true → n ≤ m) : NearestOnGrid rank e ⟨n, e⟩ where
  onGrid := rfl
  absorbed := h
  nearest := fun m hm => by
    have hle := value_le_value_iff (e := e).mpr (hfirst m hm)
    rw [abs_of_nonneg (by linarith), abs_of_nonneg (by linarith)]
    linarith

/-- A grid is searched completely by looking at the two points next to the magnitude. -/
theorem onGrid?_spec (hrank : 0 < rank) :
    match onGrid? rank e with
    | some d => NearestOnGrid rank e d
    | none => ∀ n, absorbs rank ⟨n, e⟩ = false := by
  have hden : 0 < Nat.pow 2 1074 * aboveLine e := Nat.mul_pos (pow_pos 1074) (aboveLine_pos e)
  have hsteps := valueOf_eq_steps rank e
  obtain ⟨n, hn, hlow, hhigh⟩ := exists_adjacent rank e
  simp only [onGrid?, ← hn]
  -- a point of the cell that is not above the magnitude brings `n` along, another one `n + 1`
  have hcell := ordConnected_cell rank
  have hself := valueOf_mem_cell hrank
  have hbelow (m : Nat) (h : absorbs rank ⟨m, e⟩ = true) (hm : m ≤ n) :
      absorbs rank ⟨n, e⟩ = true :=
    absorbs_iff.mpr (hcell.out (absorbs_iff.mp h) hself ⟨value_le_value_iff.mpr hm, hlow⟩)
  have habove (m : Nat) (h : absorbs rank ⟨m, e⟩ = true) (hm : n + 1 ≤ m) :
      absorbs rank ⟨n + 1, e⟩ = true :=
    absorbs_iff.mpr (hcell.out hself (absorbs_iff.mp h) ⟨hhigh.le, value_le_value_iff.mpr hm⟩)
  cases hb : absorbs rank ⟨n, e⟩ with
  | true =>
    cases ha : absorbs rank ⟨n + 1, e⟩ with
    | true => exact nearestOnGrid_of_both hden hsteps hn hb ha
    | false =>
      refine nearestOnGrid_of_last hb hlow fun m hm => ?_
      by_contra hgt
      exact absurd (habove m hm (by omega)) (Bool.eq_false_iff.mp ha)
  | false =>
    cases ha : absorbs rank ⟨n + 1, e⟩ with
    | true =>
      refine nearestOnGrid_of_first ha hhigh.le fun m hm => ?_
      by_contra hlt
      exact absurd (hbelow m hm (by omega)) (Bool.eq_false_iff.mp hb)
    | false =>
      refine fun m => Bool.eq_false_iff.mpr fun hm => ?_
      rcases Nat.lt_or_ge n m with hgt | hle
      · exact absurd (habove m hm hgt) (Bool.eq_false_iff.mp ha)
      · exact absurd (hbelow m hm hle) (Bool.eq_false_iff.mp hb)

theorem nearestOnGrid_of_onGrid? (hrank : 0 < rank) {d : Decimal} (h : onGrid? rank e = some d) :
    NearestOnGrid rank e d := by
  have hspec := onGrid?_spec (e := e) hrank
  rwa [h] at hspec

theorem absorbs_eq_false_of_onGrid? (hrank : 0 < rank) (h : onGrid? rank e = none) (n : Nat) :
    absorbs rank ⟨n, e⟩ = false := by
  have hspec := onGrid?_spec (e := e) hrank
  rw [h] at hspec
  exact hspec n

end

/-! ## The search -/

/-- The search stops at the coarsest grid with a hit, if any of those it tries has one. -/
theorem shortestFrom_coarsest (rank tries : Nat) {e f : Int} (htries : e - tries < f) (hfe : f ≤ e)
    (hit : onGrid? rank f ≠ none) :
    ∃ g, onGrid? rank g = some (shortestFrom rank tries e) ∧
      ∀ g', g < g' → g' ≤ e → onGrid? rank g' = none := by
  induction tries generalizing e with
  | zero => omega
  | succ tries ih =>
    rw [shortestFrom]
    cases h : onGrid? rank e with
    | some d => exact ⟨e, h, fun g' hlt hle => by omega⟩
    | none =>
      have hne : f ≠ e := by
        rintro rfl
        exact hit h
      obtain ⟨g, hg, hfirst⟩ := ih (e := e - 1) (by omega) (by omega)
      refine ⟨g, hg, fun g' hlt hle => ?_⟩
      rcases eq_or_ne g' e with rfl | hne'
      · exact h
      · exact hfirst g' hlt (by omega)

theorem unitsOf_succ_le {rank : Nat} (hrank : 0 < rank) :
    unitsOf (rank + 1) ≤ 2 * unitsOf rank := by
  obtain ⟨d, m, rfl, hlow, hhigh⟩ := exists_steps rank
  rw [unitsOf_steps_succ hlow hhigh, unitsOf_steps hlow hhigh.le, ← Nat.mul_assoc]
  refine Nat.mul_le_mul_right _ ?_
  rw [perDoubling] at *
  omega

/-- `30103 / 100000` is above the logarithm of two. -/
theorem two_pow_le_ten_pow (k : Nat) : 2 ^ k ≤ 10 ^ (k * 30103 / 100000 + 1) := by
  -- these powers are computed in steps, each of them with a small exponent
  have hsteps {a b : Nat} (ha : a = 100 * 100 * 10) (hb : b = 100 * 100 * 3 + 103) :
      2 ^ a ≤ 10 ^ b := by
    rw [ha, hb, Nat.pow_add, Nat.pow_mul, Nat.pow_mul, Nat.pow_mul, Nat.pow_mul]
    decide
  have hlog : 2 ^ 100000 ≤ 10 ^ 30103 := hsteps rfl rfl
  rw [← Nat.pow_le_pow_iff_left (show 100000 ≠ 0 by decide), ← Nat.pow_mul, ← Nat.pow_mul]
  calc 2 ^ (k * 100000) = (2 ^ 100000) ^ k := by rw [Nat.mul_comm, Nat.pow_mul]
    _ ≤ (10 ^ 30103) ^ k := Nat.pow_le_pow_left hlog k
    _ = 10 ^ (30103 * k) := (Nat.pow_mul 10 30103 k).symm
    _ ≤ 10 ^ ((k * 30103 / 100000 + 1) * 100000) := Nat.pow_le_pow_right (by decide) (by omega)

theorem units_lt_two_pow (x : Magnitude) :
    x.units < 2 ^ (x.floor.log2 + 1) * Nat.pow 2 1074 :=
  (Nat.div_lt_iff_lt_mul (pow_pos 1074)).mp Nat.lt_log2_self

/-- The numbers that round to a magnitude are below the power of ten after the one that the search
begins with. -/
theorem lt_of_mem_cell {x : Magnitude} (hx : 0 < x.rank) {q : ℚ} (h : q ∈ cell x.rank) :
    q < (10 : ℚ) ^ (x.topExponent + 1) := by
  have hunit : (0 : ℚ) < (Nat.pow 2 1074 : Nat) := Nat.cast_pos.mpr (pow_pos 1074)
  have hnext : unitsOf (x.rank + 1) < 10 ^ (x.topExponent + 1) * Nat.pow 2 1074 :=
    calc unitsOf (x.rank + 1) ≤ 2 * x.units := unitsOf_succ_le hx
      _ < 2 * (2 ^ (x.floor.log2 + 1) * Nat.pow 2 1074) :=
        Nat.mul_lt_mul_of_pos_left (units_lt_two_pow x) Nat.two_pos
      _ = 4 * 2 ^ x.floor.log2 * Nat.pow 2 1074 := by ring
      _ ≤ 10 * 10 ^ x.topExponent * Nat.pow 2 1074 :=
        Nat.mul_le_mul_right _ (Nat.mul_le_mul (by decide) (two_pow_le_ten_pow _))
      _ = 10 ^ (x.topExponent + 1) * Nat.pow 2 1074 := by rw [Nat.pow_succ']
  have hvalue : valueOf (x.rank + 1) < (10 : ℚ) ^ (x.topExponent + 1) := by
    rw [valueOf, div_lt_iff₀ hunit]
    exact_mod_cast hnext
  have hlt := valueOf_strictMono (Nat.lt_succ_self x.rank)
  have hle := (middle_le_of_mem_cell h).2
  rw [middle] at hle
  linarith

/-- No grid coarser than the first of the search has a hit. -/
theorem exponent_le_topExponent {x : Magnitude} (hx : 0 < x.rank) {d : Decimal}
    (h : absorbs x.rank d = true) : d.exponent ≤ x.topExponent := by
  have hmem := absorbs_iff.mp h
  have hpos := pos_of_mem_cell hx hmem
  have hlt := lt_of_mem_cell hx hmem
  have hline : (0 : ℚ) < 10 ^ d.exponent := zpow_pos (by norm_num) _
  have hdigits : (1 : ℚ) ≤ d.digits := by
    have hne : d.digits ≠ 0 := by
      intro hzero
      rw [Decimal.value, hzero, Nat.cast_zero, zero_mul] at hpos
      exact lt_irrefl _ hpos
    exact_mod_cast Nat.one_le_iff_ne_zero.mpr hne
  have hpow : (10 : ℚ) ^ d.exponent < (10 : ℚ) ^ ((x.topExponent + 1 : Nat) : Int) := by
    rw [zpow_natCast]
    exact (le_mul_of_one_le_left hline.le hdigits).trans_lt hlt
  rw [zpow_lt_zpow_iff_right₀ (by norm_num)] at hpow
  omega

/-- Two magnitudes are a unit apart or more. -/
theorem half_unit_le {rank : Nat} (hrank : 0 < rank) :
    1 / (2 * Nat.pow 2 1074 : Nat) ≤ valueOf rank - middle (rank - 1) rank := by
  have hunits : unitsOf (rank - 1) + 1 ≤ unitsOf rank :=
    unitsOf_strictMono (Nat.sub_one_lt_of_lt hrank)
  have hunits' : (unitsOf (rank - 1) : ℚ) + 1 ≤ unitsOf rank := by exact_mod_cast hunits
  have hgap : valueOf rank - middle (rank - 1) rank
      = ((unitsOf rank : ℚ) - unitsOf (rank - 1)) / (2 * Nat.pow 2 1074 : Nat) := by
    rw [middle, valueOf, valueOf, Nat.cast_mul, Nat.cast_ofNat, mul_comm, ← div_div]
    ring
  rw [hgap]
  exact div_le_div_of_nonneg_right (by linarith) (Nat.cast_nonneg _)

/-- A grid finer than half a unit has a hit. -/
theorem onGrid?_ne_none {rank : Nat} (hrank : 0 < rank) {e : Int}
    (he : (10 : ℚ) ^ e < 1 / (2 * Nat.pow 2 1074 : Nat)) : onGrid? rank e ≠ none := by
  intro hnone
  obtain ⟨n, -, hlow, hhigh⟩ := exists_adjacent rank e
  have hstep : (⟨n + 1, e⟩ : Decimal).value = (⟨n, e⟩ : Decimal).value + (10 : ℚ) ^ e := by
    rw [Decimal.value, Decimal.value]
    push_cast
    ring
  have hgap := half_unit_le hrank
  have hmem : (⟨n, e⟩ : Decimal).value ∈ cell rank :=
    mem_cell_of_lt (by linarith) (hlow.trans_lt (lt_middle_succ rank))
  exact absurd (absorbs_iff.mpr hmem)
    (Bool.eq_false_iff.mp (absorbs_eq_false_of_onGrid? hrank hnone n))

theorem inv_ten_pow_lt {m n : Nat} (hm : 0 < m) (h : m < 10 ^ n) :
    (10 : ℚ) ^ (-(n : Int)) < 1 / (m : ℚ) := by
  rw [zpow_neg, zpow_natCast, one_div]
  refine (inv_lt_inv₀ (by positivity) (Nat.cast_pos.mpr hm)).mpr ?_
  exact_mod_cast h

/-- Half a unit is coarser than the last grid of the search.  The exponents are variables, so that
they are computed with in steps. -/
theorem twice_two_pow_lt {a n : Nat} (ha : a + 1 = 215 * 5) (hn : n = 133 * 3) :
    2 * Nat.pow 2 a < 10 ^ n := by
  have hpow : 2 * Nat.pow 2 a = 2 ^ (a + 1) := Nat.pow_succ'.symm
  rw [hpow, ha, hn, Nat.pow_mul, Nat.pow_mul]
  decide

/-- The last grid of the search has a hit. -/
theorem onGrid?_last_ne_none {rank : Nat} (hrank : 0 < rank) : onGrid? rank (-399) ≠ none := by
  have hfine : 2 * Nat.pow 2 1074 < 10 ^ 399 := twice_two_pow_lt rfl rfl
  exact onGrid?_ne_none hrank (inv_ten_pow_lt twice_unit_pos hfine)

/-! ## The shortest decimal -/

/-- The shortest decimal is on the coarsest grid that has a decimal that rounds to the magnitude,
and there it is the nearest of them. -/
theorem shortest_spec {x : Magnitude} (hx : 0 < x.rank) :
    NearestOnGrid x.rank x.shortest.exponent x.shortest ∧
      ∀ d, absorbs x.rank d = true → d.exponent ≤ x.shortest.exponent := by
  obtain ⟨g, hg, hfirst⟩ := shortestFrom_coarsest x.rank (x.topExponent + 400)
    (e := x.topExponent) (f := -399) (by omega) (by omega) (onGrid?_last_ne_none hx)
  have hnearest : NearestOnGrid x.rank g x.shortest := nearestOnGrid_of_onGrid? hx hg
  rw [hnearest.onGrid]
  refine ⟨hnearest, fun d hd => ?_⟩
  by_contra hlt
  have hnone := hfirst d.exponent (by omega) (exponent_le_topExponent hx hd)
  exact absurd hd (Bool.eq_false_iff.mp (absorbs_eq_false_of_onGrid? hx hnone d.digits))

theorem rank_pos_iff {x : Magnitude} : 0 < x.rank ↔ x.isZero = false := by
  rw [isZero, beq_eq_false_iff_ne, Nat.pos_iff_ne_zero]

theorem absorbs_iff_nearest? {x : Magnitude} {d : Decimal} :
    absorbs x.rank d = true ↔
      nearest? (d.digits * aboveLine d.exponent) (belowLine d.exponent) = some x := by
  rw [absorbs_iff_nearestRank_eq, nearest?_eq_some_iff]

/-- The shortest decimal reads back: it is rounded to the magnitude that it is the text of. -/
theorem nearest?_shortest {x : Magnitude} (hx : x.isZero = false) :
    nearest? (x.shortest.digits * aboveLine x.shortest.exponent)
      (belowLine x.shortest.exponent) = some x :=
  absorbs_iff_nearest?.mp (shortest_spec (rank_pos_iff.mpr hx)).1.absorbed

/-- No decimal that reads back has fewer digits than the shortest one. -/
theorem length_shortest_le {x : Magnitude} (hx : x.isZero = false) {d : Decimal}
    (h : nearest? (d.digits * aboveLine d.exponent) (belowLine d.exponent) = some x) :
    (Nat.toDigits 10 x.shortest.digits).length ≤ (Nat.toDigits 10 d.digits).length := by
  have hrank := rank_pos_iff.mpr hx
  obtain ⟨hnearest, hcoarsest⟩ := shortest_spec hrank
  have habsorbed := absorbs_iff_nearest?.mpr h
  have hexponent := hcoarsest d habsorbed
  by_contra hshort
  obtain ⟨k, hk⟩ : ∃ k, (Nat.toDigits 10 d.digits).length = k := ⟨_, rfl⟩
  have hpos : 0 < k := hk ▸ Nat.length_toDigits_pos
  have hd : d.digits < 10 ^ k := (Nat.length_toDigits_le_iff (by decide) hpos).mp hk.le
  have hs : 10 ^ k ≤ x.shortest.digits := by
    rw [← Nat.not_lt, ← Nat.length_toDigits_le_iff (by decide) hpos, ← hk]
    exact hshort
  -- the power of ten between the two is on a coarser grid, and it rounds to the magnitude as well
  have hbetween : absorbs x.rank ⟨1, x.shortest.exponent + k⟩ = true := by
    refine absorbs_iff.mpr ((ordConnected_cell x.rank).out (absorbs_iff.mp habsorbed)
      (absorbs_iff.mp hnearest.absorbed) ⟨?_, ?_⟩)
    · rw [value_ten_pow]
      exact mul_le_mul (by exact_mod_cast hd.le) (zpow_le_zpow_right₀ (by norm_num) hexponent)
        (zpow_nonneg (by norm_num) _) (by positivity)
    · rw [value_ten_pow]
      exact mul_le_mul_of_nonneg_right (by exact_mod_cast hs) (zpow_nonneg (by norm_num) _)
  have hle : x.shortest.exponent + k ≤ x.shortest.exponent := hcoarsest _ hbetween
  omega

end Magnitude

end AlertConsole
