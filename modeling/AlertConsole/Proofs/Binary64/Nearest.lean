import AlertConsole.Binary64
import Mathlib.Order.Monotone.Basic
import Mathlib.Tactic.Ring
set_option autoImplicit false

/-!
# Midpoints between magnitudes

The sizes of the magnitudes grow with their number (`unitsOf_strictMono`), and rounding to the
nearest one only asks between which midpoints a quotient lies: its rank is above a number exactly
if the quotient is past the midpoint between that magnitude and the next
(`lt_nearestRank_iff`).  An exact midpoint counts as past if the number below it is odd, so it is
rounded to the even one.  That a magnitude is rounded to itself (`nearest?_of_eq`) and which
quotients are in range (`nearest?_isSome_iff`) follow from that.
-/

namespace AlertConsole.Magnitude

theorem pow_pos (k : Nat) : 0 < Nat.pow 2 k := Nat.pow_pos (by decide)

theorem pow_mul_pow (a b : Nat) : Nat.pow 2 a * Nat.pow 2 b = Nat.pow 2 (a + b) :=
  (Nat.pow_add 2 a b).symm

/-! ## How magnitudes are spaced -/

/-- The magnitude `m` steps of `2 ^ d` units up.  From `d = 1` on the steps begin after the first
doubling, and the last of them is the first of the next width. -/
theorem unitsOf_steps {d m : Nat} (hlow : d = 0 ∨ perDoubling ≤ m) (hhigh : m ≤ 2 * perDoubling) :
    unitsOf (d * perDoubling + m) = m * Nat.pow 2 d := by
  simp only [unitsOf]
  rcases Nat.lt_or_eq_of_le hhigh with hlt | rfl
  · have hd : (d * perDoubling + m) / perDoubling - 1 = d := by
      rw [perDoubling] at *
      omega
    rw [hd, Nat.add_sub_cancel_left]
  · have hd : (d * perDoubling + 2 * perDoubling) / perDoubling - 1 = d + 1 := by
      rw [perDoubling]
      omega
    have hstep : d * perDoubling + 2 * perDoubling - (d + 1) * perDoubling = perDoubling := by
      rw [perDoubling]
      omega
    have hpow : Nat.pow 2 (d + 1) = Nat.pow 2 d * 2 := rfl
    rw [hd, hstep, hpow]
    ring

/-- Every number is some steps up, with room for one more of the same width. -/
theorem exists_steps (rank : Nat) :
    ∃ d m, rank = d * perDoubling + m ∧ (d = 0 ∨ perDoubling ≤ m) ∧ m < 2 * perDoubling := by
  refine ⟨rank / perDoubling - 1, rank - (rank / perDoubling - 1) * perDoubling, ?_, ?_, ?_⟩
  all_goals
    rw [perDoubling]
    omega

theorem unitsOf_steps_succ {d m : Nat} (hlow : d = 0 ∨ perDoubling ≤ m)
    (hhigh : m < 2 * perDoubling) :
    unitsOf (d * perDoubling + m + 1) = (m + 1) * Nat.pow 2 d := by
  rw [Nat.add_assoc, unitsOf_steps (by omega) hhigh]

/-- Twice the midpoint between a magnitude and the next. -/
theorem unitsOf_add_succ {d m : Nat} (hlow : d = 0 ∨ perDoubling ≤ m)
    (hhigh : m < 2 * perDoubling) :
    unitsOf (d * perDoubling + m) + unitsOf (d * perDoubling + m + 1)
      = (2 * m + 1) * Nat.pow 2 d := by
  rw [unitsOf_steps hlow hhigh.le, unitsOf_steps_succ hlow hhigh]
  ring

theorem unitsOf_strictMono : StrictMono unitsOf := by
  refine strictMono_nat_of_lt_succ fun rank => ?_
  obtain ⟨d, m, rfl, hlow, hhigh⟩ := exists_steps rank
  rw [unitsOf_steps_succ hlow hhigh, unitsOf_steps hlow hhigh.le]
  exact Nat.mul_lt_mul_of_pos_right (Nat.lt_succ_self m) (pow_pos d)

/-- From one doubling of the spacing to the next the size doubles as well. -/
theorem unitsOf_doublings {k : Nat} (hk : 52 ≤ k) : unitsOf ((k - 51) * perDoubling) = 2 ^ k := by
  obtain ⟨d, rfl⟩ := Nat.exists_eq_add_of_le' hk
  rw [show d + 52 - 51 = d + 1 by omega, Nat.succ_mul,
    unitsOf_steps (.inr (Nat.le_refl _)) (by omega), Nat.pow_add, Nat.mul_comm]
  rfl

/-! ## Rounding to an integer -/

theorem lt_roundHalfEven_iff {num den k : Nat} (hden : 0 < den) :
    k < roundHalfEven num den ↔
      if k % 2 = 0 then (2 * k + 1) * den < 2 * num else (2 * k + 1) * den ≤ 2 * num := by
  have hnum := Nat.div_add_mod num den
  have hmod := Nat.mod_lt num hden
  have hmiddle : (2 * k + 1) * den = 2 * (den * k) + den := by ring
  simp only [roundHalfEven, hmiddle]
  generalize num / den = q at *
  generalize num % den = r at *
  subst hnum
  rcases Nat.lt_trichotomy k q with hlt | rfl | hgt
  · have hstep : den * k + den ≤ den * q := Nat.mul_le_mul_left den hlt
    have hround : k < if 2 * r < den then q else if den < 2 * r then q + 1 else q + q % 2 := by
      split
      · exact hlt
      · split <;> omega
    rw [iff_true_left hround]
    split <;> omega
  · split
    · split <;> omega
    · split <;> split <;> omega
  · have hstep : den * q + den ≤ den * k := Nat.mul_le_mul_left den hgt
    have hround : ¬ k < if 2 * r < den then q else if den < 2 * r then q + 1 else q + q % 2 := by
      split
      · omega
      · split <;> omega
    rw [iff_false_left hround]
    split <;> omega

theorem le_of_lt_roundHalfEven {num den k : Nat} (hden : 0 < den)
    (h : k < roundHalfEven num den) : (2 * k + 1) * den ≤ 2 * num := by
  rw [lt_roundHalfEven_iff hden] at h
  split at h <;> omega

theorem le_roundHalfEven_self (num : Nat) {den : Nat} (hden : 0 < den) :
    2 * num ≤ (2 * roundHalfEven num den + 1) * den := by
  have hself : ¬ roundHalfEven num den < roundHalfEven num den := Nat.lt_irrefl _
  rw [lt_roundHalfEven_iff hden] at hself
  split at hself <;> omega

theorem le_roundHalfEven {num den m : Nat} (hden : 0 < den) (h : den * m ≤ num) :
    m ≤ roundHalfEven num den :=
  Nat.le_trans ((Nat.le_div_iff_mul_le hden).mpr (by rwa [Nat.mul_comm]))
    (div_le_roundHalfEven num den)

theorem roundHalfEven_le {num den m : Nat} (h : num < den * m) : roundHalfEven num den ≤ m := by
  have hden : 0 < den := Nat.pos_of_mul_pos_right (Nat.zero_lt_of_lt h)
  rw [← Nat.not_lt, lt_roundHalfEven_iff hden]
  have hmiddle : (2 * m + 1) * den = 2 * (den * m) + den := by ring
  split <;> omega

/-! ## Rounding to a magnitude -/

/-- The quotient `num / den` lies past the midpoint between magnitude number `rank` and the next.
The midpoint itself counts as past if `rank` is odd: it is rounded to the even number.  Both sides
are counted in units of `2 ^ -1075`. -/
def PastMidpoint (num den rank : Nat) : Prop :=
  if rank % 2 = 0 then (unitsOf rank + unitsOf (rank + 1)) * den < 2 * (num * Nat.pow 2 1074)
  else (unitsOf rank + unitsOf (rank + 1)) * den ≤ 2 * (num * Nat.pow 2 1074)

/-- Where the spacing is `2 ^ d` units, the quotient fits into a significand. -/
theorem scaled_bounds {scaled den d : Nat} (hden : 0 < den) (hd : (scaled / den).log2 - 52 = d) :
    (d = 0 ∨ den * Nat.pow 2 d * perDoubling ≤ scaled) ∧
      scaled < den * Nat.pow 2 d * (2 * perDoubling) := by
  have hpow : Nat.pow 2 d * (2 * perDoubling) = 2 ^ (d + 53) := pow_mul_pow d 53
  constructor
  · rcases Nat.eq_zero_or_pos d with hzero | hpos
    · exact .inl hzero
    · have hne : scaled / den ≠ 0 := by
        intro h
        rw [h, Nat.log2_zero] at hd
        omega
      have hlog : 2 ^ (d + 52) ≤ scaled / den := (Nat.le_log2 hne).mp (by omega)
      refine .inr ?_
      rw [Nat.mul_assoc, Nat.mul_comm, show Nat.pow 2 d * perDoubling = _ from pow_mul_pow d 52]
      exact (Nat.le_div_iff_mul_le hden).mp hlog
  · have hbits : scaled / den < 2 ^ (d + 53) :=
      Nat.lt_of_lt_of_le Nat.lt_log2_self (Nat.pow_le_pow_right (by decide) (by omega))
    rw [Nat.mul_assoc, hpow, Nat.mul_comm]
    exact (Nat.div_lt_iff_lt_mul hden).mp hbits

theorem steps_double (den : Nat) {d e : Nat} (h : d < e) :
    2 * (den * Nat.pow 2 d) ≤ den * Nat.pow 2 e := by
  have hpow : Nat.pow 2 (d + 1) ≤ Nat.pow 2 e := Nat.pow_le_pow_right (by decide) h
  calc 2 * (den * Nat.pow 2 d) = den * Nat.pow 2 (d + 1) := by
        rw [Nat.mul_left_comm, Nat.mul_comm 2]
        rfl
    _ ≤ den * Nat.pow 2 e := Nat.mul_le_mul_left den hpow

/-- A quotient is past the midpoints between finer steps than those around it. -/
theorem finer_middle_lt {scaled den d e m : Nat} (hden : 0 < den) (hed : e < d)
    (hm : m < 2 * perDoubling) (hscaled : den * Nat.pow 2 d * perDoubling ≤ scaled) :
    (2 * m + 1) * (den * Nat.pow 2 e) < 2 * scaled :=
  calc (2 * m + 1) * (den * Nat.pow 2 e)
      < 4 * perDoubling * (den * Nat.pow 2 e) :=
        Nat.mul_lt_mul_of_pos_right (by omega) (Nat.mul_pos hden (pow_pos e))
    _ = 2 * (2 * (den * Nat.pow 2 e) * perDoubling) := by ring
    _ ≤ 2 * (den * Nat.pow 2 d * perDoubling) :=
        Nat.mul_le_mul_left 2 (Nat.mul_le_mul_right _ (steps_double den hed))
    _ ≤ 2 * scaled := Nat.mul_le_mul_left 2 hscaled

/-- It is not past the midpoints between wider steps. -/
theorem lt_wider_middle {scaled den d e m : Nat} (hde : d < e) (hm : perDoubling ≤ m)
    (hscaled : scaled < den * Nat.pow 2 d * (2 * perDoubling)) :
    2 * scaled < (2 * m + 1) * (den * Nat.pow 2 e) :=
  calc 2 * scaled < 2 * (den * Nat.pow 2 d * (2 * perDoubling)) :=
        Nat.mul_lt_mul_of_pos_left hscaled Nat.two_pos
    _ = 2 * perDoubling * (2 * (den * Nat.pow 2 d)) := by ring
    _ ≤ (2 * m + 1) * (den * Nat.pow 2 e) := Nat.mul_le_mul (by omega) (steps_double den hde)

/-- A magnitude is passed in rounding exactly if the midpoint above it is. -/
theorem lt_nearestRank_iff {num den rank : Nat} (hden : 0 < den) :
    rank < nearestRank num den ↔ PastMidpoint num den rank := by
  obtain ⟨e, m, rfl, hlow, hhigh⟩ := exists_steps rank
  rw [PastMidpoint, unitsOf_add_succ hlow hhigh, Nat.mul_assoc, Nat.mul_comm (Nat.pow 2 e)]
  simp only [nearestRank]
  generalize num * Nat.pow 2 1074 = scaled
  generalize hd : (scaled / den).log2 - 52 = d
  obtain ⟨hfrom, hbelow⟩ := scaled_bounds hden hd
  have hround := roundHalfEven_le hbelow
  -- the magnitude is on finer steps than the quotient, on the same ones or on wider ones
  rcases Nat.lt_trichotomy e d with hlt | rfl | hgt
  · have hfrom := hfrom.resolve_left (Nat.ne_zero_of_lt hlt)
    have hpast := finer_middle_lt hden hlt hhigh hfrom
    have hreached := le_roundHalfEven (Nat.mul_pos hden (pow_pos d)) hfrom
    refine iff_of_true ?_ ?_
    · rw [perDoubling] at *
      omega
    · split
      · exact hpast
      · exact hpast.le
  · have hparity : (e * perDoubling + m) % 2 = m % 2 := by
      rw [perDoubling]
      omega
    rw [Nat.add_lt_add_iff_left, lt_roundHalfEven_iff (Nat.mul_pos hden (pow_pos e)), hparity]
  · have hlow := hlow.resolve_left (Nat.ne_zero_of_lt hgt)
    have hshort := lt_wider_middle hgt hlow hbelow
    refine iff_of_false ?_ ?_
    · rw [perDoubling] at *
      omega
    · split <;> omega

/-- A magnitude up to the quotient is up to its rounding. -/
theorem le_nearestRank_of_le {num den rank : Nat} (hden : 0 < den)
    (h : unitsOf rank * den ≤ num * Nat.pow 2 1074) : rank ≤ nearestRank num den := by
  cases rank with
  | zero => exact Nat.zero_le _
  | succ rank =>
    have hlt : unitsOf rank * den < unitsOf (rank + 1) * den :=
      Nat.mul_lt_mul_of_pos_right (unitsOf_strictMono (Nat.lt_succ_self rank)) hden
    refine (lt_nearestRank_iff hden).mpr ?_
    rw [PastMidpoint, Nat.add_mul]
    split <;> omega

/-- A magnitude from the quotient on is not passed in rounding. -/
theorem nearestRank_le_of_le {num den rank : Nat} (hden : 0 < den)
    (h : num * Nat.pow 2 1074 ≤ unitsOf rank * den) : nearestRank num den ≤ rank := by
  have hlt : unitsOf rank * den < unitsOf (rank + 1) * den :=
    Nat.mul_lt_mul_of_pos_right (unitsOf_strictMono (Nat.lt_succ_self rank)) hden
  rw [← Nat.not_lt, lt_nearestRank_iff hden, PastMidpoint, Nat.add_mul]
  split <;> omega

theorem nearest?_eq_some_iff {num den : Nat} {x : Magnitude} :
    nearest? num den = some x ↔ nearestRank num den = x.rank := by
  obtain ⟨rank, hlt⟩ := x
  rw [nearest?, Option.dite_none_right_eq_some]
  constructor
  · rintro ⟨_, h⟩
    exact congrArg Magnitude.rank (Option.some.inj h)
  · rintro rfl
    exact ⟨hlt, rfl⟩

/-- A quotient that is a magnitude is rounded to it. -/
theorem nearest?_of_eq {num den : Nat} {x : Magnitude} (hden : 0 < den)
    (h : num * Nat.pow 2 1074 = x.units * den) : nearest? num den = some x :=
  nearest?_eq_some_iff.mpr
    (Nat.le_antisymm (nearestRank_le_of_le hden h.le) (le_nearestRank_of_le hden h.ge))

/-- The number that no quotient in range reaches: the midpoint between the greatest magnitude,
`2 ^ 1024 - 2 ^ 971`, and the `2 ^ 1024` that would come next. -/
def overflow : Nat := (2 ^ 54 - 1) * Nat.pow 2 970

/-- The midpoint of the greatest magnitude and the next, in units of `2 ^ -1075`.  The exponents are
variables, so that no power of this size is ever computed. -/
theorem middle_greatest {n a b c : Nat} (hn : n = (2 ^ 54 - 1) * Nat.pow 2 b)
    (ha : a = b + c + 1) :
    unitsOf (a * perDoubling + (2 * perDoubling - 1)) +
        unitsOf (a * perDoubling + (2 * perDoubling - 1) + 1) = 2 * (n * Nat.pow 2 c) := by
  rw [unitsOf_add_succ (.inr (by decide)) (by decide), hn, ha, ← pow_mul_pow (b + c) 1,
    ← pow_mul_pow b c]
  have hodd : 2 * (2 * perDoubling - 1) + 1 = 2 ^ 54 - 1 := by decide
  have htwo : Nat.pow 2 1 = 2 := rfl
  rw [hodd, htwo]
  ring

/-- A quotient is in range exactly if it is below that number. -/
theorem nearest?_isSome_iff {num den : Nat} (hden : 0 < den) :
    (nearest? num den).isSome = true ↔ num < overflow * den := by
  have hrank : (nearest? num den).isSome = true ↔ nearestRank num den < count := by
    rw [nearest?]
    split
    · rename_i hlt
      exact iff_of_true rfl hlt
    · rename_i hge
      exact iff_of_false Bool.false_ne_true hge
  have hcount : count = 2045 * perDoubling + (2 * perDoubling - 1) + 1 := rfl
  have hodd : (2045 * perDoubling + (2 * perDoubling - 1)) % 2 ≠ 0 := by decide
  obtain ⟨n, hn⟩ : ∃ n, n = overflow := ⟨_, rfl⟩
  rw [hrank, hcount, Nat.lt_succ_iff, ← Nat.not_lt, lt_nearestRank_iff hden, PastMidpoint,
    if_neg hodd, middle_greatest (a := 2045) (c := 1074) (hn.trans overflow.eq_1) rfl, ← hn,
    Nat.not_le, Nat.mul_assoc, Nat.mul_right_comm, Nat.mul_lt_mul_left (by decide)]
  exact Nat.mul_lt_mul_right (pow_pos 1074)

end AlertConsole.Magnitude
