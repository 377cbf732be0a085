import AlertConsole.Proofs.Binary64.Nearest
set_option autoImplicit false

/-!
# Bounds of binary64 arithmetic

Rounding has a result exactly if the quotient is below `Magnitude.overflow`.  So a product has one
exactly if the exact product is in range, and a quotient by a magnitude that is not below one always
has one: a negative power of ten never takes a magnitude out of range
(`scale?_negSucc_isSome`), and neither does the power zero.  From below, rounding does not cross
a power of two (`le_units_of_nearest?`).
-/

namespace AlertConsole.Magnitude

/-! ## Operations in range -/

theorem units_of_isZero {x : Magnitude} (h : x.isZero = true) : x.units = 0 := by
  rw [units, beq_iff_eq.mp h]
  rfl

/-- A magnitude is nearest to itself. -/
theorem nearest?_units (x : Magnitude) : nearest? x.units (Nat.pow 2 1074) = some x :=
  nearest?_of_eq (pow_pos 1074) rfl

theorem units_lt (x : Magnitude) : x.units < overflow * Nat.pow 2 1074 := by
  rw [← nearest?_isSome_iff (pow_pos 1074), nearest?_units]
  rfl

/-- The product is in range exactly if the exact product is. -/
theorem mul?_isSome_iff {x y : Magnitude} :
    (x.mul? y).isSome = true ↔ x.units * y.units < overflow * Nat.pow 2 2148 :=
  nearest?_isSome_iff (pow_pos 2148)

/-- The quotient by a magnitude that is not below one is in range. -/
theorem div?_isSome (x : Magnitude) {y : Magnitude} (hy : Nat.pow 2 1074 ≤ y.units) :
    (x.div? y).isSome = true := by
  have hpos : 0 < y.units := Nat.lt_of_lt_of_le (pow_pos 1074) hy
  exact (nearest?_isSome_iff hpos).mpr
    (Nat.lt_of_lt_of_le x.units_lt (Nat.mul_le_mul_left overflow hy))

theorem overflow_pos : 0 < overflow := Nat.mul_pos (by decide) (pow_pos 970)

/-- A natural number up to a word of 64 bits has a nearest magnitude. -/
theorem exists_nearest?_word {n : Nat} (h : n < 2 ^ 64) : ∃ x, nearest? n 1 = some x := by
  have hword : 2 ^ 64 ≤ overflow :=
    calc 2 ^ 64 ≤ Nat.pow 2 970 := Nat.pow_le_pow_right (by decide) (by decide)
      _ ≤ overflow := Nat.le_mul_of_pos_left _ (by decide)
  rw [← Option.isSome_iff_exists, nearest?_isSome_iff Nat.one_pos, Nat.mul_one]
  exact Nat.lt_of_lt_of_le h hword

/-! ## Powers of two -/

/-- Rounding does not go below a power of two. -/
theorem le_units_of_nearest? {num den k : Nat} {x : Magnitude} (hden : 0 < den) (hk : 52 ≤ k)
    (h : den * 2 ^ k ≤ num * Nat.pow 2 1074) (hx : nearest? num den = some x) :
    2 ^ k ≤ x.units := by
  rw [Nat.mul_comm, ← unitsOf_doublings hk] at h
  rw [← unitsOf_doublings hk, units, ← nearest?_eq_some_iff.mp hx]
  exact unitsOf_strictMono.monotone (le_nearestRank_of_le hden h)

/-- A magnitude of `2 ^ a` or more has that as its integer part or more. -/
theorem le_floor {x : Magnitude} {a : Nat} (h : 2 ^ (a + 1074) ≤ x.units) : 2 ^ a ≤ x.floor := by
  rw [floor, Nat.le_div_iff_mul_le (pow_pos 1074)]
  exact Nat.le_trans (Nat.le_of_eq (pow_mul_pow a 1074)) h

theorem pow_le_mul_pow {n a b : Nat} (h : 2 ^ a ≤ n) : 1 * 2 ^ (a + b) ≤ n * Nat.pow 2 b := by
  rw [Nat.one_mul, Nat.pow_add]
  exact Nat.mul_le_mul_right _ h

theorem pow_mul_pow_le_mul {m n a b c : Nat} (hc : c = b + b) (hm : 2 ^ (a + b) ≤ m)
    (hn : 2 ^ b ≤ n) : Nat.pow 2 c * 2 ^ (a + b) ≤ m * n * Nat.pow 2 b := by
  rw [hc, Nat.mul_comm, Nat.mul_assoc, ← pow_mul_pow b b]
  exact Nat.mul_le_mul hm (Nat.mul_le_mul_right _ hn)

/-- A power of two up to a natural number is up to the magnitude nearest to that as well. -/
theorem le_units_of_nearest?_one {n a : Nat} {x : Magnitude} (h : 2 ^ a ≤ n)
    (hx : nearest? n 1 = some x) : 2 ^ (a + 1074) ≤ x.units :=
  le_units_of_nearest? (k := a + 1074) (by decide) (Nat.le_add_left_of_le (by decide))
    (pow_le_mul_pow (b := 1074) h) hx

theorem isZero_iff_of_nearest?_one {n : Nat} {x : Magnitude} (hx : nearest? n 1 = some x) :
    x.isZero = true ↔ n = 0 := by
  constructor
  · intro hzero
    by_contra hn
    have hunits := le_units_of_nearest?_one (a := 0) (Nat.pos_of_ne_zero hn) hx
    rw [units_of_isZero hzero] at hunits
    exact absurd hunits (Nat.not_le.mpr (Nat.pow_pos (by decide)))
  · rintro rfl
    have hzero : nearest? 0 1 = some zero := nearest?_of_eq Nat.one_pos (by rw [Nat.zero_mul]; rfl)
    rw [hzero] at hx
    rw [← Option.some.inj hx]
    rfl

/-! ## Powers of ten -/

theorem tenPow?_isSome {n : Nat} (h : n ≤ tenPowMax) : (tenPow? n).isSome = true := by
  -- both sides are split into powers of small exponents, which evaluate at once
  have hmax : 10 ^ tenPowMax < overflow :=
    calc 10 ^ tenPowMax = 10 ^ 154 * 10 ^ 154 := Nat.pow_add 10 154 154
      _ < (2 ^ 54 - 1) * (2 ^ 194) ^ 5 := by decide
      _ = overflow := congrArg ((2 ^ 54 - 1) * ·) (Nat.pow_mul 2 194 5).symm
  rw [tenPow?, nearest?_isSome_iff Nat.one_pos, Nat.mul_one]
  exact Nat.lt_of_le_of_lt (Nat.pow_le_pow_right (by decide) h) hmax

/-- A power of ten is not below one. -/
theorem le_units_tenPow? {n : Nat} {x : Magnitude} (h : tenPow? n = some x) :
    Nat.pow 2 1074 ≤ x.units := by
  have hone : 2 ^ 0 ≤ Nat.pow 10 n := Nat.pow_pos (by decide)
  have hunits := le_units_of_nearest?_one hone h
  rwa [Nat.zero_add] at hunits

theorem bind_div?_tenPow?_isSome (x : Magnitude) {n : Nat} (h : n ≤ tenPowMax) :
    ((tenPow? n).bind x.div?).isSome = true := by
  obtain ⟨y, hy⟩ := Option.isSome_iff_exists.mp (tenPow?_isSome h)
  rw [hy, Option.bind_some]
  exact x.div?_isSome (le_units_tenPow? hy)

theorem divTopTenPow?_isSome (x : Magnitude) (times : Nat) :
    (divTopTenPow? x times).isSome = true := by
  induction times generalizing x with
  | zero => exact Option.isSome_some
  | succ times ih =>
    obtain ⟨y, hy⟩ :=
      Option.isSome_iff_exists.mp (x.bind_div?_tenPow?_isSome (Nat.le_refl tenPowMax))
    rw [divTopTenPow?, hy, Option.bind_some]
    split
    · exact Option.isSome_some
    · exact ih y

/-- A negative power of ten does not take a magnitude out of range. -/
theorem scale?_negSucc_isSome (x : Magnitude) (e : Nat) :
    (x.scale? (.negSucc e)).isSome = true := by
  obtain ⟨y, hy⟩ := Option.isSome_iff_exists.mp (x.divTopTenPow?_isSome (e / tenPowMax))
  rw [scale?, divTenPow?, Nat.add_sub_cancel, hy, Option.bind_some]
  refine y.bind_div?_tenPow?_isSome ?_
  rw [tenPowMax]
  omega

/-- Any other power of ten takes a magnitude that is not zero out of range if it is out of range
itself, or if the product is. -/
theorem scale?_ofNat_isSome_iff {x : Magnitude} {e : Nat} :
    (x.scale? (.ofNat e)).isSome = true ↔
      x.isZero = true ∨ e ≤ tenPowMax ∧
        ∃ y, tenPow? e = some y ∧ x.units * y.units < overflow * Nat.pow 2 2148 := by
  rw [scale?]
  by_cases he : e ≤ tenPowMax
  · obtain ⟨y, hy⟩ := Option.isSome_iff_exists.mp (tenPow?_isSome he)
    rw [if_pos he, hy, Option.bind_some, mul?_isSome_iff]
    constructor
    · exact fun h => .inr ⟨he, y, rfl, h⟩
    · rintro (hzero | ⟨-, z, hz, h⟩)
      · rw [units_of_isZero hzero, Nat.zero_mul]
        exact Nat.mul_pos overflow_pos (pow_pos 2148)
      · rwa [Option.some.inj hz]
  · rw [if_neg he]
    by_cases hx : x.isZero = true
    · rw [if_pos hx]
      exact iff_of_true Option.isSome_some (.inl hx)
    · rw [if_neg hx]
      refine iff_of_false Bool.false_ne_true ?_
      rintro (hzero | ⟨hle, -⟩)
      · exact hx hzero
      · exact he hle

/-- Multiplying by one is no change. -/
theorem scale?_zero (x : Magnitude) : x.scale? 0 = some x := by
  have hunits : units ⟨1023 * perDoubling, by decide⟩ = Nat.pow 2 1074 :=
    unitsOf_doublings (k := 1074) (by decide)
  have hone : tenPow? 0 = some ⟨1023 * perDoubling, by decide⟩ := by
    have hten : Nat.pow 10 0 = 1 := rfl
    refine nearest?_of_eq Nat.one_pos ?_
    rw [hten, hunits, Nat.one_mul, Nat.mul_one]
  show x.scale? (.ofNat 0) = some x
  rw [scale?, if_pos (Nat.zero_le _), hone, Option.bind_some, mul?, hunits]
  exact nearest?_of_eq (pow_pos 2148) (by rw [Nat.mul_assoc, pow_mul_pow])

/-- A word of 64 bits is in range as a double. -/
theorem scale?_word_isSome {n : Nat} (h : n < 2 ^ 64) :
    ((nearest? n 1).bind (·.scale? 0)).isSome = true := by
  obtain ⟨x, hx⟩ := exists_nearest?_word h
  rw [hx, Option.bind_some, scale?_zero]
  rfl

/-- A power of two up to a magnitude is up to its product with a power of ten as well. -/
theorem le_units_of_scale? {x y : Magnitude} {a e : Nat} (hx : 2 ^ (a + 1074) ≤ x.units)
    (h : x.scale? (.ofNat e) = some y) : 2 ^ (a + 1074) ≤ y.units := by
  have hpos : 0 < x.units := Nat.lt_of_lt_of_le (Nat.pow_pos (by decide)) hx
  rw [scale?] at h
  split at h
  · obtain ⟨z, hz, hy⟩ := Option.bind_eq_some_iff.mp h
    have hproduct : Nat.pow 2 2148 * 2 ^ (a + 1074) ≤ x.units * z.units * Nat.pow 2 1074 :=
      pow_mul_pow_le_mul (by decide) hx (le_units_tenPow? hz)
    exact le_units_of_nearest? (pow_pos 2148) (Nat.le_add_left_of_le (by decide)) hproduct hy
  · split at h
    · rename_i hzero
      rw [units_of_isZero hzero] at hpos
      exact absurd hpos (Nat.lt_irrefl 0)
    · exact absurd h (Option.some_ne_none y).symm

end AlertConsole.Magnitude
