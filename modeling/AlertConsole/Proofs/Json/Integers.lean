import AlertConsole.Proofs.Json.Naturals
set_option autoImplicit false

/-!
# Integer literals

A literal without fraction and exponent writes an integer.  If its digits fit into a significand,
the number is that integer (`number_of_short_whole`); if they do not, it is a double, and one that
is not small (`number_of_long_whole`).
-/

namespace AlertConsole.Json

theorem digit_le {d : UInt8} (h : Byte.isDigit d = true) : Byte.digit d ≤ 9 := by
  simp only [Byte.isDigit, Byte.zero, Byte.nine, Bool.and_eq_true, decide_eq_true_eq,
    UInt8.le_iff_toNat_le, UInt8.reduceToNat] at h
  simp only [Byte.digit, Byte.zero, UInt8.reduceToNat]
  omega

theorem WholeDigits.digits {ds : List UInt8} (h : WholeDigits ds) : Digits ds := by
  rcases h with rfl | ⟨hdigits, -⟩
  · exact ⟨List.cons_ne_nil _ _, List.forall_mem_singleton.mpr rfl⟩
  · exact hdigits

/-- Of digits that do not fit into a significand the first ones do, and these write a number that is
not small. -/
theorem exists_gather {whole : List UInt8} (hwhole : WholeDigits whole)
    (hlong : Literal.maxSignificand < decimal whole) :
    ∃ head d rest, Literal.gather Literal.maxSignificand 0 whole = (head, d :: rest) ∧
      2 ^ 60 ≤ head := by
  obtain ⟨w, hw⟩ := exists_fills (Nat.zero_le Literal.maxSignificand) whole
  have hgather := hw.gather_eq
  obtain ⟨left, rfl⟩ := hw.first
  rw [List.drop_left] at hgather
  cases left with
  | nil =>
    rw [List.append_nil] at hlong
    exact absurd hw.fits (Nat.not_le.mpr hlong)
  | cons d rest =>
    refine ⟨_, d, rest, hgather, ?_⟩
    have hfull := hw.full d ⟨rest, by simp⟩
    have hdigit := digit_le (hwhole.digits.2 d (by simp))
    rw [decimalFrom_concat] at hfull
    unfold Literal.maxSignificand at hfull
    omega

theorem eq_some_of_orOutOfRange {o : Option Number} {n : Number}
    (h : Literal.orOutOfRange o = .ok n) : o = some n := by
  cases o with
  | none => cases h
  | some m => exact congrArg some (Except.ok.inj h)

/-- A natural number whose digits fit into a significand is that integer. -/
theorem number_of_short_whole {whole : List UInt8} {n : Number}
    (hshort : decimal whole ≤ Literal.maxSignificand)
    (hn : Literal.number ⟨false, whole, [], none⟩ = .ok n) :
    ∃ inRange, n = .integer (decimal whole) inRange := by
  have hgather : Literal.gather Literal.maxSignificand 0 whole = (decimal whole, []) := by
    rw [(fills_all hshort).gather_eq, List.drop_length]
    rfl
  rw [number_of_whole hgather] at hn
  have hinteger := eq_some_of_orOutOfRange hn
  unfold Literal.maxSignificand at hshort
  rw [Literal.integer?, if_neg Bool.false_ne_true, Number.ofInt?, dif_pos (by omega)] at hinteger
  exact ⟨_, (Option.some.inj hinteger).symm⟩

/-- An integer whose digits do not fit into a significand is a double that is not small. -/
theorem number_of_long_whole {negative : Bool} {whole : List UInt8} {n : Number}
    (hwhole : WholeDigits whole) (hlong : Literal.maxSignificand < decimal whole)
    (hn : Literal.number ⟨negative, whole, [], none⟩ = .ok n) :
    ∃ y, n = .double ⟨negative, y⟩ ∧ 2 ^ 60 ≤ y.floor := by
  obtain ⟨head, d, rest, hgather, hhead⟩ := exists_gather hwhole hlong
  have hfraction : Literal.gather Literal.maxSignificand head [] = (head, []) := rfl
  unfold Literal.number at hn
  simp only [hgather, hfraction] at hn
  rw [if_neg (fun h => List.cons_ne_nil d rest h.1)] at hn
  -- the digits left over make the power of ten that the significand is multiplied by
  have hscaled : Literal.scaled? negative head (.ofNat (d :: rest).length) = some n :=
    eq_some_of_orOutOfRange hn
  rw [Literal.scaled?, Option.map_eq_some_iff] at hscaled
  obtain ⟨y, hy, rfl⟩ := hscaled
  obtain ⟨x, hx, hscale⟩ := Option.bind_eq_some_iff.mp hy
  refine ⟨y, rfl, Magnitude.le_floor ?_⟩
  exact Magnitude.le_units_of_scale? (Magnitude.le_units_of_nearest?_one hhead hx) hscale

end AlertConsole.Json
