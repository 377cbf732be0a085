import AlertConsole.Json.Literal
import AlertConsole.Proofs.Binary64.Bounds
set_option autoImplicit false

/-!
# Number literals in range

A literal that is well formed has a number unless it is out of range, and `Literal.InRange` says
when it is in range, in terms of what its digits write: the leading digits that fit into a
significand, the power of ten that the other digits and the exponent amount to, and whether the
product is finite in binary64 arithmetic, which only a power of ten that is not below one can
prevent (`finite_iff`).  `number_isOk_iff` is that rule for `Literal.number`, which gathers digits
one by one.
-/

namespace AlertConsole.Json

/-! ## What digits write -/

/-- The number that digits write behind a number. -/
def decimalFrom (n : Nat) (ds : List UInt8) : Nat := ds.foldl (fun n d => n * 10 + Byte.digit d) n

/-- The number that digits write. -/
def decimal (ds : List UInt8) : Nat := decimalFrom 0 ds

@[simp] theorem decimalFrom_nil (n : Nat) : decimalFrom n [] = n := rfl

theorem decimalFrom_cons (n : Nat) (d : UInt8) (ds : List UInt8) :
    decimalFrom n (d :: ds) = decimalFrom (n * 10 + Byte.digit d) ds := by
  rw [decimalFrom, List.foldl_cons, decimalFrom]

theorem le_decimalFrom (n : Nat) (ds : List UInt8) : n ≤ decimalFrom n ds := by
  induction ds generalizing n with
  | nil => exact Nat.le_refl n
  | cons d ds ih =>
    rw [decimalFrom_cons]
    exact Nat.le_trans (by omega) (ih _)

/-- The digits `taken` are the first of `ds`, as many of them as write, behind `n`, a number up to
the limit. -/
structure Fills (limit n : Nat) (ds taken : List UInt8) : Prop where
  first : taken <+: ds
  fits : decimalFrom n taken ≤ limit
  full : ∀ d, taken ++ [d] <+: ds → limit < decimalFrom n (taken ++ [d])

/-- Digits that write a number up to the limit are all taken. -/
theorem fills_all {limit n : Nat} {ds : List UInt8} (h : decimalFrom n ds ≤ limit) :
    Fills limit n ds ds where
  first := List.prefix_rfl
  fits := h
  full := fun d hd => by
    have hlen := hd.length_le
    rw [List.length_append, List.length_singleton] at hlen
    omega

/-- Digits are gathered as long as they fit. -/
theorem Fills.gather_eq {limit n : Nat} {ds taken : List UInt8} (h : Fills limit n ds taken) :
    Literal.gather limit n ds = (decimalFrom n taken, ds.drop taken.length) := by
  induction taken generalizing n ds with
  | nil =>
    cases ds with
    | nil => rfl
    | cons d ds =>
      have hfull := h.full d (by simp)
      simp only [List.nil_append, decimalFrom_cons, decimalFrom_nil] at hfull
      rw [Literal.gather, if_neg (by omega)]
      rfl
  | cons d taken ih =>
    obtain ⟨rest, rfl⟩ := h.first
    have hfits := h.fits
    rw [decimalFrom_cons] at hfits
    have hnext : Fills limit (n * 10 + Byte.digit d) (taken ++ rest) taken :=
      ⟨List.prefix_append _ _, hfits, fun e he => h.full e (by simpa using he)⟩
    rw [List.cons_append, Literal.gather, if_pos (Nat.le_trans (le_decimalFrom _ _) hfits),
      ih hnext]
    rfl

/-- No other digits are the first that fit. -/
theorem Fills.unique {limit n : Nat} {ds taken taken' : List UInt8} (h : Fills limit n ds taken)
    (h' : Fills limit n ds taken') : taken = taken' := by
  have hdrop : ds.drop taken.length = ds.drop taken'.length :=
    congrArg Prod.snd (h.gather_eq.symm.trans h'.gather_eq)
  have hlength := congrArg List.length hdrop
  rw [List.length_drop, List.length_drop] at hlength
  have hle := h.first.length_le
  have hle' := h'.first.length_le
  exact (List.prefix_of_prefix_length_le h.first h'.first (by omega)).eq_of_length (by omega)

/-- Some of the digits are taken, behind any number up to the limit. -/
theorem exists_fills {limit n : Nat} (hn : n ≤ limit) (ds : List UInt8) :
    ∃ taken, Fills limit n ds taken := by
  induction ds generalizing n with
  | nil => exact ⟨[], fills_all hn⟩
  | cons d ds ih =>
    by_cases hd : n * 10 + Byte.digit d ≤ limit
    · obtain ⟨taken, h⟩ := ih hd
      refine ⟨d :: taken, (List.prefix_cons_inj d).mpr h.first, h.fits, fun e he => ?_⟩
      exact h.full e ((List.prefix_cons_inj d).mp he)
    · refine ⟨[], List.nil_prefix, hn, fun e he => ?_⟩
      obtain ⟨rest, he⟩ := he
      obtain ⟨rfl, -⟩ := List.cons.inj he
      simpa [decimalFrom_cons, decimalFrom_nil] using hd

/-! ## The rule of range -/

namespace Literal

/-- A significand times a power of ten is finite in binary64 arithmetic. -/
def Finite (significand : Nat) (exponent : Int) : Prop :=
  ((Magnitude.nearest? significand 1).bind (·.scale? exponent)).isSome = true

/-- A literal is in range.  Its significand is written by the leading digits `w` of its whole part
and, behind them, by the leading digits `f` of its fraction, as many of each as fit; a digit left
over in the whole part is a factor of ten, and a digit taken from the fraction is a divisor.  An
integer that fits into the significand is always in range; an exponent that is not read to its end
leaves the literal in range if it makes zero of it. -/
def InRange (l : Literal) : Prop :=
  ∃ w f, Fills maxSignificand 0 l.whole w ∧ Fills maxSignificand (decimal w) l.fraction f ∧
    let significand := decimalFrom (decimal w) f
    let shift : Int := (l.whole.length - w.length : Nat) - f.length
    match l.exponent with
    | none => (w = l.whole ∧ l.fraction = []) ∨ Finite significand shift
    | some e =>
      if decimal e.digits ≤ maxExponent then
        Finite significand
          (if e.negative then shift - decimal e.digits else shift + decimal e.digits)
      else
        significand = 0 ∨ e.negative = true

theorem isSome_scaled?_iff {negative : Bool} {significand : Nat} {exponent : Int} :
    (scaled? negative significand exponent).isSome = true ↔ Finite significand exponent := by
  rw [scaled?, Option.isSome_map, Finite]

theorem finite_of_le_maxSignificand {n : Nat} (h : n ≤ maxSignificand) : Finite n 0 := by
  rw [maxSignificand] at h
  exact Magnitude.scale?_word_isSome (by omega)

/-- Only a power of ten that is not below one takes a significand out of range: if the power is out
of range itself, or if the product of the two rounded numbers is. -/
theorem finite_iff {significand : Nat} {exponent : Int} {x : Magnitude}
    (hx : Magnitude.nearest? significand 1 = some x) :
    Finite significand exponent ↔
      exponent < 0 ∨ significand = 0 ∨ exponent ≤ Magnitude.tenPowMax ∧
        ∃ y, Magnitude.tenPow? exponent.toNat = some y ∧
          x.units * y.units < Magnitude.overflow * Nat.pow 2 2148 := by
  rw [Finite, hx, Option.bind_some]
  cases exponent with
  | negSucc e => exact iff_of_true (x.scale?_negSucc_isSome e) (.inl (Int.negSucc_lt_zero e))
  | ofNat e =>
    have hnonneg : ¬ Int.ofNat e < 0 := Int.not_lt.mpr (Int.natCast_nonneg e)
    have hle : Int.ofNat e ≤ Magnitude.tenPowMax ↔ e ≤ Magnitude.tenPowMax := Int.ofNat_le
    rw [Magnitude.scale?_ofNat_isSome_iff, Magnitude.isZero_iff_of_nearest?_one hx, hle]
    exact (or_iff_right hnonneg).symm

theorem isSome_scaled? (negative : Bool) {n : Nat} (h : n ≤ maxSignificand) :
    (scaled? negative n 0).isSome = true :=
  isSome_scaled?_iff.mpr (finite_of_le_maxSignificand h)

theorem isSome_ofInt? {n : Nat} (h : n ≤ maxSignificand) : (Number.ofInt? n).isSome = true := by
  rw [maxSignificand] at h
  rw [Number.ofInt?, dif_pos (by omega), Option.isSome_some]

/-- An integer that fits into a significand has a number. -/
theorem isSome_integer? (negative : Bool) {n : Nat} (h : n ≤ maxSignificand) :
    (integer? negative n).isSome = true := by
  have hzero := isSome_scaled? true (Nat.zero_le maxSignificand)
  have hdouble := isSome_scaled? true h
  unfold integer?
  cases negative with
  | false =>
    rw [if_neg Bool.false_ne_true]
    exact isSome_ofInt? h
  | true =>
    rw [if_pos rfl]
    by_cases hn : n = 0
    · rw [if_pos hn]
      exact hzero
    · rw [if_neg hn, Option.orElse_eq_or, Option.isSome_or, hdouble, Bool.or_true]

/-- The exponent is read to its end exactly if it is not too great. -/
theorem gather_exponent (ds : List UInt8) :
    (decimal ds ≤ maxExponent ∧ gather maxExponent 0 ds = (decimal ds, [])) ∨
      (¬ decimal ds ≤ maxExponent ∧
        ∃ n d rest, gather maxExponent 0 ds = (n, d :: rest)) := by
  by_cases h : decimal ds ≤ maxExponent
  · refine .inl ⟨h, ?_⟩
    rw [(fills_all h).gather_eq, List.drop_length]
    rfl
  · refine .inr ⟨h, ?_⟩
    obtain ⟨taken, ht⟩ := exists_fills (Nat.zero_le maxExponent) ds
    obtain ⟨rest, rfl⟩ := ht.first
    cases rest with
    | nil =>
      have hfits := ht.fits
      rw [List.append_nil] at h
      exact absurd hfits h
    | cons d rest =>
      refine ⟨decimalFrom 0 taken, d, rest, ?_⟩
      rw [ht.gather_eq, List.drop_left]

theorem orOutOfRange_isOk_iff {x : Option Number} :
    (∃ n, orOutOfRange x = .ok n) ↔ x.isSome = true := by
  cases x with
  | none => simp only [orOutOfRange, reduceCtorEq, exists_false, Option.isSome_none]
  | some n => exact iff_of_true ⟨n, rfl⟩ rfl

theorem withExponent_isOk_iff {negative : Bool} {significand : Nat} {shift : Int} {e : Exponent} :
    (∃ n, withExponent negative significand shift e = .ok n) ↔
      if decimal e.digits ≤ maxExponent then
        Finite significand
          (if e.negative then shift - decimal e.digits else shift + decimal e.digits)
      else
        significand = 0 ∨ e.negative = true := by
  have hzero := isSome_scaled? negative (Nat.zero_le maxSignificand)
  rw [withExponent]
  obtain ⟨hle, hdigits⟩ | ⟨hlt, n, d, ds, hdigits⟩ := gather_exponent e.digits
  · rw [hdigits, if_pos hle]
    exact orOutOfRange_isOk_iff.trans isSome_scaled?_iff
  · rw [hdigits, if_neg hlt]
    by_cases hsize : significand ≠ 0 ∧ ¬ e.negative = true
    · simp only [if_pos hsize, reduceCtorEq, exists_false, false_iff]
      exact fun h => h.elim hsize.1 hsize.2
    · simp only [if_neg hsize]
      refine iff_of_true (orOutOfRange_isOk_iff.mpr hzero) ?_
      by_cases hs : significand = 0
      · exact .inl hs
      · exact .inr (Decidable.not_not.mp fun h => hsize ⟨hs, h⟩)

/-- The rule of range, the digits that the significand is made of given. -/
theorem inRange_iff {l : Literal} {w f : List UInt8} (hw : Fills maxSignificand 0 l.whole w)
    (hf : Fills maxSignificand (decimal w) l.fraction f) :
    l.InRange ↔
      match l.exponent with
      | none =>
        (w = l.whole ∧ l.fraction = []) ∨
          Finite (decimalFrom (decimal w) f) ((l.whole.length - w.length : Nat) - f.length)
      | some e =>
        if decimal e.digits ≤ maxExponent then
          Finite (decimalFrom (decimal w) f)
            (if e.negative then (l.whole.length - w.length : Nat) - f.length - decimal e.digits
              else (l.whole.length - w.length : Nat) - f.length + decimal e.digits)
        else
          decimalFrom (decimal w) f = 0 ∨ e.negative = true := by
  constructor
  · rintro ⟨w', f', hw', hf', h⟩
    obtain rfl := hw.unique hw'
    obtain rfl := hf.unique hf'
    exact h
  · exact fun h => ⟨w, f, hw, hf, h⟩

/-- A literal has a number exactly if it is in range. -/
theorem number_isOk_iff (l : Literal) : (∃ n, l.number = .ok n) ↔ l.InRange := by
  obtain ⟨w, hw⟩ := exists_fills (Nat.zero_le maxSignificand) l.whole
  obtain ⟨f, hf⟩ := exists_fills hw.fits l.fraction
  have hrest : l.whole.drop w.length = [] ↔ w = l.whole := by
    rw [List.drop_eq_nil_iff]
    exact ⟨hw.first.eq_of_length_le, fun h => Nat.le_of_eq (congrArg List.length h).symm⟩
  have htaken : l.fraction.length - (l.fraction.length - f.length) = f.length := by
    have := hf.first.length_le
    omega
  rw [inRange_iff hw hf, number, hw.gather_eq]
  simp only [hf.gather_eq, List.length_drop, htaken, hrest]
  cases l.exponent with
  | none =>
    simp only []
    split
    · rename_i hall
      exact iff_of_true (orOutOfRange_isOk_iff.mpr (isSome_integer? _ hw.fits)) (.inl hall)
    · rename_i hpart
      refine orOutOfRange_isOk_iff.trans (isSome_scaled?_iff.trans ⟨.inr, fun h => ?_⟩)
      exact h.resolve_left hpart
  | some e => exact withExponent_isOk_iff

end Literal

end AlertConsole.Json
