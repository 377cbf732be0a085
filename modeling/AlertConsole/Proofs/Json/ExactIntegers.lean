import AlertConsole.Proofs.Json.Integers
import Mathlib.Data.List.Induction
set_option autoImplicit false

/-!
# Integers that are kept

An integer literal whose value a word of 64 bits can hold, signed or unsigned, is kept as that
integer, and the text of the integer is the literal again (`bytes_intText_toInt`).  A negative zero
and the integers out of that range are doubles (`number_of_not_exact`), and these are told from
integers by a point or an exponent in their text.
-/

namespace AlertConsole.Json

/-! ## Digits -/

theorem digit_inv {d : UInt8} (h : Byte.isDigit d = true) :
    Byte.digit d < 10 ∧ UInt8.ofNat (0x30 + Byte.digit d) = d ∧
      (d ≠ Byte.zero → 0 < Byte.digit d) := by
  have hle := digit_le h
  simp only [Byte.isDigit, Byte.zero, Byte.nine, Bool.and_eq_true, decide_eq_true_eq,
    UInt8.le_iff_toNat_le, UInt8.reduceToNat] at h
  simp only [Byte.digit, Byte.zero, UInt8.reduceToNat, ne_eq, ← UInt8.toNat_inj,
    UInt8.toNat_ofNat'] at hle ⊢
  omega

theorem decimal_pos {ds : List UInt8} (h : Digits ds) (hhead : ds.head? ≠ some Byte.zero) :
    0 < decimal ds := by
  obtain ⟨hne, hds⟩ := h
  cases ds with
  | nil => contradiction
  | cons d ds =>
    have hd : d ≠ Byte.zero := fun h => hhead (congrArg some h)
    have hpos := (digit_inv (hds d List.mem_cons_self)).2.2 hd
    have hle := le_decimalFrom (0 * 10 + Byte.digit d) ds
    rw [decimal, decimalFrom_cons]
    omega

/-- The digits of a whole part are those of the number that they write. -/
theorem naturalDigits_decimal {ds : List UInt8} (h : WholeDigits ds) :
    naturalDigits (decimal ds) = ds := by
  rcases h with rfl | ⟨hdigits, hhead⟩
  · exact naturalDigits_of_lt (by decide)
  induction ds using List.reverseRecOn with
  | nil => exact absurd rfl hdigits.1
  | append_singleton ds d ih =>
    have hdigit := hdigits.2
    rw [List.forall_mem_append] at hdigit
    obtain ⟨hlt, hd, -⟩ := digit_inv (hdigit.2 d (List.mem_singleton.mpr rfl))
    have hdecimal : decimal (ds ++ [d]) = decimal ds * 10 + Byte.digit d :=
      decimalFrom_concat 0 ds d
    rcases eq_or_ne ds [] with rfl | hne
    · rw [List.nil_append, decimal, decimalFrom_cons, decimalFrom_nil, Nat.zero_mul, Nat.zero_add,
        naturalDigits_of_lt hlt, hd]
    · have hfirst : ds.head? ≠ some Byte.zero := by
        rwa [List.head?_append, List.head?_eq_some_head hne, Option.some_or,
          ← List.head?_eq_some_head hne] at hhead
      have hpos := decimal_pos ⟨hne, hdigit.1⟩ hfirst
      rw [hdecimal, naturalDigits_of_le (by omega),
        show (decimal ds * 10 + Byte.digit d) / 10 = decimal ds by omega,
        show (decimal ds * 10 + Byte.digit d) % 10 = Byte.digit d by omega,
        ih ⟨hne, hdigit.1⟩ hfirst, hd]

/-! ## Integer literals -/

namespace Literal

/-- A literal without fraction and exponent. -/
structure IsInteger (l : Literal) : Prop where
  whole : WholeDigits l.whole
  fraction : l.fraction = []
  exponent : l.exponent = none

/-- The integer that a literal without fraction and exponent writes. -/
def toInt (l : Literal) : Int := if l.negative then -(decimal l.whole : Int) else decimal l.whole

/-- The literal writes an integer that is kept: no negative zero, and one that a word of 64 bits can
hold, signed or unsigned. -/
structure Exact (l : Literal) : Prop where
  notMinusZero : ¬ (l.negative = true ∧ decimal l.whole = 0)
  low : -0x8000000000000000 ≤ l.toInt
  high : l.toInt < 0x10000000000000000

variable {l l' : Literal}

theorem IsInteger.eta (h : l.IsInteger) : l = ⟨l.negative, l.whole, [], none⟩ := by
  rw [← h.fraction, ← h.exponent]

/-- The number of an integer literal whose digits fit into a significand. -/
theorem IsInteger.number_eq (h : l.IsInteger) (hshort : decimal l.whole ≤ maxSignificand) :
    l.number = orOutOfRange (integer? l.negative (decimal l.whole)) := by
  have hgather : gather maxSignificand 0 l.whole = (decimal l.whole, []) := by
    rw [(fills_all hshort).gather_eq, List.drop_length]
    rfl
  rw [← number_of_whole hgather, ← h.eta]

/-- The number of an exact literal is the integer that it writes. -/
theorem IsInteger.number_of_exact (h : l.IsInteger) (hexact : l.Exact) :
    l.number = .ok (.integer l.toInt ⟨hexact.low, hexact.high⟩) := by
  obtain ⟨hzero, hlow, hhigh⟩ := hexact
  have hofInt : Number.ofInt? l.toInt = some (.integer l.toInt ⟨hlow, hhigh⟩) := dif_pos _
  have hinteger : integer? l.negative (decimal l.whole) = Number.ofInt? l.toInt := by
    cases hnegative : l.negative with
    | false =>
      rw [integer?, if_neg Bool.false_ne_true, toInt, hnegative, if_neg Bool.false_ne_true]
    | true =>
      have hne : decimal l.whole ≠ 0 := fun h => hzero ⟨hnegative, h⟩
      have htoInt : l.toInt = -(decimal l.whole : Int) := by rw [toInt, hnegative, if_pos rfl]
      rw [integer?, if_pos rfl, if_neg hne, ← htoInt, hofInt]
      rfl
  have hshort : decimal l.whole ≤ maxSignificand := by
    unfold maxSignificand
    unfold toInt at hlow hhigh
    split at hlow <;> omega
  rw [h.number_eq hshort, hinteger, hofInt]
  rfl

theorem exists_double_of_scaled? {negative : Bool} {significand : Nat} {exponent : Int}
    {n : Number} (h : scaled? negative significand exponent = some n) : ∃ x, n = .double x := by
  rw [scaled?, Option.map_eq_some_iff] at h
  obtain ⟨y, -, rfl⟩ := h
  exact ⟨_, rfl⟩

/-- An integer literal that is not exact has a double for its number, if it has one at all. -/
theorem IsInteger.number_of_not_exact (h : l.IsInteger) (hexact : ¬ l.Exact) {n : Number}
    (hn : l.number = .ok n) : ∃ x, n = .double x := by
  by_cases hshort : decimal l.whole ≤ maxSignificand
  · rw [h.number_eq hshort] at hn
    have hinteger := eq_some_of_orOutOfRange hn
    unfold maxSignificand at hshort
    cases hnegative : l.negative with
    | false =>
      -- a word can hold every natural number that fits into a significand
      have htoInt : l.toInt = decimal l.whole := by
        rw [toInt, hnegative, if_neg Bool.false_ne_true]
      exact absurd ⟨by simp [hnegative], by omega, by omega⟩ hexact
    | true =>
      rw [hnegative, integer?, if_pos rfl] at hinteger
      split at hinteger
      · exact exists_double_of_scaled? hinteger
      · rename_i hzero
        have htoInt : l.toInt = -(decimal l.whole : Int) := by rw [toInt, hnegative, if_pos rfl]
        have hlow : ¬ -0x8000000000000000 ≤ -(decimal l.whole : Int) := fun hle =>
          hexact ⟨fun hz => hzero hz.2, by omega, by omega⟩
        have hofInt : Number.ofInt? (-(decimal l.whole : Int)) = none :=
          dif_neg fun hrange => hlow hrange.1
        rw [hofInt, Option.orElse_eq_or, Option.none_or] at hinteger
        exact exists_double_of_scaled? hinteger
  · rw [h.eta] at hn
    obtain ⟨y, rfl, -⟩ := number_of_long_whole h.whole (Nat.lt_of_not_le hshort) hn
    exact ⟨_, rfl⟩

/-! ## The text of an integer -/

/-- The bytes of a literal without fraction and exponent. -/
theorem IsInteger.eq_of_spells (h : l.IsInteger) {s : List UInt8} (hs : SpellsLiteral s l) :
    s = (if l.negative then [Byte.minus] else []) ++ l.whole := by
  obtain ⟨-, hfraction, hexponent⟩ := h
  have hunsigned {s : List UInt8} (hs : SpellsUnsigned s l) : s = l.whole := by
    obtain @⟨_, whole, _, _, _, _, -, hf, he⟩ := hs
    dsimp only at hfraction hexponent
    subst hfraction hexponent
    cases hf with
    | absent =>
      cases he with
      | absent => rw [List.append_nil, List.append_nil]
    | point hdigits => exact absurd rfl hdigits.1
  cases hs with
  | plain hnegative hs =>
    rw [hnegative, if_neg Bool.false_ne_true, List.nil_append, ← hunsigned hs]
  | minus hnegative hs => rw [hnegative, if_pos rfl, ← hunsigned hs, List.singleton_append]

end Literal

theorem bytes_intText (i : Int) :
    Utf8.bytes (Number.intText i) =
      (if i < 0 then [Byte.minus] else []) ++ naturalDigits i.natAbs := by
  rw [Number.intText, Utf8.bytes, String.toList_append, Utf8.encode_append, String.toList_ofList,
    ← naturalDigits]
  congr 1
  split <;> rfl

namespace Literal

variable {l l' : Literal}

theorem Exact.toInt_neg_iff (h : l.Exact) : l.toInt < 0 ↔ l.negative = true := by
  rw [toInt]
  split
  · rename_i hnegative
    have hne : decimal l.whole ≠ 0 := fun hzero => h.notMinusZero ⟨hnegative, hzero⟩
    exact iff_of_true (by omega) hnegative
  · rename_i hnegative
    exact iff_of_false (by omega) hnegative

theorem natAbs_toInt (l : Literal) : l.toInt.natAbs = decimal l.whole := by
  rw [toInt]
  split <;> omega

/-- The text of an exact integer is the literal that writes it. -/
theorem IsInteger.bytes_intText_toInt (h : l.IsInteger) (hexact : l.Exact) {s : List UInt8}
    (hs : SpellsLiteral s l) : Utf8.bytes (Number.intText l.toInt) = s := by
  rw [bytes_intText, natAbs_toInt, naturalDigits_decimal h.whole, h.eq_of_spells hs]
  simp only [hexact.toInt_neg_iff]

/-- Two exact literals that write one integer are the same. -/
theorem IsInteger.eq_of_toInt_eq (h : l.IsInteger) (h' : l'.IsInteger) (hexact : l.Exact)
    (hexact' : l'.Exact) (heq : l.toInt = l'.toInt) : l = l' := by
  have hnegative : l.negative = l'.negative := by
    rw [Bool.eq_iff_iff, ← hexact.toInt_neg_iff, ← hexact'.toInt_neg_iff, heq]
  have hwhole : l.whole = l'.whole := by
    rw [← naturalDigits_decimal h.whole, ← naturalDigits_decimal h'.whole, ← natAbs_toInt,
      ← natAbs_toInt, heq]
  rw [h.eta, h'.eta, hnegative, hwhole]

end Literal

/-- The literal of an integer. -/
def integerLiteral (i : Int) : Literal := ⟨decide (i < 0), naturalDigits i.natAbs, [], none⟩

theorem isInteger_integerLiteral (i : Int) : (integerLiteral i).IsInteger :=
  ⟨wholeDigits_naturalDigits i.natAbs, rfl, rfl⟩

theorem toInt_integerLiteral (i : Int) : (integerLiteral i).toInt = i := by
  simp only [Literal.toInt, integerLiteral, decimal_naturalDigits, decide_eq_true_eq]
  omega

/-- An integer in range has an exact literal. -/
theorem exact_integerLiteral {i : Int}
    (h : -0x8000000000000000 ≤ i ∧ i < 0x10000000000000000) : (integerLiteral i).Exact where
  notMinusZero := by
    simp only [integerLiteral, decide_eq_true_eq, decimal_naturalDigits]
    omega
  low := by
    rw [toInt_integerLiteral]
    exact h.1
  high := by
    rw [toInt_integerLiteral]
    exact h.2

theorem spellsLiteral_integer (i : Int) :
    SpellsLiteral (Utf8.bytes (Number.intText i)) (integerLiteral i) := by
  have hunsigned := @SpellsUnsigned.mk (decide (i < 0)) _ _ _ _ _
    (wholeDigits_naturalDigits i.natAbs) SpellsFraction.absent SpellsExponent.absent
  rw [List.append_nil, List.append_nil] at hunsigned
  rw [bytes_intText]
  by_cases h : i < 0
  · rw [if_pos h, List.singleton_append]
    exact .minus (decide_eq_true h) hunsigned
  · rw [if_neg h, List.nil_append]
    exact .plain (decide_eq_false h) hunsigned

theorem number_integerLiteral {i : Int}
    (h : -0x8000000000000000 ≤ i ∧ i < 0x10000000000000000) :
    (integerLiteral i).number = .ok (.integer i h) := by
  have hnumber := (isInteger_integerLiteral i).number_of_exact (exact_integerLiteral h)
  simp only [toInt_integerLiteral] at hnumber
  exact hnumber

/-- Both ends of the range of integers. -/
theorem inRange_least : -0x8000000000000000 ≤ (-0x8000000000000000 : Int) ∧
    (-0x8000000000000000 : Int) < 0x10000000000000000 := by decide

@[inherit_doc inRange_least]
theorem inRange_greatest : -0x8000000000000000 ≤ (0xFFFFFFFFFFFFFFFF : Int) ∧
    (0xFFFFFFFFFFFFFFFF : Int) < 0x10000000000000000 := by decide

/-! ## The text of a double -/

theorem mem_text_of_mem_left {c : Char} {s t : String} (h : c ∈ s.toList) :
    c ∈ (s ++ t).toList := by
  rw [String.toList_append]
  exact List.mem_append_left _ h

/-- A decimal is written with a point or an exponent. -/
theorem mark_mem_decimalText (d : Decimal) : '.' ∈ d.text.toList ∨ 'e' ∈ d.text.toList := by
  unfold Decimal.text
  dsimp only
  split
  · left
    split
    · exact mem_text_of_mem_left (by decide)
    · split
      · simp
      · simp
  · right
    simp

/-- A double is written with a point or an exponent. -/
theorem mark_mem_doubleText (x : Binary64) : '.' ∈ x.text.toList ∨ 'e' ∈ x.text.toList := by
  unfold Binary64.text
  rw [String.toList_append, List.mem_append, List.mem_append]
  by_cases hzero : x.isZero = true
  · have hmark : '.' ∈ "0.0".toList := by decide
    rw [if_pos hzero]
    exact .inl (.inr hmark)
  · rw [if_neg hzero]
    exact (mark_mem_decimalText x.magnitude.shortest).imp .inr .inr

end AlertConsole.Json
