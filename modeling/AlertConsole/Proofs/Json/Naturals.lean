import AlertConsole.Proofs.Json.Numbers
import AlertConsole.Proofs.Json.Range
set_option autoImplicit false

/-!
# Natural numbers in decimal

The decimal digits of a natural number are a whole part of the grammar, and the literal that they
make has that number, as an integer, if it is below `2 ^ 64`.
-/

namespace AlertConsole.Json

/-- The decimal digits of a natural number, as bytes. -/
def naturalDigits (n : Nat) : List UInt8 := Utf8.encode (Nat.toDigits 10 n)

theorem bytes_toString (n : Nat) : Utf8.bytes (toString n) = naturalDigits n := by
  rw [Utf8.bytes, Nat.toString_eq_ofList_toDigits, String.toList_ofList, naturalDigits]

theorem encodeChar_digitChar {d : Nat} (h : d < 10) :
    String.utf8EncodeChar d.digitChar = [UInt8.ofNat (0x30 + d)] := by
  have hall : ∀ d < 10, String.utf8EncodeChar (Nat.digitChar d) = [UInt8.ofNat (0x30 + d)] := by
    decide
  exact hall d h

theorem digit_ofNat {d : Nat} (h : d < 10) :
    Byte.isDigit (UInt8.ofNat (0x30 + d)) = true ∧ Byte.digit (UInt8.ofNat (0x30 + d)) = d := by
  have hall : ∀ d < 10, Byte.isDigit (UInt8.ofNat (0x30 + d)) = true ∧
      Byte.digit (UInt8.ofNat (0x30 + d)) = d := by decide
  exact hall d h

theorem naturalDigits_of_lt {n : Nat} (h : n < 10) :
    naturalDigits n = [UInt8.ofNat (0x30 + n)] := by
  rw [naturalDigits, Nat.toDigits_of_lt_base h, Utf8.encode_cons, encodeChar_digitChar h,
    Utf8.encode_nil, List.append_nil]

theorem naturalDigits_of_le {n : Nat} (h : 10 ≤ n) :
    naturalDigits n = naturalDigits (n / 10) ++ [UInt8.ofNat (0x30 + n % 10)] := by
  have hlt : n % 10 < 10 := Nat.mod_lt n (by decide)
  rw [naturalDigits, Nat.toDigits_of_base_le (by decide) h, Utf8.encode_append, Utf8.encode_cons,
    encodeChar_digitChar hlt, Utf8.encode_nil, List.append_nil, naturalDigits]

theorem decimalFrom_concat (n : Nat) (ds : List UInt8) (d : UInt8) :
    decimalFrom n (ds ++ [d]) = decimalFrom n ds * 10 + Byte.digit d := by
  simp [decimalFrom]

/-- The digits of a number write it. -/
theorem decimal_naturalDigits (n : Nat) : decimal (naturalDigits n) = n := by
  induction n using Nat.strongRecOn with
  | ind n ih =>
    by_cases h : n < 10
    · rw [naturalDigits_of_lt h, decimal, decimalFrom_cons, decimalFrom_nil, (digit_ofNat h).2]
      omega
    · have hlt : n % 10 < 10 := Nat.mod_lt n (by decide)
      have hrest := ih (n / 10) (by omega)
      rw [naturalDigits_of_le (by omega), decimal, decimalFrom_concat, (digit_ofNat hlt).2,
        ← decimal, hrest]
      omega

/-- They are digits, and the first of them is not zero unless the number is. -/
theorem digits_naturalDigits (n : Nat) :
    Digits (naturalDigits n) ∧ (0 < n → (naturalDigits n).head? ≠ some Byte.zero) := by
  induction n using Nat.strongRecOn with
  | ind n ih =>
    by_cases h : n < 10
    · rw [naturalDigits_of_lt h]
      refine ⟨⟨List.cons_ne_nil _ _, List.forall_mem_singleton.mpr (digit_ofNat h).1⟩, ?_⟩
      intro hpos hzero
      have hdigit := (digit_ofNat h).2
      rw [Option.some.inj hzero] at hdigit
      exact absurd hdigit (Nat.ne_of_lt hpos)
    · have hlt : n % 10 < 10 := Nat.mod_lt n (by decide)
      obtain ⟨⟨hne, hdigits⟩, hhead⟩ := ih (n / 10) (by omega)
      rw [naturalDigits_of_le (by omega)]
      refine ⟨⟨by simp, ?_⟩, fun _ => ?_⟩
      · intro d hd
        rcases List.mem_append.mp hd with hd | hd
        · exact hdigits d hd
        · rw [List.mem_singleton.mp hd]
          exact (digit_ofNat hlt).1
      · rw [List.head?_append, List.head?_eq_some_head hne, Option.some_or,
          ← List.head?_eq_some_head hne]
        exact hhead (by omega)

theorem wholeDigits_naturalDigits (n : Nat) : WholeDigits (naturalDigits n) := by
  obtain ⟨hdigits, hhead⟩ := digits_naturalDigits n
  cases n with
  | zero => exact .inl (naturalDigits_of_lt (by decide))
  | succ n => exact .inr ⟨hdigits, hhead (Nat.succ_pos n)⟩

/-- The literal of a natural number. -/
def naturalLiteral (n : Nat) : Literal := ⟨false, naturalDigits n, [], none⟩

theorem spells_natural (n : Nat) : Spells (naturalDigits n) (.number (naturalLiteral n)) := by
  have hunsigned := @SpellsUnsigned.mk false _ _ _ _ _ (wholeDigits_naturalDigits n)
    SpellsFraction.absent SpellsExponent.absent
  rw [List.append_nil, List.append_nil] at hunsigned
  exact .number (.plain rfl hunsigned)

/-- Without fraction and exponent, digits that fit into a significand make an integer. -/
theorem number_of_whole {negative : Bool} {whole : List UInt8} {n : Nat}
    (h : Literal.gather Literal.maxSignificand 0 whole = (n, [])) :
    Literal.number ⟨negative, whole, [], none⟩ =
      Literal.orOutOfRange (Literal.integer? negative n) := by
  have hfraction : Literal.gather Literal.maxSignificand n [] = (n, []) := rfl
  unfold Literal.number
  simp only [h, hfraction]
  exact if_pos ⟨trivial, trivial⟩

/-- The number of the literal is the integer itself, if a word of 64 bits can hold it. -/
theorem number_natural {n : Nat} (h : n < 0x10000000000000000)
    (hrange : -0x8000000000000000 ≤ (n : Int) ∧ (n : Int) < 0x10000000000000000) :
    (naturalLiteral n).number = .ok (.integer n hrange) := by
  have hle : decimalFrom 0 (naturalDigits n) ≤ Literal.maxSignificand := by
    rw [← decimal, decimal_naturalDigits, Literal.maxSignificand]
    omega
  have hgather : Literal.gather Literal.maxSignificand 0 (naturalDigits n) = (n, []) := by
    rw [(fills_all hle).gather_eq, ← decimal, decimal_naturalDigits, List.drop_length]
  have hinteger : Literal.integer? false n = some (.integer n hrange) := by
    rw [Literal.integer?, if_neg Bool.false_ne_true, Number.ofInt?, dif_pos hrange]
  rw [naturalLiteral, number_of_whole hgather, hinteger]
  rfl

end AlertConsole.Json
