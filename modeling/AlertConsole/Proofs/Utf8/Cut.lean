import AlertConsole.Proofs.Utf8.Encoding
set_option autoImplicit false

/-!
# Texts cut short

The first bytes of a text are a text unless they end inside a character (`isText_take_or_cut`), and
if they do, the fault that is found is that character: it starts there, and it is cut off by the
end (`fault?_take_of_cut`).
-/

namespace AlertConsole.Utf8

/-- The first `n` bytes of `s` end inside the character that starts behind `index` bytes. -/
def CutsCharAt (s : List UInt8) (n index : Nat) : Prop :=
  ∃ before c after, s = encode before ++ (String.utf8EncodeChar c ++ encode after) ∧
    index = (encode before).length ∧ index < n ∧ n < index + (String.utf8EncodeChar c).length

/-- Every cut of a text either keeps whole characters or ends inside one. -/
theorem isText_take_or_cut {s : List UInt8} (hs : IsText s) (n : Nat) :
    IsText (s.take n) ∨ ∃ index, CutsCharAt s n index := by
  obtain ⟨cs, rfl⟩ := hs
  induction cs generalizing n with
  | nil => exact .inl (by simpa using isText_nil)
  | cons c cs ih =>
    rcases Nat.lt_or_ge n (String.utf8EncodeChar c).length with hn | hn
    · rcases Nat.eq_zero_or_pos n with rfl | hpos
      · exact .inl (by simpa using isText_nil)
      · exact .inr ⟨0, [], c, cs, rfl, rfl, hpos, by omega⟩
    · rw [encode_cons, List.take_append, List.take_of_length_le hn]
      rcases ih (n - (String.utf8EncodeChar c).length) with h | ⟨index, before, d, after, h⟩
      · exact .inl ((isText_encodeChar c).append h)
      · obtain ⟨heq, hindex, hlow, hhigh⟩ := h
        refine .inr
          ⟨index + (String.utf8EncodeChar c).length, c :: before, d, after, ?_, ?_, ?_, ?_⟩
        · rw [encode_cons, List.append_assoc, ← heq]
        · rw [encode_cons, List.length_append, hindex, Nat.add_comm]
        · omega
        · omega

/-- A cut inside a character is found where that character starts. -/
theorem fault?_take_of_cut {s : List UInt8} {n index : Nat} (h : CutsCharAt s n index) :
    fault? 0 (s.take n) = some ⟨index, none⟩ := by
  obtain ⟨before, c, after, rfl, hindex, hlow, hhigh⟩ := h
  have htake : (encode before ++ (String.utf8EncodeChar c ++ encode after)).take n =
      encode before ++ (String.utf8EncodeChar c).take (n - index) := by
    rw [List.take_append, List.take_append, List.take_of_length_le (by omega), hindex,
      Nat.sub_eq_zero_of_le (show n - (encode before).length ≤ (String.utf8EncodeChar c).length by
        omega), List.take_zero, List.append_nil]
  obtain ⟨b, t, hc, hof⟩ := Front.of_encodeChar c []
  rw [hc, List.length_cons] at hhigh
  obtain ⟨k, hk⟩ : ∃ k, n - index = k + 1 := ⟨n - index - 1, by omega⟩
  -- the bytes that are left of the character do not make it whole
  have hcut : Front.of b (t.take k) = .cut := by
    refine Front.of_cut (q := t.drop k) (c := c) (r := []) ?_ ?_
    · rw [List.take_append_drop]
      simpa using hof
    · rw [List.length_drop, List.length_nil]
      omega
  rw [htake, fault?_encode_append, hc, hk, List.take_succ_cons, fault?_cons, hcut, Nat.zero_add,
    hindex]

end AlertConsole.Utf8
