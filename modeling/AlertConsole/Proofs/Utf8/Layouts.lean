import AlertConsole.Proofs.Utf8.Faults
set_option autoImplicit false

/-!
# Numbers laid out as bytes

The bits of a number can be laid out as a lead byte and continuation bytes in several ways, and for
numbers that are no characters as well.  `LaidOut` is the layout without any rule about which is
right.  A text holds none but those that encode a character (`LaidOut.encodes_of_isText`), wherever
they stand in it; so overlong forms, surrogates and numbers above `10FFFF` are in no text
(`IllFormed.not_isText`).
-/

namespace AlertConsole.Utf8

/-- Bytes that have the bits of the number `n`: some of them in a lead byte, which tells how many
bytes there are, and six each in the others.  All that is asked of the number is that its bits have
room. -/
inductive LaidOut : List UInt8 → Nat → Prop where
  | one {n : Nat} : n < 0x80 → LaidOut [UInt8.ofNat n] n
  | two {n : Nat} : n < 0x800 →
      LaidOut [UInt8.ofNat (n / 64 + 0xC0), UInt8.ofNat (n % 64 + 0x80)] n
  | three {n : Nat} : n < 0x10000 →
      LaidOut [UInt8.ofNat (n / 4096 + 0xE0), UInt8.ofNat (n / 64 % 64 + 0x80),
        UInt8.ofNat (n % 64 + 0x80)] n
  | four {n : Nat} : n < 0x200000 →
      LaidOut [UInt8.ofNat (n / 262144 + 0xF0), UInt8.ofNat (n / 4096 % 64 + 0x80),
        UInt8.ofNat (n / 64 % 64 + 0x80), UInt8.ofNat (n % 64 + 0x80)] n
  | five {n : Nat} : n < 0x4000000 →
      LaidOut [UInt8.ofNat (n / 16777216 + 0xF8), UInt8.ofNat (n / 262144 % 64 + 0x80),
        UInt8.ofNat (n / 4096 % 64 + 0x80), UInt8.ofNat (n / 64 % 64 + 0x80),
        UInt8.ofNat (n % 64 + 0x80)] n
  | six {n : Nat} : n < 0x80000000 →
      LaidOut [UInt8.ofNat (n / 1073741824 + 0xFC), UInt8.ofNat (n / 16777216 % 64 + 0x80),
        UInt8.ofNat (n / 262144 % 64 + 0x80), UInt8.ofNat (n / 4096 % 64 + 0x80),
        UInt8.ofNat (n / 64 % 64 + 0x80), UInt8.ofNat (n % 64 + 0x80)] n

/-- Bytes that lay out a number and encode no character: fewer bytes have room for the number, it is
a surrogate, or it is above `10FFFF`. -/
inductive IllFormed (form : List UInt8) : Prop where
  | overlong {shorter : List UInt8} {n : Nat} : LaidOut form n → LaidOut shorter n →
      shorter.length < form.length → IllFormed form
  | surrogate {n : Nat} : LaidOut form n → 0xD800 ≤ n → n ≤ 0xDFFF → IllFormed form
  | tooGreat {n : Nat} : LaidOut form n → 0x10FFFF < n → IllFormed form

/-! ## Layouts are told apart -/

/-- A lead byte tells the number of bytes. -/
def Tells (b : UInt8) (width : Nat) : Prop :=
  (width = 1 ∧ b.toNat < 0x80) ∨ (width = 2 ∧ 0xC0 ≤ b.toNat ∧ b.toNat < 0xE0) ∨
    (width = 3 ∧ 0xE0 ≤ b.toNat ∧ b.toNat < 0xF0) ∨ (width = 4 ∧ 0xF0 ≤ b.toNat ∧ b.toNat < 0xF8) ∨
    (width = 5 ∧ 0xF8 ≤ b.toNat ∧ b.toNat < 0xFC) ∨ (width = 6 ∧ 0xFC ≤ b.toNat)

theorem Tells.unique {b : UInt8} {width width' : Nat} (h : Tells b width)
    (h' : Tells b width') : width = width' := by
  unfold Tells at h h'
  omega

theorem Tells.not_isContinuation {b : UInt8} {width : Nat} (h : Tells b width) :
    ¬ IsContinuation b := by
  simp only [IsContinuation, UInt8.le_iff_toNat_le, UInt8.reduceToNat]
  unfold Tells at h
  omega

/-- A layout starts with a lead byte. -/
theorem LaidOut.exists_cons {form : List UInt8} {n : Nat} (h : LaidOut form n) :
    ∃ b t, form = b :: t ∧ Tells b form.length := by
  cases h <;> refine ⟨_, _, rfl, ?_⟩ <;>
    simp only [Tells, List.length_cons, List.length_nil, Nat.reduceAdd, Nat.reduceEqDiff,
      true_and, false_and, or_false, false_or, UInt8.toNat_ofNat'] <;> omega

/-- The lead byte tells the length of a layout, and its bytes then tell the number. -/
theorem LaidOut.determined {form form' r r' : List UInt8} {n n' : Nat} (h : LaidOut form n)
    (h' : LaidOut form' n') (heq : form ++ r = form' ++ r') : n = n' ∧ form = form' := by
  have hlength : form.length = form'.length := by
    obtain ⟨b, t, rfl, hb⟩ := h.exists_cons
    obtain ⟨b', t', rfl, hb'⟩ := h'.exists_cons
    obtain rfl := (List.cons.inj heq).1
    exact hb.unique hb'
  have hform := List.append_inj_left heq hlength
  refine ⟨?_, hform⟩
  -- two layouts of one length are of one shape
  cases h <;> cases h' <;>
    simp only [List.length_cons, List.length_nil, Nat.reduceAdd, Nat.reduceEqDiff] at hlength <;>
    simp only [List.cons.injEq, ← UInt8.toNat_inj, UInt8.toNat_ofNat', and_true] at hform <;>
    omega

/-- The encoding of a character is the shortest layout of its number. -/
theorem laidOut_encodeChar (c : Char) :
    LaidOut (String.utf8EncodeChar c) c.toNat ∧
      ∀ form, LaidOut form c.toNat → (String.utf8EncodeChar c).length ≤ form.length := by
  obtain ⟨hlt, hs⟩ := toNat_lt c
  have hchar : String.utf8EncodeChar c = String.utf8EncodeChar (Char.ofNat c.toNat) := by
    rw [Char.ofNat_toNat]
  rw [hchar]
  generalize c.toNat = n at hlt hs
  rcases Nat.lt_or_ge n 0x80 with h₁ | h₁
  · rw [encodeChar_one h₁]
    refine ⟨.one h₁, fun form hform => ?_⟩
    cases hform <;> simp only [List.length_cons, List.length_nil] <;> omega
  rcases Nat.lt_or_ge n 0x800 with h₂ | h₂
  · rw [encodeChar_two h₁ h₂]
    refine ⟨.two h₂, fun form hform => ?_⟩
    cases hform <;> simp only [List.length_cons, List.length_nil] <;> omega
  rcases Nat.lt_or_ge n 0x10000 with h₃ | h₃
  · rw [encodeChar_three h₂ h₃ hs]
    refine ⟨.three h₃, fun form hform => ?_⟩
    cases hform <;> simp only [List.length_cons, List.length_nil] <;> omega
  · rw [encodeChar_four h₃ hlt]
    refine ⟨.four (by omega), fun form hform => ?_⟩
    cases hform <;> simp only [List.length_cons, List.length_nil] <;> omega

/-! ## Layouts in a text -/

/-- Behind its first byte, the encoding of a character has none but continuation bytes. -/
theorem isContinuation_of_mem_tail {c : Char} {b x : UInt8} {t : List UInt8}
    (h : String.utf8EncodeChar c = b :: t) (hx : x ∈ t) : IsContinuation x := by
  have htail (n : Nat) : IsContinuation (UInt8.ofNat (n % 64 + 0x80)) := by
    simp only [IsContinuation, UInt8.le_iff_toNat_le, UInt8.toNat_ofNat', UInt8.reduceToNat]
    omega
  obtain ⟨hlt, hs⟩ := toNat_lt c
  rw [← Char.ofNat_toNat c] at h
  generalize c.toNat = n at hlt hs h
  rcases Nat.lt_or_ge n 0x80 with h₁ | h₁
  · rw [encodeChar_one h₁] at h
    obtain ⟨-, rfl⟩ := List.cons.inj h
    contradiction
  rcases Nat.lt_or_ge n 0x800 with h₂ | h₂
  · rw [encodeChar_two h₁ h₂] at h
    obtain ⟨-, rfl⟩ := List.cons.inj h
    rw [List.mem_singleton.mp hx]
    exact htail n
  rcases Nat.lt_or_ge n 0x10000 with h₃ | h₃
  · rw [encodeChar_three h₂ h₃ hs] at h
    obtain ⟨-, rfl⟩ := List.cons.inj h
    simp only [List.mem_cons, List.not_mem_nil, or_false] at hx
    rcases hx with rfl | rfl <;> exact htail _
  · rw [encodeChar_four h₃ hlt] at h
    obtain ⟨-, rfl⟩ := List.cons.inj h
    simp only [List.mem_cons, List.not_mem_nil, or_false] at hx
    rcases hx with rfl | rfl | rfl <;> exact htail _

/-- In a text, a byte that goes on with no character stands behind a text. -/
theorem isText_of_append_cons {before after : List UInt8} {b : UInt8}
    (h : IsText (before ++ b :: after)) (hb : ¬ IsContinuation b) : IsText before := by
  obtain ⟨cs, hcs⟩ := h
  induction cs generalizing before with
  | nil => simp at hcs
  | cons c cs ih =>
    rw [encode_cons, List.append_eq_append_iff] at hcs
    obtain ⟨q, hc, hq⟩ | ⟨q, rfl, hq⟩ := hcs
    · -- the byte is in the character, and so the first of it, or it is right behind it
      cases q with
      | nil =>
        rw [List.append_nil] at hc
        exact ⟨[c], by rw [encode_cons, encode_nil, List.append_nil, hc]⟩
      | cons x q =>
        obtain ⟨rfl, -⟩ := List.cons.inj hq
        cases before with
        | nil => exact isText_nil
        | cons a before => exact absurd (isContinuation_of_mem_tail hc (by simp)) hb
    · exact (isText_encodeChar c).append (ih hq.symm)

/-- A layout that stands in a text encodes a character. -/
theorem LaidOut.encodes_of_isText {form before after : List UInt8} {n : Nat} (h : LaidOut form n)
    (htext : IsText (before ++ (form ++ after))) :
    ∃ c : Char, c.toNat = n ∧ form = String.utf8EncodeChar c := by
  obtain ⟨b, t, rfl, hb⟩ := h.exists_cons
  have hbefore : IsText before := isText_of_append_cons htext hb.not_isContinuation
  obtain ⟨c, r, hof, -⟩ := (htext.of_append hbefore).exists_char
  obtain ⟨rfl, hform⟩ := h.determined (laidOut_encodeChar c).1 (Front.eq_encodeChar hof)
  exact ⟨c, rfl, hform⟩

/-- Overlong forms, surrogates and numbers above `10FFFF` are in no text. -/
theorem IllFormed.not_isText {form : List UInt8} (h : IllFormed form)
    (before after : List UInt8) : ¬ IsText (before ++ (form ++ after)) := by
  intro htext
  cases h with
  | overlong hform hshorter hlt =>
    obtain ⟨c, rfl, rfl⟩ := hform.encodes_of_isText htext
    have hle := (laidOut_encodeChar c).2 _ hshorter
    omega
  | surrogate hform hlow hhigh =>
    obtain ⟨c, rfl, -⟩ := hform.encodes_of_isText htext
    have hvalid := (toNat_lt c).2
    omega
  | tooGreat hform hgreat =>
    obtain ⟨c, rfl, -⟩ := hform.encodes_of_isText htext
    have hlt := (toNat_lt c).1
    omega

end AlertConsole.Utf8
