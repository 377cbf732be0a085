import AlertConsole.Utf8
set_option autoImplicit false

/-!
# Texts among byte strings

A byte string is a text if it is the encoding of some characters.  `Front.of` reads one character
off the front of a byte string, and the two halves of that are proved here: it reads every encoded
character (`Front.of_encodeChar`) and nothing else as one (`Front.eq_encodeChar`).  From these,
`fault?` finds no fault in a byte string exactly if it is a text (`fault?_eq_none_iff`), and what
stands behind a text is a text exactly if the whole is (`isText_append_iff`).
-/

namespace AlertConsole.Utf8

/-- A byte string that is the encoding of some characters. -/
def IsText (s : List UInt8) : Prop := ∃ cs, s = encode cs

/-! ## The encoding of a character by its number

The shape of an encoding is told by the number of the character: one byte below `0x80`, two below
`0x800`, three below `0x10000` and four from there on. -/

theorem toNat_ofNat {n : Nat} (h : n < 0x110000) (hs : n < 0xD800 ∨ 0xDFFF < n) :
    (Char.ofNat n).toNat = n := by
  have hn : n.isValidChar := by
    rcases hs with hs | hs
    · exact .inl hs
    · exact .inr ⟨hs, h⟩
  rw [Char.ofNat, dif_pos hn]
  rfl

theorem toNat_lt (c : Char) : c.toNat < 0x110000 ∧ (c.toNat < 0xD800 ∨ 0xDFFF < c.toNat) := by
  have h : c.toNat < 0xD800 ∨ 0xDFFF < c.toNat ∧ c.toNat < 0x110000 := c.valid
  omega

theorem encodeChar_one {n : Nat} (h : n < 0x80) :
    String.utf8EncodeChar (Char.ofNat n) = [UInt8.ofNat n] := by
  have hn : (Char.ofNat n).val.toNat = n := toNat_ofNat (by omega) (by omega)
  simp only [String.utf8EncodeChar, hn]
  rw [if_pos (by omega)]

theorem encodeChar_two {n : Nat} (h : 0x80 ≤ n) (h' : n < 0x800) :
    String.utf8EncodeChar (Char.ofNat n) =
      [UInt8.ofNat (n / 64 + 0xC0), UInt8.ofNat (n % 64 + 0x80)] := by
  have hn : (Char.ofNat n).val.toNat = n := toNat_ofNat (by omega) (by omega)
  simp only [String.utf8EncodeChar, hn]
  rw [if_neg (by omega), if_pos (by omega), Nat.mod_eq_of_lt (show n / 64 < 0x20 by omega)]

theorem encodeChar_three {n : Nat} (h : 0x800 ≤ n) (h' : n < 0x10000)
    (hs : n < 0xD800 ∨ 0xDFFF < n) :
    String.utf8EncodeChar (Char.ofNat n) =
      [UInt8.ofNat (n / 4096 + 0xE0), UInt8.ofNat (n / 64 % 64 + 0x80),
        UInt8.ofNat (n % 64 + 0x80)] := by
  have hn : (Char.ofNat n).val.toNat = n := toNat_ofNat (by omega) hs
  simp only [String.utf8EncodeChar, hn]
  rw [if_neg (by omega), if_neg (by omega), if_pos (by omega),
    Nat.mod_eq_of_lt (show n / 4096 < 0x10 by omega)]

theorem encodeChar_four {n : Nat} (h : 0x10000 ≤ n) (h' : n < 0x110000) :
    String.utf8EncodeChar (Char.ofNat n) =
      [UInt8.ofNat (n / 262144 + 0xF0), UInt8.ofNat (n / 4096 % 64 + 0x80),
        UInt8.ofNat (n / 64 % 64 + 0x80), UInt8.ofNat (n % 64 + 0x80)] := by
  have hn : (Char.ofNat n).val.toNat = n := toNat_ofNat h' (by omega)
  simp only [String.utf8EncodeChar, hn]
  rw [if_neg (by omega), if_neg (by omega), if_neg (by omega),
    Nat.mod_eq_of_lt (show n / 262144 < 0x08 by omega)]

/-! ## Lead bytes -/

/-- The sequences that a byte can open, by its value: of two, three or four bytes. -/
inductive Lead.Opened : Nat → Lead → Prop where
  | two {n : Nat} : 0xC2 ≤ n → n < 0xE0 → Lead.Opened n ⟨1, n - 0xC0, 0x80, 0xBF⟩
  | three {n : Nat} {low high : UInt8} : 0xE0 ≤ n → n < 0xF0 →
      low.toNat = (if n = 0xE0 then 0xA0 else 0x80) →
      high.toNat = (if n = 0xED then 0x9F else 0xBF) →
      Lead.Opened n ⟨2, n - 0xE0, low, high⟩
  | four {n : Nat} {low high : UInt8} : 0xF0 ≤ n → n < 0xF5 →
      low.toNat = (if n = 0xF0 then 0x90 else 0x80) →
      high.toNat = (if n = 0xF4 then 0x8F else 0xBF) →
      Lead.Opened n ⟨3, n - 0xF0, low, high⟩

theorem Lead.opened_of_some {b : UInt8} {lead : Lead} (h : Lead.of? b = some lead) :
    Lead.Opened b.toNat lead := by
  simp only [Lead.of?, UInt8.lt_iff_toNat_lt, ← UInt8.toNat_inj, UInt8.reduceToNat] at h
  -- the lead bytes that narrow the range of the next byte have a branch each
  split at h
  · contradiction
  split at h
  · cases h
    exact .two (by omega) (by omega)
  split at h
  · rename_i hb
    cases h
    rw [hb]
    exact .three (by decide) (by decide) rfl rfl
  split at h
  · rename_i hb
    cases h
    rw [hb]
    exact .three (by decide) (by decide) rfl rfl
  split at h
  · cases h
    refine .three (by omega) (by omega) ?_ ?_
    · rw [if_neg (by omega)]; rfl
    · rw [if_neg (by omega)]; rfl
  split at h
  · rename_i hb
    cases h
    rw [hb]
    exact .four (by decide) (by decide) rfl rfl
  split at h
  · cases h
    refine .four (by omega) (by omega) ?_ ?_
    · rw [if_neg (by omega)]; rfl
    · rw [if_neg (by omega)]; rfl
  split at h
  · rename_i hb
    cases h
    rw [hb]
    exact .four (by decide) (by decide) rfl rfl
  · contradiction

theorem Lead.out_of_range_of_none {b : UInt8} (h : Lead.of? b = none) :
    b.toNat < 0xC2 ∨ 0xF5 ≤ b.toNat := by
  simp only [Lead.of?, UInt8.lt_iff_toNat_lt, ← UInt8.toNat_inj, UInt8.reduceToNat] at h
  repeat' split at h
  all_goals first | contradiction | omega

/-- A byte from `0xC2` to `0xF4` opens a sequence. -/
theorem Lead.exists_opened {b : UInt8} (h : 0xC2 ≤ b.toNat) (h' : b.toNat < 0xF5) :
    ∃ lead, Lead.of? b = some lead ∧ Lead.Opened b.toNat lead := by
  cases hb : Lead.of? b with
  | none => have := Lead.out_of_range_of_none hb; omega
  | some lead => exact ⟨lead, rfl, Lead.opened_of_some hb⟩

/-! ## Continuation bytes -/

namespace Front

variable {width bits due : Nat} {low high b : UInt8} {s r : List UInt8} {c : Char}

/-- A byte in range continues a sequence. -/
theorem follow_cons (h : low ≤ b) (h' : b ≤ high) :
    follow width bits low high (due + 1) (b :: s) =
      follow (width + 1) (bits * 64 + (b.toNat - 0x80)) 0x80 0xBF due s := by
  simp [follow, h, h']

/-- A sequence that is continued up to a character starts with a byte in range. -/
theorem exists_of_follow_succ (h : follow width bits low high (due + 1) s = .char c r) :
    ∃ b t, s = b :: t ∧ low ≤ b ∧ b ≤ high ∧
      follow (width + 1) (bits * 64 + (b.toNat - 0x80)) 0x80 0xBF due t = .char c r := by
  cases s with
  | nil => simp [follow] at h
  | cons b t =>
    simp only [follow] at h
    split at h
    · rename_i hb
      exact ⟨b, t, rfl, hb.1, hb.2, h⟩
    · contradiction

/-- A byte that holds six bits of a number continues a sequence with them. -/
theorem follow_ofNat {n : Nat} (h : low.toNat ≤ n % 64 + 0x80) (h' : n % 64 + 0x80 ≤ high.toNat) :
    follow width bits low high (due + 1) (UInt8.ofNat (n % 64 + 0x80) :: s) =
      follow (width + 1) (bits * 64 + n % 64) 0x80 0xBF due s := by
  have hn : (UInt8.ofNat (n % 64 + 0x80)).toNat = n % 64 + 0x80 := by
    rw [UInt8.toNat_ofNat']
    omega
  rw [follow_cons (UInt8.le_iff_toNat_le.mpr (by omega)) (UInt8.le_iff_toNat_le.mpr (by omega)),
    hn, Nat.add_sub_cancel]

/-- From the second continuation byte on there is no narrower range. -/
theorem follow_tail (n : Nat) :
    follow width bits 0x80 0xBF (due + 1) (UInt8.ofNat (n % 64 + 0x80) :: s) =
      follow (width + 1) (bits * 64 + n % 64) 0x80 0xBF due s :=
  follow_ofNat (by simp) (by simp; omega)

/-! ## Characters at the front -/

theorem of_ascii (h : b < 0x80) : Front.of b s = .char (Char.ofNat b.toNat) s := by
  simp [Front.of, h]

/-- A byte from `0xC2` to `0xF4` is followed up as the lead byte of a sequence. -/
theorem exists_of_eq_follow {n : Nat} (h : 0xC2 ≤ n) (h' : n < 0xF5) (s : List UInt8) :
    ∃ lead, Lead.Opened n lead ∧
      Front.of (UInt8.ofNat n) s = follow 1 lead.bits lead.low lead.high lead.due s := by
  have hn : (UInt8.ofNat n).toNat = n := by
    rw [UInt8.toNat_ofNat']
    omega
  obtain ⟨lead, hlead, hopened⟩ := Lead.exists_opened (b := UInt8.ofNat n) (by omega) (by omega)
  refine ⟨lead, hn ▸ hopened, ?_⟩
  simp only [Front.of, UInt8.lt_iff_toNat_lt, hn, UInt8.reduceToNat, hlead]
  rw [if_neg (by omega)]

/-- An encoded character is read off the front as it is, whatever follows. -/
theorem of_encodeChar (c : Char) (s : List UInt8) :
    ∃ b t, String.utf8EncodeChar c = b :: t ∧ Front.of b (t ++ s) = .char c s := by
  obtain ⟨hlt, hs⟩ := toNat_lt c
  rw [← Char.ofNat_toNat c]
  generalize c.toNat = n at hlt hs
  rcases Nat.lt_or_ge n 0x80 with h₁ | h₁
  · refine ⟨_, _, encodeChar_one h₁, ?_⟩
    have hb : (UInt8.ofNat n).toNat = n := by
      rw [UInt8.toNat_ofNat']
      omega
    rw [of_ascii (UInt8.lt_iff_toNat_lt.mpr (by simpa [hb] using h₁)), hb]
    rfl
  rcases Nat.lt_or_ge n 0x800 with h₂ | h₂
  · refine ⟨_, _, encodeChar_two h₁ h₂, ?_⟩
    obtain ⟨lead, hopened, hof⟩ := exists_of_eq_follow (n := n / 64 + 0xC0) (by omega) (by omega)
      ([UInt8.ofNat (n % 64 + 0x80)] ++ s)
    rw [hof]
    cases hopened with
    | two =>
      simp only [List.cons_append, List.nil_append]
      rw [follow_tail, follow]
      congr 2
      omega
    | three => omega
    | four => omega
  rcases Nat.lt_or_ge n 0x10000 with h₃ | h₃
  · refine ⟨_, _, encodeChar_three h₂ h₃ hs, ?_⟩
    obtain ⟨lead, hopened, hof⟩ := exists_of_eq_follow (n := n / 4096 + 0xE0) (by omega) (by omega)
      ([UInt8.ofNat (n / 64 % 64 + 0x80), UInt8.ofNat (n % 64 + 0x80)] ++ s)
    rw [hof]
    cases hopened with
    | two => omega
    | three _ _ hlow hhigh =>
      simp only [List.cons_append, List.nil_append]
      rw [follow_ofNat (by split at hlow <;> omega) (by split at hhigh <;> omega), follow_tail,
        follow]
      congr 2
      omega
    | four => omega
  · refine ⟨_, _, encodeChar_four h₃ hlt, ?_⟩
    obtain ⟨lead, hopened, hof⟩ := exists_of_eq_follow (n := n / 262144 + 0xF0) (by omega)
      (by omega) ([UInt8.ofNat (n / 4096 % 64 + 0x80), UInt8.ofNat (n / 64 % 64 + 0x80),
        UInt8.ofNat (n % 64 + 0x80)] ++ s)
    rw [hof]
    cases hopened with
    | two => omega
    | three => omega
    | four _ _ hlow hhigh =>
      simp only [List.cons_append, List.nil_append]
      rw [follow_ofNat (by split at hlow <;> omega) (by split at hhigh <;> omega), follow_tail,
        follow_tail, follow]
      congr 2
      omega

/-- What is read off the front as a character is its encoding. -/
theorem eq_encodeChar (h : Front.of b s = .char c r) : b :: s = String.utf8EncodeChar c ++ r := by
  simp only [Front.of] at h
  split at h
  · rename_i hb
    obtain ⟨rfl, rfl⟩ := Front.char.inj h
    rw [encodeChar_one (UInt8.lt_iff_toNat_lt.mp hb), UInt8.ofNat_toNat]
    rfl
  cases hlead : Lead.of? b with
  | none => simp [hlead] at h
  | some lead =>
    simp only [hlead] at h
    have hopened := Lead.opened_of_some hlead
    cases hopened with
    | two hb hb' =>
      obtain ⟨x, t, rfl, hx, hx', h⟩ := exists_of_follow_succ h
      obtain ⟨rfl, rfl⟩ := Front.char.inj h
      simp only [UInt8.le_iff_toNat_le, UInt8.reduceToNat] at hx hx'
      dsimp only
      rw [encodeChar_two (by omega) (by omega)]
      simp only [List.cons_append, List.nil_append, List.cons.injEq, ← UInt8.toNat_inj,
        UInt8.toNat_ofNat', and_true]
      omega
    | three hb hb' hlow hhigh =>
      obtain ⟨x, t, rfl, hx, hx', h⟩ := exists_of_follow_succ h
      obtain ⟨y, t, rfl, hy, hy', h⟩ := exists_of_follow_succ h
      obtain ⟨rfl, rfl⟩ := Front.char.inj h
      simp only [UInt8.le_iff_toNat_le, UInt8.reduceToNat] at hx hx' hy hy'
      have hlow' : 0x80 ≤ x.toNat := by split at hlow <;> omega
      have hhigh' : x.toNat ≤ 0xBF := by split at hhigh <;> omega
      dsimp only
      rw [encodeChar_three (by split at hlow <;> omega) (by omega)
        (by split at hhigh <;> omega)]
      simp only [List.cons_append, List.nil_append, List.cons.injEq, ← UInt8.toNat_inj,
        UInt8.toNat_ofNat', and_true]
      omega
    | four hb hb' hlow hhigh =>
      obtain ⟨x, t, rfl, hx, hx', h⟩ := exists_of_follow_succ h
      obtain ⟨y, t, rfl, hy, hy', h⟩ := exists_of_follow_succ h
      obtain ⟨z, t, rfl, hz, hz', h⟩ := exists_of_follow_succ h
      obtain ⟨rfl, rfl⟩ := Front.char.inj h
      simp only [UInt8.le_iff_toNat_le, UInt8.reduceToNat] at hx hx' hy hy' hz hz'
      have hlow' : 0x80 ≤ x.toNat := by split at hlow <;> omega
      have hhigh' : x.toNat ≤ 0xBF := by split at hhigh <;> omega
      dsimp only
      rw [encodeChar_four (by split at hlow <;> omega) (by split at hhigh <;> omega)]
      simp only [List.cons_append, List.nil_append, List.cons.injEq, ← UInt8.toNat_inj,
        UInt8.toNat_ofNat', and_true]
      omega

/-- A character of which the front bytes are cut short is read as cut off. -/
theorem follow_cut {p q : List UInt8} (h : follow width bits low high due (p ++ q) = .char c r)
    (hr : r.length < q.length) : follow width bits low high due p = .cut := by
  induction due generalizing width bits low high p with
  | zero =>
    obtain ⟨-, rfl⟩ := Front.char.inj h
    simp only [List.length_append] at hr
    omega
  | succ due ih =>
    obtain ⟨b, t, hp, hb, hb', ht⟩ := exists_of_follow_succ h
    cases p with
    | nil => rfl
    | cons x p =>
      obtain ⟨rfl, rfl⟩ := List.cons.inj hp
      rw [follow_cons hb hb']
      exact ih ht

@[inherit_doc follow_cut]
theorem of_cut {p q : List UInt8} (h : Front.of b (p ++ q) = .char c r)
    (hr : r.length < q.length) : Front.of b p = .cut := by
  simp only [Front.of] at h ⊢
  split at h
  · obtain ⟨-, rfl⟩ := Front.char.inj h
    simp only [List.length_append] at hr
    omega
  · rename_i hb
    rw [if_neg hb]
    cases hlead : Lead.of? b with
    | none => simp [hlead] at h
    | some lead =>
      simp only [hlead] at h ⊢
      exact follow_cut h hr

end Front

/-- The first byte of an encoding is the character itself if that is ASCII, and else no ASCII. -/
theorem head_encodeChar {c : Char} {b : UInt8} {t : List UInt8}
    (h : String.utf8EncodeChar c = b :: t) :
    b.toNat = c.toNat ∧ t = [] ∨ 0x80 ≤ b.toNat ∧ 0x80 ≤ c.toNat := by
  rcases Nat.lt_or_ge c.toNat 0x80 with hc | hc
  · have hone := encodeChar_one hc
    rw [Char.ofNat_toNat, h] at hone
    obtain ⟨rfl, rfl⟩ := List.cons.inj hone
    refine .inl ⟨?_, rfl⟩
    rw [UInt8.toNat_ofNat']
    omega
  · refine .inr ⟨Nat.le_of_not_lt fun hb => ?_, hc⟩
    -- an ASCII byte would be read as a character of its own
    obtain ⟨b', t', h', hof⟩ := Front.of_encodeChar c []
    rw [h] at h'
    obtain ⟨rfl, rfl⟩ := List.cons.inj h'
    rw [Front.of_ascii (UInt8.lt_iff_toNat_lt.mpr hb)] at hof
    obtain ⟨rfl, -⟩ := Front.char.inj hof
    rw [toNat_ofNat (by omega) (by omega)] at hc
    omega

/-! ## Faults and texts -/

/-- One step of looking for a fault, by what stands at the front. -/
theorem fault?_cons (index : Nat) (b : UInt8) (s : List UInt8) :
    fault? index (b :: s) = match Front.of b s with
      | .char c r => fault? (index + c.utf8Size) r
      | .broken n _ => some ⟨index, some n⟩
      | .cut => some ⟨index, none⟩ := by
  rw [fault?]
  split <;> simp [*]

/-- The encoding of some characters is passed over. -/
theorem fault?_encode_append (index : Nat) (cs : List Char) (s : List UInt8) :
    fault? index (encode cs ++ s) = fault? (index + (encode cs).length) s := by
  induction cs generalizing index with
  | nil => rfl
  | cons c cs ih =>
    obtain ⟨b, t, hc, hof⟩ := Front.of_encodeChar c (encode cs ++ s)
    have hlen : c.utf8Size = t.length + 1 := by
      rw [← String.length_utf8EncodeChar, hc, List.length_cons]
    rw [encode_cons, hc, List.append_assoc, List.cons_append, fault?_cons, hof]
    simp only [List.cons_append, List.length_cons, List.length_append]
    rw [ih, hlen]
    congr 1
    omega

/-- A byte string has no fault exactly if it is a text. -/
theorem fault?_eq_none_iff (index : Nat) (s : List UInt8) :
    fault? index s = none ↔ IsText s := by
  constructor
  · intro h
    fun_induction fault? index s with
    | case1 => exact ⟨[], rfl⟩
    | case2 index b s c r hof ih =>
      obtain ⟨cs, rfl⟩ := ih h
      exact ⟨c :: cs, Front.eq_encodeChar hof⟩
    | case3 => contradiction
    | case4 => contradiction
  · rintro ⟨cs, rfl⟩
    have h := fault?_encode_append index cs []
    rw [List.append_nil] at h
    rw [h, fault?]

/-! ## Putting texts together and taking them apart -/

theorem isText_nil : IsText [] := ⟨[], rfl⟩

theorem isText_bytes (s : String) : IsText (bytes s) := ⟨s.toList, rfl⟩

theorem isText_encodeChar (c : Char) : IsText (String.utf8EncodeChar c) := ⟨[c], by simp [encode]⟩

theorem isText_append_iff {s t : List UInt8} (hs : IsText s) : IsText (s ++ t) ↔ IsText t := by
  obtain ⟨cs, rfl⟩ := hs
  rw [← fault?_eq_none_iff 0, fault?_encode_append, fault?_eq_none_iff]

theorem IsText.append {s t : List UInt8} (hs : IsText s) (ht : IsText t) : IsText (s ++ t) :=
  (isText_append_iff hs).mpr ht

theorem IsText.of_append {s t : List UInt8} (h : IsText (s ++ t)) (hs : IsText s) : IsText t :=
  (isText_append_iff hs).mp h

/-- An ASCII byte is a text by itself. -/
theorem isText_singleton {b : UInt8} (h : b < 0x80) : IsText [b] := by
  refine ⟨[Char.ofNat b.toNat], ?_⟩
  rw [encode_cons, encodeChar_one (UInt8.lt_iff_toNat_lt.mp h), UInt8.ofNat_toNat]
  rfl

theorem isText_cons_iff {b : UInt8} {s : List UInt8} (h : b < 0x80) :
    IsText (b :: s) ↔ IsText s :=
  isText_append_iff (s := [b]) (isText_singleton h)

theorem IsText.cons {b : UInt8} {s : List UInt8} (hs : IsText s) (hb : b < 0x80) :
    IsText (b :: s) :=
  (isText_cons_iff hb).mpr hs

theorem IsText.of_cons {b : UInt8} {s : List UInt8} (h : IsText (b :: s)) (hb : b < 0x80) :
    IsText s :=
  (isText_cons_iff hb).mp h

/-- A text that is not empty starts with a character, behind which is a text. -/
theorem IsText.exists_char {b : UInt8} {s : List UInt8} (h : IsText (b :: s)) :
    ∃ c r, Front.of b s = .char c r ∧ IsText r := by
  rw [← fault?_eq_none_iff 0, fault?_cons] at h
  split at h
  · rename_i c r hof
    exact ⟨c, r, hof, (fault?_eq_none_iff _ r).mp h⟩
  · contradiction
  · contradiction

theorem isText_of_ascii {s : List UInt8} (h : ∀ b ∈ s, b < 0x80) : IsText s := by
  induction s with
  | nil => exact isText_nil
  | cons b s ih =>
    obtain ⟨hb, hs⟩ := List.forall_mem_cons.mp h
    exact (ih hs).cons hb

end AlertConsole.Utf8
