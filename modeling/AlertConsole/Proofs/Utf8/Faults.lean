import AlertConsole.Proofs.Utf8.Encoding
set_option autoImplicit false

/-!
# Where a byte string breaks

`fault?` walks over the fronts of a byte string and stops at the first that is no character.  What
it says is described here without a walk: the bytes before the fault are the longest text that the
byte string begins with (`longestPrefix_of_fault`), the fault is at the end exactly if more bytes
could make the whole a text (`width_eq_none_iff`), and if it is not, its width is that of the longest
sequence there that begins a character (`brokenWidth_of_fault`).

All three come from one lemma about a front, `Front.of_append`: more bytes behind it change nothing,
unless it is cut off by the end.
-/

namespace AlertConsole.Utf8

/-! ## Prefixes -/

/-- The longest prefix of `s` that has a property has `n` bytes. -/
structure LongestPrefix (P : List UInt8 → Prop) (s : List UInt8) (n : Nat) : Prop where
  attained : ∃ p, p <+: s ∧ P p ∧ p.length = n
  longest : ∀ p, p <+: s → P p → p.length ≤ n

/-- A byte that goes on with a character. -/
def IsContinuation (b : UInt8) : Prop := 0x80 ≤ b ∧ b ≤ 0xBF

/-- The bytes are the first of the encoding of some character, one at least and not all of them. -/
def BeginsChar (s : List UInt8) : Prop :=
  s ≠ [] ∧ ∃ c t, t ≠ [] ∧ String.utf8EncodeChar c = s ++ t

/-- Continuation bytes behind a byte string can make a text of it. -/
def Completable (s : List UInt8) : Prop := ∃ t, (∀ b ∈ t, IsContinuation b) ∧ IsText (s ++ t)

/-- The width of what breaks at the front of a byte string: the bytes there that begin a character,
as many as there are, or one byte if it begins none. -/
def BrokenWidth (s : List UInt8) (n : Nat) : Prop :=
  LongestPrefix BeginsChar s n ∨ n = 1 ∧ ∀ p, p <+: s → ¬ BeginsChar p

/-! ## Fronts with more bytes behind them -/

namespace Front

variable {width bits due n : Nat} {low high b : UInt8} {s r t : List UInt8} {c : Char}

/-- A front with more bytes behind it. -/
def append : Front → List UInt8 → Front
  | .char c r, t => .char c (r ++ t)
  | .broken n r, t => .broken n (r ++ t)
  | .cut, _ => .cut

theorem follow_append (h : follow width bits low high due s ≠ .cut) (t : List UInt8) :
    follow width bits low high due (s ++ t) = (follow width bits low high due s).append t := by
  induction due generalizing width bits low high s with
  | zero => rfl
  | succ due ih =>
    cases s with
    | nil => exact absurd rfl h
    | cons b s =>
      simp only [follow, List.cons_append] at h ⊢
      by_cases hb : low ≤ b ∧ b ≤ high
      · rw [if_pos hb] at h
        rw [if_pos hb, if_pos hb, ih h]
      · rw [if_neg hb, if_neg hb]
        rfl

/-- More bytes behind a front change nothing, unless it is cut off. -/
theorem of_append (h : Front.of b s ≠ .cut) (t : List UInt8) :
    Front.of b (s ++ t) = (Front.of b s).append t := by
  simp only [Front.of] at h ⊢
  split
  · rfl
  · rename_i hb
    rw [if_neg hb] at h
    cases hlead : Lead.of? b with
    | none => rfl
    | some lead =>
      rw [hlead] at h
      exact follow_append h t

/-! ## Fronts that are cut off -/

/-- There are continuation bytes that make a character of a sequence. -/
theorem exists_of_follow_nil (width bits : Nat) (hlow : 0x80 ≤ low) (hle : low ≤ high)
    (hhigh : high ≤ 0xBF) (due : Nat) :
    ∃ t c, (∀ x ∈ t, IsContinuation x) ∧ follow width bits low high due t = .char c [] := by
  induction due generalizing width bits low high with
  | zero => exact ⟨[], Char.ofNat bits, by simp, rfl⟩
  | succ due ih =>
    -- the lowest byte that may come next, and then what completes the rest
    obtain ⟨t, c, ht, hc⟩ := @ih 0x80 0xBF (width + 1) (bits * 64 + (low.toNat - 0x80))
      (by decide) (by decide) (by decide)
    have hfirst : IsContinuation low := ⟨hlow, UInt8.le_trans hle hhigh⟩
    refine ⟨low :: t, c, List.forall_mem_cons.mpr ⟨hfirst, ht⟩, ?_⟩
    rw [follow_cons (UInt8.le_refl low) hle, hc]

/-- A sequence that is cut off can be completed, by continuation bytes. -/
theorem exists_of_follow_cut (hlow : 0x80 ≤ low) (hle : low ≤ high) (hhigh : high ≤ 0xBF)
    (h : follow width bits low high due s = .cut) :
    ∃ t c, (∀ x ∈ t, IsContinuation x) ∧
      follow width bits low high due (s ++ t) = .char c [] := by
  induction due generalizing width bits low high s with
  | zero => contradiction
  | succ due ih =>
    cases s with
    | nil => exact exists_of_follow_nil width bits hlow hle hhigh (due + 1)
    | cons b s =>
      simp only [follow] at h
      split at h
      · rename_i hb
        obtain ⟨t, c, ht, hc⟩ := @ih _ _ 0x80 0xBF s (by decide) (by decide) (by decide) h
        refine ⟨t, c, ht, ?_⟩
        rw [List.cons_append, follow_cons hb.1 hb.2, hc]
      · contradiction

end Front

/-- The range of the first continuation byte is one of continuation bytes, and not empty. -/
theorem Lead.Opened.range {n : Nat} {lead : Lead} (h : Lead.Opened n lead) :
    0x80 ≤ lead.low ∧ lead.low ≤ lead.high ∧ lead.high ≤ 0xBF := by
  simp only [UInt8.le_iff_toNat_le, UInt8.reduceToNat]
  cases h with
  | two =>
    dsimp only
    decide
  | three _ _ hlow hhigh =>
    dsimp only
    split at hlow <;> split at hhigh <;> omega
  | four _ _ hlow hhigh =>
    dsimp only
    split at hlow <;> split at hhigh <;> omega

theorem Lead.Opened.due_le {n : Nat} {lead : Lead} (h : Lead.Opened n lead) : lead.due ≤ 3 := by
  cases h with
  | two => exact Nat.le_of_ble_eq_true rfl
  | three => exact Nat.le_of_ble_eq_true rfl
  | four => exact Nat.le_refl 3

namespace Front

variable {n : Nat} {b : UInt8} {s r : List UInt8}

/-- A front that is cut off can be completed to a character, by continuation bytes. -/
theorem exists_of_cut (h : Front.of b s = .cut) :
    ∃ t c, (∀ x ∈ t, IsContinuation x) ∧ b :: (s ++ t) = String.utf8EncodeChar c := by
  simp only [Front.of] at h
  split at h
  · contradiction
  · rename_i hb
    cases hlead : Lead.of? b with
    | none => simp [hlead] at h
    | some lead =>
      simp only [hlead] at h
      obtain ⟨hlow, hle, hhigh⟩ := (Lead.opened_of_some hlead).range
      obtain ⟨t, c, ht, hc⟩ := exists_of_follow_cut hlow hle hhigh h
      have hof : Front.of b (s ++ t) = .char c [] := by
        simp only [Front.of, if_neg hb, hlead, hc]
      have heq := eq_encodeChar hof
      rw [List.append_nil] at heq
      exact ⟨t, c, ht, heq⟩

/-- A front is cut off exactly if its bytes begin a character and are not the whole of it. -/
theorem eq_cut_iff : Front.of b s = .cut ↔ BeginsChar (b :: s) := by
  constructor
  · intro h
    obtain ⟨t, c, -, hc⟩ := exists_of_cut h
    refine ⟨List.cons_ne_nil b s, c, t, ?_, hc.symm⟩
    rintro rfl
    -- the whole of a character would be read as it
    obtain ⟨b', s', hc', hof⟩ := of_encodeChar c []
    rw [List.append_nil] at hc hof
    obtain ⟨rfl, rfl⟩ := List.cons.inj (hc.trans hc')
    cases h.symm.trans hof
  · rintro ⟨-, c, t, hne, hc⟩
    obtain ⟨b', s', hc', hof⟩ := of_encodeChar c []
    rw [List.append_nil] at hof
    obtain ⟨rfl, rfl⟩ := List.cons.inj (hc.symm.trans hc')
    exact of_cut hof (List.length_pos_iff.mpr hne)

/-! ## Fronts that break -/

/-- A sequence breaks behind bytes that begin one, at a byte that no longer does. -/
theorem exists_of_follow_broken {width bits due : Nat} {low high : UInt8}
    (h : follow width bits low high due s = .broken n r) :
    ∃ w x t, s = w ++ x :: t ∧ r = x :: t ∧ n = width + w.length ∧ w.length < due ∧
      follow width bits low high due w = .cut ∧
      follow width bits low high due (w ++ [x]) = .broken n [x] := by
  induction due generalizing width bits low high s with
  | zero => contradiction
  | succ due ih =>
    cases s with
    | nil => contradiction
    | cons b s =>
      simp only [follow] at h
      split at h
      · rename_i hb
        obtain ⟨w, x, t, rfl, rfl, rfl, hlt, hcut, hbroken⟩ := ih h
        refine ⟨b :: w, x, t, rfl, rfl, ?_, Nat.succ_lt_succ hlt, ?_, ?_⟩
        · rw [List.length_cons]
          omega
        · rw [follow_cons hb.1 hb.2, hcut]
        · rw [List.cons_append, follow_cons hb.1 hb.2, hbroken]
      · rename_i hb
        obtain ⟨rfl, rfl⟩ := Front.broken.inj h
        refine ⟨[], b, s, rfl, rfl, rfl, Nat.succ_pos due, rfl, ?_⟩
        rw [List.nil_append, follow, if_neg hb]

/-- A front breaks at a byte that begins no character, or behind bytes that do, at a byte that no
longer does. -/
theorem exists_of_broken (h : Front.of b s = .broken n r) :
    (n = 1 ∧ r = s ∧ ∀ q, Front.of b q ≠ .cut) ∨
      ∃ w x t, s = w ++ x :: t ∧ r = x :: t ∧ n = w.length + 1 ∧ w.length < 3 ∧
        Front.of b w = .cut ∧ Front.of b (w ++ [x]) = .broken n [x] := by
  simp only [Front.of] at h
  split at h
  · contradiction
  rename_i hb
  cases hlead : Lead.of? b with
  | none =>
    simp only [hlead] at h
    obtain ⟨rfl, rfl⟩ := Front.broken.inj h
    exact .inl ⟨rfl, rfl, fun q => by simp [Front.of, hb, hlead]⟩
  | some lead =>
    simp only [hlead] at h
    obtain ⟨w, x, t, rfl, rfl, rfl, hlt, hcut, hbroken⟩ := exists_of_follow_broken h
    have hdue := (Lead.opened_of_some hlead).due_le
    refine .inr ⟨w, x, t, rfl, rfl, Nat.add_comm 1 w.length, Nat.lt_of_lt_of_le hlt hdue, ?_, ?_⟩
    · simp only [Front.of, if_neg hb, hlead, hcut]
    · simp only [Front.of, if_neg hb, hlead, hbroken]

/-- The bytes that break at a front. -/
theorem bounds_of_broken (h : Front.of b s = .broken n r) :
    1 ≤ n ∧ n ≤ 3 ∧ (b :: s).drop n = r := by
  obtain ⟨rfl, rfl, -⟩ | ⟨w, x, t, rfl, rfl, rfl, hlt, -, -⟩ := exists_of_broken h
  · exact ⟨Nat.le_refl 1, Nat.le_add_left 1 2, rfl⟩
  · refine ⟨Nat.le_add_left 1 w.length, hlt, ?_⟩
    rw [List.drop_succ_cons, List.drop_left]

/-- What breaks at a front has the width of the longest part of it that begins a character, or is
one byte if none does. -/
theorem brokenWidth_of_broken (h : Front.of b s = .broken n r) : BrokenWidth (b :: s) n := by
  obtain ⟨rfl, rfl, hnone⟩ | ⟨w, x, t, rfl, rfl, rfl, -, hcut, hbroken⟩ := exists_of_broken h
  · refine .inr ⟨rfl, fun p hp hbegins => ?_⟩
    cases p with
    | nil => exact hbegins.1 rfl
    | cons a p =>
      obtain ⟨rfl, -⟩ := List.cons_prefix_cons.mp hp
      exact hnone p (eq_cut_iff.mpr hbegins)
  · refine .inl ⟨⟨b :: w, ?_, eq_cut_iff.mp hcut, rfl⟩, fun p hp hbegins => ?_⟩
    · exact List.cons_prefix_cons.mpr ⟨rfl, List.prefix_append w (x :: t)⟩
    · cases p with
      | nil => exact Nat.zero_le _
      | cons a p =>
        obtain ⟨rfl, hp'⟩ := List.cons_prefix_cons.mp hp
        refine Nat.succ_le_succ (Nat.le_of_not_lt fun hlonger => ?_)
        -- a longer part has the byte in it at which the sequence breaks
        have hpart : w ++ [x] <+: w ++ x :: t := ⟨t, by simp⟩
        obtain ⟨q, rfl⟩ : w ++ [x] <+: p := by
          refine List.prefix_of_prefix_length_le hpart hp' ?_
          rw [List.length_append, List.length_singleton]
          exact hlonger
        have hpcut := eq_cut_iff.mpr hbegins
        rw [of_append (by rw [hbroken]; simp), hbroken] at hpcut
        contradiction

end Front

/-! ## Faults -/

/-- A fault stands behind a text, where the front of what follows is no character. -/
theorem exists_of_fault? {index : Nat} {s : List UInt8} {f : Fault}
    (h : fault? index s = some f) :
    ∃ cs b t, s = encode cs ++ b :: t ∧ f.index = index + (encode cs).length ∧
      ((∃ n r, Front.of b t = .broken n r ∧ f.width = some n) ∨
        Front.of b t = .cut ∧ f.width = none) := by
  fun_induction fault? index s with
  | case1 => contradiction
  | case2 index b s c r hof ih =>
    obtain ⟨cs, b', t, rfl, hindex, hfront⟩ := ih h
    refine ⟨c :: cs, b', t, ?_, ?_, hfront⟩
    · rw [Front.eq_encodeChar hof, encode_cons, List.append_assoc]
    · rw [hindex, encode_cons, List.length_append, String.length_utf8EncodeChar]
      omega
  | case3 index b s n r hof =>
    obtain rfl := Option.some.inj h
    exact ⟨[], b, s, rfl, rfl, .inl ⟨n, r, hof, rfl⟩⟩
  | case4 index b s hof =>
    obtain rfl := Option.some.inj h
    exact ⟨[], b, s, rfl, rfl, .inr ⟨hof, rfl⟩⟩

section

variable {s : List UInt8} {f : Fault} (h : fault? 0 s = some f)

include h

/-- The bytes before a fault are the longest text that a byte string begins with. -/
theorem longestPrefix_of_fault : LongestPrefix IsText s f.index := by
  obtain ⟨cs, b, t, rfl, hindex, hfront⟩ := exists_of_fault? h
  rw [hindex, Nat.zero_add]
  refine ⟨⟨encode cs, List.prefix_append _ _, ⟨cs, rfl⟩, rfl⟩, fun p hp htext => ?_⟩
  refine Nat.le_of_not_lt fun hlonger => ?_
  -- a longer text would have a character where the fault is
  obtain ⟨q, rfl⟩ : encode cs <+: p :=
    List.prefix_of_prefix_length_le (List.prefix_append _ _) hp (Nat.le_of_lt hlonger)
  rw [List.prefix_append_right_inj] at hp
  cases q with
  | nil => simp at hlonger
  | cons a q =>
    obtain ⟨rfl, rest, rfl⟩ := List.cons_prefix_cons.mp hp
    obtain ⟨c, r, hof, -⟩ := (htext.of_append ⟨cs, rfl⟩).exists_char
    rw [Front.of_append (by rw [hof]; simp), hof] at hfront
    obtain ⟨n, r', hbroken, -⟩ | ⟨hcut, -⟩ := hfront
    · contradiction
    · contradiction

/-- A fault is at the end exactly if more bytes could make a text of the whole. -/
theorem width_eq_none_iff : f.width = none ↔ Completable s := by
  obtain ⟨cs, b, t, rfl, -, hfront⟩ := exists_of_fault? h
  constructor
  · intro hnone
    obtain ⟨n, r, -, hwidth⟩ | ⟨hcut, -⟩ := hfront
    · cases hnone.symm.trans hwidth
    · obtain ⟨u, c, hu, hc⟩ := Front.exists_of_cut hcut
      refine ⟨u, hu, ?_⟩
      rw [List.append_assoc, List.cons_append, hc]
      exact IsText.append ⟨cs, rfl⟩ (isText_encodeChar c)
  · rintro ⟨u, -, htext⟩
    obtain ⟨n, r, hbroken, -⟩ | ⟨-, hnone⟩ := hfront
    · rw [List.append_assoc, List.cons_append] at htext
      obtain ⟨c, r', hof, -⟩ := (htext.of_append ⟨cs, rfl⟩).exists_char
      rw [Front.of_append (by rw [hbroken]; simp), hbroken] at hof
      contradiction
    · exact hnone

/-- What breaks at a fault has the width that the fault says. -/
theorem brokenWidth_of_fault {n : Nat} (hn : f.width = some n) :
    BrokenWidth (s.drop f.index) n ∧ 1 ≤ n ∧ n ≤ 3 := by
  obtain ⟨cs, b, t, rfl, hindex, hfront⟩ := exists_of_fault? h
  rw [hindex, Nat.zero_add, List.drop_left]
  obtain ⟨m, r, hbroken, hm⟩ | ⟨-, hnone⟩ := hfront
  · obtain rfl := Option.some.inj (hn.symm.trans hm)
    obtain ⟨hpos, hle, -⟩ := Front.bounds_of_broken hbroken
    exact ⟨Front.brokenWidth_of_broken hbroken, hpos, hle⟩
  · cases hn.symm.trans hnone

end

end AlertConsole.Utf8
