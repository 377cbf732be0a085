import AlertConsole.CommandLine
set_option autoImplicit false

/-!
# Which texts are ports

A text is a port if it writes an integer from 0 to 65535: decimal digits, as many as the sender
likes, behind a sign or not (`portOf_eq_ok_iff`).  Behind a minus that leaves only zeros.
-/

namespace AlertConsole.CommandLine

/-! ## Digits -/

/-- Decimal digits, one or more, that write a number. -/
structure Writes (ds : List Char) (n : Nat) : Prop where
  nonempty : ds ≠ []
  digits : ∀ d ∈ ds, d.isDigit = true
  value : Nat.ofDigitChars 10 ds 0 = n

/-- More digits make no smaller number. -/
theorem le_ofDigitChars (n : Nat) (ds : List Char) : n ≤ Nat.ofDigitChars 10 ds n := by
  induction ds generalizing n with
  | nil => exact Nat.le_refl n
  | cons d ds ih =>
    rw [Nat.ofDigitChars_cons]
    have hle := ih (10 * n + (d.toNat - '0'.toNat))
    omega

/-- Digits are read exactly if the number that they write stays up to the limit. -/
theorem digitsUpTo_eq_ok_iff {limit n m : Nat} {overflow : PortFault} {ds : List Char}
    (hn : n ≤ limit) :
    digitsUpTo limit overflow n ds = .ok m ↔
      (∀ d ∈ ds, d.isDigit = true) ∧ Nat.ofDigitChars 10 ds n = m ∧ m ≤ limit := by
  induction ds generalizing n with
  | nil =>
    rw [digitsUpTo, Nat.ofDigitChars_nil, Except.ok.injEq]
    constructor
    · rintro rfl
      exact ⟨fun d hd => absurd hd List.not_mem_nil, rfl, hn⟩
    · exact fun h => h.2.1
  | cons d ds ih =>
    rw [digitsUpTo, Nat.ofDigitChars_cons, List.forall_mem_cons, Nat.mul_comm 10 n]
    by_cases hd : d.isDigit = true
    · rw [if_pos hd]
      dsimp only
      split
      · rename_i hm
        simp only [ih hm, hd, true_and]
      · rename_i hm
        -- the number that the digits write is beyond the limit already
        have hle := le_ofDigitChars (n * 10 + (d.toNat - '0'.toNat)) ds
        constructor
        · intro h
          contradiction
        · rintro ⟨-, rfl, hlimit⟩
          omega
    · simp [hd]

/-- Only zeros write zero. -/
theorem writes_zero_iff {ds : List Char} :
    Writes ds 0 ↔ ds ≠ [] ∧ ∀ d ∈ ds, d = '0' := by
  have hzero (d : Char) : d.isDigit = true ∧ d.toNat - '0'.toNat = 0 ↔ d = '0' := by
    constructor
    · rintro ⟨hdigit, hvalue⟩
      have hle := (Char.isDigit_iff_toNat.mp hdigit).1
      exact Char.toNat_inj.mp (Nat.le_antisymm (Nat.sub_eq_zero_iff_le.mp hvalue) hle)
    · rintro rfl
      decide
  have hvalue : (∀ d ∈ ds, d.isDigit = true) ∧ Nat.ofDigitChars 10 ds 0 = 0 ↔
      ∀ d ∈ ds, d = '0' := by
    induction ds with
    | nil => simp
    | cons d ds ih =>
      rw [List.forall_mem_cons, List.forall_mem_cons, ← ih, ← hzero, Nat.ofDigitChars_cons,
        Nat.mul_zero, Nat.zero_add]
      constructor
      · rintro ⟨⟨hd, hds⟩, hsum⟩
        have hle := le_ofDigitChars (d.toNat - '0'.toNat) ds
        have hfirst : d.toNat - '0'.toNat = 0 := by omega
        rw [hfirst] at hsum
        exact ⟨⟨hd, hfirst⟩, hds, hsum⟩
      · rintro ⟨⟨hd, hfirst⟩, hds, hsum⟩
        rw [hfirst]
        exact ⟨⟨hd, hds⟩, hsum⟩
  rw [← hvalue]
  exact ⟨fun h => ⟨h.nonempty, h.digits, h.value⟩, fun h => ⟨h.1, h.2.1, h.2.2⟩⟩

/-! ## Integers -/

/-- The form of an integer: digits, behind a sign or not. -/
inductive WritesInteger : List Char → Int → Prop where
  | plain {ds : List Char} {n : Nat} : Writes ds n → WritesInteger ds n
  | plus {ds : List Char} {n : Nat} : Writes ds n → WritesInteger ('+' :: ds) n
  | minus {ds : List Char} {n : Nat} : Writes ds n → WritesInteger ('-' :: ds) (-n)

theorem Writes.isDigit_head {d : Char} {ds : List Char} {n : Nat} (h : Writes (d :: ds) n) :
    d.isDigit = true := h.digits d List.mem_cons_self

theorem writesInteger_minus_iff {ds : List Char} {i : Int} :
    WritesInteger ('-' :: ds) i ↔ ∃ n : Nat, Writes ds n ∧ i = -n := by
  constructor
  · intro h
    cases h with
    | plain h => exact absurd h.isDigit_head (by decide)
    | minus h => exact ⟨_, h, rfl⟩
  · rintro ⟨n, h, rfl⟩
    exact .minus h

theorem writesInteger_plus_iff {ds : List Char} {i : Int} :
    WritesInteger ('+' :: ds) i ↔ ∃ n : Nat, Writes ds n ∧ i = n := by
  constructor
  · intro h
    cases h with
    | plain h => exact absurd h.isDigit_head (by decide)
    | plus h => exact ⟨_, h, rfl⟩
  · rintro ⟨n, h, rfl⟩
    exact .plus h

theorem writesInteger_cons_iff {c : Char} {ds : List Char} {i : Int} (hminus : c ≠ '-')
    (hplus : c ≠ '+') : WritesInteger (c :: ds) i ↔ ∃ n : Nat, Writes (c :: ds) n ∧ i = n := by
  constructor
  · intro h
    cases h with
    | plain h => exact ⟨_, h, rfl⟩
    | plus h => exact absurd rfl hplus
    | minus h => exact absurd rfl hminus
  · rintro ⟨n, h, rfl⟩
    exact .plain h

/-- The number of some digits with its sign, if the limit on the digits is that of a range. -/
theorem signed_digitsUpTo_eq_ok_iff {limit : Nat} {overflow : PortFault} {ds : List Char}
    {sign : Int → Int} {least greatest i : Int} (hne : ds ≠ [])
    (hrange : ∀ n : Nat, n ≤ limit ↔ least ≤ sign n ∧ sign n ≤ greatest) :
    Except.map sign (do return ((← digitsUpTo limit overflow 0 ds : Nat) : Int)) = .ok i ↔
      (∃ n : Nat, Writes ds n ∧ i = sign n) ∧ least ≤ i ∧ i ≤ greatest := by
  constructor
  · intro h
    cases hread : digitsUpTo limit overflow 0 ds with
    | error fault =>
      rw [hread] at h
      contradiction
    | ok n =>
      rw [hread] at h
      obtain ⟨hdigits, hvalue, hlimit⟩ := (digitsUpTo_eq_ok_iff (Nat.zero_le limit)).mp hread
      obtain rfl := Except.ok.inj h
      exact ⟨⟨n, ⟨hne, hdigits, hvalue⟩, rfl⟩, (hrange n).mp hlimit⟩
  · rintro ⟨⟨n, hwrites, rfl⟩, hbounds⟩
    have hlimit := (hrange n).mpr hbounds
    rw [(digitsUpTo_eq_ok_iff (Nat.zero_le limit)).mpr ⟨hwrites.digits, hwrites.value, hlimit⟩]
    rfl

/-- One digit writes its own number. -/
theorem writes_singleton_iff {c : Char} {n : Nat} :
    Writes [c] n ↔ c.isDigit = true ∧ c.toNat - '0'.toNat = n := by
  have hvalue : Nat.ofDigitChars 10 [c] 0 = c.toNat - '0'.toNat := by
    rw [Nat.ofDigitChars_cons, Nat.ofDigitChars_nil, Nat.mul_zero, Nat.zero_add]
  constructor
  · rintro ⟨-, hdigits, rfl⟩
    exact ⟨hdigits c List.mem_cons_self, hvalue.symm⟩
  · rintro ⟨hdigit, rfl⟩
    exact ⟨List.cons_ne_nil _ _, List.forall_mem_singleton.mpr hdigit, hvalue⟩

/-- An integer is read exactly if it is in the range of a signed word of 64 bits. -/
theorem integerOf_eq_ok_iff {s : List Char} {i : Int} :
    integerOf s = .ok i ↔
      WritesInteger s i ∧ -0x8000000000000000 ≤ i ∧ i ≤ 0x7FFFFFFFFFFFFFFF := by
  match s with
  | [] =>
    refine iff_of_false (fun h => nomatch h) ?_
    rintro ⟨⟨h⟩, -⟩
    exact absurd rfl h.nonempty
  | [c] =>
    rw [integerOf]
    by_cases hc : c.isDigit = true
    · have hle : c.toNat ≤ 57 := (Char.isDigit_iff_toNat.mp hc).2
      have hminus : c ≠ '-' := by
        rintro rfl
        contradiction
      have hplus : c ≠ '+' := by
        rintro rfl
        contradiction
      rw [if_pos hc, writesInteger_cons_iff hminus hplus, Except.ok.injEq]
      simp only [writes_singleton_iff, hc, true_and]
      constructor
      · rintro rfl
        exact ⟨⟨_, rfl, rfl⟩, by omega, by omega⟩
      · rintro ⟨⟨n, rfl, rfl⟩, -⟩
        rfl
    · rw [if_neg hc]
      refine iff_of_false (fun h => nomatch h) ?_
      rintro ⟨h | h | h, -⟩
      · exact hc h.isDigit_head
      · exact h.nonempty rfl
      · exact h.nonempty rfl
  | c :: d :: s =>
    have hne := List.cons_ne_nil d s
    simp only [integerOf]
    split
    · rename_i hminus
      obtain rfl := hminus
      rw [writesInteger_minus_iff]
      exact signed_digitsUpTo_eq_ok_iff hne fun n => by omega
    · rename_i hminus
      split
      · rename_i hplus
        obtain rfl := hplus
        rw [writesInteger_plus_iff]
        exact signed_digitsUpTo_eq_ok_iff hne fun n => by omega
      · rename_i hplus
        rw [writesInteger_cons_iff hminus hplus]
        exact signed_digitsUpTo_eq_ok_iff (List.cons_ne_nil c _) fun n => by omega

/-! ## Ports -/

/-- A text is a port exactly if it writes one. -/
theorem portOf_eq_ok_iff {text : String} {port : UInt16} :
    portOf text = .ok port ↔ WritesInteger text.toList port.toNat := by
  have hport := port.toNat_lt
  constructor
  · intro h
    rw [portOf] at h
    split at h
    · contradiction
    rename_i i hi
    obtain ⟨hwrites, -, -⟩ := integerOf_eq_ok_iff.mp hi
    split at h
    · rename_i hrange
      obtain rfl := Except.ok.inj h
      have hvalue : ((i.toNat.toUInt16.toNat : Nat) : Int) = i := by
        rw [Nat.toUInt16, UInt16.toNat_ofNat', Nat.mod_eq_of_lt (by omega),
          Int.toNat_of_nonneg hrange.1]
      rwa [hvalue]
    · contradiction
  · intro h
    have hread := integerOf_eq_ok_iff.mpr ⟨h, by omega, by omega⟩
    rw [portOf, hread]
    dsimp only
    rw [if_pos ⟨by omega, by omega⟩, Int.toNat_natCast]
    exact congrArg Except.ok (UInt16.ofNat_toNat)

example : portOf "+00065535" = .ok 65535 := by rfl

example : portOf "-0" = .ok 0 := by rfl

end AlertConsole.CommandLine
