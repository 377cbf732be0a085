import AlertConsole.Proofs.Json.Grammar
import AlertConsole.Proofs.Utf8.Encoding
set_option autoImplicit false

/-!
# Reading strings

The readers of `AlertConsole.Json.Quoted` against the grammar of strings.  Each reader has two
lemmas.  What it reads off the front of a text is a spelling of what it gives (`…_sound`), and
every spelling is read as what it spells, whatever follows it (`…_complete`).

A reader works on bytes and a string holds characters, so soundness is about texts: in a byte
string that is none, a broken sequence would be read as a replacement character.
-/

namespace AlertConsole.Json

open Utf8 (IsText Front)

/-- A reader in steps gives something exactly if both steps do. -/
theorem bind_eq_ok_iff {α β : Type} {x : Except Stop α} {f : α → Except Stop β} {b : β} :
    (x >>= f) = .ok b ↔ ∃ a, x = .ok a ∧ f a = .ok b := by
  cases x with
  | error e => simp [bind, Except.bind]
  | ok a => simp [bind, Except.bind]

theorem ok_bind {α β : Type} {x : Except Stop α} {f : α → Except Stop β} {a : α} (h : x = .ok a) :
    (x >>= f) = f a := by
  rw [h]
  rfl

/-! ## Code units -/

theorem hexDigit?_lt {b : UInt8} {n : Nat} (h : Byte.hexDigit? b = some n) : b < 0x80 ∧ n < 16 := by
  simp only [Byte.hexDigit?, Byte.isDigit, Byte.digit, Byte.zero, Byte.nine, Bool.and_eq_true,
    decide_eq_true_eq, UInt8.le_iff_toNat_le, UInt8.reduceToNat] at h
  simp only [UInt8.lt_iff_toNat_lt, UInt8.reduceToNat]
  split at h
  · cases h; omega
  split at h
  · cases h; omega
  split at h
  · cases h; omega
  · contradiction

theorem SpellsUnit.lt {ds : List UInt8} {n : Nat} (h : SpellsUnit ds n) : n < 0x10000 := by
  obtain ⟨ha, hb, hc, hd⟩ := h
  have := (hexDigit?_lt ha).2
  have := (hexDigit?_lt hb).2
  have := (hexDigit?_lt hc).2
  have := (hexDigit?_lt hd).2
  omega

theorem SpellsUnit.isText {ds : List UInt8} {n : Nat} (h : SpellsUnit ds n) : IsText ds := by
  obtain ⟨ha, hb, hc, hd⟩ := h
  refine Utf8.isText_of_ascii ?_
  simp [(hexDigit?_lt ha).1, (hexDigit?_lt hb).1, (hexDigit?_lt hc).1, (hexDigit?_lt hd).1]

theorem codeUnit_sound {s r : List UInt8} {n : Nat} (h : codeUnit s = .ok (n, r)) :
    ∃ ds, s = ds ++ r ∧ SpellsUnit ds n := by
  unfold codeUnit at h
  split at h
  · rename_i a b c d s
    split at h
    · rename_i w x y z ha hb hc hd
      cases h
      refine ⟨[a, b, c, d], rfl, ?_⟩
      have hn : ((w * 16 + x) * 16 + y) * 16 + z = w * 0x1000 + x * 0x100 + y * 0x10 + z := by
        omega
      rw [hn]
      exact .mk ha hb hc hd
    · contradiction
  · contradiction

theorem codeUnit_complete {ds : List UInt8} {n : Nat} (h : SpellsUnit ds n) (r : List UInt8) :
    codeUnit (ds ++ r) = .ok (n, r) := by
  obtain @⟨a, b, c, d, w, x, y, z, ha, hb, hc, hd⟩ := h
  simp only [List.cons_append, List.nil_append, codeUnit, ha, hb, hc, hd]
  congr 2
  omega

/-! ## Escapes -/

theorem shortEscape?_eq_some_iff {b : UInt8} {c : Char} :
    shortEscape? b = some c ↔ (b, c) ∈ shortEscapes := by
  simp only [shortEscape?, shortEscapes, List.mem_cons, Prod.mk.injEq, List.not_mem_nil, or_false]
  constructor
  · intro h
    repeat' split at h
    all_goals first | contradiction | (cases h; simp [*])
  · rintro (⟨rfl, rfl⟩ | ⟨rfl, rfl⟩ | ⟨rfl, rfl⟩ | ⟨rfl, rfl⟩ | ⟨rfl, rfl⟩ | ⟨rfl, rfl⟩ |
      ⟨rfl, rfl⟩ | ⟨rfl, rfl⟩) <;> rfl

theorem lt_of_mem_shortEscapes {b : UInt8} {c : Char} (h : (b, c) ∈ shortEscapes) : b < 0x80 := by
  have hall : ∀ e ∈ shortEscapes, e.1 < 0x80 := by decide
  exact hall _ h

theorem shortEscape?_lowerU : shortEscape? Byte.lowerU = none := by decide

theorem pairByte_eq_ok_iff {b : UInt8} {s r : List UInt8} {u : Unit} :
    pairByte b s = .ok (u, r) ↔ s = b :: r := by
  cases s with
  | nil => simp [pairByte]
  | cons a s =>
    by_cases h : a = b
    · simp [pairByte, h]
    · simp [pairByte, h]

theorem lowSurrogate_eq_ok_iff {s r : List UInt8} {n : Nat} :
    lowSurrogate s = .ok (n, r) ↔
      ∃ t, s = Byte.backslash :: Byte.lowerU :: t ∧ codeUnit t = .ok (n, r) ∧
        isLowSurrogate n = true := by
  simp only [lowSurrogate, bind_eq_ok_iff, Prod.exists, pairByte_eq_ok_iff]
  constructor
  · rintro ⟨-, t, rfl, -, t', rfl, m, t'', hunit, h⟩
    split at h
    · rename_i hlow
      cases h
      exact ⟨t', rfl, hunit, hlow⟩
    · contradiction
  · rintro ⟨t, rfl, hunit, hlow⟩
    exact ⟨(), _, rfl, (), t, rfl, n, r, hunit, by simp [hlow]⟩

/-- A pair of code units stands for the character whose surrogate pair it is. -/
theorem pairChar_spec {high low : Nat} (hh : isHighSurrogate high = true)
    (hl : isLowSurrogate low = true) :
    0x10000 ≤ (pairChar high low).toNat ∧
      high = 0xD800 + ((pairChar high low).toNat - 0x10000) / 0x400 ∧
      low = 0xDC00 + ((pairChar high low).toNat - 0x10000) % 0x400 := by
  simp only [isHighSurrogate, isLowSurrogate, Bool.and_eq_true, decide_eq_true_eq] at hh hl
  rw [pairChar, Utf8.toNat_ofNat (by omega) (by omega)]
  omega

theorem unicodeEscape_sound {s r : List UInt8} {c : Char} (hs : IsText s)
    (h : unicodeEscape s = .ok (c, r)) :
    ∃ t, s = t ++ r ∧ SpellsChar (Byte.backslash :: Byte.lowerU :: t) c ∧ IsText r := by
  simp only [unicodeEscape, bind_eq_ok_iff, Prod.exists] at h
  obtain ⟨n, s', hunit, h⟩ := h
  obtain ⟨ds, rfl, hds⟩ := codeUnit_sound hunit
  have hs' : IsText s' := hs.of_append hds.isText
  split at h
  · contradiction
  rename_i hlow
  split at h
  · -- the first unit of a pair
    rename_i hhigh
    obtain ⟨⟨m, t⟩, hpair, h⟩ := bind_eq_ok_iff.mp h
    obtain ⟨rfl, rfl⟩ := Prod.mk.inj (Except.ok.inj h)
    obtain ⟨t, rfl, hunit', hlow'⟩ := lowSurrogate_eq_ok_iff.mp hpair
    obtain ⟨ds', rfl, hds'⟩ := codeUnit_sound hunit'
    obtain ⟨hc, hn, hm⟩ := pairChar_spec hhigh hlow'
    refine ⟨ds ++ Byte.backslash :: Byte.lowerU :: ds', by simp, ?_, ?_⟩
    · exact .pair hc (hn ▸ hds) (hm ▸ hds')
    · rw [Utf8.isText_cons_iff (by decide), Utf8.isText_cons_iff (by decide),
        Utf8.isText_append_iff hds'.isText] at hs'
      exact hs'
  · rename_i hhigh
    obtain ⟨rfl, rfl⟩ := Prod.mk.inj (Except.ok.inj h)
    refine ⟨ds, rfl, .unit ?_, hs'⟩
    simp only [isHighSurrogate, isLowSurrogate, Bool.and_eq_true, decide_eq_true_eq] at hlow hhigh
    have := hds.lt
    rw [Utf8.toNat_ofNat (by omega) (by omega)]
    exact hds

theorem unicodeEscape_unit {ds : List UInt8} {c : Char} (h : SpellsUnit ds c.toNat)
    (r : List UInt8) : unicodeEscape (ds ++ r) = .ok (c, r) := by
  have hc := (Utf8.toNat_lt c).2
  have := h.lt
  have hlow : isLowSurrogate c.toNat = false := by simp [isLowSurrogate]; omega
  have hhigh : isHighSurrogate c.toNat = false := by simp [isHighSurrogate]; omega
  rw [unicodeEscape, ok_bind (codeUnit_complete h r)]
  simp [hlow, hhigh, Char.ofNat_toNat]

theorem unicodeEscape_pair {hs ls : List UInt8} {c : Char} (hc : 0x10000 ≤ c.toNat)
    (hh : SpellsUnit hs (0xD800 + (c.toNat - 0x10000) / 0x400))
    (hl : SpellsUnit ls (0xDC00 + (c.toNat - 0x10000) % 0x400)) (r : List UInt8) :
    unicodeEscape ((hs ++ Byte.backslash :: Byte.lowerU :: ls) ++ r) = .ok (c, r) := by
  have hlt := (Utf8.toNat_lt c).1
  generalize hn : 0xD800 + (c.toNat - 0x10000) / 0x400 = high at hh
  generalize hm : 0xDC00 + (c.toNat - 0x10000) % 0x400 = low at hl
  have hnot : isLowSurrogate high = false := by simp [isLowSurrogate]; omega
  have hhigh : isHighSurrogate high = true := by simp [isHighSurrogate]; omega
  have hlow : isLowSurrogate low = true := by simp [isLowSurrogate]; omega
  have hpair : pairChar high low = c := by
    rw [pairChar, show 0x10000 + (high - 0xD800) * 0x400 + (low - 0xDC00) = c.toNat by omega,
      Char.ofNat_toNat]
  have hrest : lowSurrogate (Byte.backslash :: Byte.lowerU :: (ls ++ r)) = .ok (low, r) :=
    lowSurrogate_eq_ok_iff.mpr ⟨ls ++ r, rfl, codeUnit_complete hl r, hlow⟩
  rw [List.append_assoc, unicodeEscape, ok_bind (codeUnit_complete hh _)]
  simp only [hnot, hhigh, if_true, Bool.false_eq_true, if_false, List.cons_append]
  rw [ok_bind hrest, hpair]

/-- What follows a backslash. -/
theorem escaped_sound {s r : List UInt8} {c : Char} (hs : IsText s) (h : escaped s = .ok (c, r)) :
    ∃ t, s = t ++ r ∧ SpellsChar (Byte.backslash :: t) c ∧ IsText r := by
  cases s with
  | nil => contradiction
  | cons b s =>
    simp only [escaped] at h
    split at h
    · rename_i d hd
      cases h
      have hmem := shortEscape?_eq_some_iff.mp hd
      refine ⟨[b], rfl, .short hmem, ?_⟩
      exact hs.of_cons (lt_of_mem_shortEscapes hmem)
    · split at h
      · rename_i hb
        subst hb
        obtain ⟨t, rfl, hc, hr⟩ := unicodeEscape_sound
          (hs.of_cons (by decide)) h
        exact ⟨Byte.lowerU :: t, rfl, hc, hr⟩
      · contradiction

theorem escaped_short {b : UInt8} {c : Char} (h : (b, c) ∈ shortEscapes) (r : List UInt8) :
    escaped (b :: r) = .ok (c, r) := by
  rw [escaped, shortEscape?_eq_some_iff.mpr h]

theorem escaped_lowerU (s : List UInt8) : escaped (Byte.lowerU :: s) = unicodeEscape s := by
  rw [escaped, shortEscape?_lowerU]
  rfl

/-! ## Strings -/

theorem SpellsChar.ne_nil {s : List UInt8} {c : Char} (h : SpellsChar s c) : s ≠ [] := by
  cases h with
  | raw => exact String.utf8EncodeChar_ne_nil
  | short => simp
  | unit => simp
  | pair => simp

theorem SpellsChar.isText {s : List UInt8} {c : Char} (h : SpellsChar s c) : IsText s := by
  cases h with
  | raw => exact Utf8.isText_encodeChar c
  | short hb =>
    refine .cons ?_ (by decide)
    exact Utf8.isText_singleton (lt_of_mem_shortEscapes hb)
  | unit hds =>
    rw [Utf8.isText_cons_iff (by decide), Utf8.isText_cons_iff (by decide)]
    exact hds.isText
  | pair _ hh hl =>
    rw [Utf8.isText_cons_iff (by decide), Utf8.isText_cons_iff (by decide),
      Utf8.isText_append_iff hh.isText, Utf8.isText_cons_iff (by decide),
      Utf8.isText_cons_iff (by decide)]
    exact hl.isText

theorem SpellsChars.isText {s : List UInt8} {cs : List Char} (h : SpellsChars s cs) : IsText s := by
  induction h with
  | nil => exact Utf8.isText_nil
  | cons hc _ ih => exact hc.isText.append ih

/-- A raw character is told by its first byte from a quote, a backslash and a control. -/
theorem SpellsChar.of_front {b : UInt8} {s r : List UInt8} {c : Char}
    (h : Front.of b s = .char c r) (hquote : b ≠ Byte.quote) (hback : b ≠ Byte.backslash)
    (hcontrol : ¬ b < Byte.space) : SpellsChar (String.utf8EncodeChar c) c := by
  obtain ⟨a, t, hc, -⟩ := Front.of_encodeChar c []
  have hab : a = b := by
    have := Front.eq_encodeChar h
    rw [hc] at this
    exact (List.cons.inj this).1.symm
  subst hab
  simp only [ne_eq, ← UInt8.toNat_inj, UInt8.lt_iff_toNat_lt, Byte.quote, Byte.backslash,
    Byte.space, UInt8.reduceToNat] at hquote hback hcontrol
  have hhead := Utf8.head_encodeChar hc
  refine .raw (by omega) ?_ ?_
  · rintro rfl
    have : ('"' : Char).toNat = 34 := rfl
    omega
  · rintro rfl
    have : ('\\' : Char).toNat = 92 := rfl
    omega

theorem push_append_ofList (seen : String) (c : Char) (cs : List Char) :
    seen.push c ++ String.ofList cs = seen ++ String.ofList (c :: cs) := by
  simp [← String.toList_inj]

theorem quoted_sound {rounds : Nat} {seen t : String} {s r : List UInt8} (hs : IsText s)
    (h : quoted rounds seen s = .ok (t, r)) :
    ∃ q cs, s = q ++ Byte.quote :: r ∧ SpellsChars q cs ∧ t = seen ++ String.ofList cs ∧
      IsText r := by
  induction rounds generalizing seen s with
  | zero => simp [quoted] at h
  | succ rounds ih =>
    cases s with
    | nil => simp [quoted] at h
    | cons b s =>
      simp only [quoted] at h
      split at h
      · rename_i hb
        cases h
        subst hb
        exact ⟨[], [], rfl, .nil, by simp, hs.of_cons (by decide)⟩
      rename_i hquote
      split at h
      · rename_i hb
        subst hb
        split at h
        · contradiction
        · rename_i c s' hc
          obtain ⟨e, rfl, hchar, hs'⟩ := escaped_sound (hs.of_cons (by decide)) hc
          obtain ⟨q, cs, rfl, hq, rfl, hr⟩ := ih hs' h
          refine ⟨Byte.backslash :: e ++ q, c :: cs, by simp, .cons hchar hq, ?_, hr⟩
          exact push_append_ofList seen c cs
      rename_i hback
      split at h
      · contradiction
      rename_i hcontrol
      obtain ⟨c, s', hof, hs'⟩ := hs.exists_char
      rw [hof] at h
      obtain ⟨q, cs, rfl, hq, rfl, hr⟩ := ih hs' h
      refine ⟨String.utf8EncodeChar c ++ q, c :: cs, ?_, .cons ?_ hq, ?_, hr⟩
      · rw [Front.eq_encodeChar hof, List.append_assoc]
      · exact .of_front hof hquote hback hcontrol
      · exact push_append_ofList seen c cs

/-- One character of a string, spelled in any way, is one round. -/
theorem quoted_char {rounds : Nat} {seen : String} {s : List UInt8} {c : Char}
    (h : SpellsChar s c) (r : List UInt8) :
    quoted (rounds + 1) seen (s ++ r) = quoted rounds (seen.push c) r := by
  cases h with
  | raw hc hquote hback =>
    obtain ⟨b, t, hb, hof⟩ := Front.of_encodeChar c r
    have hhead := Utf8.head_encodeChar hb
    have hne (d : Char) (hd : c ≠ d) : c.toNat ≠ d.toNat := fun h => hd (Char.toNat_inj.mp h)
    have hq : c.toNat ≠ 34 := hne _ hquote
    have hk : c.toNat ≠ 92 := hne _ hback
    rw [hb, List.cons_append, quoted, if_neg, if_neg, if_neg, hof]
    · simp only [UInt8.lt_iff_toNat_lt, Byte.space, UInt8.reduceToNat]
      omega
    · simp only [← UInt8.toNat_inj, Byte.backslash, UInt8.reduceToNat]
      omega
    · simp only [← UInt8.toNat_inj, Byte.quote, UInt8.reduceToNat]
      omega
  | short hb =>
    rw [List.cons_append, quoted, if_neg (by decide), if_pos rfl, List.singleton_append,
      escaped_short hb]
  | unit hds =>
    rw [List.cons_append, quoted, if_neg (by decide), if_pos rfl, List.cons_append, escaped_lowerU,
      unicodeEscape_unit hds]
  | pair hc hh hl =>
    rw [List.cons_append, quoted, if_neg (by decide), if_pos rfl, List.cons_append, escaped_lowerU,
      unicodeEscape_pair hc hh hl]

theorem quoted_complete {q : List UInt8} {cs : List Char} (h : SpellsChars q cs) {rounds : Nat}
    (hrounds : q.length < rounds) (seen : String) (r : List UInt8) :
    quoted rounds seen (q ++ Byte.quote :: r) = .ok (seen ++ String.ofList cs, r) := by
  induction h generalizing rounds seen with
  | nil =>
    obtain ⟨n, rfl⟩ : ∃ n, rounds = n + 1 := ⟨rounds - 1, by simp at hrounds; omega⟩
    simp [quoted]
  | cons hc _ ih =>
    have hpos := List.length_pos_iff.mpr hc.ne_nil
    rw [List.length_append] at hrounds
    obtain ⟨n, rfl⟩ : ∃ n, rounds = n + 1 := ⟨rounds - 1, by omega⟩
    rw [List.append_assoc, quoted_char hc, ih (by omega), push_append_ofList]

end AlertConsole.Json
