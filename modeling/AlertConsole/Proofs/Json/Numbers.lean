import AlertConsole.Proofs.Json.Strings
set_option autoImplicit false

/-!
# Reading number literals

The readers of `AlertConsole.Json.Literal` against the grammar of literals.  A literal does not say
where it ends, so the readers take all that could belong to it, and they read a spelling whole only
if what follows cannot go on with it (`EndsNumber`).
-/

namespace AlertConsole.Json

open Utf8 (IsText)

/-! ## What can go on with a literal -/

/-- Whether a byte could go on with a literal. -/
def extendsNumber (b : UInt8) : Bool :=
  Byte.isDigit b || b = Byte.point || b = Byte.lowerE || b = Byte.upperE

/-- The bytes start with nothing that could go on with a literal. -/
def EndsNumber (r : List UInt8) : Prop := ∀ b ∈ r.head?, extendsNumber b = false

/-- The bytes start with no digit. -/
def EndsDigits (r : List UInt8) : Prop := ∀ b ∈ r.head?, Byte.isDigit b = false

theorem endsNumber_nil : EndsNumber [] := by simp [EndsNumber]

theorem endsNumber_cons {b : UInt8} {s : List UInt8} (h : extendsNumber b = false) :
    EndsNumber (b :: s) := by simpa [EndsNumber] using h

theorem EndsNumber.endsDigits {r : List UInt8} (h : EndsNumber r) : EndsDigits r := by
  intro b hb
  have := h b hb
  simp only [extendsNumber, Bool.or_eq_false_iff] at this
  exact this.1.1.1

theorem IsExponentLetter.not_isDigit {b : UInt8} (h : IsExponentLetter b) :
    Byte.isDigit b = false := by
  rcases h with rfl | rfl <;> decide

theorem isDigit_lt {b : UInt8} (h : Byte.isDigit b = true) : b < 0x80 := by
  simp only [Byte.isDigit, Byte.zero, Byte.nine, Bool.and_eq_true, decide_eq_true_eq,
    UInt8.le_iff_toNat_le, UInt8.reduceToNat] at h
  simp only [UInt8.lt_iff_toNat_lt, UInt8.reduceToNat]
  omega

/-! ## Digits -/

theorem readDigits_sound {s ds r : List UInt8} (h : Literal.readDigits s = .ok (ds, r)) :
    s = ds ++ r ∧ Digits ds := by
  cases s with
  | nil => contradiction
  | cons b s =>
    simp only [Literal.readDigits] at h
    split at h
    · rename_i hb
      obtain ⟨rfl, rfl⟩ := Prod.mk.inj (Except.ok.inj h)
      refine ⟨by rw [List.cons_append, List.takeWhile_append_dropWhile], by simp, ?_⟩
      rintro d (_ | ⟨_, hd⟩)
      · exact hb
      · exact List.all_eq_true.mp List.all_takeWhile d hd
    · contradiction

theorem takeWhile_digits {ds r : List UInt8} (h : ∀ d ∈ ds, Byte.isDigit d = true)
    (hr : EndsDigits r) :
    (ds ++ r).takeWhile Byte.isDigit = ds ∧ (ds ++ r).dropWhile Byte.isDigit = r := by
  rw [List.takeWhile_append_of_pos h, List.dropWhile_append_of_pos h]
  cases r with
  | nil => simp
  | cons b r =>
    have hb : Byte.isDigit b = false := hr b rfl
    simp [hb]

theorem readDigits_complete {ds r : List UInt8} (h : Digits ds) (hr : EndsDigits r) :
    Literal.readDigits (ds ++ r) = .ok (ds, r) := by
  obtain ⟨hne, hds⟩ := h
  cases ds with
  | nil => contradiction
  | cons d ds =>
    obtain ⟨hd, hds⟩ := List.forall_mem_cons.mp hds
    obtain ⟨htake, hdrop⟩ := takeWhile_digits hds hr
    rw [List.cons_append, Literal.readDigits, if_pos hd, htake, hdrop]

theorem readWhole_sound {s w r : List UInt8} (h : Literal.readWhole s = .ok (w, r)) :
    s = w ++ r ∧ WholeDigits w := by
  cases s with
  | nil => contradiction
  | cons b s =>
    simp only [Literal.readWhole] at h
    split at h
    · rename_i hb
      subst hb
      cases s with
      | nil =>
        obtain ⟨rfl, rfl⟩ := Prod.mk.inj (Except.ok.inj h)
        exact ⟨rfl, .inl rfl⟩
      | cons d t =>
        simp only at h
        split at h
        · contradiction
        · obtain ⟨rfl, rfl⟩ := Prod.mk.inj (Except.ok.inj h)
          exact ⟨rfl, .inl rfl⟩
    · rename_i hb
      obtain ⟨hs, hds⟩ := readDigits_sound (s := b :: s) h
      refine ⟨hs, .inr ⟨hds, ?_⟩⟩
      cases w with
      | nil => simp
      | cons d w =>
        obtain ⟨rfl, -⟩ := List.cons.inj hs
        simpa using hb

theorem readWhole_complete {w r : List UInt8} (h : WholeDigits w) (hr : EndsDigits r) :
    Literal.readWhole (w ++ r) = .ok (w, r) := by
  rcases h with rfl | ⟨hds, hhead⟩
  · cases r with
    | nil => simp [Literal.readWhole]
    | cons b r =>
      have hb : Byte.isDigit b = false := hr b rfl
      simp [Literal.readWhole, hb]
  · have h := readDigits_complete hds hr
    cases w with
    | nil => exact absurd rfl hds.1
    | cons d w =>
      have hd : d ≠ Byte.zero := by simpa using hhead
      rw [List.cons_append] at h ⊢
      simp only [Literal.readWhole, if_neg hd]
      exact h

/-! ## Fractions and exponents -/

theorem readFraction_sound {s ds r : List UInt8} (h : Literal.readFraction s = .ok (ds, r)) :
    ∃ f, s = f ++ r ∧ SpellsFraction f ds := by
  cases s with
  | nil =>
    obtain ⟨rfl, rfl⟩ := Prod.mk.inj (Except.ok.inj h)
    exact ⟨[], rfl, .absent⟩
  | cons b s =>
    simp only [Literal.readFraction] at h
    split at h
    · rename_i hb
      subst hb
      obtain ⟨rfl, hds⟩ := readDigits_sound h
      exact ⟨Byte.point :: ds, rfl, .point hds⟩
    · obtain ⟨rfl, rfl⟩ := Prod.mk.inj (Except.ok.inj h)
      exact ⟨[], rfl, .absent⟩

theorem readFraction_complete {f ds r : List UInt8} (h : SpellsFraction f ds) (hr : EndsDigits r)
    (hpoint : ∀ b ∈ r.head?, b ≠ Byte.point) :
    Literal.readFraction (f ++ r) = .ok (ds, r) := by
  cases h with
  | absent =>
    cases r with
    | nil => rfl
    | cons b r => simp [Literal.readFraction, hpoint b rfl]
  | point hds =>
    rw [List.cons_append, Literal.readFraction, if_pos rfl]
    exact readDigits_complete hds hr

theorem readExponent_sound {s r : List UInt8} {x : Option Exponent}
    (h : Literal.readExponent s = .ok (x, r)) : ∃ e, s = e ++ r ∧ SpellsExponent e x := by
  cases s with
  | nil =>
    obtain ⟨rfl, rfl⟩ := Prod.mk.inj (Except.ok.inj h)
    exact ⟨[], rfl, .absent⟩
  | cons b s =>
    simp only [Literal.readExponent] at h
    split at h
    · rename_i hb
      split at h
      · contradiction
      · rename_i ds s' hds
        obtain ⟨rfl, rfl⟩ := Prod.mk.inj (Except.ok.inj h)
        obtain ⟨hs, hdigits⟩ := readDigits_sound hds
        -- the sign is one byte or none
        cases s with
        | nil =>
          simp only [Literal.readSign] at hs ⊢
          exact absurd (List.append_eq_nil_iff.mp hs.symm).1 hdigits.1
        | cons a s =>
          simp only [Literal.readSign] at hs ⊢
          split at hs
          · rename_i ha
            subst ha
            exact ⟨b :: Byte.minus :: ds, by simpa using hs, .minus hb hdigits⟩
          split at hs
          · rename_i ha
            subst ha
            exact ⟨b :: Byte.plus :: ds, by simpa using hs, .plus hb hdigits⟩
          · rename_i hminus hplus
            rw [if_neg hminus, if_neg hplus]
            exact ⟨b :: ds, by simpa using hs, .unsigned hb hdigits⟩
    · obtain ⟨rfl, rfl⟩ := Prod.mk.inj (Except.ok.inj h)
      exact ⟨[], rfl, .absent⟩

theorem readSign_digits {ds : List UInt8} (h : Digits ds) (r : List UInt8) :
    Literal.readSign (ds ++ r) = (false, ds ++ r) := by
  obtain ⟨hne, hds⟩ := h
  cases ds with
  | nil => contradiction
  | cons d ds =>
    have hd := hds d List.mem_cons_self
    have hminus : d ≠ Byte.minus := by rintro rfl; exact absurd hd (by decide)
    have hplus : d ≠ Byte.plus := by rintro rfl; exact absurd hd (by decide)
    rw [List.cons_append, Literal.readSign, if_neg hminus, if_neg hplus]

/-- Behind the letter of an exponent there must be digits. -/
theorem readExponent_letter {b : UInt8} (h : IsExponentLetter b) {s ds r : List UInt8}
    {negative : Bool} (hs : Literal.readSign s = (negative, ds ++ r)) (hds : Digits ds)
    (hr : EndsDigits r) :
    Literal.readExponent (b :: s) = .ok (some ⟨negative, ds⟩, r) := by
  have hb : b = Byte.lowerE ∨ b = Byte.upperE := h
  rw [Literal.readExponent, if_pos hb, hs]
  simp only [readDigits_complete hds hr]

theorem readExponent_complete {e r : List UInt8} {x : Option Exponent} (h : SpellsExponent e x)
    (hr : EndsNumber r) : Literal.readExponent (e ++ r) = .ok (x, r) := by
  cases h with
  | absent =>
    cases r with
    | nil => rfl
    | cons b r =>
      have hb := hr b rfl
      simp only [extendsNumber, Bool.or_eq_false_iff, decide_eq_false_iff_not] at hb
      rw [List.nil_append, Literal.readExponent, if_neg (by simp [hb.1.2, hb.2])]
  | unsigned he hds => exact readExponent_letter he (readSign_digits hds r) hds hr.endsDigits
  | plus he hds => exact readExponent_letter he rfl hds hr.endsDigits
  | minus he hds => exact readExponent_letter he rfl hds hr.endsDigits

/-! ## Literals -/

theorem readLiteral_sound {negative : Bool} {s r : List UInt8} {l : Literal}
    (h : Literal.read negative s = .ok (l, r)) :
    ∃ c, s = c ++ r ∧ SpellsUnsigned c l ∧ l.negative = negative := by
  simp only [Literal.read, bind_eq_ok_iff, Prod.exists] at h
  obtain ⟨whole, s₁, hwhole, fraction, s₂, hfraction, exponent, s₃, hexponent, h⟩ := h
  obtain ⟨rfl, rfl⟩ := Prod.mk.inj (Except.ok.inj h)
  obtain ⟨rfl, hw⟩ := readWhole_sound hwhole
  obtain ⟨f, rfl, hf⟩ := readFraction_sound hfraction
  obtain ⟨e, rfl, he⟩ := readExponent_sound hexponent
  exact ⟨whole ++ (f ++ e), by simp, .mk hw hf he, rfl⟩

/-- What follows a fraction of a literal is no digit and no point. -/
theorem SpellsExponent.endsDigits {e r : List UInt8} {x : Option Exponent}
    (h : SpellsExponent e x) (hr : EndsNumber r) :
    EndsDigits (e ++ r) ∧ ∀ b ∈ (e ++ r).head?, b ≠ Byte.point := by
  have hletter {b : UInt8} {s : List UInt8} (hb : IsExponentLetter b) :
      EndsDigits (b :: s) ∧ ∀ a ∈ (b :: s).head?, a ≠ Byte.point := by
    constructor
    · rintro _ ⟨rfl⟩
      exact hb.not_isDigit
    · rintro _ ⟨rfl⟩
      rcases hb with rfl | rfl <;> decide
  cases h with
  | absent =>
    refine ⟨hr.endsDigits, fun b hb => ?_⟩
    have := hr b hb
    simp only [extendsNumber, Bool.or_eq_false_iff, decide_eq_false_iff_not] at this
    exact this.1.1.2
  | unsigned he _ => exact hletter he
  | plus he _ => exact hletter he
  | minus he _ => exact hletter he

theorem readLiteral_complete {c r : List UInt8} {l : Literal} (h : SpellsUnsigned c l)
    (hr : EndsNumber r) : Literal.read l.negative (c ++ r) = .ok (l, r) := by
  obtain @⟨negative, whole, fraction, f, e, exponent, hw, hf, he⟩ := h
  obtain ⟨hdigits, hpoint⟩ := he.endsDigits hr
  have hfraction : EndsDigits (f ++ (e ++ r)) := by
    cases hf with
    | absent => exact hdigits
    | point _ =>
      rintro _ ⟨rfl⟩
      decide
  rw [Literal.read, List.append_assoc, List.append_assoc, ok_bind (readWhole_complete hw hfraction)]
  dsimp only
  rw [ok_bind (readFraction_complete hf hdigits hpoint)]
  dsimp only
  rw [ok_bind (readExponent_complete he hr)]

theorem Digits.isText {ds : List UInt8} (h : Digits ds) : IsText ds :=
  Utf8.isText_of_ascii fun d hd => isDigit_lt (h.2 d hd)

theorem SpellsUnsigned.isText {s : List UInt8} {l : Literal} (h : SpellsUnsigned s l) :
    IsText s := by
  obtain ⟨hw, hf, he⟩ := h
  have hletter {b : UInt8} (hb : IsExponentLetter b) : b < 0x80 := by
    rcases hb with rfl | rfl <;> decide
  refine .append ?_ (.append ?_ ?_)
  · rcases hw with rfl | ⟨hds, -⟩
    · exact Utf8.isText_singleton (by decide)
    · exact hds.isText
  · cases hf with
    | absent => exact Utf8.isText_nil
    | point hds => exact hds.isText.cons (by decide)
  · cases he with
    | absent => exact Utf8.isText_nil
    | unsigned hb hds => exact hds.isText.cons (hletter hb)
    | plus hb hds =>
      rw [Utf8.isText_cons_iff (hletter hb), Utf8.isText_cons_iff (by decide)]
      exact hds.isText
    | minus hb hds =>
      rw [Utf8.isText_cons_iff (hletter hb), Utf8.isText_cons_iff (by decide)]
      exact hds.isText

theorem SpellsLiteral.isText {s : List UInt8} {l : Literal} (h : SpellsLiteral s l) :
    IsText s := by
  cases h with
  | plain _ h => exact h.isText
  | minus _ h => exact h.isText.cons (by decide)

/-- A literal without its sign starts with a digit. -/
theorem SpellsUnsigned.exists_cons {s : List UInt8} {l : Literal} (h : SpellsUnsigned s l) :
    ∃ d t, s = d :: t ∧ Byte.isDigit d = true := by
  obtain @⟨_, whole, _, f, e, _, hw, _, _⟩ := h
  rcases hw with rfl | ⟨⟨hne, hds⟩, -⟩
  · exact ⟨_, _, rfl, by decide⟩
  · cases whole with
    | nil => contradiction
    | cons d ds => exact ⟨d, ds ++ (f ++ e), rfl, hds d List.mem_cons_self⟩

/-- A number behind its sign: a literal that has the number. -/
theorem number_sound {negative : Bool} {s r : List UInt8} {n : Number}
    (h : number negative s = .ok (n, r)) :
    ∃ c l, s = c ++ r ∧ SpellsUnsigned c l ∧ l.negative = negative ∧ l.number = .ok n := by
  simp only [number, bind_eq_ok_iff, Prod.exists] at h
  obtain ⟨l, s', hl, h⟩ := h
  obtain ⟨c, rfl, hc, hneg⟩ := readLiteral_sound hl
  split at h
  · rename_i n' hn
    obtain ⟨rfl, rfl⟩ := Prod.mk.inj (Except.ok.inj h)
    exact ⟨c, l, rfl, hc, hneg, hn⟩
  · contradiction

theorem number_complete {c r : List UInt8} {l : Literal} {n : Number} (h : SpellsUnsigned c l)
    (hn : l.number = .ok n) (hr : EndsNumber r) :
    number l.negative (c ++ r) = .ok (n, r) := by
  rw [number, ok_bind (readLiteral_complete h hr)]
  simp only [hn]

end AlertConsole.Json
