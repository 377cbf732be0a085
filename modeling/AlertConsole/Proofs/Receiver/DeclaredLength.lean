import AlertConsole.Proofs.Json.Grammar
import AlertConsole.Proofs.Json.Range
import AlertConsole.Receiver
set_option autoImplicit false

/-!
# What declares a length

`DeclaredLength.Declares` says which header values declare which length, and `ofValue?_eq_some_iff`
that `ofValue?` finds just that length.  Of several headers for the length the first one counts.
-/

namespace AlertConsole

open Json (Digits decimal decimalFrom)

namespace DeclaredLength

/-! ## The rule -/

/-- Blanks that may stand around a length. -/
def Padding (w : List UInt8) : Prop := ∀ b ∈ w, b = Byte.tab ∨ b = Byte.space

/-- A header value declares a length: its bytes are tabs and printable ASCII, and they are decimal
digits behind an optional plus, with blanks around them, that write a number below `2 ^ 64`. -/
def Declares (value : List UInt8) (n : Nat) : Prop :=
  (∀ b ∈ value, b = Byte.tab ∨ 0x20 ≤ b ∧ b ≤ 0x7E) ∧
    ∃ left sign ds right, value = left ++ ((sign ++ ds) ++ right) ∧ Padding left ∧ Padding right ∧
      (sign = [] ∨ sign = [Byte.plus]) ∧ Digits ds ∧ decimal ds = n ∧ n < 0x10000000000000000

/-! ## Digits -/

theorem digits?_eq_some_iff {n m : Nat} {ds : List UInt8} (hn : n < 0x10000000000000000) :
    digits? n ds = some m ↔
      (∀ d ∈ ds, Byte.isDigit d = true) ∧ decimalFrom n ds = m ∧ m < 0x10000000000000000 := by
  induction ds generalizing n with
  | nil =>
    simp only [digits?, Option.some.injEq, Json.decimalFrom_nil]
    constructor
    · rintro rfl
      exact ⟨by simp, rfl, hn⟩
    · exact fun h => h.2.1
  | cons d ds ih =>
    rw [digits?, Json.decimalFrom_cons, List.forall_mem_cons]
    by_cases hd : Byte.isDigit d = true
    · rw [if_pos hd]
      dsimp only
      split
      · rename_i hm
        rw [ih hm]
        simp [hd]
      · rename_i hm
        -- the number that the digits write only grows
        have hle := Json.le_decimalFrom (n * 10 + Byte.digit d) ds
        constructor
        · intro h
          contradiction
        · rintro ⟨-, rfl, hlt⟩
          omega
    · rw [if_neg hd]
      simp [hd]

/-! ## Blanks and the sign -/

theorem padding_iff {w : List UInt8} : Padding w ↔ ∀ b ∈ w, isPadding b = true := by
  simp [Padding, isPadding]

/-- What is trimmed are blanks on both sides. -/
theorem trim_sound (s : List UInt8) :
    ∃ left right, s = left ++ (trim s ++ right) ∧ Padding left ∧ Padding right := by
  have hall (t : List UInt8) : ∀ b ∈ t.takeWhile isPadding, isPadding b = true :=
    List.all_eq_true.mp List.all_takeWhile
  have hright := congrArg List.reverse
    (@List.takeWhile_append_dropWhile _ isPadding (s.dropWhile isPadding).reverse)
  rw [List.reverse_append, List.reverse_reverse] at hright
  refine ⟨s.takeWhile isPadding, ((s.dropWhile isPadding).reverse.takeWhile isPadding).reverse, ?_,
    padding_iff.mpr (hall s), padding_iff.mpr fun b hb => hall _ b (List.mem_reverse.mp hb)⟩
  rw [trim, hright, List.takeWhile_append_dropWhile]

theorem dropWhile_append_core {w core s : List UInt8} (hw : Padding w)
    (hcore : ∀ b ∈ core.head?, isPadding b = false) (hne : core ≠ []) :
    (w ++ (core ++ s)).dropWhile isPadding = core ++ s := by
  rw [List.dropWhile_append_of_pos (padding_iff.mp hw)]
  cases core with
  | nil => exact absurd rfl hne
  | cons b core => simp [hcore b rfl]

/-- Blanks are trimmed up to bytes that are none. -/
theorem trim_complete {left core right : List UInt8} (hleft : Padding left) (hright : Padding right)
    (hfirst : ∀ b ∈ core.head?, isPadding b = false)
    (hlast : ∀ b ∈ core.getLast?, isPadding b = false) (hne : core ≠ []) :
    trim (left ++ (core ++ right)) = core := by
  have hright' : Padding right.reverse := fun b hb => hright b (List.mem_reverse.mp hb)
  have hlast' : ∀ b ∈ core.reverse.head?, isPadding b = false := by
    rwa [List.head?_reverse]
  have hdrop := @dropWhile_append_core right.reverse core.reverse [] hright' hlast'
    (mt List.reverse_eq_nil_iff.mp hne)
  rw [List.append_nil] at hdrop
  rw [trim, dropWhile_append_core hleft hfirst hne, List.reverse_append, hdrop,
    List.reverse_reverse]

theorem withoutPlus_sound (s : List UInt8) :
    ∃ sign, s = sign ++ withoutPlus s ∧ (sign = [] ∨ sign = [Byte.plus]) := by
  cases s with
  | nil => exact ⟨[], rfl, .inl rfl⟩
  | cons b s =>
    rw [withoutPlus]
    split
    · rename_i hb
      exact ⟨[b], rfl, .inr (by rw [hb])⟩
    · exact ⟨[], rfl, .inl rfl⟩

theorem withoutPlus_complete {sign ds : List UInt8} (hsign : sign = [] ∨ sign = [Byte.plus])
    (hds : Digits ds) : withoutPlus (sign ++ ds) = ds := by
  rcases hsign with rfl | rfl
  · obtain ⟨hne, hds⟩ := hds
    cases ds with
    | nil => contradiction
    | cons d ds =>
      have hd : d ≠ Byte.plus := by
        rintro rfl
        exact absurd (hds _ List.mem_cons_self) (by decide)
      rw [List.nil_append, withoutPlus, if_neg hd]
  · rfl

theorem isTextByte_iff {b : UInt8} :
    isTextByte b = true ↔ b = Byte.tab ∨ 0x20 ≤ b ∧ b ≤ 0x7E := by
  simp [isTextByte, Byte.space]

/-- A digit is no blank. -/
theorem not_isPadding_of_isDigit {d : UInt8} (hd : Byte.isDigit d = true) :
    isPadding d = false := by
  refine Bool.eq_false_iff.mpr fun h => ?_
  simp only [isPadding, Bool.or_eq_true, decide_eq_true_eq] at h
  rcases h with rfl | rfl <;> exact absurd hd (by decide)

/-- A number with its sign starts and ends with no blank. -/
theorem trim_signed {left right sign ds : List UInt8} (hleft : Padding left)
    (hright : Padding right) (hsign : sign = [] ∨ sign = [Byte.plus]) (hds : Digits ds) :
    trim (left ++ ((sign ++ ds) ++ right)) = sign ++ ds := by
  obtain ⟨hne, hdigits⟩ := hds
  refine trim_complete hleft hright (fun b hb => ?_) (fun b hb => ?_) (by simp [hne])
  · rcases hsign with rfl | rfl
    · exact not_isPadding_of_isDigit (hdigits b (List.mem_of_head? hb))
    · obtain rfl := Option.some.inj hb
      decide
  · rw [List.getLast?_append, List.getLast?_eq_some_getLast hne, Option.some_or] at hb
    obtain rfl := Option.some.inj hb
    exact not_isPadding_of_isDigit (hdigits _ (List.getLast_mem hne))

/-- A length is found exactly if the value declares it. -/
theorem ofValue?_eq_some_iff {value : List UInt8} {n : Nat} :
    ofValue? value = some n ↔ Declares value n := by
  have hzero : 0 < 0x10000000000000000 := by decide
  have htext : value.all isTextByte = true ↔ ∀ b ∈ value, b = Byte.tab ∨ 0x20 ≤ b ∧ b ≤ 0x7E := by
    simp only [List.all_eq_true, isTextByte_iff]
  rw [ofValue?, Declares, ← htext]
  constructor
  · intro h
    split at h
    · rename_i hall
      split at h
      · contradiction
      rename_i b ds hds
      obtain ⟨hdigits, hn, hlt⟩ := (digits?_eq_some_iff hzero).mp h
      obtain ⟨left, right, hvalue, hleft, hright⟩ := trim_sound value
      obtain ⟨sign, hsplit, hsign⟩ := withoutPlus_sound (trim value)
      rw [hds] at hsplit
      refine ⟨hall, left, sign, b :: ds, right, ?_, hleft, hright, hsign,
        ⟨List.cons_ne_nil _ _, hdigits⟩, hn, hlt⟩
      rw [← hsplit, ← hvalue]
    · contradiction
  · rintro ⟨hall, left, sign, ds, right, rfl, hleft, hright, hsign, hds, hn, hlt⟩
    rw [if_pos hall, trim_signed hleft hright hsign hds, withoutPlus_complete hsign hds]
    obtain ⟨hne, hdigits⟩ := hds
    cases ds with
    | nil => contradiction
    | cons d ds => exact (digits?_eq_some_iff hzero).mpr ⟨hdigits, hn, hlt⟩

end DeclaredLength

/-! ## The first of several headers -/

/-- The first header of a name, which is given in lower case, has the value. -/
def FirstHeader (name : String) (headers : List Header) (value : List UInt8) : Prop :=
  ∃ before h after, headers = before ++ h :: after ∧ (∀ g ∈ before, lowerName g.name ≠ name) ∧
    lowerName h.name = name ∧ h.value = value

/-- No header has the name. -/
def NoHeader (name : String) (headers : List Header) : Prop :=
  ∀ h ∈ headers, lowerName h.name ≠ name

theorem firstHeader?_eq_some_iff {name : String} {headers : List Header} {value : List UInt8} :
    firstHeader? name headers = some value ↔ FirstHeader name headers value := by
  simp only [firstHeader?, Option.map_eq_some_iff, List.find?_eq_some_iff_append, beq_iff_eq,
    Bool.not_eq_true', beq_eq_false_iff_ne]
  constructor
  · rintro ⟨h, ⟨hname, before, after, hsplit, hbefore⟩, hvalue⟩
    exact ⟨before, h, after, hsplit, hbefore, hname, hvalue⟩
  · rintro ⟨before, h, after, hsplit, hbefore, hname, hvalue⟩
    exact ⟨h, ⟨hname, before, after, hsplit, hbefore⟩, hvalue⟩

theorem firstHeader?_eq_none_iff {name : String} {headers : List Header} :
    firstHeader? name headers = none ↔ NoHeader name headers := by
  simp [firstHeader?, NoHeader]

/-! ## The length of a request -/

/-- A request declares the length that the first header for it declares. -/
theorem declaredLength_eq_ok_iff {headers : List Header} {n : Nat} :
    declaredLength headers = .ok n ↔
      ∃ value, FirstHeader "content-length" headers value ∧ DeclaredLength.Declares value n := by
  simp only [← firstHeader?_eq_some_iff, ← DeclaredLength.ofValue?_eq_some_iff, declaredLength]
  cases firstHeader? "content-length" headers with
  | none => simp
  | some value => cases hvalue : DeclaredLength.ofValue? value <;> simp [hvalue]

theorem declaredLength_eq_lengthRequired_iff {headers : List Header} :
    declaredLength headers = .error .lengthRequired ↔ NoHeader "content-length" headers := by
  simp only [← firstHeader?_eq_none_iff, declaredLength]
  cases firstHeader? "content-length" headers with
  | none => simp
  | some value => cases hvalue : DeclaredLength.ofValue? value <;> simp [hvalue]

theorem declaredLength_eq_badRequest_iff {headers : List Header} :
    declaredLength headers = .error .badRequest ↔
      ∃ value, FirstHeader "content-length" headers value ∧
        ∀ n, ¬ DeclaredLength.Declares value n := by
  simp only [← firstHeader?_eq_some_iff, ← DeclaredLength.ofValue?_eq_some_iff, declaredLength]
  cases firstHeader? "content-length" headers with
  | none => simp
  | some value => cases hvalue : DeclaredLength.ofValue? value <;> simp [hvalue]

/-- A request that declares no length is refused in one of two ways. -/
theorem declaredLength_error {headers : List Header} {status : Status}
    (h : declaredLength headers = .error status) :
    status = .lengthRequired ∨ status = .badRequest := by
  rw [declaredLength] at h
  split at h
  · exact .inl (Except.error.inj h).symm
  · split at h
    · exact .inr (Except.error.inj h).symm
    · contradiction

end AlertConsole
