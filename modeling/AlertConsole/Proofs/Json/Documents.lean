import AlertConsole.Proofs.Json.Containers
set_option autoImplicit false

/-!
# Reading JSON texts as the grammar has them

`read_eq_ok_iff` is what `read` does with a text in UTF-8: it finds a value exactly if the text
spells a tree that is not nested too deep and stands for that value.  The induction is on the depth
that is left; arrays and objects of the next depth come from `AlertConsole.Proofs.Json.Containers`.
-/

namespace AlertConsole.Json

open Utf8 (IsText)

/-! ## Scalars -/

theorem word_sound {v v' : Value} {es s r : List UInt8} (h : word v es s = .ok (v', r)) :
    v' = v ∧ s = es ++ r := by
  induction es generalizing s with
  | nil =>
    obtain ⟨rfl, rfl⟩ := Prod.mk.inj (Except.ok.inj h)
    exact ⟨rfl, rfl⟩
  | cons e es ih =>
    cases s with
    | nil => contradiction
    | cons b s =>
      rw [word] at h
      split at h
      · rename_i hb
        obtain ⟨rfl, rfl⟩ := ih h
        exact ⟨rfl, by rw [hb, List.cons_append]⟩
      · contradiction

theorem word_complete (v : Value) (es r : List UInt8) : word v es (es ++ r) = .ok (v, r) := by
  induction es with
  | nil => rfl
  | cons e es ih => rw [List.cons_append, word, if_pos rfl, ih]

/-- Whether a tree is neither an array nor an object. -/
def Tree.isScalar : Tree → Bool
  | .array _ => false
  | .object _ => false
  | _ => true

theorem Tree.depth_of_isScalar {t : Tree} (h : t.isScalar = true) : t.depth = 0 := by
  cases t <;> first | rfl | contradiction

/-- What is read as a scalar. -/
theorem scalar_sound {bound : Nat} {b : UInt8} {s r : List UInt8} {v : Value}
    (hs : IsText (b :: s)) (h : scalar bound b s = .ok (v, r)) :
    ∃ c t, b :: s = c ++ r ∧ Spells c t ∧ t.isScalar = true ∧ t.StandsFor v ∧ IsText r := by
  have hspelled {c : List UInt8} {t : Tree} (hc : IsText c) (hsplit : b :: s = c ++ r)
      (ht : Spells c t) (hscalar : t.isScalar = true) (hv : t.StandsFor v) :
      ∃ c t, b :: s = c ++ r ∧ Spells c t ∧ t.isScalar = true ∧ t.StandsFor v ∧ IsText r :=
    ⟨c, t, hsplit, ht, hscalar, hv, Utf8.IsText.of_append (hsplit ▸ hs) hc⟩
  unfold scalar at h
  split at h
  · rename_i hb
    obtain ⟨rfl, rfl⟩ := word_sound h
    obtain rfl := hb
    exact hspelled (Utf8.isText_bytes "null") rfl .nullWord rfl rfl
  split at h
  · rename_i hb
    obtain ⟨rfl, rfl⟩ := word_sound h
    obtain rfl := hb
    exact hspelled (Utf8.isText_bytes "true") rfl .trueWord rfl rfl
  split at h
  · rename_i hb
    obtain ⟨rfl, rfl⟩ := word_sound h
    obtain rfl := hb
    exact hspelled (Utf8.isText_bytes "false") rfl .falseWord rfl rfl
  split at h
  · rename_i hb
    obtain rfl := hb
    split at h
    · contradiction
    rename_i text s' hquoted
    obtain ⟨rfl, rfl⟩ := Prod.mk.inj (Except.ok.inj h)
    obtain ⟨q, cs, rfl, hq, rfl, hr⟩ :=
      quoted_sound (hs.of_cons (by decide)) hquoted
    refine ⟨Byte.quote :: (q ++ [Byte.quote]), .string _, by simp, .string (.mk ?_), rfl, rfl, hr⟩
    simpa using hq
  split at h
  · rename_i hb
    obtain rfl := hb
    split at h
    · contradiction
    rename_i n s' hnumber
    obtain ⟨rfl, rfl⟩ := Prod.mk.inj (Except.ok.inj h)
    obtain ⟨c, l, rfl, hc, hneg, hn⟩ := number_sound hnumber
    have hl : SpellsLiteral (Byte.minus :: c) l := .minus hneg hc
    exact hspelled hl.isText rfl (.number hl) rfl (standsFor_number_iff.mpr ⟨n, rfl, hn⟩)
  split at h
  · split at h
    · contradiction
    rename_i n s' hnumber
    obtain ⟨rfl, rfl⟩ := Prod.mk.inj (Except.ok.inj h)
    obtain ⟨c, l, hsplit, hc, hneg, hn⟩ := number_sound hnumber
    have hl : SpellsLiteral c l := .plain hneg hc
    exact hspelled hl.isText hsplit (.number hl) rfl (standsFor_number_iff.mpr ⟨n, rfl, hn⟩)
  · contradiction

theorem scalar_quote {bound : Nat} {s r : List UInt8} {t : String}
    (h : quoted (bound + 1) "" s = .ok (t, r)) :
    scalar bound Byte.quote s = .ok (.string t, r) := by
  rw [scalar, if_neg (by decide), if_neg (by decide), if_neg (by decide), if_pos rfl, h]

theorem scalar_minus {bound : Nat} {s r : List UInt8} {n : Number}
    (h : number true s = .ok (n, r)) : scalar bound Byte.minus s = .ok (.number n, r) := by
  rw [scalar, if_neg (by decide), if_neg (by decide), if_neg (by decide), if_neg (by decide),
    if_pos rfl, h]

theorem scalar_digit {bound : Nat} {d : UInt8} {s r : List UInt8} {n : Number}
    (hd : Byte.isDigit d = true) (h : number false (d :: s) = .ok (n, r)) :
    scalar bound d s = .ok (.number n, r) := by
  have hne {b : UInt8} (hb : Byte.isDigit b = false) : d ≠ b := ne_of_isDigit hd hb
  rw [scalar, if_neg (hne rfl), if_neg (hne rfl), if_neg (hne rfl), if_neg (hne rfl),
    if_neg (hne rfl), if_pos hd, h]

/-- Scalars start with other bytes than arrays and objects, and are read at any depth. -/
theorem value_cons_scalar {bound depth : Nat} {b : UInt8}
    (h : isBlank b = false ∧ b ≠ Byte.openBracket ∧ b ≠ Byte.openBrace) (s : List UInt8) :
    value bound depth (b :: s) = scalar bound b s := by
  obtain ⟨hblank, hbracket, hbrace⟩ := h
  cases depth with
  | zero =>
    have hne : ¬ (b = Byte.openBracket ∨ b = Byte.openBrace) := not_or.mpr ⟨hbracket, hbrace⟩
    simp only [value, skipBlanks_cons hblank, if_neg hne]
  | succ depth => simp only [value, skipBlanks_cons hblank, if_neg hbracket, if_neg hbrace]

theorem value_cons_array (bound depth : Nat) (s : List UInt8) :
    value bound (depth + 1) (Byte.openBracket :: s) = array bound (value bound depth) s := by
  simp only [value, skipBlanks_cons isBlank_openBracket, if_true]

theorem value_cons_object (bound depth : Nat) (s : List UInt8) :
    value bound (depth + 1) (Byte.openBrace :: s) = object bound (value bound depth) s := by
  have hne : Byte.openBrace ≠ Byte.openBracket := by decide
  simp only [value, skipBlanks_cons isBlank_openBrace, if_neg hne, if_true]

/-- Blanks before a value do not matter. -/
theorem value_blanks {bound : Nat} {u : List UInt8} (hu : Blanks u) (depth : Nat)
    (s : List UInt8) : value bound depth (u ++ s) = value bound depth s := by
  cases depth <;> simp only [value, skipBlanks_append hu]

/-- A scalar is read at any depth, if what follows does not go on with a number. -/
theorem value_complete_scalar {bound depth : Nat} {c r : List UInt8} {t : Tree} {v : Value}
    (hc : Spells c t) (hscalar : t.isScalar = true) (hv : t.StandsFor v)
    (hbound : c.length ≤ bound) (hr : EndsNumber r) :
    value bound depth (c ++ r) = .ok (v, r) := by
  cases hc with
  | nullWord =>
    obtain rfl := Option.some.inj hv
    exact (value_cons_scalar (by decide) _).trans
      (word_complete .null [0x75, 0x6C, 0x6C] r)
  | trueWord =>
    obtain rfl := Option.some.inj hv
    exact (value_cons_scalar (by decide) _).trans
      (word_complete (.bool true) [0x72, 0x75, 0x65] r)
  | falseWord =>
    obtain rfl := Option.some.inj hv
    exact (value_cons_scalar (by decide) _).trans
      (word_complete (.bool false) [0x61, 0x6C, 0x73, 0x65] r)
  | number hl =>
    obtain ⟨n, rfl, hn⟩ := standsFor_number_iff.mp hv
    cases hl with
    | minus hneg hl =>
      rw [List.cons_append, value_cons_scalar (by decide)]
      have hread := number_complete hl hn hr
      rw [hneg] at hread
      exact scalar_minus hread
    | plain hneg hl =>
      have hread := number_complete hl hn hr
      obtain ⟨d, s, rfl, hd⟩ := hl.exists_cons
      rw [hneg] at hread
      have hstart : isBlank d = false ∧ d ≠ Byte.openBracket ∧ d ≠ Byte.openBrace :=
        ⟨not_isBlank_of_isDigit hd, ne_of_isDigit hd rfl, ne_of_isDigit hd rfl⟩
      rw [List.cons_append, value_cons_scalar hstart]
      exact scalar_digit hd hread
  | @string _ text h =>
    obtain ⟨rfl⟩ := hv
    obtain @⟨q, _, hq⟩ := h
    simp only [List.length_cons, List.length_append] at hbound
    rw [List.cons_append, List.append_assoc, List.cons_append, List.nil_append,
      value_cons_scalar (by decide)]
    have hread := @quoted_complete q text.toList hq (bound + 1) (by omega) "" r
    rw [String.ofList_toList, String.empty_append] at hread
    exact scalar_quote hread
  | emptyArray => contradiction
  | array => contradiction
  | emptyObject => contradiction
  | object => contradiction

/-! ## Values -/

/-- A tree is nested as deep as given at most, and stands for a value. -/
def StandsWithin (depth : Nat) (t : Tree) (v : Value) : Prop := t.depth ≤ depth ∧ t.StandsFor v

theorem standsWithin_of_isScalar {depth : Nat} {t : Tree} {v : Value} (h : t.isScalar = true)
    (hv : t.StandsFor v) : StandsWithin depth t v :=
  ⟨by rw [t.depth_of_isScalar h]; exact Nat.zero_le depth, hv⟩

theorem standsWithin_array_iff {depth : Nat} {ts : List Tree} {v : Value} :
    StandsWithin (depth + 1) (.array ts) v ↔
      ∃ vs, v = .array vs ∧ List.Forall₂ (StandsWithin depth) ts vs := by
  have hitems (vs : List Value) : List.Forall₂ (StandsWithin depth) ts vs ↔
      itemsDepth ts ≤ depth ∧ List.Forall₂ Tree.StandsFor ts vs := by
    rw [itemsDepth_le_iff]
    exact List.forall₂_and_left _ _
  simp only [StandsWithin, Tree.depth, standsFor_array_iff, Nat.add_le_add_iff_right, hitems]
  grind

theorem standsWithin_object_iff {depth : Nat} {ms : List (String × Tree)} {v : Value} :
    StandsWithin (depth + 1) (.object ms) v ↔
      ∃ written, v = .object (Members.ofList written) ∧
        List.Forall₂ (Keyed (StandsWithin depth)) ms written := by
  have hmembers (written : List (String × Value)) :
      List.Forall₂ (Keyed (StandsWithin depth)) ms written ↔
        membersDepth ms ≤ depth ∧ List.Forall₂ (Keyed Tree.StandsFor) ms written := by
    rw [membersDepth_le_iff, ← List.forall₂_and_left]
    exact ⟨.imp fun _ _ h => ⟨h.2.1, h.1, h.2.2⟩, .imp fun _ _ h => ⟨h.2.1, h.1, h.2.2⟩⟩
  simp only [StandsWithin, Tree.depth, standsFor_object_iff, Nat.add_le_add_iff_right, hmembers]
  grind

/-- What is read as a value. -/
theorem value_sound (bound depth : Nat) : Sound (StandsWithin depth) (value bound depth) := by
  induction depth with
  | zero =>
    intro s r v hs h
    rw [value] at h
    split at h
    · contradiction
    rename_i b s' hskip
    obtain ⟨u, rfl, hu, hs'⟩ := skipBlanks_sound hs hskip
    split at h
    · contradiction
    obtain ⟨c, t, hsplit, hc, hscalar, hv, hr⟩ := scalar_sound hs' h
    exact ⟨u, c, t, by rw [hsplit], hu, hc, standsWithin_of_isScalar hscalar hv, hr⟩
  | succ depth ih =>
    intro s r v hs h
    rw [value] at h
    split at h
    · contradiction
    rename_i b s' hskip
    obtain ⟨u, rfl, hu, hs'⟩ := skipBlanks_sound hs hskip
    split at h
    · rename_i hb
      obtain rfl := hb
      obtain ⟨c, ts, vs, rfl, hc, hvs, rfl, hr⟩ := array_sound ih (hs'.of_cons (by decide)) h
      exact ⟨u, _, .array ts, rfl, hu, hc, standsWithin_array_iff.mpr ⟨vs, rfl, hvs⟩, hr⟩
    split at h
    · rename_i hb
      obtain rfl := hb
      obtain ⟨c, ms, written, rfl, hc, hms, rfl, hr⟩ := object_sound ih (hs'.of_cons (by decide)) h
      exact ⟨u, _, .object ms, rfl, hu, hc, standsWithin_object_iff.mpr ⟨written, rfl, hms⟩, hr⟩
    · obtain ⟨c, t, hsplit, hc, hscalar, hv, hr⟩ := scalar_sound hs' h
      exact ⟨u, c, t, by rw [hsplit], hu, hc, standsWithin_of_isScalar hscalar hv, hr⟩

/-- An array or an object is nested at least one deep. -/
theorem Tree.depth_pos {t : Tree} (h : t.isScalar = false) : 0 < t.depth := by
  cases t with
  | array ts => exact Nat.succ_pos _
  | object ms => exact Nat.succ_pos _
  | null => contradiction
  | bool b => contradiction
  | number l => contradiction
  | string s => contradiction

theorem Spells.exists_bracket {c : List UInt8} {ts : List Tree} (h : Spells c (.array ts)) :
    ∃ s, c = Byte.openBracket :: s := by
  cases h with
  | emptyArray => exact ⟨_, rfl⟩
  | array => exact ⟨_, rfl⟩

theorem Spells.exists_brace {c : List UInt8} {ms : List (String × Tree)}
    (h : Spells c (.object ms)) : ∃ s, c = Byte.openBrace :: s := by
  cases h with
  | emptyObject => exact ⟨_, rfl⟩
  | object => exact ⟨_, rfl⟩

theorem value_succ_object {bound depth : Nat} {c : List UInt8} {ms : List (String × Tree)}
    {v : Value} (hstep : Complete bound (StandsWithin depth) (value bound depth))
    (hc : Spells c (.object ms)) (hv : StandsWithin (depth + 1) (.object ms) v)
    (hbound : c.length ≤ bound) (r : List UInt8) :
    value bound (depth + 1) (c ++ r) = .ok (v, r) := by
  obtain ⟨s, rfl⟩ := hc.exists_brace
  obtain ⟨written, rfl, hms⟩ := standsWithin_object_iff.mp hv
  rw [List.cons_append, value_cons_object]
  exact object_complete hstep hc hms (Nat.le_of_succ_le hbound) r

/-- A value is read whole, behind blanks, if what follows does not go on with a number. -/
theorem value_complete (bound depth : Nat) :
    Complete bound (StandsWithin depth) (value bound depth) := by
  induction depth with
  | zero =>
    intro u c r t v hu hc hv hbound hr
    have hscalar : t.isScalar = true := by
      by_contra h
      have hpos := Tree.depth_pos (Bool.not_eq_true _ ▸ h)
      have hle := hv.1
      omega
    rw [value_blanks hu, value_complete_scalar hc hscalar hv.2 hbound hr]
  | succ depth ih =>
    intro u c r t v hu hc hv hbound hr
    rw [value_blanks hu]
    cases t with
    | array ts =>
      obtain ⟨s, rfl⟩ := hc.exists_bracket
      obtain ⟨vs, rfl, hvs⟩ := standsWithin_array_iff.mp hv
      rw [List.cons_append, value_cons_array]
      exact array_complete ih hc hvs (Nat.le_of_succ_le hbound) r
    | object ms => exact value_succ_object ih hc hv hbound r
    | null => exact value_complete_scalar hc rfl hv.2 hbound hr
    | bool b => exact value_complete_scalar hc rfl hv.2 hbound hr
    | number l => exact value_complete_scalar hc rfl hv.2 hbound hr
    | string s => exact value_complete_scalar hc rfl hv.2 hbound hr

/-! ## Texts -/

theorem Padded.isText {α : Type} {G : List UInt8 → α → Prop} {s : List UInt8} {x : α}
    (h : Padded G s x) (hG : ∀ {s : List UInt8}, G s x → IsText s) : IsText s := by
  obtain ⟨hu, hs, hw⟩ := h
  exact hu.isText.append ((hG hs).append hw.isText)

theorem Listed.isText {α : Type} {G : List UInt8 → α → Prop} {s : List UInt8} {xs : List α}
    (h : Listed G s xs) (hG : ∀ x ∈ xs, ∀ {s : List UInt8}, G s x → IsText s) : IsText s := by
  induction h with
  | one hx => exact hG _ List.mem_cons_self hx
  | more hx _ ih =>
    refine (hG _ List.mem_cons_self hx).append (.cons ?_ (by decide))
    exact ih fun x hmem => hG x (List.mem_cons_of_mem _ hmem)

/-- Quotes, brackets and braces are bytes of their own. -/
theorem isText_enclosed {s : List UInt8} {b e : UInt8} (hs : IsText s) (hb : b < 0x80)
    (he : e < 0x80) : IsText (b :: (s ++ [e])) :=
  (hs.append (Utf8.isText_singleton he)).cons hb

theorem SpellsString.isText {s : List UInt8} {t : String} (h : SpellsString s t) : IsText s := by
  obtain ⟨hq⟩ := h
  exact isText_enclosed hq.isText (by decide) (by decide)

/-- A spelling is text in UTF-8. -/
theorem Spells.isText {c : List UInt8} {t : Tree} (h : Spells c t) : IsText c := by
  -- the elements of an array, and the members of an object, are nested one less deep
  induction hd : t.depth using Nat.strongRecOn generalizing c t with
  | ind d ih =>
    cases h with
    | nullWord => exact Utf8.isText_bytes "null"
    | trueWord => exact Utf8.isText_bytes "true"
    | falseWord => exact Utf8.isText_bytes "false"
    | number hl => exact hl.isText
    | string ht => exact ht.isText
    | emptyArray hw => exact isText_enclosed hw.isText (by decide) (by decide)
    | emptyObject hw => exact isText_enclosed hw.isText (by decide) (by decide)
    | @array s ts hts =>
      refine isText_enclosed (hts.isText fun t ht _ hpadded => ?_) (by decide) (by decide)
      have hlt : t.depth < d := by
        have hle := itemsDepth_le_iff.mp (Nat.le_refl _) t ht
        rw [Tree.depth] at hd
        omega
      exact hpadded.isText fun hc => ih _ hlt hc rfl
    | @object s ms hms =>
      refine isText_enclosed (hms.isText fun m hm _ hmember => ?_) (by decide) (by decide)
      have hlt : m.2.depth < d := by
        have hle := membersDepth_le_iff.mp (Nat.le_refl _) m hm
        rw [Tree.depth] at hd
        omega
      obtain ⟨hkey, hx⟩ := hmember
      have hvalue : IsText _ := hx.isText fun hc => ih _ hlt hc rfl
      exact (hkey.isText SpellsString.isText).append (hvalue.cons (by decide))

theorem SpellsText.isText {s : List UInt8} {t : Tree} (h : SpellsText s t) : IsText s :=
  Padded.isText h Spells.isText

/-- An object is read whatever stands behind it: it says itself where it ends. -/
theorem value_complete_object {bound depth : Nat} {u c : List UInt8} {ms : List (String × Tree)}
    {v : Value} (hu : Blanks u) (hc : Spells c (.object ms))
    (hv : StandsWithin depth (.object ms) v) (hbound : c.length ≤ bound) (r : List UInt8) :
    value bound depth (u ++ (c ++ r)) = .ok (v, r) := by
  cases depth with
  | zero => exact absurd hv.1 (Nat.not_succ_le_zero _)
  | succ depth =>
    rw [value_blanks hu]
    exact value_succ_object (value_complete bound depth) hc hv hbound r

/-- A text has a value exactly if it spells a tree that stands for that value and is not nested too
deep. -/
theorem read_eq_ok_iff {s : List UInt8} {v : Value} (hs : IsText s) :
    read s = .ok v ↔ ∃ t, SpellsText s t ∧ StandsWithin maxDepth t v := by
  constructor
  · intro h
    rw [read] at h
    split at h
    · contradiction
    rename_i v' r hvalue
    obtain ⟨u, c, t, rfl, hu, hc, hv, hr⟩ := value_sound s.length maxDepth hs hvalue
    split at h
    · rename_i hskip
      obtain rfl := Except.ok.inj h
      obtain ⟨w, rfl, hw, -⟩ := skipBlanks_sound hr hskip
      rw [List.append_nil]
      exact ⟨t, .mk hu hc hw, hv⟩
    · contradiction
  · rintro ⟨t, ⟨hu, hc, hw⟩, hv⟩
    rename_i u c w
    have hend : EndsNumber w := by
      have hblanks := EndsNumber.blanks_append hw endsNumber_nil
      rwa [List.append_nil] at hblanks
    have hbound : c.length ≤ (u ++ (c ++ w)).length := by
      simp only [List.length_append]
      omega
    simp only [read, value_complete _ maxDepth hu hc hv hbound hend, skipBlanks_blanks hw]

/-- A text is accepted as what it says: it is not nested too deep, and its numbers are in range. -/
structure Accepted (s : List UInt8) (t : Tree) : Prop where
  spelled : SpellsText s t
  shallow : t.depth ≤ 127
  inRange : t.InRange

/-- An accepted text has the value that its tree stands for. -/
theorem Accepted.read_eq {s : List UInt8} {t : Tree} {v : Value} (h : Accepted s t)
    (hv : t.StandsFor v) : read s = .ok v :=
  (read_eq_ok_iff h.spelled.isText).mpr ⟨t, h.spelled, h.shallow, hv⟩

theorem Accepted.exists_read {s : List UInt8} {t : Tree} (h : Accepted s t) :
    ∃ v, t.StandsFor v ∧ read s = .ok v := by
  obtain ⟨v, hv⟩ := h.inRange.exists_standsFor
  exact ⟨v, hv, h.read_eq hv⟩

/-- A text that has a value is accepted. -/
theorem exists_accepted {s : List UInt8} {v : Value} (hs : IsText s) (h : read s = .ok v) :
    ∃ t, Accepted s t ∧ t.StandsFor v := by
  obtain ⟨t, hspelled, hdepth, hv⟩ := (read_eq_ok_iff hs).mp h
  exact ⟨t, ⟨hspelled, hdepth, hv.inRange⟩, hv⟩

end AlertConsole.Json
