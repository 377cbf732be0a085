import AlertConsole.Proofs.Json.Documents
set_option autoImplicit false

/-!
# No text says two things

A text spells one tree at most (`SpellsText.unique`).  Where a token ends is determined by the bytes
that it begins, so each rule of the grammar is given what may follow: a number has to be followed by
something that does not go on with it, and a thing with blanks around it by no blank.
-/

namespace AlertConsole.Json

/-- The spelling of a thing, and the thing, are determined by bytes that begin with the spelling, if
what follows it is as given. -/
def Determined {α : Type} (Ends : List UInt8 → Prop) (G : List UInt8 → α → Prop) (x : α) : Prop :=
  ∀ ⦃s s' r r' : List UInt8⦄ ⦃x' : α⦄, G s x → G s' x' → Ends r → Ends r' →
    s ++ r = s' ++ r' → s = s' ∧ x = x'

/-- What a reader reads, whatever stands behind it, is determined. -/
theorem determined_of_step {α : Type} {Ends : List UInt8 → Prop} {G : List UInt8 → α → Prop}
    (step : Step α)
    (hstep : ∀ {s r : List UInt8} {x : α}, G s x → Ends r → step (s ++ r) = .ok (x, r)) (x : α) :
    Determined Ends G x := by
  intro s s' r r' x' hs hs' hr hr' heq
  have hread := hstep hs hr
  rw [heq, hstep hs' hr'] at hread
  obtain ⟨rfl, rfl⟩ := Prod.mk.inj (Except.ok.inj hread)
  exact ⟨List.append_cancel_right heq, rfl⟩

/-! ## Numbers and strings -/

theorem unsigned_determined (negative : Bool) (l : Literal) :
    Determined EndsNumber (fun s l => SpellsUnsigned s l ∧ l.negative = negative) l := by
  apply determined_of_step (Literal.read negative)
  rintro s r l ⟨hs, rfl⟩ hr
  exact readLiteral_complete hs hr

theorem literal_determined (l : Literal) : Determined EndsNumber SpellsLiteral l := by
  -- a minus is no digit
  have hminus {s r r' : List UInt8} {l : Literal} (h : SpellsUnsigned s l) :
      s ++ r ≠ Byte.minus :: r' := by
    obtain ⟨d, t, rfl, hd⟩ := h.exists_cons
    intro heq
    exact ne_of_isDigit hd rfl (List.cons.inj heq).1
  intro s s' r r' l' hs hs' hr hr' heq
  cases hs with
  | plain hneg hs =>
    cases hs' with
    | plain hneg' hs' => exact unsigned_determined false l ⟨hs, hneg⟩ ⟨hs', hneg'⟩ hr hr' heq
    | minus => exact absurd heq (hminus hs)
  | minus hneg hs =>
    cases hs' with
    | plain _ hs' => exact absurd heq.symm (hminus hs')
    | minus hneg' hs' =>
      have hrest := (List.cons.inj heq).2
      obtain ⟨rfl, rfl⟩ :=
        unsigned_determined true l ⟨hs, hneg⟩ ⟨hs', hneg'⟩ hr hr' hrest
      exact ⟨rfl, rfl⟩

/-- A string ends at its closing quote, whatever follows. -/
theorem string_determined (t : String) : Determined (fun _ => True) SpellsString t := by
  apply determined_of_step fun s => quoted s.length "" s.tail
  rintro _ r t ⟨hs⟩ -
  rename_i q
  have hlength : q.length < (Byte.quote :: (q ++ [Byte.quote]) ++ r).length := by
    simp only [List.length_append, List.length_cons, List.length_nil]
    omega
  have hread := quoted_complete hs hlength "" r
  rw [String.ofList_toList, String.empty_append] at hread
  rw [← hread, List.cons_append, List.append_assoc]
  rfl

/-! ## Blanks -/

/-- The bytes start with no blank. -/
def EndsBlanks (r : List UInt8) : Prop := ∀ b ∈ r.head?, isBlank b = false

/-- The bytes start with no blank and with nothing that could go on with a literal. -/
def EndsPadded (r : List UInt8) : Prop := EndsBlanks r ∧ EndsNumber r

theorem endsBlanks_nil : EndsBlanks [] := by simp [EndsBlanks]

theorem endsBlanks_cons {b : UInt8} {s : List UInt8} (h : isBlank b = false) :
    EndsBlanks (b :: s) := by simpa [EndsBlanks] using h

theorem EndsBlanks.skipBlanks_eq {r : List UInt8} (h : EndsBlanks r) : skipBlanks r = r := by
  cases r with
  | nil => rfl
  | cons b r => exact skipBlanks_cons (h b rfl) r

theorem blanks_determined {w w' r r' : List UInt8} (hw : Blanks w) (hw' : Blanks w')
    (hr : EndsBlanks r) (hr' : EndsBlanks r') (heq : w ++ r = w' ++ r') : w = w' ∧ r = r' := by
  have hskip := congrArg skipBlanks heq
  rw [skipBlanks_append hw, skipBlanks_append hw', hr.skipBlanks_eq, hr'.skipBlanks_eq] at hskip
  obtain rfl := hskip
  exact ⟨List.append_cancel_right heq, rfl⟩

section

variable {α : Type} {G : List UInt8 → α → Prop}

/-- Blanks around a thing are determined if the thing starts with none. -/
theorem padded_determined
    (hstart : ∀ {s : List UInt8} {x : α}, G s x → ∃ b t, s = b :: t ∧ isBlank b = false) {x : α}
    (hG : Determined EndsNumber G x) : Determined EndsPadded (Padded G) x := by
  have hends {s r : List UInt8} {x : α} (h : G s x) : EndsBlanks (s ++ r) := by
    obtain ⟨b, t, rfl, hb⟩ := hstart h
    exact endsBlanks_cons hb
  rintro _ _ r r' _ @⟨u, c, w, _, hu, hc, hw⟩ @⟨u', c', w', _, hu', hc', hw'⟩ hr hr' heq
  simp only [List.append_assoc] at heq
  obtain ⟨rfl, hcontent⟩ := blanks_determined hu hu' (hends hc) (hends hc') heq
  obtain ⟨rfl, rfl⟩ := hG hc hc' (hr.2.blanks_append hw) (hr'.2.blanks_append hw') hcontent
  have hblanks := List.append_cancel_left hcontent
  obtain ⟨rfl, -⟩ := blanks_determined hw hw' hr.1 hr'.1 hblanks
  exact ⟨rfl, rfl⟩

/-! ## Lists and members -/

theorem endsPadded_cons {b : UInt8} {s : List UInt8} (hb : isBlank b = false)
    (hnumber : extendsNumber b = false) : EndsPadded (b :: s) :=
  ⟨endsBlanks_cons hb, endsNumber_cons hnumber⟩

/-- A list ends at the bracket behind it. -/
theorem listed_determined {close : UInt8} (hclose : isBlank close = false)
    (hnumber : extendsNumber close = false) (hcomma : close ≠ Byte.comma) {xs : List α}
    (hG : ∀ x ∈ xs, Determined EndsPadded G x) :
    Determined (fun r => ∃ t, r = close :: t) (Listed G) xs := by
  have hend {t : List UInt8} : EndsPadded (close :: t) := endsPadded_cons hclose hnumber
  have hmore {t : List UInt8} : EndsPadded (Byte.comma :: t) := endsPadded_cons rfl rfl
  rintro s s' _ _ xs' hs hs' ⟨r, rfl⟩ ⟨r', rfl⟩ heq
  induction hs generalizing s' xs' with
  | one hx =>
    cases hs' with
    | one hy =>
      obtain ⟨rfl, rfl⟩ := hG _ List.mem_cons_self hx hy hend hend heq
      exact ⟨rfl, rfl⟩
    | more hy _ =>
      rw [List.append_assoc, List.cons_append] at heq
      obtain ⟨rfl, -⟩ := hG _ List.mem_cons_self hx hy hend hmore heq
      exact absurd (List.cons.inj (List.append_cancel_left heq)).1 hcomma
  | more hx _ ih =>
    rw [List.append_assoc, List.cons_append] at heq
    cases hs' with
    | one hy =>
      obtain ⟨rfl, -⟩ := hG _ List.mem_cons_self hx hy hmore hend heq
      exact absurd (List.cons.inj (List.append_cancel_left heq)).1.symm hcomma
    | more hy hys =>
      rw [List.append_assoc, List.cons_append] at heq
      obtain ⟨rfl, rfl⟩ := hG _ List.mem_cons_self hx hy hmore hmore heq
      have hrest := (List.cons.inj (List.append_cancel_left heq)).2
      obtain ⟨rfl, rfl⟩ := ih (fun y hy => hG y (List.mem_cons_of_mem _ hy)) hys hrest
      exact ⟨rfl, rfl⟩

theorem SpellsString.exists_cons {s : List UInt8} {t : String} (h : SpellsString s t) :
    ∃ b r, s = b :: r ∧ isBlank b = false := by
  obtain ⟨h⟩ := h
  exact ⟨_, _, rfl, rfl⟩

theorem key_determined (key : String) : Determined EndsPadded (Padded SpellsString) key := by
  apply padded_determined SpellsString.exists_cons
  intro s s' r r' key' hs hs' _ _ heq
  exact string_determined key hs hs' trivial trivial heq

theorem member_determined {m : String × α} (hG : Determined EndsPadded (Padded G) m.2) :
    Determined EndsPadded (SpellsMember G) m := by
  have hcolon {t : List UInt8} : EndsPadded (Byte.colon :: t) := endsPadded_cons rfl rfl
  rintro _ _ r r' _ @⟨_, _, key, x, hkey, hx⟩ @⟨_, _, key', x', hkey', hx'⟩ hr hr' heq
  rw [List.append_assoc, List.append_assoc, List.cons_append, List.cons_append] at heq
  obtain ⟨rfl, rfl⟩ := key_determined key hkey hkey' hcolon hcolon heq
  have hrest := (List.cons.inj (List.append_cancel_left heq)).2
  obtain ⟨rfl, rfl⟩ := hG hx hx' hr hr' hrest
  exact ⟨rfl, rfl⟩

/-! ## Arrays and objects -/

/-- What stands between two brackets: nothing but blanks, or a list. -/
inductive Filling (G : List UInt8 → α → Prop) : List UInt8 → List α → Prop where
  | none {w : List UInt8} : Blanks w → Filling G w []
  | some {s : List UInt8} {xs : List α} : Listed G s xs → Filling G s xs

/-- What stands between two brackets is determined if nothing in it starts with the closing one. -/
theorem filling_determined {close : UInt8} (hclose : isBlank close = false)
    (hnumber : extendsNumber close = false) (hcomma : close ≠ Byte.comma)
    (hstart : ∀ {s : List UInt8} {x : α}, G s x →
      ∃ u b t, s = u ++ b :: t ∧ Blanks u ∧ isBlank b = false ∧ b ≠ close) {xs : List α}
    (hG : ∀ x ∈ xs, Determined EndsPadded G x) :
    Determined (fun r => ∃ t, r = close :: t) (Filling G) xs := by
  -- a list is not mistaken for blanks
  have hlist {w s r r' : List UInt8} {xs : List α} (hw : Blanks w) (h : Listed G s xs) :
      w ++ close :: r ≠ s ++ r' := by
    have hfirst : ∃ u b t, s = u ++ b :: t ∧ Blanks u ∧ isBlank b = false ∧ b ≠ close := by
      cases h with
      | one hx => exact hstart hx
      | more hx _ =>
        obtain ⟨u, b, t, rfl, hb⟩ := hstart hx
        exact ⟨u, b, _, by rw [List.append_assoc, List.cons_append], hb⟩
    obtain ⟨u, b, t, rfl, hu, hb, hne⟩ := hfirst
    intro heq
    rw [List.append_assoc, List.cons_append] at heq
    have hrest := (blanks_determined hw hu (endsBlanks_cons hclose) (endsBlanks_cons hb) heq).2
    exact hne (List.cons.inj hrest).1.symm
  rintro s s' _ _ xs' hs hs' ⟨r, rfl⟩ ⟨r', rfl⟩ heq
  cases hs with
  | none hw =>
    cases hs' with
    | none hw' =>
      have hend {t : List UInt8} : EndsBlanks (close :: t) := endsBlanks_cons hclose
      exact ⟨(blanks_determined hw hw' hend hend heq).1, rfl⟩
    | some hs' => exact absurd heq (hlist hw hs')
  | some hs =>
    cases hs' with
    | none hw' => exact absurd heq.symm (hlist hw' hs)
    | some hs' =>
      exact listed_determined hclose hnumber hcomma hG hs hs' ⟨r, rfl⟩ ⟨r', rfl⟩ heq

end

theorem spells_array_iff {c : List UInt8} {ts : List Tree} :
    Spells c (.array ts) ↔
      ∃ s, c = Byte.openBracket :: (s ++ [Byte.closeBracket]) ∧ Filling (Padded Spells) s ts := by
  constructor
  · intro h
    cases h with
    | emptyArray hw => exact ⟨_, rfl, .none hw⟩
    | array hs => exact ⟨_, rfl, .some hs⟩
  · rintro ⟨s, rfl, hs⟩
    cases hs with
    | none hw => exact .emptyArray hw
    | some hs => exact .array hs

theorem spells_object_iff {c : List UInt8} {ms : List (String × Tree)} :
    Spells c (.object ms) ↔
      ∃ s, c = Byte.openBrace :: (s ++ [Byte.closeBrace]) ∧
        Filling (SpellsMember Spells) s ms := by
  constructor
  · intro h
    cases h with
    | emptyObject hw => exact ⟨_, rfl, .none hw⟩
    | object hs => exact ⟨_, rfl, .some hs⟩
  · rintro ⟨s, rfl, hs⟩
    cases hs with
    | none hw => exact .emptyObject hw
    | some hs => exact .object hs

theorem Padded.exists_start {s : List UInt8} {t : Tree} (h : Padded Spells s t) :
    ∃ u b r, s = u ++ b :: r ∧ Blanks u ∧ isBlank b = false ∧ b ≠ Byte.closeBracket := by
  obtain ⟨hu, hc, _⟩ := h
  obtain ⟨b, c, rfl, hb⟩ := hc.exists_cons
  exact ⟨_, b, _, rfl, hu, hb⟩

theorem SpellsMember.exists_start {s : List UInt8} {m : String × Tree}
    (h : SpellsMember Spells s m) :
    ∃ u b r, s = u ++ b :: r ∧ Blanks u ∧ isBlank b = false ∧ b ≠ Byte.closeBrace := by
  obtain @⟨_, s', _, _, @⟨u, _, w, _, hu, @⟨q, _, _⟩, _⟩, _⟩ := h
  refine ⟨u, Byte.quote, q ++ [Byte.quote] ++ w ++ Byte.colon :: s', ?_, hu, rfl, by decide⟩
  simp only [List.append_assoc, List.cons_append]

/-! ## Values -/

/-- What kind of value starts with a byte. -/
def kindOf (b : UInt8) : String :=
  if b = Byte.lowerN then "null"
  else if b = Byte.lowerT ∨ b = Byte.lowerF then "a boolean"
  else if b = Byte.quote then "a string"
  else if b = Byte.openBracket then "an array"
  else if b = Byte.openBrace then "an object"
  else "a number"

theorem kindOf_digit {d : UInt8} (hd : Byte.isDigit d = true) : kindOf d = "a number" := by
  have hne {b : UInt8} (hb : Byte.isDigit b = false) : d ≠ b := ne_of_isDigit hd hb
  rw [kindOf, if_neg (hne rfl), if_neg (not_or.mpr ⟨hne rfl, hne rfl⟩), if_neg (hne rfl),
    if_neg (hne rfl), if_neg (hne rfl)]

/-- The first byte of a value tells its kind. -/
theorem Spells.kindName_eq {c : List UInt8} {t : Tree} (h : Spells c t) :
    ∃ b s, c = b :: s ∧ t.kindName = kindOf b := by
  cases h with
  | nullWord => exact ⟨_, _, rfl, rfl⟩
  | trueWord => exact ⟨_, _, rfl, rfl⟩
  | falseWord => exact ⟨_, _, rfl, rfl⟩
  | number h =>
    cases h with
    | minus => exact ⟨_, _, rfl, rfl⟩
    | plain _ h =>
      obtain ⟨d, s, rfl, hd⟩ := h.exists_cons
      exact ⟨d, s, rfl, (kindOf_digit hd).symm⟩
  | string h =>
    obtain ⟨h⟩ := h
    exact ⟨_, _, rfl, rfl⟩
  | emptyArray h => exact ⟨_, _, rfl, rfl⟩
  | array h => exact ⟨_, _, rfl, rfl⟩
  | emptyObject h => exact ⟨_, _, rfl, rfl⟩
  | object h => exact ⟨_, _, rfl, rfl⟩

theorem kindName_eq_of_append {c c' r r' : List UInt8} {t t' : Tree} (hc : Spells c t)
    (hc' : Spells c' t') (heq : c ++ r = c' ++ r') : t.kindName = t'.kindName := by
  obtain ⟨b, s, rfl, hb⟩ := hc.kindName_eq
  obtain ⟨b', s', rfl, hb'⟩ := hc'.kindName_eq
  rw [hb, hb', (List.cons.inj heq).1]

/-- A value that is determined is so with blanks around it. -/
theorem padded_spells_determined {t : Tree} (h : Determined EndsNumber Spells t) :
    Determined EndsPadded (Padded Spells) t := by
  apply padded_determined _ h
  intro s t hs
  obtain ⟨b, r, hr, hb, -⟩ := hs.exists_cons
  exact ⟨b, r, hr, hb⟩

theorem array_determined {ts : List Tree} (h : ∀ t ∈ ts, Determined EndsNumber Spells t)
    {c c' r r' : List UInt8} {ts' : List Tree} (hc : Spells c (.array ts))
    (hc' : Spells c' (.array ts')) (heq : c ++ r = c' ++ r') : c = c' ∧ ts = ts' := by
  obtain ⟨s, rfl, hs⟩ := spells_array_iff.mp hc
  obtain ⟨s', rfl, hs'⟩ := spells_array_iff.mp hc'
  rw [List.cons_append, List.cons_append, List.append_assoc, List.append_assoc] at heq
  have hts : ∀ t ∈ ts, Determined EndsPadded (Padded Spells) t :=
    fun t ht => padded_spells_determined (h t ht)
  obtain ⟨rfl, rfl⟩ := filling_determined rfl rfl (by decide) Padded.exists_start hts hs hs'
    ⟨r, rfl⟩ ⟨r', rfl⟩ (List.cons.inj heq).2
  exact ⟨rfl, rfl⟩

theorem object_determined {ms : List (String × Tree)}
    (h : ∀ m ∈ ms, Determined EndsNumber Spells m.2) {c c' r r' : List UInt8}
    {ms' : List (String × Tree)} (hc : Spells c (.object ms)) (hc' : Spells c' (.object ms'))
    (heq : c ++ r = c' ++ r') : c = c' ∧ ms = ms' := by
  obtain ⟨s, rfl, hs⟩ := spells_object_iff.mp hc
  obtain ⟨s', rfl, hs'⟩ := spells_object_iff.mp hc'
  rw [List.cons_append, List.cons_append, List.append_assoc, List.append_assoc] at heq
  have hms : ∀ m ∈ ms, Determined EndsPadded (SpellsMember Spells) m :=
    fun m hm => member_determined (padded_spells_determined (h m hm))
  obtain ⟨rfl, rfl⟩ := filling_determined rfl rfl (by decide) SpellsMember.exists_start hms hs hs'
    ⟨r, rfl⟩ ⟨r', rfl⟩ (List.cons.inj heq).2
  exact ⟨rfl, rfl⟩

/-- A value is determined by bytes that begin with it, if what follows does not go on with a
number. -/
theorem spells_determined (t : Tree) : Determined EndsNumber Spells t := by
  intro c c' r r' t' hc hc' hr hr' heq
  have hkind := kindName_eq_of_append hc hc' heq
  -- the first byte tells the kind, so the two trees are built by one constructor
  induction t using Tree.inductionOn generalizing c c' r r' t' with
  | null =>
    cases t' with
    | null =>
      cases hc
      cases hc'
      exact ⟨rfl, rfl⟩
    | _ => exact absurd hkind (by simp [Tree.kindName])
  | bool b =>
    cases t' with
    | bool b' =>
      cases hc with
      | trueWord =>
        cases hc' with
        | trueWord => exact ⟨rfl, rfl⟩
        | falseWord => exact absurd (List.cons.inj heq).1 (by decide)
      | falseWord =>
        cases hc' with
        | trueWord => exact absurd (List.cons.inj heq).1 (by decide)
        | falseWord => exact ⟨rfl, rfl⟩
    | _ => exact absurd hkind (by simp [Tree.kindName])
  | number l =>
    cases t' with
    | number l' =>
      obtain _ | _ | _ | hl := hc
      obtain _ | _ | _ | hl' := hc'
      obtain ⟨rfl, rfl⟩ := literal_determined l hl hl' hr hr' heq
      exact ⟨rfl, rfl⟩
    | _ => exact absurd hkind (by simp [Tree.kindName])
  | string s =>
    cases t' with
    | string s' =>
      obtain _ | _ | _ | _ | hs := hc
      obtain _ | _ | _ | _ | hs' := hc'
      obtain ⟨rfl, rfl⟩ := string_determined s hs hs' trivial trivial heq
      exact ⟨rfl, rfl⟩
    | _ => exact absurd hkind (by simp [Tree.kindName])
  | array ts ih =>
    cases t' with
    | array ts' =>
      have hts : ∀ t ∈ ts, Determined EndsNumber Spells t := by
        intro t ht s s' q q' u hs hs' hq hq' hsq
        exact ih t ht hs hs' hq hq' hsq (kindName_eq_of_append hs hs' hsq)
      obtain ⟨rfl, rfl⟩ := array_determined hts hc hc' heq
      exact ⟨rfl, rfl⟩
    | _ => exact absurd hkind (by simp [Tree.kindName])
  | object ms ih =>
    cases t' with
    | object ms' =>
      have hms : ∀ m ∈ ms, Determined EndsNumber Spells m.2 := by
        intro m hm s s' q q' u hs hs' hq hq' hsq
        exact ih m hm hs hs' hq hq' hsq (kindName_eq_of_append hs hs' hsq)
      obtain ⟨rfl, rfl⟩ := object_determined hms hc hc' heq
      exact ⟨rfl, rfl⟩
    | _ => exact absurd hkind (by simp [Tree.kindName])

/-- A text spells one tree at most. -/
theorem SpellsText.unique {s : List UInt8} {t t' : Tree} (h : SpellsText s t)
    (h' : SpellsText s t') : t = t' := by
  have hnil : EndsPadded [] := ⟨endsBlanks_nil, endsNumber_nil⟩
  have hpadded := padded_spells_determined (spells_determined t)
  exact (hpadded h h' hnil hnil rfl).2

end AlertConsole.Json
