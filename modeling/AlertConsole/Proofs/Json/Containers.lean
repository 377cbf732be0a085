import AlertConsole.Proofs.Json.Numbers
import AlertConsole.Proofs.Json.Strings
import AlertConsole.Proofs.Json.TreeValue
set_option autoImplicit false

/-!
# Arrays and objects as the grammar has them

The readers of arrays and objects are given the reader of the values in them, and so is what is
proved here: if that reader reads what `G` spells, and reads it as `R` says, then arrays and objects
of such values are read as the grammar has them.  `Sound` and `Complete` are the two directions of
the premise.
-/

namespace AlertConsole.Json

open Utf8 (IsText)

/-! ## Blanks -/

theorem blanks_nil : Blanks [] := fun _ h => absurd h List.not_mem_nil

theorem Blanks.append {w w' : List UInt8} (h : Blanks w) (h' : Blanks w') : Blanks (w ++ w') :=
  fun b hb => (List.mem_append.mp hb).elim (h b) (h' b)

theorem blanks_iff {w : List UInt8} : Blanks w ↔ ∀ b ∈ w, isBlank b = true := by
  simp [Blanks, isBlank, or_assoc]

theorem Blanks.isText {w : List UInt8} (h : Blanks w) : IsText w := by
  refine Utf8.isText_of_ascii fun b hb => ?_
  rcases h b hb with rfl | rfl | rfl | rfl <;> decide

/-! The bytes that stand around things and between them are no blanks. -/

@[simp] theorem isBlank_quote : isBlank Byte.quote = false := rfl

@[simp] theorem isBlank_comma : isBlank Byte.comma = false := rfl

@[simp] theorem isBlank_colon : isBlank Byte.colon = false := rfl

@[simp] theorem isBlank_openBracket : isBlank Byte.openBracket = false := rfl

@[simp] theorem isBlank_closeBracket : isBlank Byte.closeBracket = false := rfl

@[simp] theorem isBlank_openBrace : isBlank Byte.openBrace = false := rfl

@[simp] theorem isBlank_closeBrace : isBlank Byte.closeBrace = false := rfl

theorem skipBlanks_append {w : List UInt8} (h : Blanks w) (s : List UInt8) :
    skipBlanks (w ++ s) = skipBlanks s :=
  List.dropWhile_append_of_pos (blanks_iff.mp h)

theorem skipBlanks_cons {b : UInt8} (h : isBlank b = false) (s : List UInt8) :
    skipBlanks (b :: s) = b :: s := by
  simp [skipBlanks, h]

/-- Blanks are skipped up to a byte that is none. -/
theorem skipBlanks_append_cons {w : List UInt8} {b : UInt8} (hw : Blanks w)
    (hb : isBlank b = false) (s : List UInt8) : skipBlanks (w ++ b :: s) = b :: s := by
  rw [skipBlanks_append hw, skipBlanks_cons hb]

theorem skipBlanks_blanks {w : List UInt8} (h : Blanks w) : skipBlanks w = [] := by
  have hskip := skipBlanks_append h []
  rwa [List.append_nil] at hskip

/-- What is skipped are blanks, and what stands behind them is a text if the whole is. -/
theorem skipBlanks_sound {s t : List UInt8} (hs : IsText s) (h : skipBlanks s = t) :
    ∃ w, s = w ++ t ∧ Blanks w ∧ IsText t := by
  have hw : Blanks (s.takeWhile isBlank) := blanks_iff.mpr (List.all_eq_true.mp List.all_takeWhile)
  have hsplit : s = s.takeWhile isBlank ++ t := by
    rw [← h, skipBlanks, List.takeWhile_append_dropWhile]
  rw [hsplit] at hs
  exact ⟨s.takeWhile isBlank, hsplit, hw, hs.of_append hw.isText⟩

theorem Padded.blanks_append {α : Type} {G : List UInt8 → α → Prop} {w s : List UInt8} {x : α}
    (hw : Blanks w) (h : Padded G s x) : Padded G (w ++ s) x := by
  obtain ⟨hu, hs, hv⟩ := h
  rw [← List.append_assoc]
  exact .mk (hw.append hu) hs hv

theorem SpellsMember.blanks_append {α : Type} {G : List UInt8 → α → Prop} {w s : List UInt8}
    {m : String × α} (hw : Blanks w) (h : SpellsMember G s m) : SpellsMember G (w ++ s) m := by
  obtain ⟨hkey, hx⟩ := h
  rw [← List.append_assoc]
  exact .mk (hkey.blanks_append hw) hx

theorem SpellsMember.append_blanks {α : Type} {G : List UInt8 → α → Prop} {w s : List UInt8}
    {m : String × α} (h : SpellsMember G s m) (hw : Blanks w) : SpellsMember G (s ++ w) m := by
  obtain ⟨hkey, ⟨hu, hx, hv⟩⟩ := h
  rw [List.append_assoc, List.cons_append, List.append_assoc, List.append_assoc]
  exact .mk hkey (.mk hu hx (hv.append hw))

/-- Blanks may stand before a list if they may stand before the things in it. -/
theorem Listed.blanks_append {α : Type} {G : List UInt8 → α → Prop} {w s : List UInt8} {xs : List α}
    (hG : ∀ {s : List UInt8} {x : α}, G s x → G (w ++ s) x) (h : Listed G s xs) :
    Listed G (w ++ s) xs := by
  cases h with
  | one hx => exact .one (hG hx)
  | more hx hxs =>
    rw [← List.append_assoc]
    exact .more (hG hx) hxs

/-! ## The bytes behind a value -/

/-- No blank extends a number. -/
theorem EndsNumber.blanks_append {w r : List UInt8} (hw : Blanks w) (hr : EndsNumber r) :
    EndsNumber (w ++ r) := by
  cases w with
  | nil => exact hr
  | cons b w =>
    rw [List.cons_append]
    refine endsNumber_cons ?_
    rcases hw b List.mem_cons_self with rfl | rfl | rfl | rfl <;> decide

/-! ## Readers of values -/

theorem ne_of_isDigit {d b : UInt8} (hd : Byte.isDigit d = true)
    (hb : Byte.isDigit b = false) : d ≠ b := by
  rintro rfl
  exact Bool.false_ne_true (hb.symm.trans hd)

theorem not_isBlank_of_isDigit {d : UInt8} (hd : Byte.isDigit d = true) : isBlank d = false := by
  refine Bool.eq_false_iff.mpr fun h => ?_
  simp only [isBlank, Bool.or_eq_true, decide_eq_true_eq] at h
  rcases h with ((rfl | rfl) | rfl) | rfl <;> exact absurd hd (by decide)

/-- A spelling of a value starts with a byte that is neither a blank nor a closing bracket. -/
theorem Spells.exists_cons {c : List UInt8} {t : Tree} (h : Spells c t) :
    ∃ b s, c = b :: s ∧ isBlank b = false ∧ b ≠ Byte.closeBracket := by
  cases h with
  | nullWord => exact ⟨_, _, rfl, by decide, by decide⟩
  | trueWord => exact ⟨_, _, rfl, by decide, by decide⟩
  | falseWord => exact ⟨_, _, rfl, by decide, by decide⟩
  | number h =>
    cases h with
    | minus => exact ⟨_, _, rfl, by decide, by decide⟩
    | plain _ h =>
      obtain ⟨d, s, rfl, hd⟩ := h.exists_cons
      exact ⟨d, s, rfl, not_isBlank_of_isDigit hd, ne_of_isDigit hd rfl⟩
  | string h =>
    obtain ⟨h⟩ := h
    exact ⟨_, _, rfl, by decide, by decide⟩
  | emptyArray h => exact ⟨_, _, rfl, by decide, by decide⟩
  | array h => exact ⟨_, _, rfl, by decide, by decide⟩
  | emptyObject h => exact ⟨_, _, rfl, by decide, by decide⟩
  | object h => exact ⟨_, _, rfl, by decide, by decide⟩

/-- What a reader reads is spelled as the grammar has it, behind blanks. -/
def Sound (R : Tree → Value → Prop) (step : Step Value) : Prop :=
  ∀ {s r : List UInt8} {v : Value}, IsText s → step s = .ok (v, r) →
    ∃ u c t, s = u ++ (c ++ r) ∧ Blanks u ∧ Spells c t ∧ R t v ∧ IsText r

/-- A reader reads all that is spelled as the grammar has it and is not too long. -/
def Complete (bound : Nat) (R : Tree → Value → Prop) (step : Step Value) : Prop :=
  ∀ {u c r : List UInt8} {t : Tree} {v : Value}, Blanks u → Spells c t → R t v →
    c.length ≤ bound → EndsNumber r → step (u ++ (c ++ r)) = .ok (v, r)

section

variable {R : Tree → Value → Prop} {step : Step Value} {bound : Nat}

/-! ## Arrays -/

theorem elements_sound (hstep : Sound R step) {rounds : Nat} {seen vs : List Value}
    {s r : List UInt8} (hs : IsText s) (h : elements step rounds seen s = .ok (vs, r)) :
    ∃ c ts ws, s = c ++ Byte.closeBracket :: r ∧ Listed (Padded Spells) c ts ∧
      List.Forall₂ R ts ws ∧ vs = seen.reverse ++ ws ∧ IsText r := by
  induction rounds generalizing seen s with
  | zero => contradiction
  | succ rounds ih =>
    rw [elements] at h
    split at h
    · contradiction
    rename_i v s₁ hstep₁
    obtain ⟨u, c, t, rfl, hu, hc, hR, hs₁⟩ := hstep hs hstep₁
    split at h
    · contradiction
    rename_i b s₂ hskip
    obtain ⟨w, rfl, hw, hs₂⟩ := skipBlanks_sound hs₁ hskip
    have hpadded := Padded.mk hu hc hw
    split at h
    · rename_i hb
      obtain ⟨rfl, rfl⟩ := Prod.mk.inj (Except.ok.inj h)
      obtain rfl := hb
      exact ⟨_, [t], [v], by simp, .one hpadded, .cons hR .nil, by simp,
        hs₂.of_cons (by decide)⟩
    · split at h
      · rename_i hb
        obtain rfl := hb
        split at h
        · contradiction
        rename_i b s₃ hskip₃
        obtain ⟨w', rfl, hw', hs₃⟩ := skipBlanks_sound (hs₂.of_cons (by decide)) hskip₃
        split at h
        · contradiction
        obtain ⟨c', ts, ws, hc', hlist, hRs, rfl, hr⟩ := ih hs₃ h
        refine ⟨_, t :: ts, v :: ws, ?_, .more hpadded (hlist.blanks_append (.blanks_append hw')),
          .cons hR hRs, by simp, hr⟩
        rw [hc']
        simp
      · contradiction

/-- A value with blanks around it is read behind the blanks before it, and up to those behind. -/
theorem Complete.padded (hstep : Complete bound R step) {s r : List UInt8} {t : Tree} {v : Value}
    (h : Padded Spells s t) (hR : R t v) (hbound : s.length ≤ bound) (hr : EndsNumber r) :
    ∃ b s' w, skipBlanks (s ++ r) = b :: s' ∧ b ≠ Byte.closeBracket ∧ Blanks w ∧
      step (b :: s') = .ok (v, w ++ r) := by
  obtain @⟨u, c, w, _, hu, hc, hw⟩ := h
  obtain ⟨b, c, rfl, hb, hb'⟩ := hc.exists_cons
  simp only [List.length_append] at hbound
  refine ⟨b, c ++ (w ++ r), w, ?_, hb', hw, ?_⟩
  · rw [List.append_assoc, skipBlanks_append hu, List.append_assoc, List.cons_append,
      skipBlanks_cons hb]
  · exact hstep blanks_nil hc hR (by omega) (.blanks_append hw hr)

/-- The elements of an array and its closing bracket are read if the blanks before them are
skipped, whatever stands behind them. -/
theorem elements_complete (hstep : Complete bound R step) {c : List UInt8} {ts : List Tree}
    {vs : List Value} (hc : Listed (Padded Spells) c ts) (hR : List.Forall₂ R ts vs)
    (hbound : c.length ≤ bound) {rounds : Nat} (hrounds : c.length < rounds) (seen : List Value)
    (r : List UInt8) :
    ∃ b s, skipBlanks (c ++ Byte.closeBracket :: r) = b :: s ∧ b ≠ Byte.closeBracket ∧
      elements step rounds seen (b :: s) = .ok (seen.reverse ++ vs, r) := by
  induction hc generalizing vs rounds seen with
  | one hx =>
    obtain _ | ⟨hR, ⟨⟩⟩ := hR
    obtain ⟨n, rfl⟩ : ∃ n, rounds = n + 1 := ⟨rounds - 1, by omega⟩
    have hend : EndsNumber (Byte.closeBracket :: r) := endsNumber_cons rfl
    obtain ⟨b, s, w, hskip, hb, hw, hread⟩ := hstep.padded hx hR hbound hend
    refine ⟨b, s, hskip, hb, ?_⟩
    have hclose := skipBlanks_append_cons hw isBlank_closeBracket r
    simp [elements, hread, hclose]
  | @more c c' t ts hx hxs ih =>
    obtain _ | @⟨_, v, _, vs, hR, hRs⟩ := hR
    obtain ⟨n, rfl⟩ : ∃ n, rounds = n + 1 := ⟨rounds - 1, by omega⟩
    simp only [List.length_append, List.length_cons] at hbound hrounds
    have hend : EndsNumber (Byte.comma :: (c' ++ Byte.closeBracket :: r)) :=
      endsNumber_cons rfl
    obtain ⟨b, s, w, hskip, hb, hw, hread⟩ := hstep.padded hx hR (by omega) hend
    obtain ⟨b', s', hskip', hb', hreads⟩ := @ih _ hRs (by omega) n (by omega) (v :: seen)
    refine ⟨b, s, ?_, hb, ?_⟩
    · rw [← hskip, List.append_assoc, List.cons_append]
    · have hcomma := skipBlanks_append_cons hw isBlank_comma
        (c' ++ Byte.closeBracket :: r)
      have hne : Byte.comma ≠ Byte.closeBracket := by decide
      rw [elements, hread]
      simp only [hcomma, hskip', if_neg hne, if_true, if_neg hb', hreads, List.reverse_cons,
        List.append_assoc, List.singleton_append]

/-- What is read as an array. -/
theorem array_sound (hstep : Sound R step) {s r : List UInt8} {v : Value} (hs : IsText s)
    (h : array bound step s = .ok (v, r)) :
    ∃ c ts vs, s = c ++ r ∧ Spells (Byte.openBracket :: c) (.array ts) ∧ List.Forall₂ R ts vs ∧
      v = .array vs ∧ IsText r := by
  rw [array] at h
  split at h
  · contradiction
  rename_i b s' hskip
  obtain ⟨w, rfl, hw, hs'⟩ := skipBlanks_sound hs hskip
  split at h
  · rename_i hb
    obtain ⟨rfl, rfl⟩ := Prod.mk.inj (Except.ok.inj h)
    obtain rfl := hb
    exact ⟨w ++ [Byte.closeBracket], [], [], by simp, .emptyArray hw, .nil, rfl,
      hs'.of_cons (by decide)⟩
  · split at h
    · contradiction
    rename_i vs _ helements
    obtain ⟨rfl, rfl⟩ := Prod.mk.inj (Except.ok.inj h)
    obtain ⟨c, ts, _, hc, hlist, hR, rfl, hr⟩ := elements_sound hstep hs' helements
    refine ⟨(w ++ c) ++ [Byte.closeBracket], ts, _, ?_,
      .array (hlist.blanks_append (.blanks_append hw)), hR, rfl, hr⟩
    rw [hc]
    simp

/-- An array is read, whatever stands behind it. -/
theorem array_complete (hstep : Complete bound R step) {c : List UInt8} {ts : List Tree}
    {vs : List Value} (hc : Spells (Byte.openBracket :: c) (.array ts))
    (hR : List.Forall₂ R ts vs) (hbound : c.length ≤ bound) (r : List UInt8) :
    array bound step (c ++ r) = .ok (.array vs, r) := by
  cases hc with
  | emptyArray hw =>
    obtain ⟨⟩ := hR
    have hclose := skipBlanks_append_cons hw isBlank_closeBracket r
    simp [array, hclose]
  | array hlist =>
    simp only [List.length_append] at hbound
    obtain ⟨b, s, hskip, hb, hread⟩ :=
      @elements_complete R step bound hstep _ _ _ hlist hR (by omega) (bound + 1) (by omega) [] r
    rw [array, List.append_assoc, List.cons_append, List.nil_append, hskip]
    simp only [if_neg hb, hread]
    rfl

/-! ## Objects -/

/-- What is read as a member, its opening quote in front. -/
theorem member_sound (hstep : Sound R step) {s r : List UInt8} {n : String × Value} (hs : IsText s)
    (h : member bound step s = .ok (n, r)) :
    ∃ c m, Byte.quote :: s = c ++ r ∧ SpellsMember Spells c m ∧ Keyed R m n ∧ IsText r := by
  rw [member] at h
  split at h
  · contradiction
  rename_i key s₁ hkey
  obtain ⟨q, cs, rfl, hq, rfl, hs₁⟩ := quoted_sound hs hkey
  split at h
  · contradiction
  rename_i b s₂ hskip
  obtain ⟨w, rfl, hw, hs₂⟩ := skipBlanks_sound hs₁ hskip
  split at h
  · rename_i hb
    obtain rfl := hb
    split at h
    · contradiction
    rename_i v s₃ hv
    obtain ⟨rfl, rfl⟩ := Prod.mk.inj (Except.ok.inj h)
    obtain ⟨u, c, t, rfl, hu, hc, hR, hr⟩ := hstep (hs₂.of_cons (by decide)) hv
    have hstring : SpellsString (Byte.quote :: (q ++ [Byte.quote])) ("" ++ String.ofList cs) :=
      .mk (by simpa using hq)
    refine ⟨_, (_, t), ?_, .mk (.mk blanks_nil hstring hw) (.mk hu hc blanks_nil), ⟨rfl, hR⟩, hr⟩
    simp
  · contradiction

/-- A member is read behind the opening quote of its key, and up to the blanks behind it. -/
theorem member_complete (hstep : Complete bound R step) {c r : List UInt8} {m : String × Tree}
    {n : String × Value} (hc : SpellsMember Spells c m) (hR : Keyed R m n)
    (hbound : c.length ≤ bound) (hr : EndsNumber r) :
    ∃ s w, skipBlanks (c ++ r) = Byte.quote :: s ∧ Blanks w ∧
      member bound step s = .ok (n, w ++ r) := by
  obtain @⟨_, _, key, t, @⟨u, _, w, _, hu, @⟨q, _, hq⟩, hw⟩, @⟨u', c, w', _, hu', hc, hw'⟩⟩ := hc
  obtain ⟨_, v⟩ := n
  obtain ⟨rfl, hR⟩ := hR
  simp only [List.length_append, List.length_cons, List.length_nil] at hbound
  refine ⟨q ++ Byte.quote :: (w ++ Byte.colon :: (u' ++ (c ++ (w' ++ r)))), w', ?_, hw', ?_⟩
  · have hquote := skipBlanks_append_cons hu isBlank_quote
      (q ++ Byte.quote :: (w ++ Byte.colon :: (u' ++ (c ++ (w' ++ r)))))
    simpa using hquote
  · have hkey := @quoted_complete q key.toList hq (bound + 1) (by omega) ""
      (w ++ Byte.colon :: (u' ++ (c ++ (w' ++ r))))
    have hcolon := skipBlanks_append_cons hw isBlank_colon
      (u' ++ (c ++ (w' ++ r)))
    have hread := hstep hu' hc hR (by omega) (.blanks_append hw' hr)
    rw [String.ofList_toList, String.empty_append] at hkey
    rw [member, hkey]
    simp only [hcolon, if_true, hread]

theorem members_sound (hstep : Sound R step) {rounds : Nat} {seen ns : List (String × Value)}
    {s r : List UInt8} (hs : IsText s)
    (h : members (member bound step) rounds seen s = .ok (ns, r)) :
    ∃ c ms ws, Byte.quote :: s = c ++ Byte.closeBrace :: r ∧ Listed (SpellsMember Spells) c ms ∧
      List.Forall₂ (Keyed R) ms ws ∧ ns = seen.reverse ++ ws ∧ IsText r := by
  induction rounds generalizing seen s with
  | zero => contradiction
  | succ rounds ih =>
    rw [members] at h
    split at h
    · contradiction
    rename_i n s₁ hmember
    obtain ⟨c, m, hc, hm, hR, hs₁⟩ := member_sound hstep hs hmember
    split at h
    · contradiction
    rename_i b s₂ hskip
    obtain ⟨w, rfl, hw, hs₂⟩ := skipBlanks_sound hs₁ hskip
    have hspelled := hm.append_blanks hw
    split at h
    · rename_i hb
      obtain ⟨rfl, rfl⟩ := Prod.mk.inj (Except.ok.inj h)
      obtain rfl := hb
      refine ⟨c ++ w, [m], [n], ?_, .one hspelled, .cons hR .nil, by simp,
        hs₂.of_cons (by decide)⟩
      rw [hc, List.append_assoc]
    · split at h
      · rename_i hb
        obtain rfl := hb
        split at h
        · contradiction
        rename_i b s₃ hskip₃
        obtain ⟨w', rfl, hw', hs₃⟩ := skipBlanks_sound (hs₂.of_cons (by decide)) hskip₃
        split at h
        · rename_i hb
          obtain rfl := hb
          obtain ⟨c', ms, ws, hc', hlist, hRs, rfl, hr⟩ := ih (hs₃.of_cons (by decide)) h
          have hmore := hlist.blanks_append (.blanks_append hw')
          refine ⟨_, m :: ms, n :: ws, ?_, .more hspelled hmore, .cons hR hRs, by simp, hr⟩
          rw [hc, hc']
          simp
        · split at h <;> contradiction
      · contradiction

/-- The members of an object and its closing brace are read behind the opening quote of the first
key, whatever stands behind them. -/
theorem members_complete (hstep : Complete bound R step) {c : List UInt8}
    {ms : List (String × Tree)} {ns : List (String × Value)}
    (hc : Listed (SpellsMember Spells) c ms) (hR : List.Forall₂ (Keyed R) ms ns)
    (hbound : c.length ≤ bound) {rounds : Nat} (hrounds : c.length < rounds)
    (seen : List (String × Value)) (r : List UInt8) :
    ∃ s, skipBlanks (c ++ Byte.closeBrace :: r) = Byte.quote :: s ∧
      members (member bound step) rounds seen s = .ok (seen.reverse ++ ns, r) := by
  induction hc generalizing ns rounds seen with
  | one hm =>
    obtain _ | ⟨hR, ⟨⟩⟩ := hR
    obtain ⟨k, rfl⟩ : ∃ k, rounds = k + 1 := ⟨rounds - 1, by omega⟩
    have hend : EndsNumber (Byte.closeBrace :: r) := endsNumber_cons rfl
    obtain ⟨s, w, hskip, hw, hread⟩ := member_complete hstep hm hR hbound hend
    refine ⟨s, hskip, ?_⟩
    have hclose := skipBlanks_append_cons hw isBlank_closeBrace r
    simp [members, hread, hclose]
  | @more c c' m ms hm hms ih =>
    obtain _ | @⟨_, n, _, ns, hR, hRs⟩ := hR
    obtain ⟨k, rfl⟩ : ∃ k, rounds = k + 1 := ⟨rounds - 1, by omega⟩
    simp only [List.length_append, List.length_cons] at hbound hrounds
    have hend : EndsNumber (Byte.comma :: (c' ++ Byte.closeBrace :: r)) :=
      endsNumber_cons rfl
    obtain ⟨s, w, hskip, hw, hread⟩ := member_complete hstep hm hR (by omega) hend
    obtain ⟨s', hskip', hreads⟩ := @ih _ hRs (by omega) k (by omega) (n :: seen)
    refine ⟨s, ?_, ?_⟩
    · rw [← hskip, List.append_assoc, List.cons_append]
    · have hcomma := skipBlanks_append_cons hw isBlank_comma
        (c' ++ Byte.closeBrace :: r)
      have hne : Byte.comma ≠ Byte.closeBrace := by decide
      rw [members, hread]
      simp only [hcomma, hskip', if_neg hne, if_true, hreads, List.reverse_cons,
        List.append_assoc, List.singleton_append]

/-- What is read as an object. -/
theorem object_sound (hstep : Sound R step) {s r : List UInt8} {v : Value} (hs : IsText s)
    (h : object bound step s = .ok (v, r)) :
    ∃ c ms written, s = c ++ r ∧ Spells (Byte.openBrace :: c) (.object ms) ∧
      List.Forall₂ (Keyed R) ms written ∧ v = .object (Members.ofList written) ∧ IsText r := by
  rw [object] at h
  split at h
  · contradiction
  rename_i b s' hskip
  obtain ⟨w, rfl, hw, hs'⟩ := skipBlanks_sound hs hskip
  split at h
  · rename_i hb
    obtain ⟨rfl, rfl⟩ := Prod.mk.inj (Except.ok.inj h)
    obtain rfl := hb
    exact ⟨w ++ [Byte.closeBrace], [], [], by simp, .emptyObject hw, .nil, rfl,
      hs'.of_cons (by decide)⟩
  · split at h
    · rename_i hb
      obtain rfl := hb
      split at h
      · contradiction
      rename_i ns _ hmembers
      obtain ⟨rfl, rfl⟩ := Prod.mk.inj (Except.ok.inj h)
      obtain ⟨c, ms, _, hc, hlist, hR, rfl, hr⟩ :=
        members_sound hstep (hs'.of_cons (by decide)) hmembers
      refine ⟨(w ++ c) ++ [Byte.closeBrace], ms, _, ?_,
        .object (hlist.blanks_append (.blanks_append hw)), hR, rfl, hr⟩
      rw [hc]
      simp
    · contradiction

/-- An object is read, whatever stands behind it. -/
theorem object_complete (hstep : Complete bound R step) {c : List UInt8}
    {ms : List (String × Tree)} {written : List (String × Value)}
    (hc : Spells (Byte.openBrace :: c) (.object ms)) (hR : List.Forall₂ (Keyed R) ms written)
    (hbound : c.length ≤ bound) (r : List UInt8) :
    object bound step (c ++ r) = .ok (.object (Members.ofList written), r) := by
  cases hc with
  | emptyObject hw =>
    obtain ⟨⟩ := hR
    have hclose := skipBlanks_append_cons hw isBlank_closeBrace r
    simp [object, hclose]
  | object hlist =>
    simp only [List.length_append] at hbound
    obtain ⟨s, hskip, hread⟩ :=
      @members_complete R step bound hstep _ _ _ hlist hR (by omega) (bound + 1) (by omega) [] r
    have hne : Byte.quote ≠ Byte.closeBrace := by decide
    rw [object, List.append_assoc, List.cons_append, List.nil_append, hskip]
    simp only [if_neg hne, if_true, hread]
    rfl

end

end AlertConsole.Json
