set_option autoImplicit false

/-!
# Sets of characters

A set is kept as ranges of code points with both ends, in order, with a gap behind each.  The code
points of surrogates, which no character has, count for nothing: the range up to the last one below
them touches the one that starts above them.  The laws say which characters are in the sets that are
built.
-/

namespace AlertConsole.Pattern

/-- A set of characters. -/
structure CharSet where
  ranges : List (Nat × Nat)
  deriving DecidableEq, Repr, Inhabited

namespace CharSet

/-- The last code point. -/
def lastPoint : Nat := 0x10FFFF

/-- The last byte. -/
def lastByte : Nat := 0xFF

/-- The last ASCII character. -/
def lastAscii : Nat := 0x7F

/-- The code point behind another, surrogates left out. -/
def next (n : Nat) : Nat := if n = 0xD7FF then 0xE000 else n + 1

/-- The code point before another, surrogates left out. -/
def before (n : Nat) : Nat := if n = 0xE000 then 0xD7FF else n - 1

/-- Whether a code point lies in one of some ranges. -/
def holds (ranges : List (Nat × Nat)) (n : Nat) : Bool :=
  ranges.any fun r => r.1 ≤ n && n ≤ r.2

/-- Whether a character is in a set. -/
def contains (s : CharSet) (c : Char) : Bool := holds s.ranges c.toNat

/-! ## Building -/

/-- The set of no character. -/
def empty : CharSet := ⟨[]⟩

/-- The set of all code points up to a last one. -/
def upTo (last : Nat) : CharSet := ⟨[(0, last)]⟩

/-- Ranges that are ordered by their starts, those put together that touch, behind one that comes
before them all. -/
def joinedTo (r : Nat × Nat) : List (Nat × Nat) → List (Nat × Nat)
  | [] => [r]
  | t :: s => if t.1 ≤ next r.2 then joinedTo (r.1, max r.2 t.2) s else r :: joinedTo t s

/-- The set of the code points in some ranges. -/
def ofRanges (ranges : List (Nat × Nat)) : CharSet :=
  match ranges.mergeSort fun r t => r.1 ≤ t.1 with
  | [] => empty
  | r :: s => ⟨joinedTo r s⟩

/-- The set of one character. -/
def ofChar (c : Char) : CharSet := ⟨[(c.toNat, c.toNat)]⟩

/-- The set of all that is in one of two sets. -/
def union (s t : CharSet) : CharSet := ofRanges (s.ranges ++ t.ranges)

/-- The set of all that is in both of two sets. -/
def inter (s t : CharSet) : CharSet :=
  ⟨s.ranges.flatMap fun r => t.ranges.filterMap fun u =>
    if max r.1 u.1 ≤ min r.2 u.2 then some (max r.1 u.1, min r.2 u.2) else none⟩

/-- The gaps between ranges, from one code point up to a last one. -/
def gaps (last : Nat) (n : Nat) : List (Nat × Nat) → List (Nat × Nat)
  | [] => if n ≤ last then [(n, last)] else []
  | r :: s => (if n < r.1 then [(n, before r.1)] else []) ++ gaps last (next r.2) s

/-- The set of all that is not in a set, up to a last code point. -/
def complement (last : Nat) (s : CharSet) : CharSet := ⟨gaps last 0 s.ranges⟩

/-- The set of all that is in the first of two sets but not in the second. -/
def diff (s t : CharSet) : CharSet := s.inter (t.complement lastPoint)

/-- The set of all that is in just one of two sets. -/
def symmDiff (s t : CharSet) : CharSet := (s.union t).diff (s.inter t)

/-- The set with the other case of every ASCII letter in it. -/
def caseless (s : CharSet) : CharSet :=
  let small := (s.inter ⟨[('a'.toNat, 'z'.toNat)]⟩).ranges.map fun r => (r.1 - 32, r.2 - 32)
  let large := (s.inter ⟨[('A'.toNat, 'Z'.toNat)]⟩).ranges.map fun r => (r.1 + 32, r.2 + 32)
  ofRanges (s.ranges ++ small ++ large)

/-! ## Asking -/

/-- Whether no character is in a set. -/
def isEmpty (s : CharSet) : Bool := s.ranges.isEmpty

/-- Whether a set has ASCII characters only. -/
def isAscii (s : CharSet) : Bool := s.ranges.all fun r => r.2 ≤ lastAscii

/-- The character of a set that has just one. -/
def char? (s : CharSet) : Option Char :=
  match s.ranges with
  | [(a, b)] => if a = b then some (Char.ofNat a) else none
  | _ => none

/-! ## Laws -/

/-- A character's code point is no surrogate. -/
theorem toNat_not_surrogate (c : Char) : c.toNat < 0xD800 ∨ 0xDFFF < c.toNat := by
  rcases c.valid with h | h
  · exact .inl h
  · exact .inr h.1

/-- Putting ranges together that touch changes nothing about the characters in them. -/
theorem holds_joinedTo {n : Nat} (hn : n < 0xD800 ∨ 0xDFFF < n) (r : Nat × Nat)
    (s : List (Nat × Nat)) (hs : (r :: s).Pairwise fun t u => t.1 ≤ u.1) :
    holds (joinedTo r s) n = holds (r :: s) n := by
  induction s generalizing r with
  | nil => rfl
  | cons t s ih =>
    rw [List.pairwise_cons] at hs
    have ht := List.pairwise_cons.1 hs.2
    simp only [joinedTo]
    split
    · rename_i h
      have hrt : r.1 ≤ t.1 := hs.1 t List.mem_cons_self
      rw [ih (r.1, max r.2 t.2) (List.pairwise_cons.2
        ⟨fun u hu => hs.1 u (List.mem_cons_of_mem _ hu), ht.2⟩)]
      simp only [holds, List.any_cons, ← Bool.or_assoc]
      congr 1
      rw [Bool.eq_iff_iff]
      simp only [Bool.and_eq_true, Bool.or_eq_true, decide_eq_true_eq]
      unfold next at h
      split at h <;> omega
    · have := ih t hs.2
      simp only [holds, List.any_cons] at this ⊢
      rw [this]

/-- The set of some ranges has the characters in them. -/
theorem contains_ofRanges (ranges : List (Nat × Nat)) (c : Char) :
    (ofRanges ranges).contains c = holds ranges c.toNat := by
  have hp : (ranges.mergeSort fun r t => r.1 ≤ t.1).Perm ranges := List.mergeSort_perm _ _
  have ho := @List.pairwise_mergeSort _ (fun r t : Nat × Nat => decide (r.1 ≤ t.1))
    (fun a b c => by simp only [decide_eq_true_eq]; omega)
    (fun a b => by simp only [Bool.or_eq_true, decide_eq_true_eq]; omega) ranges
  have hh : holds (ranges.mergeSort fun r t => r.1 ≤ t.1) c.toNat = holds ranges c.toNat :=
    hp.any_eq
  unfold ofRanges
  split
  · rename_i h
    rw [← hh, h]
    rfl
  · rename_i r s h
    rw [← hh, h]
    rw [h] at ho
    exact holds_joinedTo (toNat_not_surrogate c) r s (ho.imp fun h => by simpa using h)

/-- What is in the union of two sets. -/
theorem contains_union (s t : CharSet) (c : Char) :
    (s.union t).contains c = (s.contains c || t.contains c) := by
  rw [union, contains_ofRanges]
  simp [contains, holds]

/-- What is in both of two sets. -/
theorem contains_inter (s t : CharSet) (c : Char) :
    (s.inter t).contains c = (s.contains c && t.contains c) := by
  rw [Bool.eq_iff_iff]
  simp only [contains, holds, inter, List.any_eq_true, List.mem_flatMap, List.mem_filterMap,
    Bool.and_eq_true, decide_eq_true_eq]
  constructor
  · rintro ⟨q, ⟨r, hr, u, hu, hq⟩, h⟩
    split at hq
    · cases hq
      exact ⟨⟨r, hr, by omega⟩, ⟨u, hu, by omega⟩⟩
    · cases hq
  · rintro ⟨⟨r, hr, h⟩, ⟨u, hu, h'⟩⟩
    exact ⟨(max r.1 u.1, min r.2 u.2), ⟨r, hr, u, hu, by rw [if_pos (by omega)]⟩,
      by simp only; omega⟩

/-- Whether ranges are in order, from one code point up to a last one, with a gap between each two
or none. -/
def IsOrdered (last : Nat) (n : Nat) : List (Nat × Nat) → Prop
  | [] => True
  | r :: s => n ≤ r.1 ∧ r.1 ≤ r.2 ∧ r.2 ≤ last ∧ IsOrdered last (next r.2) s

theorem le_next (n : Nat) : n < next n := by
  unfold next
  split <;> omega

/-- Ranges that are put together are in order. -/
theorem isOrdered_joinedTo {last n : Nat} {r : Nat × Nat} {s : List (Nat × Nat)} (hn : n ≤ r.1)
    (hv : ∀ t ∈ r :: s, t.1 ≤ t.2 ∧ t.2 ≤ last) (hs : (r :: s).Pairwise fun t u => t.1 ≤ u.1) :
    IsOrdered last n (joinedTo r s) := by
  have hr := hv r List.mem_cons_self
  induction s generalizing r n with
  | nil => exact ⟨hn, hr.1, hr.2, trivial⟩
  | cons t s ih =>
    have ht := hv t (List.mem_cons_of_mem _ List.mem_cons_self)
    rw [List.pairwise_cons] at hs
    simp only [joinedTo]
    split
    · have hm : r.1 ≤ max r.2 t.2 ∧ max r.2 t.2 ≤ last := by omega
      refine ih hn ?_ ?_ hm
      · intro u hu
        rcases List.mem_cons.1 hu with rfl | hu
        · exact hm
        · exact hv u (List.mem_cons_of_mem _ (List.mem_cons_of_mem _ hu))
      · exact List.pairwise_cons.2 ⟨fun u hu => hs.1 u (List.mem_cons_of_mem _ hu),
          (List.pairwise_cons.1 hs.2).2⟩
    · exact ⟨hn, hr.1, hr.2, ih (by omega) (fun u hu => hv u (List.mem_cons_of_mem _ hu)) hs.2 ht⟩

/-- The ranges of a set that some ranges make are in order. -/
theorem isOrdered_ofRanges {last : Nat} {ranges : List (Nat × Nat)}
    (hv : ∀ t ∈ ranges, t.1 ≤ t.2 ∧ t.2 ≤ last) : IsOrdered last 0 (ofRanges ranges).ranges := by
  have hp : (ranges.mergeSort fun r t => r.1 ≤ t.1).Perm ranges := List.mergeSort_perm _ _
  have ho := @List.pairwise_mergeSort _ (fun r t : Nat × Nat => decide (r.1 ≤ t.1))
    (fun a b c => by simp only [decide_eq_true_eq]; omega)
    (fun a b => by simp only [Bool.or_eq_true, decide_eq_true_eq]; omega) ranges
  unfold ofRanges
  split
  · exact trivial
  · rename_i r s h
    rw [h] at ho hp
    exact isOrdered_joinedTo (Nat.zero_le _) (fun t ht => hv t (hp.mem_iff.1 ht))
      (ho.imp fun h => by simpa using h)

/-- Ranges in order hold nothing before the first. -/
theorem le_of_holds {last n k : Nat} {ranges : List (Nat × Nat)} (h : IsOrdered last n ranges)
    (hk : holds ranges k = true) : n ≤ k ∧ k ≤ last := by
  induction ranges generalizing n with
  | nil => simp [holds] at hk
  | cons r s ih =>
    obtain ⟨h₁, h₂, h₃, h₄⟩ := h
    simp only [holds, List.any_cons, Bool.or_eq_true, Bool.and_eq_true, decide_eq_true_eq] at hk
    rcases hk with hk | hk
    · omega
    · have := ih h₄ hk
      have := le_next r.2
      omega

/-- The gaps between ranges hold what the ranges do not. -/
theorem holds_gaps {last n k : Nat} (hk : k < 0xD800 ∨ 0xDFFF < k) {ranges : List (Nat × Nat)}
    (h : IsOrdered last n ranges) :
    holds (gaps last n ranges) k = (decide (n ≤ k ∧ k ≤ last) && !holds ranges k) := by
  induction ranges generalizing n with
  | nil =>
    unfold gaps
    split <;> simp [holds]
    omega
  | cons r s ih =>
    obtain ⟨h₁, h₂, h₃, h₄⟩ := h
    have hn := le_next r.2
    have hs := @le_of_holds last (next r.2) k s h₄
    have hg : holds (gaps last n (r :: s)) k =
        ((decide (n < r.1) && decide (n ≤ k ∧ k ≤ before r.1)) ||
          holds (gaps last (next r.2) s) k) := by
      show holds ((if n < r.1 then [(n, before r.1)] else []) ++ gaps last (next r.2) s) k = _
      split <;> rename_i hr <;> simp [holds, hr]
    rw [hg, ih h₄]
    have hb : (k ≤ before r.1 ∧ n < r.1) ↔ (k < r.1 ∧ n < r.1) := by
      unfold before
      split <;> omega
    have hx : next r.2 ≤ k ↔ r.2 < k := by
      unfold next
      split <;> omega
    have hh : holds (r :: s) k = (decide (r.1 ≤ k ∧ k ≤ r.2) || holds s k) := by
      simp [holds]
    rw [hh, Bool.eq_iff_iff]
    cases hv : holds s k with
    | true =>
      have := hs hv
      simp
      omega
    | false =>
      simp
      omega

/-- What is not in a set whose ranges are in order. -/
theorem contains_complement {s : CharSet} (h : IsOrdered lastPoint 0 s.ranges) (c : Char) :
    (s.complement lastPoint).contains c = !s.contains c := by
  have hc : c.toNat ≤ lastPoint := by
    rcases c.valid with h | h <;> simp only [lastPoint, Char.toNat] <;> omega
  simp [contains, complement, holds_gaps (toNat_not_surrogate c) h, hc]

end CharSet

end AlertConsole.Pattern
