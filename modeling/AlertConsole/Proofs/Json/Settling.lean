import AlertConsole.Proofs.Json.TreeValue
import Mathlib.Data.List.Induction
set_option autoImplicit false

/-!
# How the members of an object settle

A sender may write a key more than once, at any depth.  `Settles` says what comes of that without
saying how: the keys stand where they were first written, and each has the value that was written
for it last.  `Tree.settles_of_standsFor` is that rule for the value of a tree, whose members are
put one after the other.
-/

namespace AlertConsole.Json

/-! ## Putting members one after the other -/

namespace Members

/-- The keys of members that were put one after the other are in the order in which they were first
written. -/
theorem keys_ofList (written : List (String × Value)) :
    (ofList written).keys = (written.map Prod.fst).eraseDups := by
  induction written using List.reverseRecOn with
  | nil => rfl
  | append_singleton written m ih =>
    rw [ofList_concat, keys_put, ih, List.map_append, List.eraseDups_append]
    by_cases hm : m.1 ∈ written.map Prod.fst
    · rw [if_pos (List.mem_eraseDups.mpr hm)]
      simp [List.removeAll, hm]
    · rw [if_neg (mt List.mem_eraseDups.mp hm)]
      simp [List.removeAll, hm, List.eraseDups_cons]

/-- The value of a key is the one that was written for it last. -/
theorem get?_ofList (written : List (String × Value)) (key : String) :
    (ofList written).get? key = written.reverse.lookup key := by
  induction written using List.reverseRecOn with
  | nil => rfl
  | append_singleton written m ih =>
    rw [ofList_concat, List.reverse_append, List.reverse_singleton, List.singleton_append,
      List.lookup_cons]
    by_cases hm : key = m.1
    · rw [hm, get?_put_self, beq_self_eq_true]
    · rw [get?_put_of_ne hm, ih, beq_eq_false_iff_ne.mpr hm]

end Members

theorem lookup_rel {α β : Type} {R : α → β → Prop} {ms : List (String × α)}
    {ns : List (String × β)} (h : List.Forall₂ (Keyed R) ms ns) (key : String) :
    Option.Rel R (ms.lookup key) (ns.lookup key) := by
  induction h with
  | nil => exact .none
  | @cons m n ms ns hmn _ ih =>
    obtain ⟨hkey, hR⟩ := hmn
    rw [List.lookup_cons, List.lookup_cons, hkey]
    split
    · exact .some hR
    · exact ih

theorem exists_of_rel_some {α β : Type} {R : α → β → Prop} {x : α} {b : Option β}
    (h : Option.Rel R (some x) b) : ∃ y, b = some y ∧ R x y := by
  obtain @⟨_, y, hxy⟩ := h
  exact ⟨y, rfl, hxy⟩

theorem exists_of_some_rel {α β : Type} {R : α → β → Prop} {a : Option α} {y : β}
    (h : Option.Rel R a (some y)) : ∃ x, a = some x ∧ R x y := by
  obtain @⟨x, _, hxy⟩ := h
  exact ⟨x, rfl, hxy⟩

theorem map_fst_eq {α β : Type} {R : α → β → Prop} {ms : List (String × α)}
    {ns : List (String × β)} (h : List.Forall₂ (Keyed R) ms ns) :
    ms.map Prod.fst = ns.map Prod.fst := by
  induction h with
  | nil => rfl
  | cons hmn _ ih => rw [List.map_cons, List.map_cons, hmn.1, ih]

/-- The value of a key is that of the tree that is written for it last. -/
theorem Tree.StandsFor.get?_rel {ms : List (String × Tree)} {o : Members}
    (h : (Tree.object ms).StandsFor (.object o)) (key : String) :
    Option.Rel Tree.StandsFor (ms.reverse.lookup key) (o.get? key) := by
  obtain ⟨written, ho, hms⟩ := standsFor_object_iff.mp h
  obtain rfl := Value.object.inj ho
  rw [Members.get?_ofList]
  exact lookup_rel (List.forall₂_reverse_iff.mpr hms) key

/-- The keys are those that are written. -/
theorem Tree.StandsFor.mem_keys_iff {ms : List (String × Tree)} {o : Members}
    (h : (Tree.object ms).StandsFor (.object o)) (key : String) :
    key ∈ o.keys ↔ key ∈ ms.map Prod.fst := by
  obtain ⟨written, ho, hms⟩ := standsFor_object_iff.mp h
  obtain rfl := Value.object.inj ho
  rw [Members.keys_ofList, List.mem_eraseDups, map_fst_eq hms]

/-- What is written last for a key stands for its value. -/
theorem Tree.StandsFor.exists_get? {ms : List (String × Tree)} {o : Members} {key : String}
    {t : Tree} (h : (Tree.object ms).StandsFor (.object o))
    (ht : ms.reverse.lookup key = some t) : ∃ v, o.get? key = some v ∧ t.StandsFor v := by
  have hrel := Tree.StandsFor.get?_rel h key
  rw [ht] at hrel
  exact exists_of_rel_some hrel

/-! ## The rule -/

/-- A value is what a tree settles into: in every object of it each key stands once, in the order in
which the keys were first written, with the value that was written for it last. -/
inductive Settles : Tree → Value → Prop where
  | null : Settles .null .null
  | bool (b : Bool) : Settles (.bool b) (.bool b)
  | number {l : Literal} {n : Number} : l.number = .ok n → Settles (.number l) (.number n)
  | string (s : String) : Settles (.string s) (.string s)
  | array {ts : List Tree} {vs : List Value} : List.Forall₂ Settles ts vs →
      Settles (.array ts) (.array vs)
  | object {ms : List (String × Tree)} {vs : Members} :
      vs.keys = (ms.map Prod.fst).eraseDups →
      (∀ key, Option.Rel Settles (ms.reverse.lookup key) (vs.get? key)) →
      Settles (.object ms) (.object vs)

/-- Members that have the same keys and values that settle make an object that settles. -/
theorem settles_object {ms : List (String × Tree)} {written : List (String × Value)}
    (h : List.Forall₂ (Keyed Settles) ms written) :
    Settles (.object ms) (.object (Members.ofList written)) := by
  refine .object ?_ fun key => ?_
  · rw [Members.keys_ofList, map_fst_eq h]
  · rw [Members.get?_ofList]
    exact lookup_rel (List.forall₂_reverse_iff.mpr h) key

mutual

/-- The value of a tree is what it settles into. -/
theorem Tree.settles_of_standsFor : (t : Tree) → {v : Value} → t.StandsFor v → Settles t v
  | .null, _, h => by
    obtain rfl := Option.some.inj h
    exact .null
  | .bool b, _, h => by
    obtain rfl := Option.some.inj h
    exact .bool b
  | .string s, _, h => by
    obtain rfl := Option.some.inj h
    exact .string s
  | .number l, _, h => by
    obtain ⟨n, rfl, hn⟩ := standsFor_number_iff.mp h
    exact .number hn
  | .array ts, _, h => by
    obtain ⟨vs, rfl, hvs⟩ := standsFor_array_iff.mp h
    exact .array (settles_of_items ts hvs)
  | .object ms, _, h => by
    obtain ⟨written, rfl, hms⟩ := standsFor_object_iff.mp h
    exact settles_object (settles_of_members ms hms)

theorem settles_of_items : (ts : List Tree) → {vs : List Value} →
    List.Forall₂ Tree.StandsFor ts vs → List.Forall₂ Settles ts vs
  | [], _, .nil => .nil
  | t :: ts, _, .cons hv hvs => .cons (t.settles_of_standsFor hv) (settles_of_items ts hvs)

theorem settles_of_members : (ms : List (String × Tree)) → {written : List (String × Value)} →
    List.Forall₂ (Keyed Tree.StandsFor) ms written → List.Forall₂ (Keyed Settles) ms written
  | [], _, .nil => .nil
  | (_, t) :: ms, _, .cons ⟨hkey, hv⟩ hms =>
    .cons ⟨hkey, t.settles_of_standsFor hv⟩ (settles_of_members ms hms)

end

end AlertConsole.Json
