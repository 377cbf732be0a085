import AlertConsole.Proofs.Json.DistinctKeys
import Mathlib.Data.List.Perm.Subperm
set_option autoImplicit false

/-!
# Equal values

Equality of values does not tell the two zeros apart and does not count the order of the members of
an object.  Among values without repeated keys it is an equivalence, and two objects are equal
exactly if every key has equal values in both (`Members.same_iff`).
-/

namespace AlertConsole

/-! ## Numbers -/

theorem Binary64.same_iff {x y : Binary64} :
    x.same y = true ↔ x = y ∨ x.isZero = true ∧ y.isZero = true := by
  simp [same]

namespace Json

theorem Number.same_equivalence : Equivalence fun m n : Number => m.same n = true where
  refl := by
    intro n
    cases n with
    | integer i inRange => exact beq_self_eq_true i
    | double x => exact Binary64.same_iff.mpr (.inl rfl)
  symm := by
    intro m n h
    cases m <;> cases n
    · exact beq_iff_eq.mpr (beq_iff_eq.mp h).symm
    · contradiction
    · contradiction
    · rw [Number.same, Binary64.same_iff] at h ⊢
      exact h.imp Eq.symm And.symm
  trans := by
    intro l m n h h'
    cases l <;> cases m <;> cases n
    any_goals contradiction
    · exact beq_iff_eq.mpr ((beq_iff_eq.mp h).trans (beq_iff_eq.mp h'))
    · rw [Number.same, Binary64.same_iff] at h h' ⊢
      rcases h with rfl | ⟨hzero, hzero'⟩
      · exact h'
      · rcases h' with rfl | ⟨-, hzero''⟩
        · exact .inr ⟨hzero, hzero'⟩
        · exact .inr ⟨hzero, hzero''⟩

/-! ## Values -/

/-- Two values are equal, however the members of the objects in them are ordered. -/
def Value.Alike (v w : Value) : Prop := v.same w = true

namespace Value

theorem alike_null_iff {w : Value} : Alike .null w ↔ w = .null := by
  cases w with
  | null => exact iff_of_true rfl rfl
  | _ => exact iff_of_false Bool.false_ne_true nofun

theorem alike_bool_iff {b : Bool} {w : Value} : Alike (.bool b) w ↔ w = .bool b := by
  cases w with
  | bool c =>
    rw [Value.bool.injEq, @eq_comm _ c]
    exact beq_iff_eq
  | _ => exact iff_of_false Bool.false_ne_true nofun

theorem alike_number_iff {m : Number} {w : Value} :
    Alike (.number m) w ↔ ∃ n, w = .number n ∧ m.same n = true := by
  cases w with
  | number n =>
    constructor
    · exact fun h => ⟨n, rfl, h⟩
    · rintro ⟨_, ⟨⟩, h⟩
      exact h
  | _ => exact iff_of_false Bool.false_ne_true fun ⟨_, hw, _⟩ => Value.noConfusion hw

theorem alike_string_iff {s : String} {w : Value} : Alike (.string s) w ↔ w = .string s := by
  cases w with
  | string t =>
    rw [Value.string.injEq, @eq_comm _ t]
    exact beq_iff_eq
  | _ => exact iff_of_false Bool.false_ne_true nofun

theorem sameItems_iff {vs ws : List Value} :
    sameItems vs ws = true ↔ List.Forall₂ Alike vs ws := by
  induction vs generalizing ws with
  | nil =>
    cases ws with
    | nil => exact iff_of_true rfl .nil
    | cons w ws => exact iff_of_false Bool.false_ne_true nofun
  | cons v vs ih =>
    cases ws with
    | nil => exact iff_of_false Bool.false_ne_true nofun
    | cons w ws =>
      show (v.same w && sameItems vs ws) = true ↔ _
      rw [Bool.and_eq_true, List.forall₂_cons, ih, Alike]

theorem alike_array_iff {vs : List Value} {w : Value} :
    Alike (.array vs) w ↔ ∃ ws, w = .array ws ∧ List.Forall₂ Alike vs ws := by
  cases w with
  | array ws =>
    constructor
    · exact fun h => ⟨ws, rfl, sameItems_iff.mp h⟩
    · rintro ⟨_, ⟨⟩, h⟩
      exact sameItems_iff.mpr h
  | _ => exact iff_of_false Bool.false_ne_true nofun

theorem alike_object_iff {ms : Members} {w : Value} :
    Alike (.object ms) w ↔ ∃ ns, w = .object ns ∧ ms.same ns = true := by
  cases w with
  | object ns =>
    constructor
    · exact fun h => ⟨ns, rfl, h⟩
    · rintro ⟨_, ⟨⟩, h⟩
      exact h
  | _ => exact iff_of_false Bool.false_ne_true nofun

theorem alike_objects_iff {ms ns : Members} :
    Alike (.object ms) (.object ns) ↔ ms.same ns = true := by
  simp [alike_object_iff]

end Value

/-! ## Lists that are related place by place -/

/-- Each element is related to one of the other list. -/
theorem exists_of_forall₂ {α β : Type} {R : α → β → Prop} {xs : List α} {ys : List β}
    (h : List.Forall₂ R xs ys) :
    (∀ x ∈ xs, ∃ y ∈ ys, R x y) ∧ ∀ y ∈ ys, ∃ x ∈ xs, R x y := by
  induction h with
  | nil => simp
  | cons hxy _ ih =>
    rw [List.forall_mem_cons, List.forall_mem_cons]
    refine ⟨⟨⟨_, List.mem_cons_self, hxy⟩, fun x hx => ?_⟩,
      ⟨_, List.mem_cons_self, hxy⟩, fun y hy => ?_⟩
    · obtain ⟨y, hy, hxy⟩ := ih.1 x hx
      exact ⟨y, List.mem_cons_of_mem _ hy, hxy⟩
    · obtain ⟨x, hx, hxy⟩ := ih.2 y hy
      exact ⟨x, List.mem_cons_of_mem _ hx, hxy⟩

/-- Elements that stand in the place of the same element are related, if that goes for each. -/
theorem forall₂_of_common {α β γ : Type} {R : α → β → Prop} {S : α → γ → Prop} {T : β → γ → Prop}
    {xs : List α} {ys : List β} {zs : List γ} (hys : List.Forall₂ R xs ys)
    (hzs : List.Forall₂ S xs zs)
    (hT : ∀ x ∈ xs, ∀ y ∈ ys, ∀ z ∈ zs, R x y → S x z → T y z) : List.Forall₂ T ys zs := by
  induction hys generalizing zs with
  | nil =>
    obtain ⟨⟩ := hzs
    exact .nil
  | cons hy _ ih =>
    obtain _ | ⟨hz, hzs⟩ := hzs
    refine .cons (hT _ List.mem_cons_self _ List.mem_cons_self _ List.mem_cons_self hy hz) ?_
    refine ih hzs fun x hx y hy z hz => ?_
    exact hT x (List.mem_cons_of_mem _ hx) y (List.mem_cons_of_mem _ hy) z
      (List.mem_cons_of_mem _ hz)

/-! ## Members -/

namespace Members

theorem sameMembers_iff {ms ns : Members} :
    sameMembers ms ns = true ↔ ∀ m ∈ ms, ∃ w, ns.get? m.1 = some w ∧ m.2.Alike w := by
  induction ms with
  | nil => exact iff_of_true rfl fun m hm => absurd hm List.not_mem_nil
  | cons m ms ih =>
    rw [sameMembers, Bool.and_eq_true, ih, List.forall_mem_cons]
    refine and_congr_left fun _ => ?_
    cases ns.get? m.1 <;> simp [Value.Alike]

variable {ms ns : Members}

theorem mem_keys_iff (h : ∀ key, Option.Rel Value.Alike (ms.get? key) (ns.get? key))
    (key : String) : key ∈ ms.keys ↔ key ∈ ns.keys := by
  have hkey := h key
  rw [← has_eq_true_iff, ← has_eq_true_iff, has, has]
  generalize ms.get? key = v at hkey ⊢
  generalize ns.get? key = w at hkey ⊢
  cases hkey with
  | none => exact Iff.rfl
  | some _ => exact Iff.rfl

/-- Without repeated keys, two lists of members are equal as objects exactly if each key has equal
values in both, or none. -/
theorem same_iff (h : ms.keys.Nodup) (h' : ns.keys.Nodup) :
    ms.same ns = true ↔ ∀ key, Option.Rel Value.Alike (ms.get? key) (ns.get? key) := by
  rw [same, Bool.and_eq_true, beq_iff_eq, sameMembers_iff]
  constructor
  · rintro ⟨hlength, hms⟩ key
    cases hv : ms.get? key with
    | some v =>
      obtain ⟨w, hw, hvw⟩ := hms _ ((get?_eq_some_iff h).mp hv)
      rw [hw]
      exact .some hvw
    | none =>
      have hsubset : ms.keys ⊆ ns.keys := by
        intro k hk
        obtain ⟨m, hm, rfl⟩ := List.mem_map.mp hk
        obtain ⟨w, hw, -⟩ := hms m hm
        exact (has_eq_true_iff ns m.1).mp (Option.isSome_iff_exists.mpr ⟨w, hw⟩)
      -- there are no more keys than these, for there are as many members
      have hperm : ms.keys.Perm ns.keys := by
        refine (List.subperm_of_subset h hsubset).perm_of_length_le ?_
        rw [keys, keys, List.length_map, List.length_map]
        exact Nat.le_of_eq hlength.symm
      have hkey := get?_eq_none_iff.mp hv
      rw [get?_eq_none_iff.mpr (mt hperm.mem_iff.mpr hkey)]
      exact .none
  · intro hrel
    constructor
    · have hperm : ms.keys.Perm ns.keys := (List.perm_ext_iff_of_nodup h h').mpr (mem_keys_iff hrel)
      have hlength := hperm.length_eq
      rwa [keys, keys, List.length_map, List.length_map] at hlength
    · intro m hm
      have hkey := hrel m.1
      rw [(get?_eq_some_iff h).mpr hm] at hkey
      generalize ns.get? m.1 = w at hkey ⊢
      obtain ⟨hmw⟩ := hkey
      exact ⟨_, rfl, hmw⟩

/-- Members that are equal one by one are equal as objects, in any order. -/
theorem same_of_perm {ns' : Members} (hms : List.Forall₂ (Keyed Value.Alike) ms ns)
    (hperm : ns.Perm ns') (h : ns'.keys.Nodup) : ms.same ns' = true := by
  rw [same, Bool.and_eq_true, beq_iff_eq, sameMembers_iff]
  refine ⟨hms.length_eq.trans hperm.length_eq, fun m hm => ?_⟩
  obtain ⟨n, hn, hkey, hmn⟩ := (exists_of_forall₂ hms).1 m hm
  refine ⟨n.2, ?_, hmn⟩
  rw [hkey, get?_eq_some_iff h]
  exact hperm.mem_iff.mp hn

end Members

/-! ## An equivalence -/

namespace Value.DistinctKeys

theorem alike_refl {v : Value} (h : v.DistinctKeys) : v.Alike v := by
  induction h with
  | null => exact alike_null_iff.mpr rfl
  | bool b => exact alike_bool_iff.mpr rfl
  | number n => exact alike_number_iff.mpr ⟨n, rfl, Number.same_equivalence.refl n⟩
  | string s => exact alike_string_iff.mpr rfl
  | array _ ih => exact alike_array_iff.mpr ⟨_, rfl, List.forall₂_same.mpr ih⟩
  | @object ms hkeys _ ih =>
    refine alike_object_iff.mpr ⟨ms, rfl, (Members.same_iff hkeys hkeys).mpr fun key => ?_⟩
    cases hv : ms.get? key with
    | none => exact .none
    | some v => exact .some (ih _ ((Members.get?_eq_some_iff hkeys).mp hv))

/-- Two values that are equal to a third are equal. -/
theorem alike_of_common {v w u : Value} (hv : v.DistinctKeys) (hw : w.DistinctKeys)
    (hu : u.DistinctKeys) (hvw : v.Alike w) (hvu : v.Alike u) : w.Alike u := by
  induction hv generalizing w u with
  | null =>
    obtain rfl := alike_null_iff.mp hvw
    exact hvu
  | bool b =>
    obtain rfl := alike_bool_iff.mp hvw
    exact hvu
  | number l =>
    obtain ⟨m, rfl, hlm⟩ := alike_number_iff.mp hvw
    obtain ⟨n, rfl, hln⟩ := alike_number_iff.mp hvu
    have hml := Number.same_equivalence.symm hlm
    exact alike_number_iff.mpr ⟨n, rfl, Number.same_equivalence.trans hml hln⟩
  | string s =>
    obtain rfl := alike_string_iff.mp hvw
    exact hvu
  | @array vs _ ih =>
    obtain ⟨ws, rfl, hvws⟩ := alike_array_iff.mp hvw
    obtain ⟨us, rfl, hvus⟩ := alike_array_iff.mp hvu
    rw [distinctKeys_array_iff] at hw hu
    refine alike_array_iff.mpr ⟨us, rfl, forall₂_of_common hvws hvus ?_⟩
    exact fun v hv w hmem u hmem' => ih v hv (hw w hmem) (hu u hmem')
  | @object ms hkeys _ ih =>
    obtain ⟨ns, rfl, hmns⟩ := alike_object_iff.mp hvw
    obtain ⟨os, rfl, hmos⟩ := alike_object_iff.mp hvu
    obtain ⟨hkeys', hns⟩ := distinctKeys_object_iff.mp hw
    obtain ⟨hkeys'', hos⟩ := distinctKeys_object_iff.mp hu
    rw [Members.same_iff hkeys hkeys'] at hmns
    rw [Members.same_iff hkeys hkeys''] at hmos
    refine alike_object_iff.mpr ⟨os, rfl, (Members.same_iff hkeys' hkeys'').mpr fun key => ?_⟩
    have hmn := hmns key
    have hmo := hmos key
    generalize hv : ms.get? key = v at hmn hmo
    generalize hw : Members.get? ns key = w at hmn ⊢
    generalize hu : Members.get? os key = u at hmo ⊢
    cases hmn with
    | none =>
      cases hmo
      exact .none
    | some hvw =>
      obtain ⟨hvu⟩ := hmo
      rw [Members.get?_eq_some_iff hkeys] at hv
      rw [Members.get?_eq_some_iff hkeys'] at hw
      rw [Members.get?_eq_some_iff hkeys''] at hu
      exact .some (ih _ hv (hns _ hw) (hos _ hu) hvw hvu)

theorem alike_symm {v w : Value} (h : v.DistinctKeys) (h' : w.DistinctKeys) (hvw : v.Alike w) :
    w.Alike v :=
  h.alike_of_common h' h hvw h.alike_refl

end Value.DistinctKeys

end Json

end AlertConsole
