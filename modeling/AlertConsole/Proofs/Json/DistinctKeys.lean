import AlertConsole.Proofs.Json.Settling
import Mathlib.Data.List.Nodup
set_option autoImplicit false

/-!
# Objects without repeated keys

However often a sender writes a key, the object that is read has it once, at every depth
(`Tree.StandsFor.distinctKeys`).  An object with distinct keys is what its own members settle into,
so a value that was read can be taken apart and put together again without a change.
-/

namespace AlertConsole.Json

/-! ## Members -/

namespace Members

/-- Giving a key a value brings in no other member. -/
theorem mem_of_mem_put {key : String} {value : Value} {ms : Members} {m : String × Value}
    (h : m ∈ ms.put key value) : m = (key, value) ∨ m ∈ ms := by
  induction ms with
  | nil => exact .inl (List.mem_singleton.mp h)
  | cons n ms ih =>
    rw [put] at h
    split at h
    · exact (List.mem_cons.mp h).imp_right (List.mem_cons_of_mem n)
    · obtain rfl | hm := List.mem_cons.mp h
      · exact .inr List.mem_cons_self
      · exact (ih hm).imp_right (List.mem_cons_of_mem n)

theorem nodup_keys_put {key : String} {value : Value} {ms : Members} (h : ms.keys.Nodup) :
    (ms.put key value).keys.Nodup := by
  rw [keys_put]
  split
  · exact h
  · rename_i hkey
    rw [List.nodup_append]
    refine ⟨h, List.nodup_singleton key, fun k hk k' hk' => ?_⟩
    obtain rfl := List.mem_singleton.mp hk'
    exact ne_of_mem_of_not_mem hk hkey

/-- A key that is not there goes behind the others. -/
theorem put_of_not_mem {key : String} {value : Value} {ms : Members} (h : key ∉ ms.keys) :
    ms.put key value = ms ++ [(key, value)] := by
  induction ms with
  | nil => rfl
  | cons m ms ih =>
    have hne : m.1 ≠ key := fun hm => h (List.mem_cons.mpr (.inl hm.symm))
    have hms : key ∉ keys ms := fun hmem => h (List.mem_cons_of_mem _ hmem)
    rw [put, if_neg hne, ih hms, List.cons_append]

/-- Every member that members settle into is one of those that were written. -/
theorem mem_of_mem_ofList {written : List (String × Value)} {m : String × Value}
    (h : m ∈ ofList written) : m ∈ written := by
  induction written using List.reverseRecOn with
  | nil => exact h
  | append_singleton written n ih =>
    rw [ofList_concat] at h
    obtain rfl | hm := mem_of_mem_put h
    · exact List.mem_append_right _ (List.mem_singleton.mpr rfl)
    · exact List.mem_append_left _ (ih hm)

theorem nodup_keys_ofList (written : List (String × Value)) : (ofList written).keys.Nodup := by
  induction written using List.reverseRecOn with
  | nil => exact List.nodup_nil
  | append_singleton written n ih =>
    rw [ofList_concat]
    exact nodup_keys_put ih

theorem mem_keys_of_mem {ms : Members} {m : String × Value} (h : m ∈ ms) : m.1 ∈ ms.keys :=
  List.mem_map_of_mem h

theorem get?_eq_none_iff {ms : Members} {key : String} : ms.get? key = none ↔ key ∉ ms.keys := by
  rw [← has_eq_true_iff, has, Bool.not_eq_true, Option.isSome_eq_false_iff,
    Option.isNone_iff_eq_none]

/-- With distinct keys, the value of a key is that of the one member that has it. -/
theorem get?_eq_some_iff {ms : Members} (h : ms.keys.Nodup) {key : String} {v : Value} :
    ms.get? key = some v ↔ (key, v) ∈ ms := by
  induction ms with
  | nil => simp
  | cons m ms ih =>
    obtain ⟨k, w⟩ := m
    obtain ⟨hk, hms⟩ := List.nodup_cons.mp h
    rw [get?_cons, List.mem_cons, Prod.mk.injEq]
    by_cases hkey : key = k
    · subst hkey
      have hnot : (key, v) ∉ ms := by
        intro hmem
        have hkeys := mem_keys_of_mem hmem
        exact hk hkeys
      simp only [if_true, Option.some.injEq, true_and, hnot, or_false]
      exact eq_comm
    · rw [if_neg hkey, ih hms]
      simp only [hkey, false_and, false_or]

/-- Members with distinct keys have settled. -/
theorem ofList_of_nodup {ms : Members} (h : ms.keys.Nodup) : ofList ms = ms := by
  induction ms using List.reverseRecOn with
  | nil => rfl
  | append_singleton ms m ih =>
    rw [keys, List.map_append, List.nodup_append] at h
    obtain ⟨hms, -, hdisjoint⟩ := h
    have hm : m.1 ∉ keys ms := fun hmem =>
      hdisjoint m.1 hmem m.1 (List.mem_singleton.mpr rfl) rfl
    rw [ofList_concat, ih hms, put_of_not_mem hm]

end Members

/-! ## Values -/

/-- In every object of a value each key stands once. -/
inductive Value.DistinctKeys : Value → Prop where
  | null : DistinctKeys .null
  | bool (b : Bool) : DistinctKeys (.bool b)
  | number (n : Number) : DistinctKeys (.number n)
  | string (s : String) : DistinctKeys (.string s)
  | array {items : List Value} : (∀ v ∈ items, DistinctKeys v) → DistinctKeys (.array items)
  | object {ms : Members} : ms.keys.Nodup → (∀ m ∈ ms, DistinctKeys m.2) →
      DistinctKeys (.object ms)

theorem Value.distinctKeys_array_iff {items : List Value} :
    (Value.array items).DistinctKeys ↔ ∀ v ∈ items, v.DistinctKeys := by
  constructor
  · rintro (_ | _ | _ | _ | h | _)
    exact h
  · exact .array

theorem Value.distinctKeys_object_iff {ms : Members} :
    (Value.object ms).DistinctKeys ↔ ms.keys.Nodup ∧ ∀ m ∈ ms, m.2.DistinctKeys := by
  constructor
  · rintro (_ | _ | _ | _ | _ | ⟨hkeys, hms⟩)
    exact ⟨hkeys, hms⟩
  · exact fun h => .object h.1 h.2

mutual

/-- A value that a tree stands for has distinct keys, whatever the tree repeats. -/
theorem Tree.StandsFor.distinctKeys : (t : Tree) → {v : Value} → t.StandsFor v → v.DistinctKeys
  | .null, _, h => by
    obtain rfl := Option.some.inj h
    exact .null
  | .bool b, _, h => by
    obtain rfl := Option.some.inj h
    exact .bool b
  | .string s, _, h => by
    obtain rfl := Option.some.inj h
    exact .string s
  | .number l, _, h => by
    obtain ⟨n, rfl, -⟩ := standsFor_number_iff.mp h
    exact .number n
  | .array ts, _, h => by
    obtain ⟨vs, rfl, hvs⟩ := standsFor_array_iff.mp h
    exact .array (distinctKeys_of_items ts hvs)
  | .object ms, _, h => by
    obtain ⟨written, rfl, hms⟩ := standsFor_object_iff.mp h
    exact .object (Members.nodup_keys_ofList written) fun m hm =>
      distinctKeys_of_members ms hms m (Members.mem_of_mem_ofList hm)

theorem distinctKeys_of_items : (ts : List Tree) → {vs : List Value} →
    List.Forall₂ Tree.StandsFor ts vs → ∀ v ∈ vs, v.DistinctKeys
  | [], _, .nil => fun _ h => absurd h List.not_mem_nil
  | t :: ts, _, .cons hv hvs =>
    List.forall_mem_cons.mpr ⟨Tree.StandsFor.distinctKeys t hv, distinctKeys_of_items ts hvs⟩

theorem distinctKeys_of_members : (ms : List (String × Tree)) → {written : List (String × Value)} →
    List.Forall₂ (Keyed Tree.StandsFor) ms written → ∀ m ∈ written, m.2.DistinctKeys
  | [], _, .nil => fun _ h => absurd h List.not_mem_nil
  | (_, t) :: ms, _, .cons ⟨_, hv⟩ hms =>
    List.forall_mem_cons.mpr ⟨Tree.StandsFor.distinctKeys t hv, distinctKeys_of_members ms hms⟩

end

end AlertConsole.Json
