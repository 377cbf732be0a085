import AlertConsole.Proofs.Json.Grammar
import AlertConsole.Proofs.Json.Range
import Mathlib.Data.List.Forall2
set_option autoImplicit false

/-!
# The value of a tree

A tree stands for a value if the number literals in it have numbers, which is if they are in range.
The members of an object settle: a key that is written twice has one value.
-/

namespace AlertConsole.Json

/-! ## Literals in range -/

mutual

/-- The number literals in a tree. -/
def Tree.literals : Tree → List Literal
  | .number l => [l]
  | .array ts => itemsLiterals ts
  | .object ms => membersLiterals ms
  | _ => []

/-- The number literals in some elements. -/
def itemsLiterals : List Tree → List Literal
  | [] => []
  | t :: ts => t.literals ++ itemsLiterals ts

/-- The number literals in some members. -/
def membersLiterals : List (String × Tree) → List Literal
  | [] => []
  | (_, t) :: ms => t.literals ++ membersLiterals ms

end

/-- Every number literal in a tree is in range. -/
def Tree.InRange (t : Tree) : Prop := ∀ l ∈ t.literals, l.InRange

theorem itemsLiterals_inRange_iff {ts : List Tree} :
    (∀ l ∈ itemsLiterals ts, l.InRange) ↔ ∀ t ∈ ts, t.InRange := by
  induction ts with
  | nil => simp [itemsLiterals]
  | cons t ts ih => simp [itemsLiterals, Tree.InRange, or_imp, forall_and, ih]

theorem membersLiterals_inRange_iff {ms : List (String × Tree)} :
    (∀ l ∈ membersLiterals ms, l.InRange) ↔ ∀ m ∈ ms, m.2.InRange := by
  induction ms with
  | nil => simp [membersLiterals]
  | cons m ms ih => simp [membersLiterals, Tree.InRange, or_imp, forall_and, ih]

/-! ## Values -/

mutual

/-- The value that a tree stands for. -/
def Tree.value? : Tree → Option Value
  | .null => some .null
  | .bool b => some (.bool b)
  | .number l =>
    match l.number with
    | .ok n => some (.number n)
    | .error _ => none
  | .string s => some (.string s)
  | .array ts => (itemsValues? ts).map .array
  | .object ms => (membersValues? ms).map fun written => .object (Members.ofList written)

/-- The values of some elements. -/
def itemsValues? : List Tree → Option (List Value)
  | [] => some []
  | t :: ts =>
    match t.value?, itemsValues? ts with
    | some v, some vs => some (v :: vs)
    | _, _ => none

/-- The members, keys repeated or not, that some members stand for. -/
def membersValues? : List (String × Tree) → Option (List (String × Value))
  | [] => some []
  | (key, t) :: ms =>
    match t.value?, membersValues? ms with
    | some v, some written => some ((key, v) :: written)
    | _, _ => none

end

/-- A tree stands for a value. -/
def Tree.StandsFor (t : Tree) (v : Value) : Prop := t.value? = some v

/-- Two members have the same key, and values that are related. -/
def Keyed {α β : Type} (R : α → β → Prop) (m : String × α) (n : String × β) : Prop :=
  m.1 = n.1 ∧ R m.2 n.2

theorem itemsValues?_eq_some_iff {ts : List Tree} {vs : List Value} :
    itemsValues? ts = some vs ↔ List.Forall₂ Tree.StandsFor ts vs := by
  induction ts generalizing vs with
  | nil => simp [itemsValues?, eq_comm]
  | cons t ts ih =>
    rw [itemsValues?]
    constructor
    · intro h
      split at h
      · rename_i v vs' hv hvs
        obtain rfl := Option.some.inj h
        exact .cons hv (ih.mp hvs)
      · contradiction
    · rintro (_ | ⟨hv, hvs⟩)
      rw [Tree.StandsFor] at hv
      rw [hv, ih.mpr hvs]

theorem membersValues?_eq_some_iff {ms : List (String × Tree)} {written : List (String × Value)} :
    membersValues? ms = some written ↔ List.Forall₂ (Keyed Tree.StandsFor) ms written := by
  induction ms generalizing written with
  | nil => simp [membersValues?, eq_comm]
  | cons m ms ih =>
    obtain ⟨key, t⟩ := m
    rw [membersValues?]
    constructor
    · intro h
      split at h
      · rename_i v ns hv hns
        obtain rfl := Option.some.inj h
        exact .cons ⟨rfl, hv⟩ (ih.mp hns)
      · contradiction
    · rintro (_ | ⟨⟨hkey, hv⟩, hns⟩)
      dsimp only [Tree.StandsFor] at hkey hv
      rw [hv, ih.mpr hns, hkey]

theorem standsFor_number_iff {l : Literal} {v : Value} :
    (Tree.number l).StandsFor v ↔ ∃ n, v = .number n ∧ l.number = .ok n := by
  rw [Tree.StandsFor, Tree.value?]
  cases l.number with
  | error unread => simp
  | ok n => simp [eq_comm]

theorem standsFor_array_iff {ts : List Tree} {v : Value} :
    (Tree.array ts).StandsFor v ↔
      ∃ vs, v = .array vs ∧ List.Forall₂ Tree.StandsFor ts vs := by
  rw [Tree.StandsFor, Tree.value?, Option.map_eq_some_iff]
  simp only [itemsValues?_eq_some_iff]
  exact exists_congr fun vs => ⟨fun h => ⟨h.2.symm, h.1⟩, fun h => ⟨h.2, h.1.symm⟩⟩

theorem standsFor_object_iff {ms : List (String × Tree)} {v : Value} :
    (Tree.object ms).StandsFor v ↔
      ∃ written, v = .object (Members.ofList written) ∧
        List.Forall₂ (Keyed Tree.StandsFor) ms written := by
  rw [Tree.StandsFor, Tree.value?, Option.map_eq_some_iff]
  simp only [membersValues?_eq_some_iff]
  exact exists_congr fun written => ⟨fun h => ⟨h.2.symm, h.1⟩, fun h => ⟨h.2, h.1.symm⟩⟩

/-- A tree and its value are of one kind. -/
theorem Tree.StandsFor.kindName_eq {t : Tree} {v : Value} (h : t.StandsFor v) :
    t.kindName = v.kindName := by
  cases t with
  | null => obtain rfl := Option.some.inj h; rfl
  | bool b => obtain rfl := Option.some.inj h; rfl
  | string s => obtain rfl := Option.some.inj h; rfl
  | number l => obtain ⟨n, rfl, -⟩ := standsFor_number_iff.mp h; rfl
  | array ts => obtain ⟨vs, rfl, -⟩ := standsFor_array_iff.mp h; rfl
  | object ms => obtain ⟨written, rfl, -⟩ := standsFor_object_iff.mp h; rfl

/-- Only an object stands for an object. -/
theorem Tree.StandsFor.exists_object {t : Tree} {ms : Members} (h : t.StandsFor (.object ms)) :
    ∃ ts, t = .object ts := by
  have hkind := h.kindName_eq
  cases t with
  | object ts => exact ⟨ts, rfl⟩
  | _ => exact absurd hkind (by simp [Tree.kindName, Value.kindName])

/-! ## A value for each tree in range -/

mutual

/-- A tree stands for a value exactly if its literals are in range. -/
theorem Tree.isSome_value?_iff : (t : Tree) → (t.value?.isSome = true ↔ t.InRange)
  | .null => by simp [Tree.value?, Tree.InRange, Tree.literals]
  | .bool _ => by simp [Tree.value?, Tree.InRange, Tree.literals]
  | .string _ => by simp [Tree.value?, Tree.InRange, Tree.literals]
  | .number l => by
    rw [Tree.InRange, Tree.literals, List.forall_mem_singleton, ← Literal.number_isOk_iff,
      Tree.value?]
    cases l.number <;> simp
  | .array ts => by
    rw [Tree.InRange, Tree.literals, itemsLiterals_inRange_iff, Tree.value?, Option.isSome_map]
    exact isSome_itemsValues?_iff ts
  | .object ms => by
    rw [Tree.InRange, Tree.literals, membersLiterals_inRange_iff, Tree.value?, Option.isSome_map]
    exact isSome_membersValues?_iff ms

theorem isSome_itemsValues?_iff :
    (ts : List Tree) → ((itemsValues? ts).isSome = true ↔ ∀ t ∈ ts, t.InRange)
  | [] => by simp [itemsValues?]
  | t :: ts => by
    rw [List.forall_mem_cons, ← t.isSome_value?_iff, ← isSome_itemsValues?_iff ts, itemsValues?]
    cases t.value? <;> cases itemsValues? ts <;> simp

theorem isSome_membersValues?_iff :
    (ms : List (String × Tree)) → ((membersValues? ms).isSome = true ↔ ∀ m ∈ ms, m.2.InRange)
  | [] => by simp [membersValues?]
  | (key, t) :: ms => by
    rw [List.forall_mem_cons, ← t.isSome_value?_iff, ← isSome_membersValues?_iff ms,
      membersValues?]
    cases t.value? <;> cases membersValues? ms <;> simp

end

/-- A tree in range stands for a value. -/
theorem Tree.InRange.exists_standsFor {t : Tree} (h : t.InRange) : ∃ v, t.StandsFor v :=
  Option.isSome_iff_exists.mp (t.isSome_value?_iff.mpr h)

theorem Tree.StandsFor.inRange {t : Tree} {v : Value} (h : t.StandsFor v) : t.InRange :=
  t.isSome_value?_iff.mp (Option.isSome_iff_exists.mpr ⟨v, h⟩)

end AlertConsole.Json
