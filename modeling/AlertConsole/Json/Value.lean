import AlertConsole.Json.Number
set_option autoImplicit false

/-!
# JSON values

An object is a list of members in the order in which their keys were first seen.  Writing a key
again changes its value and leaves it where it stands, so the members that a sender wrote, in
order, settle into one member for each key.
-/

namespace AlertConsole.Json

/-- A JSON value. -/
inductive Value where
  | null
  | bool (b : Bool)
  | number (n : Number)
  | string (s : String)
  | array (items : List Value)
  | object (members : List (String × Value))
  deriving Inhabited

/-- The members of an object. -/
abbrev Members : Type := List (String × Value)

namespace Members

/-- The value of a key. -/
def get? (ms : Members) (key : String) : Option Value := ms.lookup key

/-- Whether a key has a value. -/
def has (ms : Members) (key : String) : Bool := (ms.get? key).isSome

/-- Gives a key a value: in its place if it has one, else behind the others. -/
def put (key : String) (value : Value) : Members → Members
  | [] => [(key, value)]
  | (k, v) :: ms => if k = key then (key, value) :: ms else (k, v) :: put key value ms

/-- The members that a list of members, keys repeated or not, settles into. -/
def ofList (written : List (String × Value)) : Members :=
  written.foldl (fun ms m => ms.put m.1 m.2) []

/-- The keys, in order. -/
def keys (ms : Members) : List String := ms.map Prod.fst

@[simp] theorem get?_nil (key : String) : get? [] key = none := rfl

theorem get?_cons (k : String) (v : Value) (ms : Members) (key : String) :
    get? ((k, v) :: ms) key = if key = k then some v else get? ms key := by
  unfold get?
  rw [List.lookup_cons]
  by_cases h : key = k
  · simp [h]
  · simp [h, beq_eq_false_iff_ne.mpr h]

/-- A key has a value exactly if it is one of the keys. -/
theorem has_eq_true_iff (ms : Members) (key : String) : ms.has key = true ↔ key ∈ ms.keys := by
  induction ms with
  | nil => simp [has, keys]
  | cons m ms ih =>
    obtain ⟨k, v⟩ := m
    simp only [has, keys, List.map_cons, List.mem_cons, get?_cons] at ih ⊢
    by_cases h : key = k <;> simp [h, ih]

@[simp] theorem get?_put_self (key : String) (value : Value) (ms : Members) :
    (ms.put key value).get? key = some value := by
  induction ms with
  | nil => simp [put, get?_cons]
  | cons m ms ih =>
    obtain ⟨k, v⟩ := m
    simp only [put]
    split
    · simp [get?_cons]
    · rename_i h
      simp [get?_cons, Ne.symm h, ih]

/-- Giving a key a value leaves the values of the other keys. -/
theorem get?_put_of_ne {key other : String} (h : other ≠ key) (value : Value) (ms : Members) :
    (ms.put key value).get? other = ms.get? other := by
  induction ms with
  | nil => simp [put, get?_cons, h]
  | cons m ms ih =>
    obtain ⟨k, v⟩ := m
    simp only [put]
    split
    · rename_i hk
      simp [get?_cons, hk, h]
    · simp [get?_cons, ih]

/-- A key that is there keeps its place, and a new one goes behind the others. -/
theorem keys_put (key : String) (value : Value) (ms : Members) :
    (ms.put key value).keys = if key ∈ ms.keys then ms.keys else ms.keys ++ [key] := by
  induction ms with
  | nil => rfl
  | cons m ms ih =>
    obtain ⟨k, v⟩ := m
    simp only [put, keys] at ih ⊢
    by_cases h : k = key
    · simp [h]
    · have hk : key ≠ k := Ne.symm h
      simp only [h, if_false, List.map_cons, ih, List.mem_cons, hk, false_or]
      by_cases hm : key ∈ List.map Prod.fst ms <;> simp only [hm, if_true, if_false]
      simp

@[simp] theorem ofList_nil : ofList [] = [] := rfl

/-- The members that were written last are put last. -/
theorem ofList_concat (written : List (String × Value)) (m : String × Value) :
    ofList (written ++ [m]) = (ofList written).put m.1 m.2 := by
  simp [ofList]

end Members

/-! ## Equality

Two objects are equal if they have equally many members and each key of the one has an equal value
in the other; the order of members does not count. -/

mutual

/-- Whether two values are equal. -/
def Value.same : Value → Value → Bool
  | .null, .null => true
  | .bool a, .bool b => a == b
  | .number m, .number n => m.same n
  | .string s, .string t => s == t
  | .array vs, .array ws => sameItems vs ws
  | .object ms, .object ns => ms.length == ns.length && sameMembers ms ns
  | _, _ => false

/-- Whether two lists of values are equal, one by one. -/
def sameItems : List Value → List Value → Bool
  | [], [] => true
  | v :: vs, w :: ws => v.same w && sameItems vs ws
  | _, _ => false

/-- Whether each of the first members has an equal value among the second. -/
def sameMembers : List (String × Value) → Members → Bool
  | [], _ => true
  | (k, v) :: ms, ns =>
    (match ns.get? k with
      | some w => v.same w
      | none => false) && sameMembers ms ns

end

/-- Whether two lists of members are equal as objects. -/
def Members.same (ms ns : Members) : Bool := ms.length == ns.length && sameMembers ms ns

/-! ## Kinds -/

/-- What kind of value it is, as a reader is told. -/
def Value.kindName : Value → String
  | .null => "null"
  | .bool _ => "a boolean"
  | .number _ => "a number"
  | .string _ => "a string"
  | .array _ => "an array"
  | .object _ => "an object"

end AlertConsole.Json
