import AlertConsole.Payload
import AlertConsole.Proofs.Json.DistinctKeys
set_option autoImplicit false

/-!
# Reading a batch out of an object

An object that looks like a batch is read a second time, for a batch: its members are gone through
in order, the alerts are built again value by value, the count is taken if it is there, and the
first member that does not fit ends it.  `Batch.reread_eq` says that this second reading changes
nothing: what it finds is what the object itself has under `alerts` and `count`, at every depth, and
where it stops is the first mismatch of the object.
-/

namespace AlertConsole

open Json (Value Members)

/-! ## Values built again -/

namespace Json

mutual

/-- A value built again from its parts: scalars are handed over as they are, and the members of an
object are put one after the other. -/
def Value.rebuilt : Value → Value
  | .null => .null
  | .bool b => .bool b
  | .number n => .number n
  | .string s => .string s
  | .array items => .array (rebuiltItems items)
  | .object ms => .object (Members.ofList (rebuiltMembers ms))

/-- Elements built again. -/
def rebuiltItems : List Value → List Value
  | [] => []
  | v :: vs => v.rebuilt :: rebuiltItems vs

/-- Members built again, not yet put together. -/
def rebuiltMembers : List (String × Value) → List (String × Value)
  | [] => []
  | (key, v) :: ms => (key, v.rebuilt) :: rebuiltMembers ms

end

theorem rebuiltItems_eq_self {items : List Value} (h : ∀ v ∈ items, v.rebuilt = v) :
    rebuiltItems items = items := by
  induction items with
  | nil => rfl
  | cons v vs ih =>
    obtain ⟨hv, hvs⟩ := List.forall_mem_cons.mp h
    show v.rebuilt :: rebuiltItems vs = v :: vs
    rw [hv, ih hvs]

theorem rebuiltMembers_eq_self {ms : List (String × Value)} (h : ∀ m ∈ ms, m.2.rebuilt = m.2) :
    rebuiltMembers ms = ms := by
  induction ms with
  | nil => rfl
  | cons m ms ih =>
    obtain ⟨hm, hms⟩ := List.forall_mem_cons.mp h
    show (m.1, m.2.rebuilt) :: rebuiltMembers ms = m :: ms
    rw [hm, ih hms]

/-- A value with distinct keys is built again without a change, at every depth. -/
theorem Value.DistinctKeys.rebuilt_eq {v : Value} (h : v.DistinctKeys) : v.rebuilt = v := by
  induction h with
  | null => rfl
  | bool b => rfl
  | number n => rfl
  | string s => rfl
  | array _ ih => exact congrArg Value.array (rebuiltItems_eq_self ih)
  | @object ms hkeys _ ih =>
    show Value.object (Members.ofList (rebuiltMembers ms)) = .object ms
    rw [rebuiltMembers_eq_self ih, Members.ofList_of_nodup hkeys]

end Json

/-! ## The second reading -/

namespace Batch

/-- Reads an alert. -/
def alertFrom : Value → Except Mismatch Alert
  | .object ms => .ok ⟨Members.ofList (Json.rebuiltMembers ms)⟩
  | v => .error ⟨v, .map⟩

/-- Reads the alerts of a batch. -/
def alertsFrom : Value → Except Mismatch (List Alert)
  | .array items => items.mapM alertFrom
  | v => .error ⟨v, .sequence⟩

/-- Reads the count of a batch. -/
def countFrom : Value → Except Mismatch (Option Nat)
  | .null => .ok none
  | .number n =>
    match n.toNat? with
    | some count => .ok (some count)
    | none => .error ⟨.number n, .natural⟩
  | v => .error ⟨v, .natural⟩

/-- Takes one member of an object into a batch. -/
def take (b : Batch) (m : String × Value) : Except Mismatch Batch :=
  if m.1 = "alerts" then
    (alertsFrom m.2).map fun alerts => { b with alerts := alerts }
  else if m.1 = "count" then
    (countFrom m.2).map fun count => { b with declaredCount := count }
  else
    .ok b

/-- Reads a batch out of an object, member by member. -/
def reread (ms : Members) : Except Mismatch Batch := ms.foldlM take ⟨[], none⟩

/-! ## What it finds -/

/-- Something is found unless something does not fit. -/
def orMismatch {α : Type} (mismatch : Option Mismatch) (found : α) : Except Mismatch α :=
  match mismatch with
  | none => .ok found
  | some m => .error m

theorem alertFrom_object {ms : Members} (h : (Value.object ms).DistinctKeys) :
    alertFrom (.object ms) = .ok ⟨ms⟩ := by
  have hrebuilt : Members.ofList (Json.rebuiltMembers ms) = ms := Value.object.inj h.rebuilt_eq
  rw [alertFrom, hrebuilt]

theorem alertsFrom_eq {v : Value} (h : v.DistinctKeys) :
    alertsFrom v = orMismatch (Mismatch.inAlerts? v) (alertsOf (some v)) := by
  cases v with
  | array items =>
    rw [alertsFrom, Mismatch.inAlerts?, alertsOf]
    have hitems := Json.Value.distinctKeys_array_iff.mp h
    clear h
    induction items with
    | nil => rfl
    | cons v vs ih =>
      obtain ⟨hv, hvs⟩ := List.forall_mem_cons.mp hitems
      rw [List.mapM_cons, ih hvs, List.find?_cons, List.filterMap_cons]
      cases v with
      | object ms =>
        rw [alertFrom_object hv]
        cases List.find? (fun v => (members? v).isNone) vs <;> rfl
      | _ => rfl
  | _ => rfl

theorem countFrom_eq (v : Value) :
    countFrom v = orMismatch (Mismatch.inCount? v) (countOf (some v)) := by
  cases v with
  | number n =>
    rw [countFrom, Mismatch.inCount?, countOf]
    cases n.toNat? <;> rfl
  | _ => rfl

/-- A batch with what some members say in place of what it had. -/
def overlaid (b : Batch) (ms : Members) : Batch :=
  ⟨(ms.get? "alerts").elim b.alerts fun v => alertsOf (some v),
    (ms.get? "count").elim b.declaredCount fun v => countOf (some v)⟩

/-- One member. -/
theorem take_eq (b : Batch) {m : String × Value} (h : m.2.DistinctKeys) :
    b.take m = orMismatch (Mismatch.inMember? m) (b.overlaid [m]) := by
  obtain ⟨key, v⟩ := m
  by_cases halerts : key = "alerts"
  · subst halerts
    have hne : "count" ≠ "alerts" := by decide
    rw [take, if_pos rfl, alertsFrom_eq h, Mismatch.inMember?, if_pos rfl, overlaid,
      Members.get?_cons, if_pos rfl, Members.get?_cons, if_neg hne]
    cases Mismatch.inAlerts? v <;> rfl
  · by_cases hcount : key = "count"
    · subst hcount
      have hne : "alerts" ≠ "count" := by decide
      rw [take, if_neg halerts, if_pos rfl, countFrom_eq, Mismatch.inMember?, if_neg halerts,
        if_pos rfl, overlaid, Members.get?_cons, if_neg hne, Members.get?_cons, if_pos rfl]
      cases Mismatch.inCount? v <;> rfl
    · rw [take, if_neg halerts, if_neg hcount, Mismatch.inMember?, if_neg halerts, if_neg hcount,
        overlaid, Members.get?_cons, if_neg (Ne.symm halerts), Members.get?_cons,
        if_neg (Ne.symm hcount)]
      rfl

/-- No member is overlaid twice if no key stands twice. -/
theorem overlaid_cons (b : Batch) {m : String × Value} {ms : Members} (h : m.1 ∉ ms.keys) :
    (b.overlaid [m]).overlaid ms = b.overlaid (m :: ms) := by
  obtain ⟨key, v⟩ := m
  have hnone (k : String) (hk : k = key) : ms.get? k = none :=
    Members.get?_eq_none_iff.mpr (hk ▸ h)
  simp only [overlaid, Members.get?_cons, Members.get?_nil]
  by_cases halerts : "alerts" = key <;> by_cases hcount : "count" = key <;>
    simp [halerts, hcount, hnone]

/-- A whole object: all that fits is overlaid, up to the first member that does not fit. -/
theorem foldlM_take_eq (b : Batch) {ms : Members} (h : (Value.object ms).DistinctKeys) :
    ms.foldlM take b = orMismatch (Mismatch.first? ms) (b.overlaid ms) := by
  induction ms generalizing b with
  | nil => rfl
  | cons m ms ih =>
    obtain ⟨hkeys, hms⟩ := Json.Value.distinctKeys_object_iff.mp h
    obtain ⟨hm, hms⟩ := List.forall_mem_cons.mp hms
    obtain ⟨hkey, hkeys⟩ := List.nodup_cons.mp hkeys
    rw [List.foldlM_cons, take_eq b hm, Mismatch.first?, List.findSome?_cons]
    cases hmember : Mismatch.inMember? m with
    | some x => rfl
    | none =>
      have hrest := ih (b.overlaid [m]) (.object hkeys hms)
      rw [overlaid_cons b hkey] at hrest
      exact hrest

/-- The second reading finds the batch that the object itself holds, or its first mismatch. -/
theorem reread_eq {ms : Members} (h : (Value.object ms).DistinctKeys) :
    reread ms = orMismatch (Mismatch.first? ms) (ofMembers ms) := by
  have hoverlaid : overlaid ⟨[], none⟩ ms = ofMembers ms := by
    rw [overlaid, ofMembers]
    cases ms.get? "alerts" <;> cases ms.get? "count" <;> rfl
  rw [reread, foldlM_take_eq _ h, hoverlaid]

end Batch

end AlertConsole
