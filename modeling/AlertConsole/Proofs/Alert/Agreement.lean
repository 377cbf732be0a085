import AlertConsole.Alert
import AlertConsole.Proofs.Binary64.Bounds
import AlertConsole.Proofs.Json.Equality
set_option autoImplicit false

/-!
# Equal alerts agree

Alerts that are equal agree in all that is asked of them: in the value of every field, in their
metadata, and in the instant that they stand for.  The two zeros, which are equal, stand for the
same instant, and `1` and `1.0` are not equal.
-/

namespace AlertConsole

open Json (Value Members)

/-! ## Times -/

/-- The two zeros have one integer part. -/
theorem Binary64.truncate_eq_of_same {x y : Binary64} (h : x.same y = true) :
    x.truncate = y.truncate := by
  have hzero {x : Binary64} (hx : x.isZero = true) : x.truncate = 0 := by
    rw [truncate, Magnitude.floor, Magnitude.units_of_isZero hx, Nat.zero_div]
    split <;> rfl
  rcases same_iff.mp h with rfl | ⟨hx, hy⟩
  · rfl
  · rw [hzero hx, hzero hy]

namespace Alert

theorem timeCount_eq_of_same {m n : Json.Number} (h : m.same n = true) :
    timeCount m = timeCount n := by
  cases m with
  | integer i _ =>
    cases n with
    | integer j _ =>
      obtain rfl : i = j := beq_iff_eq.mp h
      rfl
    | double y => contradiction
  | double x =>
    cases n with
    | integer j _ => contradiction
    | double y => rw [timeCount, timeCount, Binary64.truncate_eq_of_same h]

/-! ## Alerts -/

/-- Two alerts agree: each field has equal values in both, or none; their metadata are equal; and
they stand for the same instant, or both for none. -/
structure Agree (a b : Alert) : Prop where
  fields : ∀ key, Option.Rel Value.Alike (a.get? key) (b.get? key)
  metadata : a.metadata.same b.metadata = true
  instant : a.instant? = b.instant?

theorem same_iff {a b : Alert} :
    a.same b = true ↔ (Value.object a.members).Alike (.object b.members) := by
  simp [same, Json.Value.alike_object_iff]

variable {a b : Alert}

theorem instant?_eq_of_rel
    (h : Option.Rel Value.Alike (a.get? "timestamp") (b.get? "timestamp")) :
    a.instant? = b.instant? := by
  rw [instant?, instant?]
  generalize a.get? "timestamp" = v at h ⊢
  generalize b.get? "timestamp" = w at h ⊢
  cases h with
  | none => rfl
  | @some v w hvw =>
    cases v with
    | number m =>
      obtain ⟨n, rfl, hmn⟩ := Json.Value.alike_number_iff.mp hvw
      exact congrArg instantOf (timeCount_eq_of_same hmn)
    | null => rw [Json.Value.alike_null_iff.mp hvw]
    | bool _ => rw [Json.Value.alike_bool_iff.mp hvw]
    | string _ => rw [Json.Value.alike_string_iff.mp hvw]
    | array _ =>
      obtain ⟨ws, rfl, -⟩ := Json.Value.alike_array_iff.mp hvw
      rfl
    | object _ =>
      obtain ⟨ns, rfl, -⟩ := Json.Value.alike_object_iff.mp hvw
      rfl

theorem metadata_same_of_rel
    (h : Option.Rel Value.Alike (a.get? "metadata") (b.get? "metadata")) :
    a.metadata.same b.metadata = true := by
  rw [metadata, metadata]
  generalize a.get? "metadata" = v at h ⊢
  generalize b.get? "metadata" = w at h ⊢
  cases h with
  | none => rfl
  | @some v w hvw =>
    cases v with
    | object ms =>
      obtain ⟨ns, rfl, hmns⟩ := Json.Value.alike_object_iff.mp hvw
      exact hmns
    | null => rw [Json.Value.alike_null_iff.mp hvw]; rfl
    | bool _ => rw [Json.Value.alike_bool_iff.mp hvw]; rfl
    | string _ => rw [Json.Value.alike_string_iff.mp hvw]; rfl
    | number _ =>
      obtain ⟨n, rfl, -⟩ := Json.Value.alike_number_iff.mp hvw
      rfl
    | array _ =>
      obtain ⟨ws, rfl, -⟩ := Json.Value.alike_array_iff.mp hvw
      rfl

theorem agree_of_same (h : a.members.keys.Nodup) (h' : b.members.keys.Nodup)
    (hab : a.same b = true) : a.Agree b := by
  have hfields := (Members.same_iff h h').mp hab
  exact ⟨hfields, metadata_same_of_rel (hfields _), instant?_eq_of_rel (hfields _)⟩

end Alert

end AlertConsole
