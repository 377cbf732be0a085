import AlertConsole.Proofs.Payload.Classification
import AlertConsole.Proofs.Payload.Meaning
set_option autoImplicit false

/-!
# Where alerts are written

Each alert of a payload is written somewhere in its body: a single alert is the whole object, and
those of a batch are the objects of the array that is written last for `alerts`, in their places
(`Alert.WrittenIn`).  The value that an alert has as a field, or as an entry of its metadata, is
that of the tree written there last (`Alert.WrittenIn.rel`).
-/

namespace AlertConsole

open Json

/-! ## Alerts -/

/-- An alert of the payload of a body, and the members that are written for it in that body. -/
inductive Alert.WrittenIn (body : List UInt8) : Alert → List (String × Tree) → Prop where
  | single {a : Alert} {ms : List (String × Tree)} : Accepted body (.object ms) →
      Payload.ofBytes body = .ok (.single a) → WrittenIn body a ms
  | batched {a : Alert} {b : Batch} {ms ns : List (String × Tree)} {ts : List Tree} {i : Nat} :
      Accepted body (.object ms) → Payload.ofBytes body = .ok (.batch b) →
      ms.reverse.lookup "alerts" = some (.array ts) → ts[i]? = some (.object ns) →
      b.alerts[i]? = some a → WrittenIn body a ns

/-- A text of an object has members that the members in it stand for. -/
theorem Payload.exists_standsFor {body : List UInt8} {ms : List (String × Tree)}
    (h : Accepted body (.object ms)) :
    ∃ o, (Tree.object ms).StandsFor (.object o) ∧ Json.read body = .ok (.object o) := by
  obtain ⟨v, hv, hread⟩ := h.exists_read
  obtain ⟨written, rfl, -⟩ := standsFor_object_iff.mp hv
  exact ⟨_, hv, hread⟩

/-- The objects that are written for the alerts of a batch, in order. -/
theorem Batch.Tells.exists_trees {ms : List (String × Tree)} {o : Members} {b : Batch}
    (h : Tells o b) (ho : (Tree.object ms).StandsFor (.object o)) :
    ∃ ts, ms.reverse.lookup "alerts" = some (.array ts) ∧
      List.Forall₂ (fun t (a : Alert) => t.StandsFor (.object a.members)) ts b.alerts := by
  have hrel := Tree.StandsFor.get?_rel ho "alerts"
  rw [h.alerts] at hrel
  obtain ⟨t, hlast, ht⟩ := exists_of_some_rel hrel
  cases t with
  | array ts =>
    obtain ⟨vs, hvs, hts⟩ := standsFor_array_iff.mp ht
    obtain rfl := Value.array.inj hvs
    exact ⟨ts, hlast, List.forall₂_map_right_iff.mp hts⟩
  | _ => exact absurd ht.kindName_eq (by simp [Tree.kindName, Value.kindName])

theorem rel_getElem? {α β : Type} {R : α → β → Prop} {xs : List α} {ys : List β}
    (h : List.Forall₂ R xs ys) (i : Nat) : Option.Rel R xs[i]? ys[i]? := by
  induction h generalizing i with
  | nil => exact .none
  | cons hxy _ ih =>
    cases i with
    | zero => exact .some hxy
    | succ i => exact ih i

/-- The members that are written for an alert stand for it. -/
theorem Alert.WrittenIn.standsFor {body : List UInt8} {a : Alert} {ns : List (String × Tree)}
    (h : a.WrittenIn body ns) : (Tree.object ns).StandsFor (.object a.members) := by
  cases h with
  | single haccepted hsingle =>
    obtain ⟨o, ho, -⟩ := Payload.exists_standsFor haccepted
    have hpayload := (Payload.ofBytes_of_accepted haccepted ho).symm.trans hsingle
    obtain rfl := Reading.alert_eq_of_single (Except.ok.inj hpayload)
    exact ho
  | @batched _ _ _ _ i haccepted hbatch halerts ht ha =>
    obtain ⟨o, ho, hread⟩ := Payload.exists_standsFor haccepted
    obtain ⟨-, htells⟩ :=
      (Payload.ofBytes_eq_batch_iff haccepted.spelled.isText hread).mp hbatch
    obtain ⟨us, hus, hstand⟩ := htells.exists_trees ho
    cases halerts.symm.trans hus
    have hrel := rel_getElem? hstand i
    rw [ht, ha] at hrel
    obtain ⟨hstands⟩ := hrel
    exact hstands

/-- Every alert of a payload is written in its body. -/
theorem Payload.exists_writtenIn {body : List UInt8} {p : Payload} {a : Alert}
    (h : ofBytes body = .ok p) (ha : a ∈ p.alerts) : ∃ ns, a.WrittenIn body ns := by
  obtain ⟨ms, o, haccepted, ho, rfl⟩ := exists_members h
  cases hp : (Reading.ofMembers o).payload with
  | single b =>
    rw [hp] at h ha
    obtain rfl := List.mem_singleton.mp ha
    exact ⟨ms, .single haccepted h⟩
  | batch b =>
    rw [hp] at h ha
    have hread := haccepted.read_eq ho
    obtain ⟨-, htells⟩ := (ofBytes_eq_batch_iff haccepted.spelled.isText hread).mp h
    obtain ⟨ts, hts, hstand⟩ := htells.exists_trees ho
    obtain ⟨i, hi⟩ : ∃ i, b.alerts[i]? = some a := List.mem_iff_getElem?.mp ha
    have hrel := rel_getElem? hstand i
    rw [hi] at hrel
    obtain ⟨t, ht, hstands⟩ := exists_of_some_rel hrel
    obtain ⟨ns, rfl⟩ := hstands.exists_object
    exact ⟨ns, .batched haccepted h hts ht hi⟩

/-! ## Values -/

/-- A place in an alert where a value is shown: a field, or an entry of the metadata. -/
inductive Place where
  | field (key : String)
  | metadata (key : String)

namespace Place

/-- The value of an alert at a place. -/
def value? (a : Alert) : Place → Option Value
  | field key => a.get? key
  | metadata key => a.metadata.get? key

/-- What is written last at a place, in the members that are written for an alert. -/
def written? (ms : List (String × Tree)) : Place → Option Tree
  | field key => ms.reverse.lookup key
  | metadata key =>
    match ms.reverse.lookup "metadata" with
    | some (.object entries) => entries.reverse.lookup key
    | _ => none

/-- What is written last at a place, in an alert of the payload of a body. -/
def Gives (p : Place) (body : List UInt8) (a : Alert) (t : Tree) : Prop :=
  ∃ ns, a.WrittenIn body ns ∧ p.written? ns = some t

end Place

/-- The value at a place is that of the tree that is written there last. -/
theorem Alert.WrittenIn.rel {body : List UInt8} {a : Alert} {ns : List (String × Tree)}
    (h : a.WrittenIn body ns) (p : Place) :
    Option.Rel Tree.StandsFor (p.written? ns) (p.value? a) := by
  have hrel := Tree.StandsFor.get?_rel h.standsFor
  cases p with
  | field key => exact hrel key
  | metadata key =>
    have hmetadata := hrel "metadata"
    rw [Place.written?, Place.value?, Alert.metadata, Alert.get?]
    generalize ns.reverse.lookup "metadata" = last at hmetadata ⊢
    generalize a.members.get? "metadata" = value at hmetadata ⊢
    cases hmetadata with
    | none => exact .none
    | @some t v ht =>
      cases t with
      | object entries =>
        obtain ⟨written, rfl, -⟩ := standsFor_object_iff.mp ht
        exact Tree.StandsFor.get?_rel ht key
      | _ =>
        have hkind := ht.kindName_eq
        cases v with
        | object => exact absurd hkind (by simp [Tree.kindName, Value.kindName])
        | _ => exact .none

/-- What is given at a place stands for the value there. -/
theorem Place.Gives.exists_value {p : Place} {body : List UInt8} {a : Alert} {t : Tree}
    (h : p.Gives body a t) : ∃ v, p.value? a = some v ∧ t.StandsFor v := by
  obtain ⟨ns, ha, ht⟩ := h
  have hrel := ha.rel p
  rw [ht] at hrel
  exact exists_of_rel_some hrel

end AlertConsole
