import AlertConsole.Proofs.Alert.Agreement
import AlertConsole.Proofs.Json.Reordering
import AlertConsole.Proofs.Json.Unambiguous
import AlertConsole.Proofs.Payload.Wrapping
set_option autoImplicit false

/-!
# Equal payloads

The order in which a sender writes the members of an object does not matter: another order makes an
equal payload.  Equality of the payloads of deliveries is an equivalence, and payloads that are
equal agree in all that is asked of them (`Payload.Agree`).
-/

namespace AlertConsole

open Json (Tree Value Members Reorders SpellsText Accepted)

/-! ## Batches -/

namespace Batch

theorem same_iff {a b : Batch} :
    a.same b = true ↔
      List.Forall₂ (fun x y => x.same y = true) a.alerts b.alerts ∧
        a.declaredCount = b.declaredCount := by
  rw [same, Bool.and_eq_true, Bool.and_eq_true, beq_iff_eq, beq_iff_eq, List.all_eq_true,
    List.forall₂_iff_zip]
  simp only [Prod.forall]

/-- Equal values declare the same. -/
theorem Declares.of_rel {c c' : Option Value} {n : Option Nat} (h : Declares c n)
    (hrel : Option.Rel Value.Alike c c') : Declares c' n := by
  cases h with
  | absent =>
    cases hrel
    exact .absent
  | null =>
    obtain ⟨hc⟩ := hrel
    rw [Json.Value.alike_null_iff.mp hc]
    exact .null
  | natural inRange =>
    obtain ⟨hc⟩ := hrel
    obtain ⟨m, rfl, hm⟩ := Json.Value.alike_number_iff.mp hc
    cases m with
    | integer i inRange' =>
      obtain rfl := beq_iff_eq.mp hm
      exact .natural inRange
    | double x => contradiction

section

variable {ms ns : Members} (h : ∀ key, Option.Rel Value.Alike (ms.get? key) (ns.get? key))

include h

/-- An object that equals one of the shape of a batch has that shape. -/
theorem Shaped.of_rel (hshaped : Shaped ms) : Shaped ns := by
  obtain ⟨⟨items, halerts, hitems⟩, hid, n, hn⟩ := hshaped
  refine ⟨?_, mt (Members.mem_keys_iff h _).mpr hid, n, hn.of_rel (h "count")⟩
  have hrel := h "alerts"
  rw [halerts] at hrel
  generalize ns.get? "alerts" = v at hrel ⊢
  obtain ⟨hv⟩ := hrel
  obtain ⟨items', rfl, hitems'⟩ := Json.Value.alike_array_iff.mp hv
  refine ⟨items', rfl, fun item' hitem' => ?_⟩
  obtain ⟨item, hitem, halike⟩ := (Json.exists_of_forall₂ hitems').2 item' hitem'
  obtain ⟨o, rfl⟩ := hitems item hitem
  obtain ⟨o', rfl, -⟩ := Json.Value.alike_object_iff.mp halike
  exact ⟨o', rfl⟩

/-- Objects that are equal and have the shape of a batch tell equal batches. -/
theorem same_of_rel (hms : Shaped ms) (hns : Shaped ns) :
    (ofMembers ms).same (ofMembers ns) = true := by
  obtain ⟨halerts, hcount⟩ := hms.tells
  obtain ⟨halerts', hcount'⟩ := hns.tells
  have hrel := h "alerts"
  rw [halerts, halerts'] at hrel
  obtain ⟨hitems⟩ := hrel
  obtain ⟨_, ⟨rfl⟩, hforall⟩ := Json.Value.alike_array_iff.mp hitems
  rw [List.forall₂_map_left_iff, List.forall₂_map_right_iff] at hforall
  refine same_iff.mpr ⟨hforall.imp fun a b hab => Alert.same_iff.mpr hab, ?_⟩
  rw [← hcount'.countOf_eq]
  exact (hcount.of_rel (h "count")).countOf_eq.symm

end

end Batch

/-- What is found in equal objects is equal. -/
theorem Reading.same_of_alike {ms ns : Members} (h : (Value.object ms).DistinctKeys)
    (h' : (Value.object ns).DistinctKeys) (halike : (Value.object ms).Alike (.object ns)) :
    (ofMembers ms).payload.same (ofMembers ns).payload = true := by
  have hkeys := (Json.Value.distinctKeys_object_iff.mp h).1
  have hkeys' := (Json.Value.distinctKeys_object_iff.mp h').1
  have hrel := (Members.same_iff hkeys hkeys').mp (Json.Value.alike_objects_iff.mp halike)
  have hrel' := (Members.same_iff hkeys' hkeys).mp
    (Json.Value.alike_objects_iff.mp (h.alike_symm h' halike))
  by_cases hshaped : Batch.Shaped ms
  · have hshaped' := hshaped.of_rel hrel
    rw [ofMembers_of_shaped hkeys hshaped, ofMembers_of_shaped hkeys' hshaped']
    exact Batch.same_of_rel hrel hshaped hshaped'
  · have hshaped' : ¬ Batch.Shaped ns := mt (Batch.Shaped.of_rel hrel') hshaped
    rw [ofMembers_of_not_shaped hkeys hshaped, ofMembers_of_not_shaped hkeys' hshaped']
    exact Alert.same_iff.mpr halike

/-! ## Payloads -/

namespace Payload

theorem single_same_iff {a : Alert} {q : Payload} :
    (Payload.single a).same q = true ↔ ∃ b, q = .single b ∧ a.same b = true := by
  cases q <;> simp [same]

theorem batch_same_iff {a : Batch} {q : Payload} :
    (Payload.batch a).same q = true ↔ ∃ b, q = .batch b ∧ a.same b = true := by
  cases q <;> simp [same]

/-- Two payloads agree: both are one alert, or both are batches of equally many alerts that declare
the same count; and the alerts agree one by one. -/
inductive Agree : Payload → Payload → Prop where
  | single {a b : Alert} : a.Agree b → Agree (.single a) (.single b)
  | batch {a b : Batch} : List.Forall₂ Alert.Agree a.alerts b.alerts →
      a.declaredCount = b.declaredCount → Agree (.batch a) (.batch b)

/-- No object in a payload repeats a key. -/
def DistinctKeys (p : Payload) : Prop :=
  ∀ a ∈ p.alerts, (Value.object a.members).DistinctKeys

theorem distinctKeys_of_ofBytes {body : List UInt8} {p : Payload} (h : ofBytes body = .ok p) :
    p.DistinctKeys := by
  obtain ⟨ts, ms, -, hms, rfl⟩ := exists_members h
  have hdistinct := Json.Tree.StandsFor.distinctKeys _ hms
  obtain hp | ⟨b, items, hp, halerts, hitems⟩ := Reading.ofMembers_cases ms
  · rw [hp]
    exact List.forall_mem_singleton.mpr hdistinct
  · rw [hp]
    intro a ha
    obtain ⟨hkeys, hvalues⟩ := Json.Value.distinctKeys_object_iff.mp hdistinct
    have harray := hvalues _ ((Members.get?_eq_some_iff hkeys).mp halerts)
    obtain ⟨_, hmem, rfl⟩ := (Json.exists_of_forall₂ hitems).2 a ha
    exact Json.Value.distinctKeys_array_iff.mp harray _ hmem

namespace DistinctKeys

variable {p q r : Payload}

theorem same_refl (hp : p.DistinctKeys) : p.same p = true := by
  cases p with
  | single a => exact Alert.same_iff.mpr (hp a List.mem_cons_self).alike_refl
  | batch b =>
    refine Batch.same_iff.mpr ⟨List.forall₂_same.mpr fun a ha => ?_, rfl⟩
    exact Alert.same_iff.mpr (hp a ha).alike_refl

/-- Two payloads that are equal to a third are equal. -/
theorem same_of_common (hp : p.DistinctKeys) (hq : q.DistinctKeys) (hr : r.DistinctKeys)
    (hpq : p.same q = true) (hpr : p.same r = true) : q.same r = true := by
  have halerts {a b c : Alert} (ha : a ∈ p.alerts) (hb : b ∈ q.alerts) (hc : c ∈ r.alerts)
      (hab : a.same b = true) (hac : a.same c = true) : b.same c = true := by
    rw [Alert.same_iff] at hab hac ⊢
    exact (hp a ha).alike_of_common (hq b hb) (hr c hc) hab hac
  cases p with
  | single a =>
    obtain ⟨b, rfl, hab⟩ := single_same_iff.mp hpq
    obtain ⟨c, rfl, hac⟩ := single_same_iff.mp hpr
    exact halerts List.mem_cons_self List.mem_cons_self List.mem_cons_self hab hac
  | batch a =>
    obtain ⟨b, rfl, hab⟩ := batch_same_iff.mp hpq
    obtain ⟨c, rfl, hac⟩ := batch_same_iff.mp hpr
    obtain ⟨hab, hcount⟩ := Batch.same_iff.mp hab
    obtain ⟨hac, hcount'⟩ := Batch.same_iff.mp hac
    refine Batch.same_iff.mpr ⟨Json.forall₂_of_common hab hac ?_, hcount.symm.trans hcount'⟩
    exact fun a ha b hb c hc => halerts ha hb hc

theorem same_symm (hp : p.DistinctKeys) (hq : q.DistinctKeys) (h : p.same q = true) :
    q.same p = true :=
  hp.same_of_common hq hp h hp.same_refl

theorem same_trans (hp : p.DistinctKeys) (hq : q.DistinctKeys) (hr : r.DistinctKeys)
    (hpq : p.same q = true) (hqr : q.same r = true) : p.same r = true :=
  hq.same_of_common hp hr (hp.same_symm hq hpq) hqr

theorem agree_of_same (hp : p.DistinctKeys) (hq : q.DistinctKeys) (h : p.same q = true) :
    p.Agree q := by
  have hkeys {p : Payload} (hp : p.DistinctKeys) {a : Alert} (ha : a ∈ p.alerts) :
      a.members.keys.Nodup := (Json.Value.distinctKeys_object_iff.mp (hp a ha)).1
  cases p with
  | single a =>
    obtain ⟨b, rfl, hab⟩ := single_same_iff.mp h
    exact .single (Alert.agree_of_same (hkeys hp List.mem_cons_self) (hkeys hq List.mem_cons_self)
      hab)
  | batch a =>
    obtain ⟨b, rfl, hab⟩ := batch_same_iff.mp h
    obtain ⟨halerts, hcount⟩ := Batch.same_iff.mp hab
    refine .batch (Json.forall₂_of_common (List.forall₂_same.mpr fun _ _ => rfl) halerts ?_) hcount
    rintro a - _ ha b hb rfl hab
    exact Alert.agree_of_same (hkeys hp ha) (hkeys hq hb) hab

end DistinctKeys

/-! ## Deliveries -/

/-- A body that spells a tree holds a payload exactly if that is an object, not nested too deep and
with its numbers in range. -/
theorem exists_ofBytes_iff {body : List UInt8} {t : Tree} (h : SpellsText body t) :
    (∃ p, ofBytes body = .ok p) ↔ (∃ ms, t = .object ms) ∧ t.Within 127 := by
  rw [(ofBytes_language body).2.2.2]
  constructor
  · rintro ⟨ms, haccepted⟩
    obtain rfl := h.unique haccepted.spelled
    exact ⟨⟨ms, rfl⟩, haccepted.shallow, haccepted.inRange⟩
  · rintro ⟨⟨ms, rfl⟩, hshallow, hrange⟩
    exact ⟨ms, h, hshallow, hrange⟩

/-- Bodies that differ in the order of members hold equal payloads, if they hold any. -/
theorem same_of_reorders {body body' : List UInt8} {t t' : Tree} {p p' : Payload}
    (ht : SpellsText body t) (ht' : SpellsText body' t') (hkeys : t.DistinctKeys)
    (h : Reorders t t') (hp : ofBytes body = .ok p) (hp' : ofBytes body' = .ok p') :
    p.same p' = true := by
  obtain ⟨ts, ms, haccepted, hms, rfl⟩ := exists_members hp
  obtain ⟨ts', ms', haccepted', hms', rfl⟩ := exists_members hp'
  obtain rfl := ht.unique haccepted.spelled
  obtain rfl := ht'.unique haccepted'.spelled
  have hdistinct := Json.Tree.StandsFor.distinctKeys _ hms
  have hdistinct' := Json.Tree.StandsFor.distinctKeys _ hms'
  exact Reading.same_of_alike hdistinct hdistinct' (h.alike hkeys hms hms')

/-- The payloads of deliveries. -/
def Delivered : Type := { p : Payload // ∃ body, ofBytes body = .ok p }

theorem Delivered.distinctKeys (p : Delivered) : p.val.DistinctKeys := by
  obtain ⟨body, hbody⟩ := p.property
  exact distinctKeys_of_ofBytes hbody

/-- Of two bodies that say the same but for the order of members, both hold a payload or none does,
and the payloads are equal.  Equality of the payloads of deliveries is an equivalence, and payloads
that are equal agree. -/
theorem ofBytes_reordered :
    (∀ (body body' : List UInt8) (t t' : Tree), SpellsText body t → SpellsText body' t' →
      t.DistinctKeys → Reorders t t' →
        ((∃ p, ofBytes body = .ok p) ↔ ∃ p, ofBytes body' = .ok p) ∧
        ∀ p p', ofBytes body = .ok p → ofBytes body' = .ok p' → p.same p' = true) ∧
    Equivalence (fun p q : Delivered => p.val.same q.val = true) ∧
    ∀ p q : Delivered, p.val.same q.val = true → p.val.Agree q.val := by
  refine ⟨?_, ⟨?_, ?_, ?_⟩, ?_⟩
  · intro body body' t t' ht ht' hkeys h
    refine ⟨?_, fun p p' => same_of_reorders ht ht' hkeys h⟩
    rw [exists_ofBytes_iff ht, exists_ofBytes_iff ht', h.within_iff]
    refine and_congr_left fun _ => ?_
    cases h <;> simp
  · exact fun p => p.distinctKeys.same_refl
  · exact fun {p q} => p.distinctKeys.same_symm q.distinctKeys
  · exact fun {p q r} => p.distinctKeys.same_trans q.distinctKeys r.distinctKeys
  · exact fun p q => p.distinctKeys.agree_of_same q.distinctKeys

/-- An alert with metadata, its members in one order and in another, and those of the metadata. -/
def namedFirst : List UInt8 :=
  Utf8.bytes "\x7b\"a\":null,\"metadata\":\x7b\"x\":true,\"y\":false\x7d\x7d"

@[inherit_doc namedFirst]
def namedLast : List UInt8 :=
  Utf8.bytes "\x7b\"metadata\":\x7b\"y\":false,\"x\":true\x7d,\"a\":null\x7d"

@[inherit_doc namedFirst]
def namedFirstTree : Tree :=
  .object [("a", .null), ("metadata", .object [("x", .bool true), ("y", .bool false)])]

@[inherit_doc namedFirst]
def namedLastTree : Tree :=
  .object [("metadata", .object [("y", .bool false), ("x", .bool true)]), ("a", .null)]

/-- A member without blanks. -/
theorem spellsMember_bare {key : String} {s : List UInt8} {t : Tree}
    (hkey : key.toList.all Json.standsForItself = true) (hs : Json.Spells s t) :
    Json.SpellsMember Json.Spells
      (Byte.quote :: (Utf8.bytes key ++ [Byte.quote]) ++ Byte.colon :: s) (key, t) := by
  have hmember := spellsMember_raw hkey Json.blanks_nil Json.blanks_nil (.bare hs)
  rwa [List.append_nil, List.nil_append] at hmember

theorem spellsText_named :
    SpellsText namedFirst namedFirstTree ∧ SpellsText namedLast namedLastTree := by
  have ha := @spellsMember_bare "a" _ _ (by decide) .nullWord
  have hx := @spellsMember_bare "x" _ _ (by decide) .trueWord
  have hy := @spellsMember_bare "y" _ _ (by decide) .falseWord
  have hfirst := @spellsMember_bare "metadata" _ _ (by decide) (.object (.more hx (.one hy)))
  have hlast := @spellsMember_bare "metadata" _ _ (by decide) (.object (.more hy (.one hx)))
  have hnamedFirst := Json.Padded.bare (Json.Spells.object (.more ha (.one hfirst)))
  have hnamedLast := Json.Padded.bare (Json.Spells.object (.more hlast (.one ha)))
  exact ⟨hnamedFirst, hnamedLast⟩

theorem ofBytes_reordered_namedLast :
    SpellsText namedFirst namedFirstTree ∧ SpellsText namedLast namedLastTree ∧
      namedFirstTree.DistinctKeys ∧ Reorders namedFirstTree namedLastTree ∧
      ∃ p p' : Delivered, ofBytes namedFirst = .ok p.val ∧ ofBytes namedLast = .ok p'.val ∧
        p.val.same p'.val = true ∧ p.val.Agree p'.val := by
  obtain ⟨hfirst, hlast⟩ := spellsText_named
  have hkeys : namedFirstTree.DistinctKeys := by
    have hmetadata : (Tree.object [("x", .bool true), ("y", .bool false)]).DistinctKeys :=
      .object (by decide) (by simp [Json.Tree.DistinctKeys.bool])
    exact .object (by decide) (by simp [Json.Tree.DistinctKeys.null, hmetadata])
  have hreorders : Reorders namedFirstTree namedLastTree := by
    have hmetadata : Reorders (.object [("x", .bool true), ("y", .bool false)])
        (.object [("y", .bool false), ("x", .bool true)]) :=
      .object rfl (.cons (.bool true) (.cons (.bool false) .nil)) (.swap _ _ _)
    exact @Reorders.object _
      [("a", .null), ("metadata", .object [("y", .bool false), ("x", .bool true)])] _ rfl
      (.cons .null (.cons hmetadata .nil)) (.swap _ _ _)
  obtain ⟨hdelivered, -, hagree⟩ := ofBytes_reordered
  obtain ⟨hiff, hsame⟩ := hdelivered _ _ _ _ hfirst hlast hkeys hreorders
  obtain ⟨p, hp⟩ : ∃ p, ofBytes namedFirst = .ok p :=
    ⟨_, ofBytes_of_object (Utf8.isText_bytes _) rfl⟩
  obtain ⟨p', hp'⟩ := hiff.mp ⟨p, hp⟩
  have hequal := hsame p p' hp hp'
  exact ⟨hfirst, hlast, hkeys, hreorders, ⟨p, _, hp⟩, ⟨p', _, hp'⟩, hp, hp', hequal,
    hagree ⟨p, _, hp⟩ ⟨p', _, hp'⟩ hequal⟩

end Payload

end AlertConsole
