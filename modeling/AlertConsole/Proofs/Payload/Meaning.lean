import AlertConsole.Proofs.Json.Settling
import AlertConsole.Proofs.Payload.Language
set_option autoImplicit false

/-!
# What the text of an object means

How a sender spells an object does not matter, only what it says: its keys, in the order in which
they are first written, and the value that is written last for each.  That holds at every depth, and
for the alerts of a batch as for a single alert.
-/

namespace AlertConsole

open Json

/-! ## Batches -/

/-- If nothing in an object fails to fit, its `alerts` are an array of objects. -/
theorem Mismatch.alerts_of_first?_eq_none {ms : Members} {v : Value} (h : first? ms = none)
    (hv : ms.get? "alerts" = some v) :
    ∃ items, v = .array items ∧ ∀ item ∈ items, ∃ ns, item = .object ns := by
  have hmem : ("alerts", v) ∈ ms := by
    obtain ⟨before, after, rfl, -⟩ := List.lookup_eq_some_iff.mp hv
    simp
  have hfits : inAlerts? v = none := List.findSome?_eq_none_iff.mp h _ hmem
  cases v with
  | array items =>
    refine ⟨items, rfl, fun item hitem => ?_⟩
    have hnone := List.find?_eq_none.mp (Option.map_eq_none_iff.mp hfits) item hitem
    obtain ⟨ns, hns⟩ := Option.ne_none_iff_exists'.mp (by simpa using hnone)
    exact ⟨ns, Payload.members?_eq_some_iff.mp hns⟩
  | _ => contradiction

/-- The alerts of an array of objects are those objects. -/
theorem Batch.alertsOf_objects {items : List Value}
    (h : ∀ item ∈ items, ∃ ns, item = .object ns) :
    List.Forall₂ (fun v (a : Alert) => v = .object a.members) items
      (alertsOf (some (.array items))) := by
  rw [alertsOf]
  induction items with
  | nil => exact .nil
  | cons item items ih =>
    obtain ⟨⟨ns, rfl⟩, hitems⟩ := List.forall_mem_cons.mp h
    exact .cons rfl (ih hitems)

/-- What was found in an object is the object itself, or the alerts that its `alerts` hold. -/
theorem Reading.ofMembers_cases (ms : Members) :
    (ofMembers ms).payload = .single ⟨ms⟩ ∨
      ∃ b items, (ofMembers ms).payload = .batch b ∧ ms.get? "alerts" = some (.array items) ∧
        List.Forall₂ (fun v (a : Alert) => v = .object a.members) items b.alerts := by
  rw [ofMembers]
  split
  · rename_i hlike
    split
    · rename_i hfirst
      obtain ⟨v, hv⟩ := Option.isSome_iff_exists.mp hlike.1
      obtain ⟨items, rfl, hitems⟩ := Mismatch.alerts_of_first?_eq_none hfirst hv
      refine .inr ⟨.ofMembers ms, items, rfl, hv, ?_⟩
      rw [Batch.ofMembers, hv]
      exact Batch.alertsOf_objects hitems
    · exact .inl rfl
  · exact .inl rfl

theorem Reading.alert_eq_of_single {ms : Members} {a : Alert}
    (h : (ofMembers ms).payload = .single a) : a = ⟨ms⟩ := by
  rcases ofMembers_cases ms with hsingle | ⟨b, _, hbatch, -⟩
  · exact Payload.single.inj (h.symm.trans hsingle)
  · cases h.symm.trans hbatch

/-! ## Meaning -/

/-- An alert has the fields that members, keys repeated or not, settle into: its keys in the order
in which they are first written, and for each key the value that is written for it last. -/
structure Alert.Holds (a : Alert) (ms : List (String × Tree)) : Prop where
  keys : a.members.keys = (ms.map Prod.fst).eraseDups
  fields : ∀ key, Option.Rel Settles (ms.reverse.lookup key) (a.get? key)

theorem Alert.holds_iff {ns : Members} {t : Tree} :
    Settles t (.object ns) ↔ ∃ ms, t = .object ms ∧ Alert.Holds ⟨ns⟩ ms := by
  constructor
  · rintro (_ | _ | _ | _ | _ | ⟨hkeys, hfields⟩)
    exact ⟨_, rfl, hkeys, hfields⟩
  · rintro ⟨ms, rfl, hkeys, hfields⟩
    exact .object hkeys hfields

/-- The objects that some trees settle into have the fields that those trees say. -/
theorem Alert.hold_of_settles {ts : List Tree} {items : List Value} {alerts : List Alert}
    (hts : List.Forall₂ Settles ts items)
    (hitems : List.Forall₂ (fun v (a : Alert) => v = .object a.members) items alerts) :
    List.Forall₂ (fun t a => ∃ ns, t = .object ns ∧ Alert.Holds a ns) ts alerts := by
  induction hts generalizing alerts with
  | nil =>
    obtain ⟨⟩ := hitems
    exact .nil
  | cons ht _ ih =>
    obtain _ | ⟨rfl, hitems⟩ := hitems
    exact .cons (Alert.holds_iff.mp ht) (ih hitems)

/-- Every spelling of an object holds one payload, and what it holds is told by the object: a single
alert has the fields of the object, and the alerts of a batch have those of the objects in the array
that is written last for `alerts`. -/
theorem Payload.ofBytes_spelled {ms : List (String × Tree)}
    (hdepth : (Tree.object ms).depth ≤ 127) (hrange : (Tree.object ms).InRange) :
    ∃ p, (∀ body, SpellsText body (.object ms) → Payload.ofBytes body = .ok p) ∧
      match p with
      | .single a => a.Holds ms
      | .batch b =>
        ∃ ts, ms.reverse.lookup "alerts" = some (.array ts) ∧
          List.Forall₂ (fun t a => ∃ ns, t = .object ns ∧ Alert.Holds a ns) ts b.alerts := by
  obtain ⟨v, hv⟩ := hrange.exists_standsFor
  obtain ⟨written, rfl, -⟩ := Json.standsFor_object_iff.mp hv
  obtain ⟨_, ⟨rfl⟩, hkeys, hfields⟩ := Alert.holds_iff.mp (Tree.settles_of_standsFor _ hv)
  refine ⟨(Reading.ofMembers (Members.ofList written)).payload,
    fun body hbody => ofBytes_of_accepted ⟨hbody, hdepth, hrange⟩ hv, ?_⟩
  obtain hp | ⟨b, items, hp, halerts, hitems⟩ := Reading.ofMembers_cases (Members.ofList written)
  · rw [hp]
    exact ⟨hkeys, hfields⟩
  · rw [hp]
    have hlast := hfields "alerts"
    rw [Alert.get?, halerts] at hlast
    generalize ms.reverse.lookup "alerts" = last at hlast
    obtain @⟨t, _, ht⟩ := hlast
    obtain _ | _ | _ | _ | @⟨ts, _, hts⟩ := ht
    exact ⟨ts, rfl, Alert.hold_of_settles hts hitems⟩

/-- A key that is written twice, the second time by an escape, and a null before a number. -/
def repeatedKey : List (String × Tree) :=
  [("a", .null), ("a", .number ⟨false, [0x31], [], none⟩)]

theorem spellsText_repeatedKey :
    SpellsText (Utf8.bytes "\x7b\"a\":null,\"\\u0061\":1\x7d") (.object repeatedKey) := by
  have hraw : SpellsString (Utf8.bytes "\"a\"") "a" := by
    have h := @SpellsString.mk _ "a" (.cons (.raw (by decide) (by decide) (by decide)) .nil)
    exact h
  have hescaped : SpellsString (Utf8.bytes "\"\\u0061\"") "a" := by
    have hunit : SpellsUnit [0x30, 0x30, 0x36, 0x31] 'a'.toNat :=
      @SpellsUnit.mk _ _ _ _ 0 0 6 1 rfl rfl rfl rfl
    have h := @SpellsString.mk _ "a" (.cons (.unit hunit) .nil)
    exact h
  have hdigits : WholeDigits [0x31] :=
    .inr ⟨⟨List.cons_ne_nil _ _, List.forall_mem_singleton.mpr rfl⟩, by decide⟩
  have hone : Spells [0x31] (.number ⟨false, [0x31], [], none⟩) :=
    .number (.plain rfl (.mk hdigits .absent .absent))
  have hfirst := SpellsMember.mk (.mk blanks_nil hraw blanks_nil)
    (.mk blanks_nil Spells.nullWord blanks_nil)
  have hsecond := SpellsMember.mk (.mk blanks_nil hescaped blanks_nil)
    (.mk blanks_nil hone blanks_nil)
  have h := Padded.mk blanks_nil (Spells.object (.more hfirst (.one hsecond))) blanks_nil
  exact h

theorem Payload.ofBytes_spelled_repeatedKey :
    (Tree.object repeatedKey).depth ≤ 127 ∧ (Tree.object repeatedKey).InRange ∧
    ∃ a, Payload.ofBytes (Utf8.bytes "\x7b\"a\":null,\"\\u0061\":1\x7d") = .ok (.single a) ∧
      a.Holds repeatedKey := by
  have hdepth : (Tree.object repeatedKey).depth ≤ 127 := by decide
  have hrange : (Tree.object repeatedKey).InRange := by
    intro l hl
    obtain rfl : l = ⟨false, [0x31], [], none⟩ := List.mem_singleton.mp hl
    exact ⟨[0x31], [], Json.fills_all (by decide), Json.fills_all (by decide), .inl ⟨rfl, rfl⟩⟩
  obtain ⟨p, hp, hholds⟩ := Payload.ofBytes_spelled hdepth hrange
  refine ⟨hdepth, hrange, ?_⟩
  cases p with
  | single a => exact ⟨a, hp _ spellsText_repeatedKey, hholds⟩
  | batch b =>
    obtain ⟨ts, hts, -⟩ := hholds
    cases hts

end AlertConsole
