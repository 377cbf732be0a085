import AlertConsole.Proofs.Payload.Language
import AlertConsole.Proofs.Payload.Rereading
import AlertConsole.Proofs.Report.Rows
set_option autoImplicit false

/-!
# Which objects are batches

An object is a batch if it has `alerts`, an array of objects, has no `alert_id`, and has no `count`
but a natural number or null; every other object is one alert.  `Batch.Shaped` is that rule, and
`ofBytes_classifies` says that deliveries follow it and that nothing of a batch is lost or changed.
The last part is about `count`: of an object that otherwise has all that makes a batch, its `count`
alone decides whether the alerts are seen.
-/

namespace AlertConsole

open Json (Value Members)
open Utf8 (IsText)

/-! ## The rule -/

namespace Batch

/-- What the value of `count` declares, if it can be one of a batch at all. -/
inductive Declares : Option Value → Option Nat → Prop where
  | absent : Declares none none
  | null : Declares (some .null) none
  | natural {n : Nat}
      (inRange : -0x8000000000000000 ≤ (n : Int) ∧ (n : Int) < 0x10000000000000000) :
      Declares (some (.number (.integer n inRange))) (some n)

/-- An object has the shape of a batch. -/
structure Shaped (o : Members) : Prop where
  alerts : ∃ items, o.get? "alerts" = some (.array items) ∧ ∀ item ∈ items, ∃ ms, item = .object ms
  noId : "alert_id" ∉ o.keys
  count : ∃ n, Declares (o.get? "count") n

/-- An object tells what a batch holds: its `alerts` are the alerts, in order and member for member,
and its `count` declares what the batch declares. -/
structure Tells (o : Members) (b : Batch) : Prop where
  alerts : o.get? "alerts" = some (.array (b.alerts.map fun a => .object a.members))
  count : Declares (o.get? "count") b.declaredCount

end Batch

/-! ## What fits -/

namespace Mismatch

/-- An array of objects is one of alerts. -/
theorem exists_alerts {items : List Value} (h : ∀ item ∈ items, ∃ ms, item = .object ms) :
    ∃ as : List Alert, items = as.map fun a => .object a.members := by
  induction items with
  | nil => exact ⟨[], rfl⟩
  | cons item items ih =>
    obtain ⟨⟨ms, rfl⟩, hitems⟩ := List.forall_mem_cons.mp h
    obtain ⟨as, rfl⟩ := ih hitems
    exact ⟨⟨ms⟩ :: as, rfl⟩

theorem inAlerts?_eq_none_iff {v : Value} :
    inAlerts? v = none ↔ ∃ items, v = .array items ∧ ∀ item ∈ items, ∃ ms, item = .object ms := by
  cases v with
  | array items =>
    have hitem (item : Value) : (members? item).isNone = false ↔ ∃ ms, item = .object ms := by
      cases item <;> simp [members?]
    simp only [inAlerts?, Option.map_eq_none_iff, List.find?_eq_none, Bool.not_eq_true, hitem,
      Value.array.injEq, exists_eq_left']
  | _ => simp [inAlerts?]

theorem inCount?_eq_none_iff {v : Value} :
    inCount? v = none ↔ ∃ n, Batch.Declares (some v) n := by
  constructor
  · intro h
    cases v with
    | null => exact ⟨none, .null⟩
    | number n =>
      cases n with
      | double x => contradiction
      | integer i inRange =>
        simp only [inCount?, Json.Number.toNat?] at h
        split at h
        · rename_i hsome
          have hnonneg : 0 ≤ i := by
            by_contra hneg
            simp [hneg] at hsome
          obtain ⟨n, rfl⟩ := Int.eq_ofNat_of_zero_le hnonneg
          exact ⟨some n, .natural inRange⟩
        · contradiction
    | _ => contradiction
  · rintro ⟨n, hn⟩
    cases hn with
    | null => rfl
    | natural => simp [inCount?, Json.Number.toNat?]

/-- Everything in an object fits if its `alerts` do and its `count` does. -/
theorem first?_eq_none_iff {ms : Members} (h : ms.keys.Nodup) :
    first? ms = none ↔
      (∀ v, ms.get? "alerts" = some v → inAlerts? v = none) ∧
      (∀ v, ms.get? "count" = some v → inCount? v = none) := by
  have hne : "count" ≠ "alerts" := by decide
  simp only [Members.get?_eq_some_iff h, first?, List.findSome?_eq_none_iff]
  constructor
  · intro hfits
    refine ⟨fun v hv => ?_, fun v hv => ?_⟩
    · have hmember := hfits _ hv
      rwa [inMember?, if_pos rfl] at hmember
    · have hmember := hfits _ hv
      rwa [inMember?, if_neg hne, if_pos rfl] at hmember
  · rintro ⟨halerts, hcount⟩ ⟨key, v⟩ hmem
    unfold inMember?
    split
    · rename_i hkey
      subst hkey
      exact halerts v hmem
    · split
      · rename_i hkey
        subst hkey
        exact hcount v hmem
      · rfl

end Mismatch

namespace Batch

theorem Declares.countOf_eq {c : Option Value} {n : Option Nat} (h : Declares c n) :
    countOf c = n := by
  cases h with
  | absent => rfl
  | null => rfl
  | natural => simp [countOf, Json.Number.toNat?]

theorem alertsOf_map (as : List Alert) :
    alertsOf (some (.array (as.map fun a => .object a.members))) = as := by
  induction as with
  | nil => rfl
  | cons a as ih => exact congrArg (a :: ·) ih

/-- An object determines the batch that it tells. -/
theorem Tells.eq_ofMembers {o : Members} {b : Batch} (h : Tells o b) : b = ofMembers o := by
  obtain ⟨halerts, hcount⟩ := h
  rw [ofMembers, halerts, alertsOf_map, hcount.countOf_eq]

/-- An object without `alert_id` that tells a batch has the shape of one. -/
theorem Tells.shaped {o : Members} {b : Batch} (h : Tells o b) (hid : "alert_id" ∉ o.keys) :
    Shaped o := by
  refine ⟨⟨_, h.alerts, ?_⟩, hid, b.declaredCount, h.count⟩
  intro item hitem
  obtain ⟨a, -, rfl⟩ := List.mem_map.mp hitem
  exact ⟨a.members, rfl⟩

/-- An object of the shape of a batch tells the batch that is found in it. -/
theorem Shaped.tells {o : Members} (h : Shaped o) : Tells o (ofMembers o) := by
  obtain ⟨⟨items, halerts, hitems⟩, -, n, hn⟩ := h
  obtain ⟨as, rfl⟩ := Mismatch.exists_alerts hitems
  constructor
  · rw [ofMembers, halerts, alertsOf_map]
  · have hcount : countOf (o.get? "count") = n := hn.countOf_eq
    rw [ofMembers, hcount]
    exact hn

/-- The shape of a batch is what the two readings of an object look for. -/
theorem shaped_iff {o : Members} (h : o.keys.Nodup) :
    Shaped o ↔ (o.has "alerts" = true ∧ ¬ o.has "alert_id" = true) ∧ Mismatch.first? o = none := by
  rw [Members.has_eq_true_iff, Members.has_eq_true_iff, Mismatch.first?_eq_none_iff h]
  constructor
  · rintro ⟨⟨items, halerts, hitems⟩, hid, n, hn⟩
    have hmem : "alerts" ∈ o.keys := by
      rw [← Members.has_eq_true_iff, Members.has, halerts]
      rfl
    refine ⟨⟨hmem, hid⟩, fun v hv => ?_, fun v hv => ?_⟩
    · obtain rfl := Option.some.inj (halerts.symm.trans hv)
      exact Mismatch.inAlerts?_eq_none_iff.mpr ⟨items, rfl, hitems⟩
    · exact Mismatch.inCount?_eq_none_iff.mpr ⟨n, hv ▸ hn⟩
  · rintro ⟨⟨hmem, hid⟩, halerts, hcount⟩
    obtain ⟨v, hv⟩ := Option.isSome_iff_exists.mp ((Members.has_eq_true_iff o "alerts").mpr hmem)
    obtain ⟨items, rfl, hitems⟩ := Mismatch.inAlerts?_eq_none_iff.mp (halerts v hv)
    refine ⟨⟨items, hv, hitems⟩, hid, ?_⟩
    cases hc : o.get? "count" with
    | none => exact ⟨none, .absent⟩
    | some c => exact Mismatch.inCount?_eq_none_iff.mp (hcount c hc)

end Batch

/-! ## What is found in an object -/

namespace Reading

theorem ofMembers_of_shaped {o : Members} (h : o.keys.Nodup) (hshaped : Batch.Shaped o) :
    ofMembers o = ⟨.batch (.ofMembers o), none⟩ := by
  obtain ⟨hlike, hfirst⟩ := (Batch.shaped_iff h).mp hshaped
  rw [ofMembers, if_pos hlike, hfirst]

/-- An object of another shape is one alert, the whole of it. -/
theorem ofMembers_of_not_shaped {o : Members} (h : o.keys.Nodup) (hshaped : ¬ Batch.Shaped o) :
    (ofMembers o).payload = .single ⟨o⟩ := by
  rw [Batch.shaped_iff h] at hshaped
  unfold ofMembers
  split
  · rename_i hlike
    split
    · rename_i hfirst
      exact absurd ⟨hlike, hfirst⟩ hshaped
    · rfl
  · rfl

theorem ofMembers_payload_eq_batch_iff {o : Members} (h : o.keys.Nodup) {b : Batch} :
    (ofMembers o).payload = .batch b ↔ Batch.Shaped o ∧ Batch.Tells o b := by
  by_cases hshaped : Batch.Shaped o
  · rw [ofMembers_of_shaped h hshaped]
    constructor
    · intro heq
      obtain rfl := Payload.batch.inj heq
      exact ⟨hshaped, hshaped.tells⟩
    · rintro ⟨-, htells⟩
      rw [htells.eq_ofMembers]
  · rw [ofMembers_of_not_shaped h hshaped]
    simp [hshaped]

end Reading

/-! ## Deliveries -/

namespace Payload

/-- What is read has distinct keys. -/
theorem distinctKeys_of_read {body : List UInt8} {v : Value} (hbody : IsText body)
    (hread : Json.read body = .ok v) : v.DistinctKeys := by
  obtain ⟨t, -, hv⟩ := Json.exists_accepted hbody hread
  exact Json.Tree.StandsFor.distinctKeys t hv

section

variable {body : List UInt8} {o : Members} (hbody : IsText body)
  (hread : Json.read body = .ok (.object o))

include hbody hread

theorem nodup_keys_of_read : o.keys.Nodup :=
  (Json.Value.distinctKeys_object_iff.mp (distinctKeys_of_read hbody hread)).1

theorem ofBytes_eq_batch_iff {b : Batch} :
    ofBytes body = .ok (.batch b) ↔ Batch.Shaped o ∧ Batch.Tells o b := by
  rw [ofBytes_of_object hbody hread, Except.ok.injEq]
  exact Reading.ofMembers_payload_eq_batch_iff (nodup_keys_of_read hbody hread)

/-- An object without `alert_id` that tells a batch is that batch. -/
theorem ofBytes_of_tells {b : Batch} (h : Batch.Tells o b) (hid : "alert_id" ∉ o.keys) :
    ofBytes body = .ok (.batch b) :=
  (ofBytes_eq_batch_iff hbody hread).mpr ⟨h.shaped hid, h⟩

theorem ofBytes_of_not_shaped (h : ¬ Batch.Shaped o) : ofBytes body = .ok (.single ⟨o⟩) := by
  rw [ofBytes_of_object hbody hread,
    Reading.ofMembers_of_not_shaped (nodup_keys_of_read hbody hread) h]

/-- An object that has the shape of a batch is read a second time without a change. -/
theorem reread_of_shaped (h : Batch.Shaped o) : Batch.reread o = .ok (.ofMembers o) := by
  have hdistinct := distinctKeys_of_read hbody hread
  have hfirst := ((Batch.shaped_iff (nodup_keys_of_read hbody hread)).mp h).2
  rw [Batch.reread_eq hdistinct, hfirst]
  rfl

theorem exists_batch_iff : (∃ b, ofBytes body = .ok (.batch b)) ↔ Batch.Shaped o := by
  simp only [ofBytes_eq_batch_iff hbody hread]
  constructor
  · rintro ⟨b, hshaped, -⟩
    exact hshaped
  · exact fun h => ⟨.ofMembers o, h, h.tells⟩

end

/-- An object is a batch exactly if it has the shape of one.  Then the batch is what the object
tells, which is also what the second reading finds, and no member but `alerts`, `count` and
`alert_id` counts.  Otherwise it is one alert: the whole object, as it is. -/
theorem ofBytes_classifies {body : List UInt8} {o : Members} (hbody : IsText body)
    (hread : Json.read body = .ok (.object o)) :
    ((∃ b, ofBytes body = .ok (.batch b)) ↔ Batch.Shaped o) ∧
    (∀ b, ofBytes body = .ok (.batch b) → Batch.Tells o b ∧ Batch.reread o = .ok b) ∧
    (¬ Batch.Shaped o → ofBytes body = .ok (.single ⟨o⟩)) ∧
    (∀ (body' : List UInt8) (o' : Members) (b : Batch), IsText body' →
      Json.read body' = .ok (.object o') → o'.get? "alerts" = o.get? "alerts" →
      o'.get? "count" = o.get? "count" → ("alert_id" ∈ o'.keys ↔ "alert_id" ∈ o.keys) →
      ofBytes body = .ok (.batch b) → ofBytes body' = .ok (.batch b)) := by
  refine ⟨exists_batch_iff hbody hread, ?_, ofBytes_of_not_shaped hbody hread, ?_⟩
  · intro b hb
    obtain ⟨hshaped, htells⟩ := (ofBytes_eq_batch_iff hbody hread).mp hb
    refine ⟨htells, ?_⟩
    rw [htells.eq_ofMembers]
    exact reread_of_shaped hbody hread hshaped
  · intro body' o' b hbody' hread' halerts hcount hid hb
    obtain ⟨⟨hitems, hnoId, hdeclares⟩, htells⟩ := (ofBytes_eq_batch_iff hbody hread).mp hb
    rw [ofBytes_eq_batch_iff hbody' hread']
    refine ⟨⟨?_, mt hid.mp hnoId, ?_⟩, ?_, ?_⟩
    · rw [halerts]
      exact hitems
    · rw [hcount]
      exact hdeclares
    · rw [halerts]
      exact htells.alerts
    · rw [hcount]
      exact htells.count

/-- Two alerts, the second of them empty. -/
def greatestCountAlerts : List Alert :=
  [⟨[("b", .number (.integer (-7) (by decide))), ("a", .array [.bool true])]⟩, ⟨[]⟩]

/-- A batch of two alerts that declares the greatest count. -/
def greatestCount : Members :=
  [("count", .number (.integer (18446744073709551615 : Nat) (by decide))),
   ("note", .string "x"),
   ("alerts", .array (greatestCountAlerts.map fun a => .object a.members))]

/-- Its text, in which the first alert repeats a key. -/
def greatestCountText : List UInt8 :=
  Utf8.bytes ("\x7b\"count\":18446744073709551615,\"note\":\"x\"," ++
    "\"alerts\":[\x7b\"b\":1,\"a\":[true],\"b\":-7\x7d,\x7b\x7d]\x7d")

theorem ofBytes_classifies_greatestCount :
    IsText greatestCountText ∧ Json.read greatestCountText = .ok (.object greatestCount) ∧
    ofBytes greatestCountText = .ok (.batch ⟨greatestCountAlerts, some 18446744073709551615⟩) ∧
    Batch.reread greatestCount = .ok ⟨greatestCountAlerts, some 18446744073709551615⟩ := by
  have hbody : IsText greatestCountText := Utf8.isText_bytes _
  have hread : Json.read greatestCountText = .ok (.object greatestCount) := rfl
  have htold : Batch.Tells greatestCount ⟨greatestCountAlerts, some 18446744073709551615⟩ :=
    ⟨rfl, .natural (by decide)⟩
  have hshaped : Batch.Shaped greatestCount := htold.shaped (by decide)
  obtain ⟨hiff, htells, -, -⟩ := ofBytes_classifies hbody hread
  obtain ⟨b, hb⟩ := hiff.mpr hshaped
  obtain ⟨hfound, hreread⟩ := htells b hb
  have hbatch : b = ⟨greatestCountAlerts, some 18446744073709551615⟩ := hfound.eq_ofMembers
  rw [hbatch] at hb hreread
  exact ⟨hbody, hread, hb, hreread⟩

/-! ## The count decides -/

/-- Of an object with an array of objects and no `alert_id`, the alerts are seen exactly if its
`count` is absent, null or a natural number.  Any other `count` makes it one alert, and one block is
printed; as long as the alerts are seen, a block is printed for each of them. -/
theorem ofBytes_batch_iff_declares {body : List UInt8} {o : Members} {as : List Alert}
    (hbody : IsText body) (hread : Json.read body = .ok (.object o))
    (halerts : o.get? "alerts" = some (.array (as.map fun a => .object a.members)))
    (hid : "alert_id" ∉ o.keys) :
    ((∃ b, ofBytes body = .ok (.batch b) ∧ b.alerts = as) ↔
      ∃ n, Batch.Declares (o.get? "count") n) ∧
    ((¬ ∃ n, Batch.Declares (o.get? "count") n) →
      ofBytes body = .ok (.single ⟨o⟩) ∧
      ∀ receivedAt, Report.body ⟨ofBytes body, body, receivedAt⟩ = Alert.block ⟨o⟩ ∧
        Report.text ⟨ofBytes body, body, receivedAt⟩ =
          Report.framed receivedAt (Alert.block ⟨o⟩)) ∧
    ∀ n, Batch.Declares (o.get? "count") n → ∀ receivedAt,
      Report.text ⟨ofBytes body, body, receivedAt⟩ =
        Report.framed receivedAt
          (Batch.heading ⟨as, n⟩ ++ String.join (blocksFrom as.length 1 as)) := by
  have hseen (n : Option Nat) (hn : Batch.Declares (o.get? "count") n) :
      ofBytes body = .ok (.batch ⟨as, n⟩) := by
    have htells : Batch.Tells o ⟨as, n⟩ := ⟨halerts, hn⟩
    exact ofBytes_of_tells hbody hread htells hid
  refine ⟨⟨?_, ?_⟩, ?_, ?_⟩
  · rintro ⟨b, hb, -⟩
    exact ((ofBytes_eq_batch_iff hbody hread).mp hb).1.count
  · rintro ⟨n, hn⟩
    exact ⟨⟨as, n⟩, hseen n hn, rfl⟩
  · intro hcount
    have hsingle := ofBytes_of_not_shaped hbody hread fun h => hcount h.count
    refine ⟨hsingle, fun receivedAt => ?_⟩
    rw [Report.text_eq_framed, hsingle]
    exact ⟨rfl, rfl⟩
  · intro n hn receivedAt
    rw [Report.text_eq_framed, hseen n hn]
    rfl

/-- Two alerts, and a count as given. -/
def pairCounted (count : Value) : Members :=
  [("alerts", .array
      [.object [("alert_id", .string "a-1")], .object [("alert_id", .string "a-2")]]),
   ("count", count)]

/-- The text of two alerts with the given text for the count. -/
def pairText (count : String) : List UInt8 :=
  Utf8.bytes ("\x7b\"alerts\":[\x7b\"alert_id\":\"a-1\"\x7d,\x7b\"alert_id\":\"a-2\"\x7d]," ++
    "\"count\":" ++ count ++ "\x7d")

theorem ofBytes_batch_iff_declares_negativeCount :
    ofBytes (pairText "-1") =
      .ok (.single ⟨pairCounted (.number (.integer (-1) (by decide)))⟩) ∧
    ∀ receivedAt, Report.text ⟨ofBytes (pairText "-1"), pairText "-1", receivedAt⟩ =
      Report.framed receivedAt
        ("\n" ++ "Alert ID: None\n" ++ "Title: None\n" ++ "Message: None\n" ++
          "Severity: None\n" ++ "Alert Type: None\n" ++ "Device ID: N/A\n" ++
          "Created At: None\n" ++ "Timestamp: None\n") := by
  have hread : Json.read (pairText "-1") =
      .ok (.object (pairCounted (.number (.integer (-1) (by decide))))) := rfl
  have halerts : (pairCounted (.number (.integer (-1) (by decide)))).get? "alerts" = some (.array
      ([⟨[("alert_id", .string "a-1")]⟩, ⟨[("alert_id", .string "a-2")]⟩].map
        fun a : Alert => .object a.members)) := rfl
  have hnone : ¬ ∃ n, Batch.Declares
      ((pairCounted (.number (.integer (-1) (by decide)))).get? "count") n := by
    rintro ⟨n, hn⟩
    cases hn
  have hbody : IsText (pairText "-1") := Utf8.isText_bytes _
  obtain ⟨hsingle, hreport⟩ :=
    (ofBytes_batch_iff_declares hbody hread halerts (by decide)).2.1 hnone
  exact ⟨hsingle, fun receivedAt => (hreport receivedAt).2⟩

/-- A count that is a text hides both alerts. -/
theorem ofBytes_textCount :
    Json.read (pairText "\"2\"") = .ok (.object (pairCounted (.string "2"))) ∧
    (pairCounted (.string "2")).get? "alerts" = some (.array
      [.object [("alert_id", .string "a-1")], .object [("alert_id", .string "a-2")]]) ∧
    "alert_id" ∉ (pairCounted (.string "2")).keys ∧
    ¬ ∃ b, ofBytes (pairText "\"2\"") = .ok (.batch b) := by
  have hread : Json.read (pairText "\"2\"") = .ok (.object (pairCounted (.string "2"))) := rfl
  have hbody : IsText (pairText "\"2\"") := Utf8.isText_bytes _
  refine ⟨hread, rfl, by decide, ?_⟩
  rw [exists_batch_iff hbody hread]
  rintro ⟨-, -, n, hn⟩
  cases hn

end Payload

end AlertConsole
