import AlertConsole.Proofs.Json.Printing
import AlertConsole.Proofs.Payload.Sources
set_option autoImplicit false

/-!
# Integers in an alert

An integer literal is kept as the integer that it writes, digit for digit, or it is seen to be a
double: by its text, by its equality, and by what it does as the `count` of a batch
(`integer_kept_or_double`).
-/

namespace AlertConsole

open Json

/-! ## Counts -/

namespace Batch

/-- An object has all that makes a batch, if what is written last for its `count` does. -/
structure CountedAs (ms : List (String × Tree)) (count : Tree) : Prop where
  alerts : ∃ ts, ms.reverse.lookup "alerts" = some (.array ts) ∧ ∀ t ∈ ts, ∃ ns, t = .object ns
  noId : "alert_id" ∉ ms.map Prod.fst
  count : ms.reverse.lookup "count" = some count

theorem declares_integer_iff {i : Int}
    {inRange : -0x8000000000000000 ≤ i ∧ i < 0x10000000000000000} {n : Option Nat} :
    Declares (some (.number (.integer i inRange))) n ↔ ∃ k : Nat, n = some k ∧ i = k := by
  constructor
  · rintro (_ | _ | _)
    exact ⟨_, rfl, rfl⟩
  · rintro ⟨k, rfl, rfl⟩
    exact .natural inRange

theorem not_declares_double {x : Binary64} {n : Option Nat} :
    ¬ Declares (some (.number (.double x))) n := nofun

/-- Objects stand for alerts. -/
theorem exists_alerts_of_objects {ts : List Tree} {items : List Value}
    (h : List.Forall₂ Tree.StandsFor ts items) (hts : ∀ t ∈ ts, ∃ ns, t = .object ns) :
    ∃ as : List Alert, items = as.map fun a => .object a.members := by
  refine Mismatch.exists_alerts ?_
  induction h with
  | nil => exact fun _ h => absurd h List.not_mem_nil
  | cons htv _ ih =>
    obtain ⟨⟨ns, rfl⟩, hrest⟩ := List.forall_mem_cons.mp hts
    obtain ⟨written, rfl, -⟩ := standsFor_object_iff.mp htv
    exact List.forall_mem_cons.mpr ⟨⟨_, rfl⟩, ih hrest⟩

/-- The members of an object with a number for its count. -/
theorem CountedAs.exists_members {ms : List (String × Tree)} {l : Literal} {o : Members}
    (h : CountedAs ms (.number l)) (ho : (Tree.object ms).StandsFor (.object o)) :
    (∃ as : List Alert, o.get? "alerts" = some (.array (as.map fun a => .object a.members))) ∧
    "alert_id" ∉ o.keys ∧ ∃ n, l.number = .ok n ∧ o.get? "count" = some (.number n) := by
  obtain ⟨⟨ts, halerts, hts⟩, hid, hcount⟩ := h
  refine ⟨?_, mt (Tree.StandsFor.mem_keys_iff ho "alert_id").mp hid, ?_⟩
  · obtain ⟨v, hv, hstands⟩ := Tree.StandsFor.exists_get? ho halerts
    obtain ⟨items, rfl, hitems⟩ := standsFor_array_iff.mp hstands
    obtain ⟨as, rfl⟩ := exists_alerts_of_objects hitems hts
    exact ⟨as, hv⟩
  · obtain ⟨v, hv, hstands⟩ := Tree.StandsFor.exists_get? ho hcount
    obtain ⟨n, rfl, hn⟩ := standsFor_number_iff.mp hstands
    exact ⟨n, hn, hv⟩

end Batch

namespace Payload

open Batch (CountedAs Declares)

section

variable {body : List UInt8} {ms : List (String × Tree)} {l : Literal}
  (haccepted : Accepted body (.object ms)) (hcounted : CountedAs ms (.number l))

include haccepted hcounted

/-- A batch declares what its count does, and without anything that the count can declare the
object is one alert. -/
theorem ofBytes_of_countedAs : ∃ n, l.number = .ok n ∧
    (∀ declared, (∃ b, ofBytes body = .ok (.batch b) ∧ b.declaredCount = declared) ↔
      Declares (some (.number n)) declared) ∧
    ((∀ declared, ¬ Declares (some (.number n)) declared) →
      ∃ a, ofBytes body = .ok (.single a)) := by
  obtain ⟨o, ho, hread⟩ := exists_standsFor haccepted
  obtain ⟨⟨as, has⟩, hid, n, hn, hcount⟩ := hcounted.exists_members ho
  have hbody := haccepted.spelled.isText
  refine ⟨n, hn, ?_, ?_⟩
  · intro declared
    rw [← hcount]
    constructor
    · rintro ⟨b, hb, rfl⟩
      exact ((ofBytes_eq_batch_iff hbody hread).mp hb).2.count
    · intro hdeclares
      exact ⟨⟨as, declared⟩, ofBytes_of_tells hbody hread ⟨has, hdeclares⟩ hid, rfl⟩
  · intro hnone
    have hshape : ¬ Batch.Shaped o := by
      intro hshaped
      obtain ⟨declared, hdeclared⟩ := hshaped.count
      rw [hcount] at hdeclared
      exact hnone declared hdeclared
    exact ⟨⟨o⟩, ofBytes_of_not_shaped hbody hread hshape⟩

/-- An exact literal declares its own value, unless that is negative. -/
theorem count_of_exact (hl : l.IsInteger) (hexact : l.Exact) :
    (∀ n : Nat, (∃ b, ofBytes body = .ok (.batch b) ∧ b.declaredCount = some n) ↔ l.toInt = n) ∧
    (l.toInt < 0 → ∃ a, ofBytes body = .ok (.single a)) := by
  obtain ⟨n, hn, hbatch, hsingle⟩ := ofBytes_of_countedAs haccepted hcounted
  cases hn.symm.trans (hl.number_of_exact hexact)
  constructor
  · intro k
    rw [hbatch, Batch.declares_integer_iff]
    simp
  · intro hneg
    refine hsingle fun declared hdeclares => ?_
    obtain ⟨k, -, hk⟩ := Batch.declares_integer_iff.mp hdeclares
    omega

/-- An integer that is not kept declares nothing. -/
theorem single_of_not_exact (hl : l.IsInteger) (hexact : ¬ l.Exact) :
    ∃ a, ofBytes body = .ok (.single a) := by
  obtain ⟨n, hn, -, hsingle⟩ := ofBytes_of_countedAs haccepted hcounted
  obtain ⟨x, rfl⟩ := hl.number_of_not_exact hexact hn
  exact hsingle fun _ => Batch.not_declares_double

end

/-! ## Values -/

section

variable {s : List UInt8} {l : Literal} (hl : l.IsInteger)

include hl

/-- The value of an exact literal is the integer that it writes. -/
theorem value?_of_exact {p : Place} {body : List UInt8} {a : Alert} (hexact : l.Exact)
    (h : p.Gives body a (.number l)) :
    p.value? a = some (.number (.integer l.toInt ⟨hexact.low, hexact.high⟩)) := by
  obtain ⟨v, hv, hstands⟩ := h.exists_value
  obtain ⟨n, rfl, hn⟩ := standsFor_number_iff.mp hstands
  cases hn.symm.trans (hl.number_of_exact hexact)
  exact hv

/-- The value of an integer that is not kept is a double. -/
theorem value?_of_not_exact {p : Place} {body : List UInt8} {a : Alert} (hexact : ¬ l.Exact)
    (h : p.Gives body a (.number l)) : ∃ x, p.value? a = some (.number (.double x)) := by
  obtain ⟨v, hv, hstands⟩ := h.exists_value
  obtain ⟨n, rfl, hn⟩ := standsFor_number_iff.mp hstands
  obtain ⟨x, rfl⟩ := hl.number_of_not_exact hexact hn
  exact ⟨x, hv⟩

/-- Literals that are kept and are not the same write different integers. -/
theorem toInt_ne_of_ne {s' : List UInt8} {l' : Literal} (hl' : l'.IsInteger) (hexact : l.Exact)
    (hexact' : l'.Exact) (hs : SpellsLiteral s l) (hs' : SpellsLiteral s' l') (hne : s ≠ s') :
    l.toInt ≠ l'.toInt := by
  intro htoInt
  obtain rfl := hl.eq_of_toInt_eq hl' hexact hexact' htoInt
  exact hne ((hl.eq_of_spells hs).trans (hl.eq_of_spells hs').symm)

end

/-- An integer literal that is no negative zero and that a word of 64 bits can hold, signed or
unsigned, is kept: as a value it is shown as the literal, and as the count of a batch it is
declared, unless it is negative.  Literals that are kept and are not the same have values that
differ.  Any other integer literal is a double: it is shown with a point or an exponent, equals no
integer, and as a count keeps the object from being a batch. -/
theorem integer_kept_or_double {s : List UInt8} {l : Literal} (hs : SpellsLiteral s l)
    (hl : l.IsInteger) :
    (l.Exact →
      l.InRange ∧
      (∀ (p : Place) body a, p.Gives body a (.number l) →
        Utf8.bytes (displayText (p.value? a)) = s) ∧
      (∀ body ms, Accepted body (.object ms) → CountedAs ms (.number l) →
        (∀ n : Nat, (∃ b, ofBytes body = .ok (.batch b) ∧ b.declaredCount = some n) ↔
          l.toInt = n) ∧
        (l.toInt < 0 → ∃ a, ofBytes body = .ok (.single a))) ∧
      ∀ s' l', SpellsLiteral s' l' → l'.IsInteger → l'.Exact → s ≠ s' →
        ∀ (p p' : Place) body body' a a',
          p.Gives body a (.number l) → p'.Gives body' a' (.number l') →
          ∃ v w, p.value? a = some v ∧ p'.value? a' = some w ∧ v.same w = false) ∧
    (¬ l.Exact →
      (∀ (p : Place) body a, p.Gives body a (.number l) →
        ∃ x, p.value? a = some (.number (.double x)) ∧
          ('.' ∈ (displayText (p.value? a)).toList ∨ 'e' ∈ (displayText (p.value? a)).toList) ∧
          ∀ i inRange, Value.same (.number (.double x)) (.number (.integer i inRange)) = false ∧
            Value.same (.number (.integer i inRange)) (.number (.double x)) = false) ∧
      ∀ body ms, Accepted body (.object ms) → CountedAs ms (.number l) →
        ∃ a, ofBytes body = .ok (.single a)) := by
  constructor
  · intro hexact
    refine ⟨?_, ?_, ?_, ?_⟩
    · exact (Literal.number_isOk_iff l).mp ⟨_, hl.number_of_exact hexact⟩
    · intro p body a hgives
      rw [value?_of_exact hl hexact hgives]
      exact hl.bytes_intText_toInt hexact hs
    · intro body ms haccepted hcounted
      exact count_of_exact haccepted hcounted hl hexact
    · intro s' l' hs' hl' hexact' hne p p' body body' a a' hgives hgives'
      have htoInt := toInt_ne_of_ne hl hl' hexact hexact' hs hs' hne
      have hsame : (l.toInt == l'.toInt) = false := beq_eq_false_iff_ne.mpr htoInt
      exact ⟨_, _, value?_of_exact hl hexact hgives, value?_of_exact hl' hexact' hgives', hsame⟩
  · intro hexact
    constructor
    · intro p body a hgives
      obtain ⟨x, hx⟩ := value?_of_not_exact hl hexact hgives
      rw [hx]
      exact ⟨x, rfl, mark_mem_doubleText x, fun i inRange => ⟨rfl, rfl⟩⟩
    · intro body ms haccepted hcounted
      exact single_of_not_exact haccepted hcounted hl hexact

/-- An alert with the greatest integer for its title. -/
def greatestAlert : Alert := ⟨[("title", .number (.integer 0xFFFFFFFFFFFFFFFF inRange_greatest))]⟩

/-- A batch of that alert, with the greatest integer for its count. -/
def greatestBatch : Members :=
  [("alerts", .array [.object greatestAlert.members]),
   ("count", .number (.integer 0xFFFFFFFFFFFFFFFF inRange_greatest))]

/-- The members that are written for the alert. -/
def greatestAlertTrees : List (String × Tree) :=
  [("title", .number (integerLiteral 0xFFFFFFFFFFFFFFFF))]

/-- The members that are written for the batch. -/
def greatestBatchTrees : List (String × Tree) :=
  [("alerts", .array [.object greatestAlertTrees]),
   ("count", .number (integerLiteral 0xFFFFFFFFFFFFFFFF))]

/-- Its text. -/
def greatestText : List UInt8 :=
  Utf8.bytes ("\x7b\"alerts\":[\x7b\"title\":18446744073709551615\x7d]," ++
    "\"count\":18446744073709551615\x7d")

/-- A negative zero. -/
def minusZero : Literal := ⟨true, [Byte.zero], [], none⟩

/-- No alerts, and a negative zero for the count. -/
def minusZeroTrees : List (String × Tree) := [("alerts", .array []), ("count", .number minusZero)]

/-- The text of no alerts and a negative zero for the count. -/
def minusZeroText : List UInt8 := Utf8.bytes "\x7b\"alerts\":[],\"count\":-0\x7d"

theorem printed_greatestBatch : Printed (.object greatestBatch) (.object greatestBatchTrees) := by
  have hgreatest := printed_integer inRange_greatest
  have halert : Printed (.object greatestAlert.members) (.object greatestAlertTrees) :=
    printed_object (by decide) (.cons ⟨rfl, hgreatest⟩ .nil)
  have halerts := printed_array (.cons halert .nil)
  exact printed_object (by decide) (.cons ⟨rfl, halerts⟩ (.cons ⟨rfl, hgreatest⟩ .nil))

theorem accepted_greatestText : Accepted greatestText (.object greatestBatchTrees) := by
  have haccepted := printed_greatestBatch.accepted (by decide)
  have htext : Utf8.bytes (Value.object greatestBatch).text = greatestText := rfl
  rwa [htext] at haccepted

theorem accepted_minusZeroText : Accepted minusZeroText (.object minusZeroTrees) where
  spelled := by
    have hnumber : Spells (Utf8.bytes "-0") (.number minusZero) :=
      .number (.minus rfl (.mk (.inl rfl) .absent .absent))
    have halerts := SpellsMember.mk (.bare (spellsString_quotedText "alerts"))
      (.bare (Spells.emptyArray blanks_nil))
    have hcount := SpellsMember.mk (.bare (spellsString_quotedText "count")) (.bare hnumber)
    exact .bare (spells_object_intercalate (.cons halerts (.cons hcount .nil)))
  shallow := by decide
  inRange := by
    intro l hl
    obtain rfl : l = minusZero := List.mem_singleton.mp hl
    exact ⟨[Byte.zero], [], fills_all (by decide), fills_all (by decide), .inl ⟨rfl, rfl⟩⟩

theorem integer_kept_or_double_atTheLimits :
    (ofBytes greatestText = .ok (.batch ⟨[greatestAlert], some 18446744073709551615⟩) ∧
      Utf8.bytes (greatestAlert.fieldText "title") = Utf8.bytes "18446744073709551615") ∧
    ∃ a : Alert, ofBytes minusZeroText = .ok (.single a) ∧
      ('.' ∈ (a.fieldText "count").toList ∨ 'e' ∈ (a.fieldText "count").toList) := by
  constructor
  · have hinteger := isInteger_integerLiteral 0xFFFFFFFFFFFFFFFF
    have hexact : (integerLiteral 0xFFFFFFFFFFFFFFFF).Exact := exact_integerLiteral inRange_greatest
    obtain ⟨-, hshown, hcount, -⟩ :=
      (integer_kept_or_double (spellsLiteral_integer 0xFFFFFFFFFFFFFFFF) hinteger).1 hexact
    have hcounted :
        CountedAs greatestBatchTrees (.number (integerLiteral 0xFFFFFFFFFFFFFFFF)) :=
      ⟨⟨_, rfl, List.forall_mem_singleton.mpr ⟨_, rfl⟩⟩, by decide, rfl⟩
    have hdeclared := (hcount _ _ accepted_greatestText hcounted).1 18446744073709551615
    obtain ⟨b, hb, -⟩ := hdeclared.mpr rfl
    have hread := accepted_greatestText.read_eq printed_greatestBatch.standsFor
    have hbody := accepted_greatestText.spelled.isText
    obtain rfl := ((ofBytes_eq_batch_iff hbody hread).mp hb).2.eq_ofMembers
    have hgives : Place.Gives (.field "title") greatestText greatestAlert _ :=
      ⟨_, @Alert.WrittenIn.batched _ _ _ _ _ _ 0 accepted_greatestText hb rfl rfl rfl, rfl⟩
    exact ⟨hb, hshown _ _ _ hgives⟩
  · have hinteger : minusZero.IsInteger := ⟨.inl rfl, rfl, rfl⟩
    have hnot : ¬ minusZero.Exact := fun h => h.notMinusZero ⟨rfl, rfl⟩
    have hspelled : SpellsLiteral (Utf8.bytes "-0") minusZero :=
      .minus rfl (.mk (.inl rfl) .absent .absent)
    obtain ⟨hshown, hcount⟩ := (integer_kept_or_double hspelled hinteger).2 hnot
    have hcounted : CountedAs minusZeroTrees (.number minusZero) :=
      ⟨⟨_, rfl, fun _ h => absurd h List.not_mem_nil⟩, by decide, rfl⟩
    obtain ⟨a, ha⟩ := hcount _ _ accepted_minusZeroText hcounted
    have hgives : Place.Gives (.field "count") minusZeroText a _ :=
      ⟨_, .single accepted_minusZeroText ha, rfl⟩
    obtain ⟨x, hx, hmark, -⟩ := hshown _ _ _ hgives
    exact ⟨a, ha, hmark⟩

end Payload

end AlertConsole
