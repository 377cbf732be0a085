import AlertConsole.Payload
import AlertConsole.Proofs.Json.Documents
set_option autoImplicit false

/-!
# Which bodies hold a payload

A body holds a payload exactly if it is the text of an object.  Every other body has one of three
kinds of fault, and `ofBytes_language` says which: the first of them that applies.
-/

namespace AlertConsole

open Json (Tree Value Members Accepted)
open Utf8 (IsText)

namespace Payload

/-! ## One lemma for each outcome -/

theorem ofBytes_of_fault {body : List UInt8} {f : Utf8.Fault} (h : Utf8.fault? 0 body = some f) :
    ofBytes body = .error (.utf8 f) := by
  simp only [ofBytes, Reading.ofBytes, h, Except.map]

theorem exists_fault {body : List UInt8} (h : ¬ IsText body) :
    ∃ f, ofBytes body = .error (.utf8 f) := by
  cases hf : Utf8.fault? 0 body with
  | none => exact absurd ((Utf8.fault?_eq_none_iff 0 body).mp hf) h
  | some f => exact ⟨f, ofBytes_of_fault hf⟩

section

variable {body : List UInt8} (hbody : IsText body)

include hbody

theorem ofBytes_of_unread {f : Json.Fault} (h : Json.read body = .error f) :
    ofBytes body = .error (.json f) := by
  simp only [ofBytes, Reading.ofBytes, (Utf8.fault?_eq_none_iff 0 body).mpr hbody, h, Except.map]

theorem ofBytes_of_notAnObject {v : Value} (h : Json.read body = .ok v) (hv : members? v = none) :
    ofBytes body = .error (.notAnObject v) := by
  simp only [ofBytes, Reading.ofBytes, (Utf8.fault?_eq_none_iff 0 body).mpr hbody, h, hv,
    Except.map]

theorem ofBytes_of_object {ms : Members} (h : Json.read body = .ok (.object ms)) :
    ofBytes body = .ok (Reading.ofMembers ms).payload := by
  simp only [ofBytes, Reading.ofBytes, (Utf8.fault?_eq_none_iff 0 body).mpr hbody, h, members?,
    Except.map]

end

theorem members?_eq_some_iff {v : Value} {ms : Members} :
    members? v = some ms ↔ v = .object ms := by
  cases v <;> simp [members?]

/-- Only an object has members. -/
theorem members?_eq_none_iff {t : Tree} {v : Value} (h : t.StandsFor v) :
    members? v = none ↔ ∀ ms, t ≠ .object ms := by
  constructor
  · rintro hv ms rfl
    obtain ⟨written, rfl, -⟩ := Json.standsFor_object_iff.mp h
    contradiction
  · intro ht
    cases hv : members? v with
    | none => rfl
    | some ms =>
      obtain rfl := members?_eq_some_iff.mp hv
      obtain ⟨ts, rfl⟩ := h.exists_object
      exact absurd rfl (ht ts)

/-- A payload is what was found in the members that the tree of an object stands for. -/
theorem exists_members {body : List UInt8} {p : Payload} (h : ofBytes body = .ok p) :
    ∃ ts ms, Accepted body (.object ts) ∧ (Tree.object ts).StandsFor (.object ms) ∧
      p = (Reading.ofMembers ms).payload := by
  by_cases hbody : IsText body
  · cases hread : Json.read body with
    | error f => cases h.symm.trans (ofBytes_of_unread hbody hread)
    | ok v =>
      cases hms : members? v with
      | none => cases h.symm.trans (ofBytes_of_notAnObject hbody hread hms)
      | some ms =>
        obtain rfl := members?_eq_some_iff.mp hms
        obtain ⟨t, ht, hv⟩ := Json.exists_accepted hbody hread
        obtain ⟨ts, rfl⟩ := hv.exists_object
        exact ⟨ts, ms, ht, hv, Except.ok.inj (h.symm.trans (ofBytes_of_object hbody hread))⟩
  · obtain ⟨f, hf⟩ := exists_fault hbody
    cases h.symm.trans hf

/-- A body has a fault of text exactly if one is found in its bytes. -/
theorem ofBytes_eq_utf8_iff {body : List UInt8} {f : Utf8.Fault} :
    ofBytes body = .error (.utf8 f) ↔ Utf8.fault? 0 body = some f := by
  refine ⟨fun h => ?_, ofBytes_of_fault⟩
  cases hf : Utf8.fault? 0 body with
  | some f' => cases h.symm.trans (ofBytes_of_fault hf); rfl
  | none =>
    have hbody := (Utf8.fault?_eq_none_iff 0 body).mp hf
    cases hread : Json.read body with
    | error f' => cases h.symm.trans (ofBytes_of_unread hbody hread)
    | ok v =>
      cases hv : members? v with
      | none => cases h.symm.trans (ofBytes_of_notAnObject hbody hread hv)
      | some ms =>
        obtain rfl := members?_eq_some_iff.mp hv
        cases h.symm.trans (ofBytes_of_object hbody hread)

/-- A body with a fault of any other kind is a text. -/
theorem isText_of_fault {body : List UInt8} {fault : PayloadFault}
    (h : ofBytes body = .error fault) (hkind : ∀ f, fault ≠ .utf8 f) : IsText body := by
  refine Classical.not_not.mp fun hbody => ?_
  obtain ⟨f, hf⟩ := exists_fault hbody
  exact hkind f (Except.error.inj (h.symm.trans hf))

/-- The text of an object holds a payload. -/
theorem ofBytes_of_accepted {body : List UInt8} {ts : List (String × Tree)} {ms : Members}
    (h : Accepted body (.object ts)) (hms : (Tree.object ts).StandsFor (.object ms)) :
    ofBytes body = .ok (Reading.ofMembers ms).payload :=
  ofBytes_of_object h.spelled.isText (h.read_eq hms)

/-! ## The language -/

/-- What a body holds.  It is no text, or it is a text but no JSON text, or it is a JSON text of no
object, or it holds a payload; whether the fields of an object are there and what they are does not
matter. -/
theorem ofBytes_language (body : List UInt8) :
    ((∃ f, ofBytes body = .error (.utf8 f)) ↔ ¬ IsText body) ∧
    ((∃ f, ofBytes body = .error (.json f)) ↔ IsText body ∧ ¬ ∃ t, Accepted body t) ∧
    (∀ name, (∃ v, ofBytes body = .error (.notAnObject v) ∧ v.kindName = name) ↔
      ∃ t, Accepted body t ∧ (∀ ms, t ≠ .object ms) ∧ t.kindName = name) ∧
    ((∃ p, ofBytes body = .ok p) ↔ ∃ ms, Accepted body (.object ms)) := by
  by_cases hbody : IsText body
  · cases hread : Json.read body with
    | error f =>
      have hrejected (t : Tree) : ¬ Accepted body t := fun ht => by
        obtain ⟨v, -, hv⟩ := ht.exists_read
        cases hread.symm.trans hv
      simp [ofBytes_of_unread hbody hread, hbody, hrejected]
    | ok v =>
      obtain ⟨t, ht, hv⟩ := Json.exists_accepted hbody hread
      have hstands {t' : Tree} (ht' : Accepted body t') : t'.StandsFor v := by
        obtain ⟨v', hv', hread'⟩ := ht'.exists_read
        obtain rfl := Except.ok.inj (hread.symm.trans hread')
        exact hv'
      cases hms : members? v with
      | none =>
        have hnot {t' : Tree} (ht' : Accepted body t') : ∀ ms, t' ≠ .object ms :=
          (members?_eq_none_iff (hstands ht')).mp hms
        rw [ofBytes_of_notAnObject hbody hread hms]
        refine ⟨by simp [hbody], by simpa using fun _ => ⟨t, ht⟩, fun name => ?_, ?_⟩
        · constructor
          · rintro ⟨v', h, rfl⟩
            obtain rfl := PayloadFault.notAnObject.inj (Except.error.inj h)
            exact ⟨t, ht, hnot ht, hv.kindName_eq⟩
          · rintro ⟨t', ht', -, rfl⟩
            exact ⟨v, rfl, (hstands ht').kindName_eq.symm⟩
        · exact iff_of_false (by simp) fun ⟨ms, h⟩ => hnot h ms rfl
      | some ms =>
        obtain rfl := members?_eq_some_iff.mp hms
        have hobject {t' : Tree} (ht' : Accepted body t') : ¬ ∀ ms, t' ≠ .object ms := fun h =>
          absurd ((members?_eq_none_iff (hstands ht')).mpr h) (by simp [members?])
        rw [ofBytes_of_object hbody hread]
        refine ⟨by simp [hbody], by simpa using fun _ => ⟨t, ht⟩, fun name => ?_, ?_⟩
        · exact iff_of_false (by simp) fun ⟨_, ht', hnot, _⟩ => hobject ht' hnot
        · obtain ⟨ts, rfl⟩ : ∃ ts, t = .object ts := by simpa using hobject ht
          exact iff_of_true ⟨_, rfl⟩ ⟨ts, ht⟩
  · obtain ⟨f, hf⟩ := exists_fault hbody
    have hrejected (t : Tree) : ¬ Accepted body t := fun h => hbody h.spelled.isText
    simp [hf, hbody, hrejected]

end Payload

end AlertConsole
