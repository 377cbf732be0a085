import AlertConsole.Proofs.Payload.Language
import AlertConsole.Proofs.Receiver.Replies
import AlertConsole.Proofs.Report.Determined
import AlertConsole.Proofs.Utf8.Cut
import AlertConsole.Proofs.Utf8.Lossy
import Mathlib.Data.List.DropRight
set_option autoImplicit false

/-!
# Deliveries cut short

An object says itself where it ends, so no shorter text is an object, and none is anything else.
What is left of a delivery that is cut before the end of its object is therefore never taken for a
payload, and a cut behind that end changes nothing.
-/

namespace AlertConsole

namespace Json

/-! ## Where an object ends -/

/-- The number of bytes before the blanks at the end. -/
def trimmedLength (s : List UInt8) : Nat := (s.rdropWhile isBlank).length

theorem Spells.exists_closeBrace {c : List UInt8} {ms : List (String × Tree)}
    (h : Spells c (.object ms)) : ∃ s, c = s ++ [Byte.closeBrace] := by
  cases h with
  | @emptyObject w => exact ⟨Byte.openBrace :: w, rfl⟩
  | @object s => exact ⟨Byte.openBrace :: s, rfl⟩

/-- Only an object starts with a brace. -/
theorem Spells.exists_object {s : List UInt8} {t : Tree} (h : Spells (Byte.openBrace :: s) t) :
    ∃ ms, t = .object ms := by
  generalize hc : Byte.openBrace :: s = c at h
  cases h with
  | emptyObject => exact ⟨_, rfl⟩
  | object => exact ⟨_, rfl⟩
  | number h =>
    cases h with
    | minus => exact absurd (List.cons.inj hc).1 (by decide)
    | plain _ h =>
      obtain ⟨d, s', rfl, hd⟩ := h.exists_cons
      exact absurd (List.cons.inj hc).1.symm (ne_of_isDigit hd rfl)
  | string h =>
    obtain ⟨h⟩ := h
    exact absurd (List.cons.inj hc).1 (by decide)
  | nullWord => exact absurd (List.cons.inj hc).1 (by decide)
  | trueWord => exact absurd (List.cons.inj hc).1 (by decide)
  | falseWord => exact absurd (List.cons.inj hc).1 (by decide)
  | emptyArray => exact absurd (List.cons.inj hc).1 (by decide)
  | array => exact absurd (List.cons.inj hc).1 (by decide)

/-- An object ends where the blanks at the end start. -/
theorem trimmedLength_of_object {u c w : List UInt8} {ms : List (String × Tree)}
    (hc : Spells c (.object ms)) (hw : Blanks w) :
    trimmedLength (u ++ (c ++ w)) = u.length + c.length := by
  obtain ⟨s, rfl⟩ := hc.exists_closeBrace
  have hskip : (w.reverse ++ Byte.closeBrace :: (s.reverse ++ u.reverse)).dropWhile isBlank =
      Byte.closeBrace :: (s.reverse ++ u.reverse) :=
    skipBlanks_append_cons (fun b hb => hw b (List.mem_reverse.mp hb)) isBlank_closeBrace _
  have hreverse : (u ++ (s ++ [Byte.closeBrace] ++ w)).reverse =
      w.reverse ++ Byte.closeBrace :: (s.reverse ++ u.reverse) := by simp
  rw [trimmedLength, List.rdropWhile, List.length_reverse, hreverse, hskip]
  simp only [List.length_cons, List.length_append, List.length_reverse, List.length_nil]
  omega

/-- A text that is cut behind its object still says the same. -/
theorem Accepted.take {b : List UInt8} {ms : List (String × Tree)} (h : Accepted b (.object ms))
    {n : Nat} (hn : trimmedLength b ≤ n) : Accepted (b.take n) (.object ms) := by
  obtain ⟨⟨hu, hc, hw⟩, hdepth, hrange⟩ := h
  rename_i u c w
  rw [trimmedLength_of_object hc hw] at hn
  refine ⟨?_, hdepth, hrange⟩
  rw [List.take_append, List.take_of_length_le (by omega), List.take_append,
    List.take_of_length_le (by omega)]
  exact .mk hu hc fun b hb => hw b (List.mem_of_mem_take hb)

/-- No part of an object from its start on is accepted: what starts with a brace is an object, and
it is read up to where it ends, whatever stands behind it. -/
theorem Accepted.trimmedLength_le {b p rest : List UInt8} {ms : List (String × Tree)} {t : Tree}
    (h : Accepted b (.object ms)) (hp : Accepted p t) (hb : b = p ++ rest) :
    trimmedLength b ≤ p.length := by
  obtain ⟨@⟨u, c, w, _, hu, hc, hw⟩, hdepth, hrange⟩ := h
  obtain ⟨@⟨u', c', w', _, hu', hc', hw'⟩, hdepth', hrange'⟩ := hp
  rw [List.append_assoc, List.append_assoc] at hb
  obtain ⟨ms', rfl⟩ : ∃ ms', t = .object ms' := by
    obtain ⟨s, rfl⟩ := hc.exists_brace
    obtain ⟨a, s', rfl, ha, -⟩ := hc'.exists_cons
    have hskip := congrArg skipBlanks hb
    rw [List.cons_append, List.cons_append, skipBlanks_append_cons hu isBlank_openBrace,
      skipBlanks_append_cons hu' ha] at hskip
    obtain rfl := (List.cons.inj hskip).1
    exact hc'.exists_object
  obtain ⟨v, hv⟩ := hrange.exists_standsFor
  obtain ⟨v', hv'⟩ := hrange'.exists_standsFor
  -- one reader of one text leaves the same bytes over
  have hread := value_complete_object hu hc ⟨hdepth, hv⟩ (Nat.le_add_right c.length c'.length) w
  have hread' := value_complete_object hu' hc' ⟨hdepth', hv'⟩
    (Nat.le_add_left c'.length c.length) (w' ++ rest)
  rw [hb] at hread
  obtain ⟨-, rfl⟩ := Prod.mk.inj (Except.ok.inj (hread.symm.trans hread'))
  have hlength := congrArg List.length hb
  rw [trimmedLength_of_object hc hw]
  simp only [List.length_append] at hlength ⊢
  omega

end Json

open Json (Accepted Value Members trimmedLength)
open Utf8 (IsText CutsCharAt)

namespace Payload

/-! ## Bodies cut short -/

section

variable {b : List UInt8} {p : Payload} (h : ofBytes b = .ok p)

include h

/-- A cut behind the object changes nothing. -/
theorem ofBytes_take_of_le {n : Nat} (hn : trimmedLength b ≤ n) : ofBytes (b.take n) = .ok p := by
  obtain ⟨ts, ms, hb, hms, rfl⟩ := exists_members h
  exact ofBytes_of_accepted (hb.take hn) hms

/-- A cut inside the object leaves no JSON text, and no text at all if a character is cut. -/
theorem ofBytes_take_of_lt {n : Nat} (hn : n < trimmedLength b) :
    (∃ i, CutsCharAt b n i ∧ ofBytes (b.take n) = .error (.utf8 ⟨i, none⟩)) ∨
      (∀ i, ¬ CutsCharAt b n i) ∧ ∃ f, ofBytes (b.take n) = .error (.json f) := by
  obtain ⟨ts, ms, hb, -, -⟩ := exists_members h
  by_cases hcut : ∃ i, CutsCharAt b n i
  · obtain ⟨i, hi⟩ := hcut
    exact .inl ⟨i, hi, ofBytes_of_fault (Utf8.fault?_take_of_cut hi)⟩
  · have htext := (Utf8.isText_take_or_cut hb.spelled.isText n).resolve_right hcut
    refine .inr ⟨not_exists.mp hcut, ?_⟩
    cases hread : Json.read (b.take n) with
    | error f => exact ⟨f, ofBytes_of_unread htext hread⟩
    | ok v =>
      obtain ⟨t, ht, -⟩ := Json.exists_accepted htext hread
      have hle := hb.trimmedLength_le ht (List.take_append_drop n b).symm
      have htake := List.length_take_le n b
      omega

/-- What is printed of a POST that declares less than the object is the report on a fault. -/
theorem exists_fault_printed_of_lt {n : Nat} (hn : n < trimmedLength b) {r : Request}
    (hpath : r.target.hasPath = true) (hmethod : r.method = "POST")
    (hlength : declaredLength r.headers = .ok n) (hbody : r.body = b) (receivedAt : String) :
    ∃ fault, ofBytes (b.take n) = .error fault ∧
      (Receiver.handle .writable receivedAt r).printed =
        Report.text ⟨.error fault, b.take n, receivedAt⟩ := by
  obtain ⟨fault, hfault⟩ : ∃ fault, ofBytes (b.take n) = .error fault := by
    obtain ⟨i, -, hf⟩ | ⟨-, f, hf⟩ := ofBytes_take_of_lt h hn
    · exact ⟨_, hf⟩
    · exact ⟨_, hf⟩
  refine ⟨fault, hfault, ?_⟩
  rw [Receiver.handle_of_post hpath hmethod, Receiver.receive_printed hlength,
    Receiver.deliver_printed_writable, hbody, hfault]

end

/-- A delivery that is cut short is never misread.  Its payload is the same if the cut leaves the
object whole, blanks behind it or not.  A cut inside the object leaves a fault, which is that of the
character that is cut, if one is, and otherwise one of JSON; so a POST that declares less than the
object prints the fault and the bytes that are left, which is what is printed of no payload. -/
theorem ofBytes_take {b : List UInt8} {p : Payload} (h : ofBytes b = .ok p) (n : Nat) :
    (trimmedLength b ≤ n → ofBytes (b.take n) = .ok p) ∧
    (n < trimmedLength b →
      (∀ i, CutsCharAt b n i → ofBytes (b.take n) = .error (.utf8 ⟨i, none⟩)) ∧
      ((∀ i, ¬ CutsCharAt b n i) → ∃ f, ofBytes (b.take n) = .error (.json f)) ∧
      ∀ (receivedAt : String) (r : Request), r.target.hasPath = true → r.method = "POST" →
        declaredLength r.headers = .ok n → r.body = b →
        ∃ fault, ofBytes (b.take n) = .error fault ∧
          (Receiver.handle .writable receivedAt r).printed =
            "\n" ++ Report.separator ++ "\n" ++ "✅ Webhook notification received at " ++
              receivedAt ++ "\n" ++ Report.separator ++ "\n" ++
              ("Parse error: " ++ fault.message ++ "\n" ++
                "Raw data: " ++ Utf8.lossy (b.take n) ++ "\n") ++
              "\n" ++ Report.separator ++ "\n" ++ "\n" ∧
          (∀ i, CutsCharAt b n i → fault.message =
            "body is not valid UTF-8: incomplete utf-8 byte sequence from index " ++
              toString i) ∧
          ((∀ i, ¬ CutsCharAt b n i) → ∃ s, fault.message = "invalid JSON: " ++ s) ∧
          ∀ payload raw, (Receiver.handle .writable receivedAt r).printed ≠
            Report.text ⟨.ok payload, raw, receivedAt⟩) := by
  refine ⟨ofBytes_take_of_le h, fun hn => ?_⟩
  have hutf8 (i : Nat) (hi : CutsCharAt b n i) :
      ofBytes (b.take n) = .error (.utf8 ⟨i, none⟩) :=
    ofBytes_of_fault (Utf8.fault?_take_of_cut hi)
  have hjson (hcut : ∀ i, ¬ CutsCharAt b n i) : ∃ f, ofBytes (b.take n) = .error (.json f) := by
    obtain ⟨i, hi, -⟩ | ⟨-, hfault⟩ := ofBytes_take_of_lt h hn
    · exact absurd hi (hcut i)
    · exact hfault
  refine ⟨hutf8, hjson, ?_⟩
  intro receivedAt r hpath hmethod hlength hbody
  obtain ⟨fault, hfault, hprinted⟩ :=
    exists_fault_printed_of_lt h hn hpath hmethod hlength hbody receivedAt
  refine ⟨fault, hfault, hprinted, ?_, ?_, ?_⟩
  · intro i hi
    obtain rfl := Except.error.inj (hfault.symm.trans (hutf8 i hi))
    rfl
  · intro hcut
    obtain ⟨f, hf⟩ := hjson hcut
    obtain rfl := Except.error.inj (hfault.symm.trans hf)
    exact ⟨f.message, rfl⟩
  · intro payload raw
    rw [hprinted]
    exact Report.text_error_ne_text_ok fault payload (b.take n) raw receivedAt

/-- A body of eleven bytes, of which the sender declares seven: one of the two of the `é`. -/
def halfLetter : Request :=
  ⟨"POST", ⟨"", "/", ""⟩, [⟨"Content-Length", Utf8.bytes "7"⟩],
    Utf8.bytes "\x7b\"a\":\"é\"\x7d\n"⟩

theorem ofBytes_take_halfLetter :
    ofBytes halfLetter.body = .ok (.single ⟨[("a", .string "é")]⟩) ∧
    ofBytes (halfLetter.body.take 10) = .ok (.single ⟨[("a", .string "é")]⟩) ∧
    ofBytes (halfLetter.body.take 7) = .error (.utf8 ⟨6, none⟩) ∧
    (Receiver.handle .writable "12:00:00" halfLetter).printed =
      "\n" ++ Report.separator ++ "\n" ++ "✅ Webhook notification received at " ++ "12:00:00" ++
        "\n" ++ Report.separator ++ "\n" ++
        ("Parse error: " ++
          "body is not valid UTF-8: incomplete utf-8 byte sequence from index 6" ++ "\n" ++
          "Raw data: " ++ "\x7b\"a\":\"\uFFFD" ++ "\n") ++
        "\n" ++ Report.separator ++ "\n" ++ "\n" ∧
    ∀ payload raw, (Receiver.handle .writable "12:00:00" halfLetter).printed ≠
      Report.text ⟨.ok payload, raw, "12:00:00"⟩ := by
  have hread : Json.read halfLetter.body = .ok (.object [("a", .string "é")]) := rfl
  have h : ofBytes halfLetter.body = .ok (.single ⟨[("a", .string "é")]⟩) :=
    ofBytes_of_object (Utf8.isText_bytes _) hread
  have hlt : 7 < trimmedLength halfLetter.body := by decide
  have hle : trimmedLength halfLetter.body ≤ 10 := by decide
  have hcut : CutsCharAt halfLetter.body 7 6 :=
    ⟨['\x7b', '"', 'a', '"', ':', '"'], 'é', ['"', '\x7d', '\n'], by decide, by decide, by decide,
      by decide⟩
  have hdeclared : declaredLength halfLetter.headers = .ok 7 := by decide
  have hshown : Utf8.lossy (halfLetter.body.take 7) = "\x7b\"a\":\"\uFFFD" := by
    have hleft : halfLetter.body.take 7 =
        Utf8.encode ['\x7b', '"', 'a', '"', ':', '"'] ++ [0xC3] := by decide
    rw [hleft, Utf8.lossy_encode_append, Utf8.lossy_cons]
    rfl
  obtain ⟨hutf8, -, hpost⟩ := (ofBytes_take h 7).2 hlt
  obtain ⟨fault, -, hprinted, hmessage, -, hnever⟩ :=
    hpost "12:00:00" halfLetter (by decide) rfl hdeclared rfl
  rw [hmessage 6 hcut, hshown] at hprinted
  exact ⟨h, (ofBytes_take h 10).1 hle, hutf8 6 hcut, hprinted, hnever⟩

end Payload

end AlertConsole
