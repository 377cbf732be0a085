import AlertConsole.Proofs.Payload.Language
import AlertConsole.Proofs.Utf8.Layouts
set_option autoImplicit false

/-!
# What is said of a body that is no text

The fault of a body that is no text in UTF-8 says where it breaks and how, and
`ofBytes_tells_textFault` takes it at its word: what the sentence says is true of the bytes,
whatever they are.
-/

namespace AlertConsole

open Utf8 (IsText LongestPrefix Completable BrokenWidth IllFormed)

/-! ## The sentences -/

namespace Utf8.Fault

theorem message_of_none {f : Fault} (h : f.width = none) :
    f.message = "incomplete utf-8 byte sequence from index " ++ toString f.index := by
  rw [message, h]
  rfl

theorem message_of_some {f : Fault} {n : Nat} (h : f.width = some n) :
    f.message =
      "invalid utf-8 sequence of " ++ toString n ++ " bytes from index " ++ toString f.index := by
  rw [message, h]
  rfl

/-- The two sentences differ, whatever numbers are in them. -/
theorem width_eq_none_of_message {f : Fault}
    (h : f.message = "incomplete utf-8 byte sequence from index " ++ toString f.index) :
    f.width = none := by
  cases hwidth : f.width with
  | none => rfl
  | some n =>
    rw [message_of_some hwidth] at h
    have hthird := congrArg (fun s => s.toList[2]?) h
    simp only [String.append_assoc, String.toList_append] at hthird
    rw [List.getElem?_append_left (by decide), List.getElem?_append_left (by decide)] at hthird
    exact absurd hthird (by decide)

end Utf8.Fault

/-! ## What they say -/

namespace Payload

/-- A body that is no text has a fault, and its sentence is true.  The index in it is the length of
the longest text that the body begins with.  It calls what stands there incomplete exactly if
continuation bytes behind the body can make a text of it; otherwise it calls it invalid, and gives
the number of bytes there that begin a character, which is one to three, or one if none do.
Overlong forms, surrogates and numbers above `10FFFF` make a body such a one wherever they stand in
it. -/
theorem ofBytes_tells_textFault (body : List UInt8) :
    (¬ IsText body → ∃ f, ofBytes body = .error (.utf8 f) ∧
      (PayloadFault.utf8 f).message = "body is not valid UTF-8: " ++ f.message ∧
      LongestPrefix IsText body f.index ∧
      (f.message = "incomplete utf-8 byte sequence from index " ++ toString f.index ↔
        Completable body) ∧
      (¬ Completable body → ∃ n, 1 ≤ n ∧ n ≤ 3 ∧ BrokenWidth (body.drop f.index) n ∧
        f.message = "invalid utf-8 sequence of " ++ toString n ++ " bytes from index " ++
          toString f.index)) ∧
    (∀ before form after, body = before ++ (form ++ after) → IllFormed form →
      ∃ f, ofBytes body = .error (.utf8 f)) := by
  refine ⟨fun hbody => ?_, ?_⟩
  · obtain ⟨f, hf⟩ := Option.ne_none_iff_exists'.mp (mt (Utf8.fault?_eq_none_iff 0 body).mp hbody)
    have hnone := Utf8.width_eq_none_iff hf
    refine ⟨f, ofBytes_of_fault hf, rfl, Utf8.longestPrefix_of_fault hf, ?_, fun hcomplete => ?_⟩
    · rw [← hnone]
      exact ⟨Utf8.Fault.width_eq_none_of_message, Utf8.Fault.message_of_none⟩
    · obtain ⟨n, hn⟩ := Option.ne_none_iff_exists'.mp (mt hnone.mp hcomplete)
      obtain ⟨hwidth, hpos, hle⟩ := Utf8.brokenWidth_of_fault hf hn
      exact ⟨n, hpos, hle, hwidth, Utf8.Fault.message_of_some hn⟩
  · rintro before form after rfl hform
    exact exists_fault (hform.not_isText before after)

/-- The first two of the three bytes of a euro sign, with a brace behind them. -/
def brokenEuro : List UInt8 := [0x7B, 0xE2, 0x82, 0x7D]

/-- The same two bytes at the end. -/
def cutEuro : List UInt8 := [0x7B, 0xE2, 0x82]

theorem ofBytes_tells_textFault_euro :
    (¬ IsText brokenEuro ∧ LongestPrefix IsText brokenEuro 1 ∧ ¬ Completable brokenEuro ∧
      ∃ n, 1 ≤ n ∧ n ≤ 3 ∧ BrokenWidth (brokenEuro.drop 1) n) ∧
    (¬ IsText cutEuro ∧ LongestPrefix IsText cutEuro 1 ∧ Completable cutEuro) ∧
    (IllFormed [0xED, 0xA0, 0x80] ∧
      ∃ f, ofBytes [0x61, 0xED, 0xA0, 0x80, 0x7D] = .error (.utf8 f)) := by
  have hnot {body : List UInt8} {f : Utf8.Fault} (hf : Utf8.fault? 0 body = some f) :
      ¬ IsText body := fun h => by
    cases hf.symm.trans ((Utf8.fault?_eq_none_iff 0 body).mpr h)
  have hbroken : Utf8.fault? 0 brokenEuro = some ⟨1, some 2⟩ :=
    (Utf8.fault?_cons 0 0x7B _).trans (Utf8.fault?_cons 1 0xE2 _)
  have hcut : Utf8.fault? 0 cutEuro = some ⟨1, none⟩ :=
    (Utf8.fault?_cons 0 0x7B _).trans (Utf8.fault?_cons 1 0xE2 _)
  have hsurrogate : IllFormed [0xED, 0xA0, 0x80] :=
    .surrogate (@Utf8.LaidOut.three 0xD800 (by decide)) (by decide) (by decide)
  refine ⟨?_, ?_, hsurrogate, ?_⟩
  · obtain ⟨f, hf, -, hindex, hiff, hwidth⟩ :=
      (ofBytes_tells_textFault brokenEuro).1 (hnot hbroken)
    obtain rfl : ⟨1, some 2⟩ = f := by
      cases (ofBytes_of_fault hbroken).symm.trans hf
      rfl
    have hcomplete : ¬ Completable brokenEuro := fun h => absurd (hiff.mpr h) (by decide)
    obtain ⟨n, hpos, hle, hn, -⟩ := hwidth hcomplete
    exact ⟨hnot hbroken, hindex, hcomplete, n, hpos, hle, hn⟩
  · obtain ⟨f, hf, -, hindex, hiff, -⟩ := (ofBytes_tells_textFault cutEuro).1 (hnot hcut)
    obtain rfl : ⟨1, none⟩ = f := by
      cases (ofBytes_of_fault hcut).symm.trans hf
      rfl
    exact ⟨hnot hcut, hindex, hiff.mp (by decide)⟩
  · exact (ofBytes_tells_textFault _).2 [0x61] [0xED, 0xA0, 0x80] [0x7D] rfl hsurrogate

end Payload

end AlertConsole
