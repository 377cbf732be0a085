import AlertConsole.Proofs.Payload.Language
import AlertConsole.Proofs.Receiver.Considered
import AlertConsole.Proofs.Utf8.Lossy
set_option autoImplicit false

/-!
# What is printed of bytes that hold no payload

A delivery that holds no payload is printed as its fault and, below it, the bytes themselves as far
as they can be shown.  `handle_printed_of_fault` says that the two lines agree: what is shown of the
bytes is all of them, unless the fault says where they are no text, and then it breaks off there.
-/

namespace AlertConsole.Receiver

open Utf8 (IsText)

/-- A POST whose bytes hold no payload is printed as the fault and the text shown for its bytes.
With a fault of JSON, or a value that is no object, that text has just these bytes.  With a fault of
text it is the text in front of the fault, a replacement character, and what is shown for the bytes
behind what breaks, of which there are none if the fault is at the end.  So the text shown has the
bytes that it is shown for exactly if these are a text, and it is shown as itself. -/
theorem handle_printed_of_fault {r : Request} {bytes : List UInt8} {fault : PayloadFault}
    (h : Delivers r bytes) (hfault : Payload.ofBytes bytes = .error fault) (receivedAt : String) :
    (handle .writable receivedAt r).printed =
        "\n" ++ Report.separator ++ "\n" ++ "✅ Webhook notification received at " ++ receivedAt ++
          "\n" ++ Report.separator ++ "\n" ++
          ("Parse error: " ++ fault.message ++ "\n" ++ "Raw data: " ++ Utf8.lossy bytes ++ "\n") ++
          "\n" ++ Report.separator ++ "\n" ++ "\n" ∧
      (match fault with
        | .utf8 f =>
          ∃ before, bytes.take f.index = Utf8.bytes before ∧
            Utf8.lossy bytes = before ++ "\uFFFD" ++
              match f.width with
              | some n => Utf8.lossy (bytes.drop (f.index + n))
              | none => ""
        | _ => Utf8.bytes (Utf8.lossy bytes) = bytes) ∧
      (∀ s, Utf8.bytes (Utf8.lossy s) = s ↔ IsText s) ∧
      (∀ s, Utf8.lossy (Utf8.bytes (Utf8.lossy s)) = Utf8.lossy s) := by
  refine ⟨?_, ?_, fun _ => Utf8.bytes_lossy_eq_iff, fun s => Utf8.lossy_bytes (Utf8.lossy s)⟩
  · rw [handle_of_delivers h, deliver_printed_writable, hfault]
    rfl
  · cases fault with
    | utf8 f => exact Utf8.lossy_of_fault (Payload.ofBytes_eq_utf8_iff.mp hfault)
    | json f =>
      exact Utf8.bytes_lossy_eq_iff.mpr (Payload.isText_of_fault hfault (by simp))
    | notAnObject v =>
      exact Utf8.bytes_lossy_eq_iff.mpr (Payload.isText_of_fault hfault (by simp))

/-- A POST of five bytes: a brace, a byte that begins no character, a letter, and a character that
the declared length cuts. -/
def twiceBroken : Request :=
  ⟨"POST", ⟨"", "/", ""⟩, [⟨"Content-Length", Utf8.bytes "5"⟩],
    [0x7B, 0xFF, 0x61, 0xE2, 0x82, 0xAC]⟩

theorem handle_printed_of_fault_twiceBroken :
    Delivers twiceBroken [0x7B, 0xFF, 0x61, 0xE2, 0x82] ∧
    Payload.ofBytes [0x7B, 0xFF, 0x61, 0xE2, 0x82] = .error (.utf8 ⟨1, some 1⟩) ∧
    (∃ before, [0x7B] = Utf8.bytes before ∧
      Utf8.lossy [0x7B, 0xFF, 0x61, 0xE2, 0x82] =
        before ++ "\uFFFD" ++ Utf8.lossy [0x61, 0xE2, 0x82]) ∧
    (handle .writable "12:00:00" twiceBroken).printed =
      "\n" ++ Report.separator ++ "\n" ++ "✅ Webhook notification received at " ++ "12:00:00" ++
        "\n" ++ Report.separator ++ "\n" ++
        ("Parse error: " ++ (PayloadFault.utf8 ⟨1, some 1⟩).message ++ "\n" ++ "Raw data: " ++
          Utf8.lossy [0x7B, 0xFF, 0x61, 0xE2, 0x82] ++ "\n") ++
        "\n" ++ Report.separator ++ "\n" ++ "\n" := by
  have hdelivers : Delivers twiceBroken [0x7B, 0xFF, 0x61, 0xE2, 0x82] :=
    @delivers_of_declaredLength twiceBroken 5 (by decide) rfl rfl
  have hfault : Payload.ofBytes [0x7B, 0xFF, 0x61, 0xE2, 0x82] = .error (.utf8 ⟨1, some 1⟩) :=
    Payload.ofBytes_of_fault ((Utf8.fault?_cons 0 0x7B _).trans (Utf8.fault?_cons 1 0xFF _))
  obtain ⟨hprinted, hshown, -, -⟩ := handle_printed_of_fault hdelivers hfault "12:00:00"
  exact ⟨hdelivers, hfault, hshown, hprinted⟩

end AlertConsole.Receiver
