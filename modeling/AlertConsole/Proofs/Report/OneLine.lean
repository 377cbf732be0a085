import AlertConsole.Payload
import AlertConsole.Proofs.Json.CompactText
set_option autoImplicit false

/-!
# Texts on one line

What a report puts on a line has no newline in it, unless a string that a sender posted has one:
numbers and times are written with digits and a few marks, compact JSON escapes the newlines of
its strings, and the sentences about faults are made of fixed words and numbers.
-/

namespace AlertConsole

/-- Whether a text is on one line. -/
def OneLine (s : String) : Prop := '\n' ∉ s.toList

instance (s : String) : Decidable (OneLine s) := inferInstanceAs (Decidable ('\n' ∉ s.toList))

/-- Of the words of a sentence, this looks at the characters that they are written with. -/
theorem oneLine_ofList_iff {cs : List Char} : OneLine (String.ofList cs) ↔ '\n' ∉ cs := by
  rw [OneLine, String.toList_ofList]

@[simp] theorem oneLine_append_iff {s t : String} :
    OneLine (s ++ t) ↔ OneLine s ∧ OneLine t := by
  simp [OneLine]

/-- A newline is below U+0020. -/
theorem Printable.oneLine {s : String} (h : Printable s) : OneLine s := fun hmem =>
  absurd (h '\n' hmem) (by decide)

/-! ## Numbers, values and times -/

theorem oneLine_toString (n : Nat) : OneLine (toString n) := (printable_toString n).oneLine

theorem Json.Value.oneLine_text (v : Value) : OneLine v.text := v.printable_text.oneLine

namespace Calendar

theorem oneLine_padded (width n : Nat) : OneLine (padded width n) := by
  refine Printable.oneLine (printable_ofList_iff.mpr ?_)
  exact List.forall_mem_append.mpr ⟨fun _ => le_of_mem_zeros, fun _ => le_of_mem_toDigits⟩

theorem Instant.oneLine_clockText (t : Instant) : OneLine t.clockText := by
  have hmarks : OneLine "-" ∧ OneLine "+" ∧ OneLine " " ∧ OneLine ":" := by decide
  have hyear : OneLine (yearText t.date.year) := by
    unfold yearText
    split
    · exact oneLine_padded _ _
    · rw [oneLine_append_iff]
      refine ⟨?_, oneLine_padded _ _⟩
      split <;> decide
  simp [clockText, Date.text, timeText, oneLine_padded, hmarks, hyear]

end Calendar

/-! ## Faults -/

theorem Utf8.Fault.oneLine_message (f : Utf8.Fault) : OneLine f.message := by
  unfold message
  split
  · simp only [oneLine_append_iff, oneLine_toString]
    decide
  · simp only [oneLine_append_iff, oneLine_toString]
    decide

theorem Json.Fault.oneLine_message (f : Json.Fault) : OneLine f.message := by
  have hcause : OneLine f.cause.message := by
    cases f.cause <;> exact oneLine_ofList_iff.mpr (by decide)
  simp only [message, oneLine_append_iff, oneLine_toString, hcause]
  decide

theorem PayloadFault.oneLine_message (f : PayloadFault) : OneLine f.message := by
  cases f with
  | utf8 f => exact oneLine_append_iff.mpr ⟨by decide, f.oneLine_message⟩
  | json f => exact oneLine_append_iff.mpr ⟨by decide, f.oneLine_message⟩
  | notAnObject v =>
    have hkind : OneLine v.kindName := by
      unfold Json.Value.kindName
      split <;> decide
    exact oneLine_append_iff.mpr ⟨by decide, hkind⟩

end AlertConsole
