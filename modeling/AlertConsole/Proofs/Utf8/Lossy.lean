import AlertConsole.Proofs.Utf8.Faults
set_option autoImplicit false

/-!
# The text shown for a byte string

`lossy` and `fault?` walk over the fronts of a byte string apart from each other, and break it at
the same places: up to the first fault `lossy` shows the text that stands there, then one
replacement character for what breaks, and then it goes on behind that (`lossy_of_fault`).  So a
text is shown as it is, and nothing else is (`bytes_lossy_eq_iff`).
-/

namespace AlertConsole.Utf8

theorem appendLossy_eq (shown : String) (s : List UInt8) :
    appendLossy shown s = shown ++ lossy s := by
  rw [lossy, ← appendLossy_append, String.append_empty]

theorem lossy_nil : lossy [] = "" := by rw [lossy, appendLossy]

/-- One step, by what stands at the front. -/
theorem lossy_cons (b : UInt8) (s : List UInt8) :
    lossy (b :: s) = match Front.of b s with
      | .char c r => String.singleton c ++ lossy r
      | .broken _ r => String.singleton replacement ++ lossy r
      | .cut => String.singleton replacement := by
  rw [lossy, appendLossy_cons]
  cases Front.of b s with
  | char c r => exact appendLossy_eq _ r
  | broken n r => exact appendLossy_eq _ r
  | cut => rfl

/-- Characters are shown as they are, whatever follows them. -/
theorem lossy_encode_append (cs : List Char) (s : List UInt8) :
    lossy (encode cs ++ s) = String.ofList cs ++ lossy s := by
  induction cs with
  | nil => rw [encode_nil, List.nil_append, String.ofList_nil, String.empty_append]
  | cons c cs ih =>
    obtain ⟨b, t, hc, hof⟩ := Front.of_encodeChar c (encode cs ++ s)
    rw [encode_cons, hc, List.append_assoc, List.cons_append, lossy_cons, hof]
    dsimp only
    rw [ih, ← String.append_assoc, String.ofList_cons]

/-- A text is shown as it is. -/
theorem lossy_bytes (t : String) : lossy (bytes t) = t := by
  have h := lossy_encode_append t.toList []
  rwa [List.append_nil, String.ofList_toList, lossy_nil, String.append_empty] at h

/-- What is shown has the bytes that it is shown for exactly if these are a text. -/
theorem bytes_lossy_eq_iff {s : List UInt8} : bytes (lossy s) = s ↔ IsText s := by
  constructor
  · intro h
    rw [← h]
    exact isText_bytes (lossy s)
  · rintro ⟨cs, rfl⟩
    have h := lossy_bytes (String.ofList cs)
    rw [bytes, String.toList_ofList] at h
    rw [h, bytes, String.toList_ofList]

/-- The first fault is where the first replacement character is shown: the text before it is shown
as it is, and what stands behind the bytes that break is shown as it is by itself. -/
theorem lossy_of_fault {s : List UInt8} {f : Fault} (h : fault? 0 s = some f) :
    ∃ before, s.take f.index = bytes before ∧
      lossy s = before ++ String.singleton replacement ++
        match f.width with
        | some n => lossy (s.drop (f.index + n))
        | none => "" := by
  obtain ⟨cs, b, t, rfl, hindex, hfront⟩ := exists_of_fault? h
  rw [Nat.zero_add] at hindex
  refine ⟨String.ofList cs, ?_, ?_⟩
  · rw [hindex, List.take_left, bytes, String.toList_ofList]
  · rw [lossy_encode_append, lossy_cons, String.append_assoc]
    obtain ⟨n, r, hbroken, hwidth⟩ | ⟨hcut, hwidth⟩ := hfront
    · rw [hbroken, hwidth]
      dsimp only
      rw [hindex, List.drop_append, List.drop_of_length_le (by omega), List.nil_append,
        Nat.add_sub_cancel_left, (Front.bounds_of_broken hbroken).2.2]
    · rw [hcut, hwidth]
      dsimp only
      rw [String.append_empty]

end AlertConsole.Utf8
