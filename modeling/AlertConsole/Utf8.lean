set_option autoImplicit false

/-!
# UTF-8 byte strings

A delivery arrives as bytes.  This module splits a byte string into the UTF-8 encodings of
characters, says where and how a byte string that is no text breaks, and gives the text that
stands in for it on a console.

All three readings share one step, `Front.of`: what stands at the front of a byte string is a
whole character, a sequence that its next byte breaks, or a sequence that the end cuts off.
-/

namespace AlertConsole.Utf8

/-! ## Encoding -/

/-- The bytes that encode some characters. -/
def encode (cs : List Char) : List UInt8 := cs.flatMap String.utf8EncodeChar

/-- The bytes that encode a text. -/
def bytes (s : String) : List UInt8 := encode s.toList

@[simp] theorem encode_nil : encode [] = [] := rfl

@[simp] theorem encode_cons (c : Char) (cs : List Char) :
    encode (c :: cs) = String.utf8EncodeChar c ++ encode cs := rfl

theorem encode_append (cs ds : List Char) : encode (cs ++ ds) = encode cs ++ encode ds := by
  simp [encode]

/-! ## The front of a byte string -/

/-- What stands at the front of a byte string that is not empty. -/
inductive Front where
  /-- a whole character, and the bytes after it -/
  | char (c : Char) (rest : List UInt8)
  /-- `width` bytes that begin a sequence which the next byte breaks, or one byte that begins
  none, and the bytes after them -/
  | broken (width : Nat) (rest : List UInt8)
  /-- the bytes end inside a sequence that is well formed so far -/
  | cut
  deriving DecidableEq, Repr

/-- The sequence that a lead byte opens: how many continuation bytes are due, the bits that the
lead byte itself gives, and the range of the first continuation byte.  The range is narrower than
`80..BF` where a wider one would admit an overlong form, a surrogate or a value above `10FFFF`. -/
structure Lead where
  due : Nat
  bits : Nat
  low : UInt8
  high : UInt8
  deriving DecidableEq, Repr

/-- The sequence that the byte opens, if it can open one of two bytes or more. -/
def Lead.of? (b : UInt8) : Option Lead :=
  if b < 0xC2 then none
  else if b < 0xE0 then some ⟨1, b.toNat - 0xC0, 0x80, 0xBF⟩
  else if b = 0xE0 then some ⟨2, 0x0, 0xA0, 0xBF⟩
  else if b = 0xED then some ⟨2, 0xD, 0x80, 0x9F⟩
  else if b < 0xF0 then some ⟨2, b.toNat - 0xE0, 0x80, 0xBF⟩
  else if b = 0xF0 then some ⟨3, 0x0, 0x90, 0xBF⟩
  else if b < 0xF4 then some ⟨3, b.toNat - 0xF0, 0x80, 0xBF⟩
  else if b = 0xF4 then some ⟨3, 0x4, 0x80, 0x8F⟩
  else none

/-- Reads the continuation bytes that are still due behind `width` bytes of a sequence. -/
def Front.follow (width bits : Nat) (low high : UInt8) : Nat → List UInt8 → Front
  | 0, s => .char (Char.ofNat bits) s
  | _ + 1, [] => .cut
  | due + 1, b :: s =>
    if low ≤ b ∧ b ≤ high then
      Front.follow (width + 1) (bits * 64 + (b.toNat - 0x80)) 0x80 0xBF due s
    else
      .broken width (b :: s)

/-- The front of the byte string that starts with `b` and goes on with `s`. -/
def Front.of (b : UInt8) (s : List UInt8) : Front :=
  if b < 0x80 then
    .char (Char.ofNat b.toNat) s
  else
    match Lead.of? b with
    | none => .broken 1 s
    | some lead => Front.follow 1 lead.bits lead.low lead.high lead.due s

/-- The bytes behind a front. -/
def Front.rest : Front → List UInt8
  | .char _ r => r
  | .broken _ r => r
  | .cut => []

theorem Front.length_rest_follow (width bits : Nat) (low high : UInt8) (due : Nat)
    (s : List UInt8) : (Front.follow width bits low high due s).rest.length ≤ s.length := by
  induction due generalizing width bits low high s with
  | zero => simp [Front.follow, Front.rest]
  | succ due ih =>
    cases s with
    | nil => simp [Front.follow, Front.rest]
    | cons b s =>
      simp only [Front.follow]
      split
      · exact Nat.le_trans (ih _ _ _ _ s) (by simp)
      · simp [Front.rest]

/-- A front takes at least the first byte. -/
theorem Front.length_rest_of (b : UInt8) (s : List UInt8) :
    (Front.of b s).rest.length ≤ s.length := by
  unfold Front.of
  split
  · simp [Front.rest]
  · split
    · simp [Front.rest]
    · exact Front.length_rest_follow _ _ _ _ _ _

theorem Front.length_of_char {b : UInt8} {s r : List UInt8} {c : Char}
    (h : Front.of b s = .char c r) : r.length ≤ s.length := by
  simpa [h, Front.rest] using Front.length_rest_of b s

theorem Front.length_of_broken {b : UInt8} {s r : List UInt8} {n : Nat}
    (h : Front.of b s = .broken n r) : r.length ≤ s.length := by
  simpa [h, Front.rest] using Front.length_rest_of b s

/-! ## Where a byte string is no text -/

/-- The first place at which a byte string is no text. -/
structure Fault where
  /-- the number of bytes before it, which are the encoding of a text -/
  index : Nat
  /-- the width of the sequence that breaks there, or nothing if the bytes end inside it -/
  width : Option Nat
  deriving DecidableEq, Repr

/-- What a reader is told about a fault. -/
def Fault.message (f : Fault) : String :=
  match f.width with
  | some n => s!"invalid utf-8 sequence of {n} bytes from index {f.index}"
  | none => s!"incomplete utf-8 byte sequence from index {f.index}"

/-- The first fault of `s`, which stands behind `index` bytes of text. -/
def fault? (index : Nat) (s : List UInt8) : Option Fault :=
  match s with
  | [] => none
  | b :: s =>
    match _h : Front.of b s with
    | .char c r => fault? (index + c.utf8Size) r
    | .broken n _ => some ⟨index, some n⟩
    | .cut => some ⟨index, none⟩
termination_by s.length
decreasing_by
  have := Front.length_of_char _h
  simp only [List.length_cons]
  omega

/-! ## The text shown for a byte string -/

/-- The character that stands in for what cannot be read. -/
def replacement : Char := '\uFFFD'

/-- Appends the text of `s` to `shown`, with one replacement character for each broken sequence
and for one that is cut off. -/
def appendLossy (shown : String) (s : List UInt8) : String :=
  match s with
  | [] => shown
  | b :: s =>
    match _h : Front.of b s with
    | .char c r => appendLossy (shown.push c) r
    | .broken _ r => appendLossy (shown.push replacement) r
    | .cut => shown.push replacement
termination_by s.length
decreasing_by
  · have := Front.length_of_char _h
    simp only [List.length_cons]
    omega
  · have := Front.length_of_broken _h
    simp only [List.length_cons]
    omega

/-- The text of a byte string, with replacement characters where it is none. -/
def lossy (s : List UInt8) : String := appendLossy "" s

/-- One step of it, by what stands at the front. -/
theorem appendLossy_cons (shown : String) (b : UInt8) (s : List UInt8) :
    appendLossy shown (b :: s) = match Front.of b s with
      | .char c r => appendLossy (shown.push c) r
      | .broken _ r => appendLossy (shown.push replacement) r
      | .cut => shown.push replacement := by
  rw [appendLossy]
  split <;> simp [*]

/-- What is appended does not depend on what was shown before. -/
theorem appendLossy_append (before shown : String) (s : List UInt8) :
    appendLossy (before ++ shown) s = before ++ appendLossy shown s := by
  have push (t : String) (c : Char) : (before ++ t).push c = before ++ t.push c := by
    simp [← String.toList_inj]
  fun_induction appendLossy shown s with
  | case1 shown => simp [appendLossy]
  | case2 shown b s c r h ih => simp [appendLossy_cons, h, push, ih]
  | case3 shown b s n r h ih => simp [appendLossy_cons, h, push, ih]
  | case4 shown b s h => simp [appendLossy_cons, h, push]

end AlertConsole.Utf8
