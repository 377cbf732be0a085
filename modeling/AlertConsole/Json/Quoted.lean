import AlertConsole.Json.Fault
import AlertConsole.Utf8
set_option autoImplicit false

/-!
# Reading quoted strings

A string is a run of characters up to a quote.  A character stands for itself, unless it is a quote,
a backslash or below U+0020; or it is written by an escape: one letter behind a backslash, four
hexadecimal digits for a code unit, or two such code units for a character above U+FFFF.

The functions here start behind the opening quote or behind a backslash.
-/

namespace AlertConsole.Json

/-- The character that one letter behind a backslash stands for. -/
def shortEscape? (b : UInt8) : Option Char :=
  if b = Byte.quote then some '"'
  else if b = Byte.backslash then some '\\'
  else if b = Byte.slash then some '/'
  else if b = Byte.lowerB then some '\x08'
  else if b = Byte.lowerF then some '\x0c'
  else if b = Byte.lowerN then some '\n'
  else if b = Byte.lowerR then some '\r'
  else if b = Byte.lowerT then some '\t'
  else none

/-- Reads the four digits of a code unit. -/
def codeUnit : Step Nat
  | a :: b :: c :: d :: s =>
    match Byte.hexDigit? a, Byte.hexDigit? b, Byte.hexDigit? c, Byte.hexDigit? d with
    | some w, some x, some y, some z => .ok (((w * 16 + x) * 16 + y) * 16 + z, s)
    | _, _, _, _ => .error ⟨.invalidEscape, s⟩
  | _ => .error ⟨.eofString, []⟩

/-- Whether a code unit is the first of a pair. -/
def isHighSurrogate (n : Nat) : Bool := 0xD800 ≤ n && n < 0xDC00

/-- Whether a code unit is the second of a pair. -/
def isLowSurrogate (n : Nat) : Bool := 0xDC00 ≤ n && n < 0xE000

/-- The character that a pair of code units stands for. -/
def pairChar (high low : Nat) : Char :=
  Char.ofNat (0x10000 + (high - 0xD800) * 0x400 + (low - 0xDC00))

/-- Reads one given byte of the escape that must follow the first unit of a pair. -/
def pairByte (expected : UInt8) : Step Unit
  | [] => .error ⟨.eofString, []⟩
  | b :: s => if b = expected then .ok ((), s) else .error ⟨.endOfHexEscape, s⟩

/-- Reads the second code unit of a pair, escape and all. -/
def lowSurrogate : Step Nat := fun s => do
  let ((), s) ← pairByte Byte.backslash s
  let ((), s) ← pairByte Byte.lowerU s
  let (low, s) ← codeUnit s
  if isLowSurrogate low then .ok (low, s) else .error ⟨.loneSurrogate, s⟩

/-- Reads what follows the `u` of an escape. -/
def unicodeEscape : Step Char := fun s => do
  let (unit, s) ← codeUnit s
  if isLowSurrogate unit then
    .error ⟨.loneSurrogate, s⟩
  else if isHighSurrogate unit then
    let (low, s) ← lowSurrogate s
    .ok (pairChar unit low, s)
  else
    .ok (Char.ofNat unit, s)

/-- Reads what follows a backslash. -/
def escaped : Step Char
  | [] => .error ⟨.eofString, []⟩
  | b :: s =>
    match shortEscape? b with
    | some c => .ok (c, s)
    | none => if b = Byte.lowerU then unicodeEscape s else .error ⟨.invalidEscape, s⟩

/-- Reads the characters up to the closing quote, and that, behind those already `seen`.  Each
round takes at least one byte, so `rounds` above the number of bytes is enough of them. -/
def quoted (rounds : Nat) (seen : String) (s : List UInt8) : Except Stop (String × List UInt8) :=
  match rounds, s with
  | 0, _ => .error ⟨.eofString, []⟩
  | _, [] => .error ⟨.eofString, []⟩
  | rounds + 1, b :: s =>
    if b = Byte.quote then
      .ok (seen, s)
    else if b = Byte.backslash then
      match escaped s with
      | .error stop => .error stop
      | .ok (c, s) => quoted rounds (seen.push c) s
    else if b < Byte.space then
      .error ⟨.controlCharacter, s⟩
    else
      match Utf8.Front.of b s with
      | .char c s => quoted rounds (seen.push c) s
      | .broken _ s => quoted rounds (seen.push Utf8.replacement) s
      | .cut => .error ⟨.eofString, []⟩

end AlertConsole.Json
