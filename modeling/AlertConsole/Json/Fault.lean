import AlertConsole.Byte
set_option autoImplicit false

/-!
# Why a text is no JSON, and where

A reader that stops hands over the cause and the bytes that it had not yet looked at.  The place
of the fault is the end of the bytes that it had looked at: lines are counted by newlines, columns
by bytes.
-/

namespace AlertConsole.Json

/-- Why a reader stopped. -/
inductive Cause where
  | eofList
  | eofObject
  | eofString
  | eofValue
  | expectedColon
  | expectedListCommaOrEnd
  | expectedObjectCommaOrEnd
  | expectedIdent
  | expectedValue
  | invalidEscape
  | invalidNumber
  | numberOutOfRange
  | controlCharacter
  | keyMustBeString
  | loneSurrogate
  | endOfHexEscape
  | trailingComma
  | trailingCharacters
  | recursionLimit
  deriving DecidableEq, Repr, Inhabited

/-- What a reader is told about a cause. -/
def Cause.message : Cause → String
  | .eofList => "EOF while parsing a list"
  | .eofObject => "EOF while parsing an object"
  | .eofString => "EOF while parsing a string"
  | .eofValue => "EOF while parsing a value"
  | .expectedColon => "expected `:`"
  | .expectedListCommaOrEnd => "expected `,` or `]`"
  | .expectedObjectCommaOrEnd => "expected `,` or `\x7d`"
  | .expectedIdent => "expected ident"
  | .expectedValue => "expected value"
  | .invalidEscape => "invalid escape"
  | .invalidNumber => "invalid number"
  | .numberOutOfRange => "number out of range"
  | .controlCharacter => "control character (\\u0000-\\u001F) found while parsing a string"
  | .keyMustBeString => "key must be a string"
  | .loneSurrogate => "lone leading surrogate in hex escape"
  | .endOfHexEscape => "unexpected end of hex escape"
  | .trailingComma => "trailing comma"
  | .trailingCharacters => "trailing characters"
  | .recursionLimit => "recursion limit exceeded"

/-- Whether the cause is that the text ends too early. -/
def Cause.isEof : Cause → Bool
  | .eofList | .eofObject | .eofString | .eofValue => true
  | _ => false

/-- How a reader stops: the cause, and the bytes that it had not looked at. -/
structure Stop where
  cause : Cause
  unread : List UInt8
  deriving DecidableEq, Repr, Inhabited

/-- A reader of one kind of thing: what it reads, and the bytes behind that. -/
abbrev Step (α : Type) : Type := List UInt8 → Except Stop (α × List UInt8)

/-- A place in a text: the line, from one on, and the number of bytes on that line before it. -/
structure Position where
  line : Nat
  column : Nat
  deriving DecidableEq, Repr, Inhabited

/-- One byte further on. -/
def Position.next (p : Position) (b : UInt8) : Position :=
  if b = Byte.newline then ⟨p.line + 1, 0⟩ else ⟨p.line, p.column + 1⟩

/-- The place behind some bytes from the start of a text. -/
def Position.after (consumed : List UInt8) : Position := consumed.foldl Position.next ⟨1, 0⟩

/-- A fault of a text: its cause and its place. -/
structure Fault where
  cause : Cause
  position : Position
  deriving DecidableEq, Repr, Inhabited

/-- The fault that a stop amounts to in a text. -/
def Stop.fault (text : List UInt8) (stop : Stop) : Fault :=
  ⟨stop.cause, Position.after (text.take (text.length - stop.unread.length))⟩

/-- What a reader is told about a fault. -/
def Fault.message (f : Fault) : String :=
  f.cause.message ++ s!" at line {f.position.line} column {f.position.column}"

end AlertConsole.Json
