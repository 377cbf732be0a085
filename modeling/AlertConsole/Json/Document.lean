import AlertConsole.Json.Literal
import AlertConsole.Json.Quoted
import AlertConsole.Json.Value
set_option autoImplicit false

/-!
# Reading JSON texts

A text is one value with blanks around it.  Arrays and objects may be nested `maxDepth` deep.  The
readers of elements and members are given the reader of the values in them, so that each depth is
read with the readers of the depth below.
-/

namespace AlertConsole.Json

/-- Whether a byte is a blank, which may stand between any two tokens. -/
def isBlank (b : UInt8) : Bool :=
  b = Byte.space || b = Byte.newline || b = Byte.tab || b = Byte.carriageReturn

/-- The bytes from the first on that is no blank. -/
def skipBlanks (s : List UInt8) : List UInt8 := s.dropWhile isBlank

/-- Reads the rest of a word that stands for a value. -/
def word (v : Value) : (rest : List UInt8) → Step Value
  | [], s => .ok (v, s)
  | _ :: _, [] => .error ⟨.eofValue, []⟩
  | e :: es, b :: s => if b = e then word v es s else .error ⟨.expectedIdent, s⟩

/-- Reads a value that is no array and no object and that starts with `b`.  No more than `bound`
bytes follow. -/
def scalar (bound : Nat) (b : UInt8) (s : List UInt8) : Except Stop (Value × List UInt8) :=
  if b = Byte.lowerN then word .null [0x75, 0x6C, 0x6C] s
  else if b = Byte.lowerT then word (.bool true) [0x72, 0x75, 0x65] s
  else if b = Byte.lowerF then word (.bool false) [0x61, 0x6C, 0x73, 0x65] s
  else if b = Byte.quote then
    match quoted (bound + 1) "" s with
    | .error stop => .error stop
    | .ok (text, s) => .ok (.string text, s)
  else if b = Byte.minus then
    match number true s with
    | .error stop => .error stop
    | .ok (n, s) => .ok (.number n, s)
  else if Byte.isDigit b then
    match number false (b :: s) with
    | .error stop => .error stop
    | .ok (n, s) => .ok (.number n, s)
  else .error ⟨.expectedValue, s⟩

/-! ## Arrays -/

/-- Reads an element, those that follow it and the closing bracket, behind the elements already
`seen`, latest first.  An element has at least one byte, so `rounds` above the number of bytes is
enough of them. -/
def elements (element : Step Value) (rounds : Nat) (seen : List Value) (s : List UInt8) :
    Except Stop (List Value × List UInt8) :=
  match rounds with
  | 0 => .error ⟨.eofList, []⟩
  | rounds + 1 =>
    match element s with
    | .error stop => .error stop
    | .ok (v, s) =>
      match skipBlanks s with
      | [] => .error ⟨.eofList, []⟩
      | b :: s =>
        if b = Byte.closeBracket then
          .ok ((v :: seen).reverse, s)
        else if b = Byte.comma then
          match skipBlanks s with
          | [] => .error ⟨.eofValue, []⟩
          | b :: s =>
            if b = Byte.closeBracket then .error ⟨.trailingComma, s⟩
            else elements element rounds (v :: seen) (b :: s)
        else
          .error ⟨.expectedListCommaOrEnd, s⟩

/-- Reads an array behind its opening bracket. -/
def array (bound : Nat) (element : Step Value) : Step Value := fun s =>
  match skipBlanks s with
  | [] => .error ⟨.eofList, []⟩
  | b :: s =>
    if b = Byte.closeBracket then
      .ok (.array [], s)
    else
      match elements element (bound + 1) [] (b :: s) with
      | .error stop => .error stop
      | .ok (vs, s) => .ok (.array vs, s)

/-! ## Objects -/

/-- Reads a member behind the opening quote of its key. -/
def member (bound : Nat) (value : Step Value) : Step (String × Value) := fun s =>
  match quoted (bound + 1) "" s with
  | .error stop => .error stop
  | .ok (key, s) =>
    match skipBlanks s with
    | [] => .error ⟨.eofObject, []⟩
    | b :: s =>
      if b = Byte.colon then
        match value s with
        | .error stop => .error stop
        | .ok (v, s) => .ok ((key, v), s)
      else
        .error ⟨.expectedColon, s⟩

/-- Reads a member, those that follow it and the closing brace, behind the members already `seen`,
latest first.  It starts behind the opening quote of the first key. -/
def members (member : Step (String × Value)) (rounds : Nat) (seen : List (String × Value))
    (s : List UInt8) : Except Stop (List (String × Value) × List UInt8) :=
  match rounds with
  | 0 => .error ⟨.eofObject, []⟩
  | rounds + 1 =>
    match member s with
    | .error stop => .error stop
    | .ok (m, s) =>
      match skipBlanks s with
      | [] => .error ⟨.eofObject, []⟩
      | b :: s =>
        if b = Byte.closeBrace then
          .ok ((m :: seen).reverse, s)
        else if b = Byte.comma then
          match skipBlanks s with
          | [] => .error ⟨.eofValue, []⟩
          | b :: s =>
            if b = Byte.quote then members member rounds (m :: seen) s
            else if b = Byte.closeBrace then .error ⟨.trailingComma, s⟩
            else .error ⟨.keyMustBeString, s⟩
        else
          .error ⟨.expectedObjectCommaOrEnd, s⟩

/-- Reads an object behind its opening brace. -/
def object (bound : Nat) (value : Step Value) : Step Value := fun s =>
  match skipBlanks s with
  | [] => .error ⟨.eofObject, []⟩
  | b :: s =>
    if b = Byte.closeBrace then
      .ok (.object [], s)
    else if b = Byte.quote then
      match members (member bound value) (bound + 1) [] s with
      | .error stop => .error stop
      | .ok (ms, s) => .ok (.object (Members.ofList ms), s)
    else
      .error ⟨.keyMustBeString, s⟩

/-! ## Values and texts -/

/-- Reads a value with blanks before it, in which arrays and objects are nested `depth` deep at
most. -/
def value (bound : Nat) : (depth : Nat) → Step Value
  | 0, s =>
    match skipBlanks s with
    | [] => .error ⟨.eofValue, []⟩
    | b :: s =>
      if b = Byte.openBracket ∨ b = Byte.openBrace then .error ⟨.recursionLimit, s⟩
      else scalar bound b s
  | depth + 1, s =>
    match skipBlanks s with
    | [] => .error ⟨.eofValue, []⟩
    | b :: s =>
      if b = Byte.openBracket then array bound (value bound depth) s
      else if b = Byte.openBrace then object bound (value bound depth) s
      else scalar bound b s

/-- How deep arrays and objects may be nested. -/
def maxDepth : Nat := 127

/-- The value of a text. -/
def read (text : List UInt8) : Except Fault Value :=
  match value text.length maxDepth text with
  | .error stop => .error (stop.fault text)
  | .ok (v, s) =>
    match skipBlanks s with
    | [] => .ok v
    | _ :: s => .error (Stop.fault text ⟨.trailingCharacters, s⟩)

end AlertConsole.Json
