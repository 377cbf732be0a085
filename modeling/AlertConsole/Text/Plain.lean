import AlertConsole.Utf8
set_option autoImplicit false

/-!
# Text without control sequences

A message that repeats what was typed leaves out what would steer a terminal: control characters
other than blanks, and whole control sequences from the escape character to their last character.
-/

namespace AlertConsole.Text

/-- Where in a control sequence a character stands. -/
inductive Control where
  /-- in none -/
  | ground
  /-- behind the escape character -/
  | escape
  /-- behind the escape character and a character that does not yet end the sequence -/
  | escapeMore
  /-- in a sequence of parameters, which a letter ends -/
  | parameters
  /-- in a command for the operating system, which a bell ends -/
  | command
  /-- at the start of the head of a string for a device -/
  | deviceHead
  /-- in the parameters in the head of a string for a device -/
  | deviceParameters
  /-- behind the parameters in the head of a string for a device -/
  | deviceMore
  /-- in a string for a device, which the byte 9C ends -/
  | device
  deriving DecidableEq, Repr, Inhabited

namespace Control

/-- Whether a character is an ASCII blank. -/
def isBlank (c : Char) : Bool := c = ' ' || c = '\t' || c = '\n' || c = '\x0c' || c = '\r'

/-- Whether a character is a control character or the delete character. -/
def isControl (c : Char) : Bool := c < ' ' || c = '\x7f'

/-- Whether the byte 9C, which ends a string for a device, is among the bytes of a character. -/
def hasTerminator (c : Char) : Bool := (Utf8.bytes c.toString).contains 0x9C

/-- Where the character behind `c` stands, and whether `c` is kept. -/
def next (state : Control) (c : Char) : Control × Bool :=
  if c = '\x1b' then (.escape, false)
  else if c = '\x18' || c = '\x1a' then (.ground, false)
  else
    match state with
    | .ground => (.ground, isBlank c || !isControl c)
    | .command => (if c = '\x07' then .ground else .command, false)
    | .device => (if hasTerminator c then .ground else .device, false)
    | .deviceHead =>
      if isControl c || '~' < c then (.deviceHead, false)
      else if c < '0' then (.deviceMore, false)
      else if c < '@' then (.deviceParameters, false)
      else (.device, false)
    | .deviceParameters =>
      if isControl c || '~' < c then (.deviceParameters, false)
      else if c < '0' then (.deviceMore, false)
      else if c < '<' then (.deviceParameters, false)
      else (.device, false)
    | .deviceMore =>
      if isControl c || '~' < c || c < '0' then (.deviceMore, false) else (.device, false)
    | .escape =>
      if isControl c then if isBlank c then (.ground, true) else (.escape, false)
      else if c < '0' then (.escapeMore, false)
      else if c = '[' then (.parameters, false)
      else if c = ']' then (.command, false)
      else if c = 'P' then (.deviceHead, false)
      else if c = 'X' || c = '^' || c = '_' then (.device, false)
      else if c ≤ '~' then (.ground, false)
      else (.escape, false)
    | .escapeMore =>
      if isControl c then if isBlank c then (.ground, true) else (.escapeMore, false)
      else if c < '0' || '~' < c then (.escapeMore, false)
      else (.ground, false)
    | .parameters =>
      if isControl c then if isBlank c then (.ground, true) else (.parameters, false)
      else if c < '@' || '~' < c then (.parameters, false)
      else (.ground, false)

/-- The characters that are kept. -/
def kept (state : Control) : List Char → List Char
  | [] => []
  | c :: s =>
    let (state, keep) := state.next c
    if keep then c :: kept state s else kept state s

end Control

/-- A text without control characters and control sequences. -/
def plain (s : String) : String := String.ofList (Control.ground.kept s.toList)

end AlertConsole.Text
