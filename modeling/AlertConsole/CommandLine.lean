import AlertConsole.Listener
import AlertConsole.Text.Plain
import AlertConsole.Text.Similar
set_option autoImplicit false

/-!
# The command line

The program takes one argument at most, the port to listen on, and `-h` or `--help`.  Behind an
argument `--` all that follows is taken as it is.  Arguments are read from left to right, and the
port is looked at only when all of them are read or help is asked for.
-/

namespace AlertConsole.CommandLine

/-! ## The port -/

/-- Why a text is no port. -/
inductive PortFault where
  | empty
  | invalidDigit
  | tooLarge
  | tooSmall
  | outOfRange (n : Int)
  deriving DecidableEq, Repr

/-- What a reader is told about a fault. -/
def PortFault.message : PortFault → String
  | .empty => "cannot parse integer from empty string"
  | .invalidDigit => "invalid digit found in string"
  | .tooLarge => "number too large to fit in target type"
  | .tooSmall => "number too small to fit in target type"
  | .outOfRange n => s!"{n} is not in 0..=65535"

/-- The number that decimal digits write, behind those already read as `n`, while it stays up to
`limit`; `overflow` is the fault if it does not. -/
def digitsUpTo (limit : Nat) (overflow : PortFault) (n : Nat) : List Char → Except PortFault Nat
  | [] => .ok n
  | c :: s =>
    if c.isDigit then
      let m := n * 10 + (c.toNat - '0'.toNat)
      if m ≤ limit then digitsUpTo limit overflow m s else .error overflow
    else .error .invalidDigit

/-- The integer that a text writes: digits behind an optional sign, in the range of a signed word
of 64 bits. -/
def integerOf : List Char → Except PortFault Int
  | [] => .error .empty
  | [c] => if c.isDigit then .ok (c.toNat - '0'.toNat : Nat) else .error .invalidDigit
  | c :: s =>
    if c = '-' then (digitsUpTo 0x8000000000000000 .tooSmall 0 s).map fun n => -(n : Int)
    else if c = '+' then (digitsUpTo 0x7FFFFFFFFFFFFFFF .tooLarge 0 s).map fun n => (n : Int)
    else (digitsUpTo 0x7FFFFFFFFFFFFFFF .tooLarge 0 (c :: s)).map fun n => (n : Int)

/-- The port that a text writes. -/
def portOf (text : String) : Except PortFault UInt16 :=
  match integerOf text.toList with
  | .error fault => .error fault
  | .ok i => if 0 ≤ i ∧ i ≤ 65535 then .ok i.toNat.toUInt16 else .error (.outOfRange i)

/-! ## Refusals -/

/-- What is proposed in place of an option that is not known. -/
inductive Hint where
  /-- that another option was meant -/
  | helpOption
  /-- that it was meant as a port -/
  | plainValue
  deriving DecidableEq, Repr

/-- Why the arguments do not make the program listen. -/
inductive Refusal where
  /-- help was asked for -/
  | help
  /-- the argument is no port -/
  | badPort (value : String) (fault : PortFault)
  /-- help was asked for with a value -/
  | helpWithValue (value : String)
  /-- an option is not known; `portShown` tells whether the usage line names the port as given -/
  | unknownOption (option : String) (hint : Hint) (portShown : Bool)
  /-- there is an argument behind the port -/
  | secondPort (value : String)
  deriving DecidableEq, Repr

/-- The option for help. -/
def helpOption : String := "--help"

/-- The name of the port in usage lines. -/
def portName (given : Bool) : String := if given then "<PORT>" else "[PORT]"

/-- The last line of a refusal that is no help. -/
def pointer : String := "\nFor more information, try '--help'.\n"

/-- The line that shows how the program is used. -/
def usage (program : String) (arguments : List String) : String :=
  "Usage: " ++ " ".intercalate (Text.plain program :: arguments) ++ "\n"

/-- What the program prints when help is asked for. -/
def helpText (program : String) : String :=
  "Receive alert webhooks and print a readable summary of each one\n\n" ++
    usage program [portName false] ++
    "\nArguments:\n  [PORT]  Port to listen on [default: 8888]\n" ++
    "\nOptions:\n  -h, --help  Print help\n"

/-- The line about an argument that is not expected. -/
def unexpected (argument : String) : String :=
  s!"error: unexpected argument '{Text.plain argument}' found\n"

namespace Refusal

/-- What the program prints for a refusal. -/
def message (program : String) : Refusal → String
  | .help => helpText program
  | .badPort value fault =>
    s!"error: invalid value '{Text.plain value}' for '[PORT]': {fault.message}\n" ++ pointer
  | .helpWithValue value =>
    s!"error: unexpected value '{Text.plain value}' for '--help' found; " ++
      "no more were expected\n\n" ++
      usage program [helpOption, portName false] ++ pointer
  | .unknownOption option .helpOption portShown =>
    unexpected option ++
      "\n  tip: a similar argument exists: '--help'\n\n" ++
      usage program [helpOption, portName portShown] ++ pointer
  | .unknownOption option .plainValue portShown =>
    let shown := Text.plain option
    unexpected option ++
      s!"\n  tip: to pass '{shown}' as a value, use '-- {shown}'\n\n" ++
      usage program [portName portShown] ++ pointer
  | .secondPort value =>
    unexpected value ++ "\n" ++ usage program [portName false] ++ pointer

/-- The exit code of the program. -/
def exitCode : Refusal → Nat
  | .help => 0
  | _ => 2

/-- Whether it is printed as an error, and not as ordinary output. -/
def isError (r : Refusal) : Bool := r.exitCode != 0

end Refusal

/-! ## Arguments -/

/-- What an argument looks like. -/
inductive Argument where
  /-- `--` alone -/
  | separator
  /-- a word behind `--`, with a value if there is an equals sign -/
  | long (name : List Char) (value : Option (List Char))
  /-- letters behind `-`, of which the first counts -/
  | short (first : Char)
  /-- anything else -/
  | plain
  deriving DecidableEq, Repr

/-- The value behind an equals sign. -/
def valueOf? : List Char → Option (List Char)
  | '=' :: value => some value
  | _ => none

/-- What an argument looks like. -/
def Argument.of (text : String) : Argument :=
  match text.toList with
  | ['-', '-'] => .separator
  | '-' :: '-' :: s =>
    .long (s.takeWhile (· ≠ '=')) (valueOf? (s.dropWhile (· ≠ '=')))
  | '-' :: c :: _ => .short c
  | _ => .plain

/-- What was found so far: the port, and whether `--` was seen. -/
structure Progress where
  port : Option String
  literal : Bool
  deriving DecidableEq, Repr, Inhabited

namespace Progress

/-- The port that was found, or the default port. -/
def finish (p : Progress) : Except Refusal UInt16 :=
  match p.port with
  | none => .ok Listener.defaultPort
  | some value => (portOf value).mapError fun fault => .badPort value fault

/-- Help was asked for, which is given if the port found before is one. -/
def help (p : Progress) : Except Refusal Progress :=
  match p.finish with
  | .error refusal => .error refusal
  | .ok _ => .error .help

/-- Takes an argument as the port. -/
def takePort (p : Progress) (text : String) : Except Refusal Progress :=
  if p.port.isSome then .error (.secondPort text) else .ok { p with port := some text }

/-- Takes a word behind `--`. -/
def takeLong (p : Progress) (name : List Char) (value : Option (List Char)) :
    Except Refusal Progress :=
  let option := "--" ++ String.ofList name
  if option = helpOption then
    match value with
    | none => p.help
    | some v => .error (.helpWithValue (String.ofList v))
  else
    let hint := if Text.Similar.atLeast 7 name ['h', 'e', 'l', 'p'] then .helpOption
      else .plainValue
    .error (.unknownOption option hint p.port.isSome)

/-- Takes one argument. -/
def take (p : Progress) (text : String) : Except Refusal Progress :=
  if p.literal then p.takePort text
  else
    match Argument.of text with
    | .separator => .ok { p with literal := true }
    | .long name value => p.takeLong name value
    | .short c =>
      if c = 'h' then p.help
      else .error (.unknownOption ("-" ++ String.singleton c) .plainValue false)
    | .plain => p.takePort text

end Progress

/-- The port that the arguments behind the program's name give. -/
def port (arguments : List String) : Except Refusal UInt16 :=
  match arguments.foldlM Progress.take ⟨none, false⟩ with
  | .error refusal => .error refusal
  | .ok p => p.finish

/-! ## The program's name -/

/-- The name that the program goes by if it was not called by one. -/
def defaultProgram : String := "webhook-receiver"

/-- The last part of the path by which the program was called.  Empty parts and `.` do not count,
and `..` is no name. -/
def programName (path : String) : String :=
  let parts := (path.splitOn "/").filter fun part => part ≠ "" ∧ part ≠ "."
  match parts.getLast? with
  | none => defaultProgram
  | some part => if part = ".." then defaultProgram else part

/-- The port that a whole command line gives, or the refusal and what is printed for it. -/
def read : List String → Except (Refusal × String) UInt16
  | [] => .ok Listener.defaultPort
  | path :: arguments =>
    (port arguments).mapError fun refusal => (refusal, refusal.message (programName path))

end AlertConsole.CommandLine
