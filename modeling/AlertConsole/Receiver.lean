import AlertConsole.Log
import AlertConsole.Report
import AlertConsole.Request
set_option autoImplicit false

/-!
# Receiving deliveries

Every POST that declares its length is a delivery: it is reported on the console and acknowledged,
whatever it holds and whether or not the console could be written.  Only the bytes that the sender
declared count.
-/

namespace AlertConsole

/-! ## The declared length -/

namespace DeclaredLength

/-- Whether a byte may stand in a header value that is read as text. -/
def isTextByte (b : UInt8) : Bool := b = Byte.tab || (Byte.space ≤ b && b ≤ 0x7E)

/-- Whether a byte is a blank that may stand around a length. -/
def isPadding (b : UInt8) : Bool := b = Byte.tab || b = Byte.space

/-- The bytes without the blanks around them. -/
def trim (s : List UInt8) : List UInt8 :=
  ((s.dropWhile isPadding).reverse.dropWhile isPadding).reverse

/-- The bytes without one plus in front. -/
def withoutPlus : List UInt8 → List UInt8
  | [] => []
  | b :: s => if b = Byte.plus then s else b :: s

/-- The number that decimal digits write, behind those already read as `n`, while it stays below
`2 ^ 64`. -/
def digits? (n : Nat) : List UInt8 → Option Nat
  | [] => some n
  | b :: s =>
    if Byte.isDigit b then
      let m := n * 10 + Byte.digit b
      if m < 0x10000000000000000 then digits? m s else none
    else none

/-- The length that a header value declares: one decimal digit or more behind an optional plus,
with blanks around them, and below `2 ^ 64`. -/
def ofValue? (value : List UInt8) : Option Nat :=
  if value.all isTextByte then
    match withoutPlus (trim value) with
    | [] => none
    | b :: s => digits? 0 (b :: s)
  else none

end DeclaredLength

/-- The length that a request declares in the first header for it, or the status that refuses the
request. -/
def declaredLength (headers : List Header) : Except Status Nat :=
  match firstHeader? "content-length" headers with
  | none => .error .lengthRequired
  | some value =>
    match DeclaredLength.ofValue? value with
    | none => .error .badRequest
    | some n => .ok n

/-! ## Responses -/

namespace Response

/-- What every delivery is answered with. -/
def acknowledgment : String := "\x7b\"status\": \"received\"\x7d"

/-- The response to a delivery. -/
def acknowledge : Response :=
  ⟨.ok, [("content-length", toString acknowledgment.utf8ByteSize),
    ("content-type", "application/json")], acknowledgment⟩

/-- A response without a body. -/
def refuse (status : Status) : Response := ⟨status, [("content-length", "0")], ""⟩

/-- The response to a method that is not received. -/
def refuseMethod : Response :=
  ⟨.methodNotAllowed, [("allow", "POST"), ("content-length", "0")], ""⟩

end Response

/-! ## Handling -/

/-- Whether what is printed reaches the console. -/
inductive Console where
  | writable
  | full
  deriving DecidableEq, Repr, Inhabited

/-- Why writing to a full console fails. -/
def Console.fullMessage : String := "No space left on device (os error 28)"

/-- All that comes of a request: the response, what was printed, and the log records. -/
structure Reply where
  response : Response
  printed : String
  log : List LogRecord
  deriving DecidableEq, Repr, Inhabited

namespace Receiver

/-- The record of a request's arrival. -/
def arrival (r : Request) : LogRecord :=
  let agent := match firstHeader? "user-agent" r.headers with
    | some value => "Some(" ++ Text.quoteBytes value ++ ")"
    | none => "None"
  ⟨.debug, .receiver,
    s!"{r.method} {r.target.text} ({r.body.length} bytes, user agent {agent})"⟩

/-- The record of a refusal. -/
def rejected (status : Status) : LogRecord :=
  ⟨.debug, .receiver, "Webhook rejected: " ++ status.text⟩

/-- The record of an object that looked like a batch and is none. -/
def notABatch (m : Mismatch) : LogRecord :=
  ⟨.debug, .payload, "Not a batch payload, showing as a single alert: " ++ m.message⟩

/-- The record of a body that holds no alert. -/
def undecodable (f : PayloadFault) : LogRecord :=
  ⟨.debug, .receiver, "Failed to decode webhook body: " ++ f.message⟩

/-- The record of a report that could not be written. -/
def unwritten (reason : String) : LogRecord :=
  ⟨.warn, .receiver, "Failed to write webhook report: " ++ reason⟩

/-- The records of reading a body, made while it is read. -/
def readingLog : Except PayloadFault Reading → List LogRecord
  | .ok reading => reading.mismatch.toList.map notABatch
  | .error _ => []

/-- The records of a body that could not be read. -/
def faultLog : Except PayloadFault Reading → List LogRecord
  | .ok _ => []
  | .error fault => [undecodable fault]

/-- What comes of a delivery, behind the record of its arrival. -/
def deliver (console : Console) (receivedAt : String) (body : List UInt8) : Reply :=
  let reading := Reading.ofBytes body
  let report : Report := ⟨reading.map Reading.payload, body, receivedAt⟩
  let (printed, writeLog) := match console with
    | .writable => (report.text, [])
    | .full => ("", [unwritten Console.fullMessage])
  ⟨.acknowledge, printed, readingLog reading ++ faultLog reading ++ writeLog⟩

/-- What comes of a POST. -/
def receive (console : Console) (receivedAt : String) (r : Request) : Reply :=
  match declaredLength r.headers with
  | .error status => ⟨.refuse status, "", [arrival r, rejected status]⟩
  | .ok length =>
    let reply := deliver console receivedAt (r.body.take length)
    { reply with log := arrival r :: reply.log }

/-- What comes of a request. -/
def handle (console : Console) (receivedAt : String) (r : Request) : Reply :=
  if ¬ r.target.hasPath then ⟨.refuse .notFound, "", []⟩
  else if r.method = "POST" then receive console receivedAt r
  else ⟨.refuseMethod, "", []⟩

/-- What comes of some requests, one after the other, each with the console as it is then. -/
def session (receivedAt : String) (requests : List (Console × Request)) : List Reply :=
  requests.map fun p => handle p.1 receivedAt p.2

end Receiver

end AlertConsole
