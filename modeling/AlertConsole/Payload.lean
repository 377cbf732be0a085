import AlertConsole.Alert
import AlertConsole.Json.Document
import AlertConsole.Text.Quoted
import AlertConsole.Utf8
set_option autoImplicit false

/-!
# What a delivery holds

The body of a delivery is UTF-8 text, the text is JSON, and the JSON is an object: then it holds an
alert or a batch of alerts.  It is a batch if it has `alerts`, an array of objects, has no
`alert_id`, and has no `count` but a natural number below `2 ^ 64` or null.  An object that has
`alerts` and no `alert_id`, but is no batch, is one alert, and the first member that does not fit
is worth a line in the log.
-/

namespace AlertConsole

open Json (Value Members)

/-! ## Batches -/

/-- Several alerts in one delivery. -/
structure Batch where
  alerts : List Alert
  /-- how many alerts the sender says there are -/
  declaredCount : Option Nat
  deriving Inhabited

/-- What a member of a batch is expected to be. -/
inductive Shape where
  | sequence
  | map
  | natural
  deriving DecidableEq, Repr

/-- What a reader is told about an expected shape. -/
def Shape.name : Shape → String
  | .sequence => "a sequence"
  | .map => "a map"
  | .natural => "u64"

/-- A value that is not of the shape expected in its place. -/
structure Mismatch where
  found : Value
  expected : Shape

/-- What a value is, as a log line has it. -/
def describe : Value → String
  | .null => "null"
  | .bool true => "boolean `true`"
  | .bool false => "boolean `false`"
  | .number (.integer i _) => "integer `" ++ Json.Number.intText i ++ "`"
  | .number (.double x) => "floating point `" ++ x.text ++ "`"
  | .string s => "string " ++ Text.quote s
  | .array _ => "sequence"
  | .object _ => "map"

/-- Whether a value is an integer, which makes it of the right type for a count. -/
def isInteger : Value → Bool
  | .number (.integer _ _) => true
  | _ => false

/-- What a log line says about a mismatch.  A negative count has the right type and the wrong
value. -/
def Mismatch.message (m : Mismatch) : String :=
  (if m.expected = .natural ∧ isInteger m.found then "invalid value: " else "invalid type: ") ++
    describe m.found ++ ", expected " ++ m.expected.name

/-- The members of an object. -/
def members? : Value → Option Members
  | .object ms => some ms
  | _ => none

namespace Mismatch

/-- What does not fit in the value of `alerts`: the value itself, or its first element that is no
object. -/
def inAlerts? : Value → Option Mismatch
  | .array items => (items.find? fun v => (members? v).isNone).map fun v => ⟨v, .map⟩
  | v => some ⟨v, .sequence⟩

/-- What does not fit in the value of `count`. -/
def inCount? : Value → Option Mismatch
  | .null => none
  | .number n => if n.toNat?.isSome then none else some ⟨.number n, .natural⟩
  | v => some ⟨v, .natural⟩

/-- What does not fit in one member of an object. -/
def inMember? (m : String × Value) : Option Mismatch :=
  if m.1 = "alerts" then inAlerts? m.2 else if m.1 = "count" then inCount? m.2 else none

/-- What does not fit in an object: the first of its members that has something. -/
def first? (ms : Members) : Option Mismatch := ms.findSome? inMember?

end Mismatch

namespace Batch

/-- The alerts of an array of objects. -/
def alertsOf : Option Value → List Alert
  | some (.array items) => items.filterMap fun v => (members? v).map Alert.mk
  | _ => []

/-- The number that a count declares. -/
def countOf : Option Value → Option Nat
  | some (.number n) => n.toNat?
  | _ => none

/-- The batch that an object holds if everything in it fits. -/
def ofMembers (ms : Members) : Batch :=
  ⟨alertsOf (ms.get? "alerts"), countOf (ms.get? "count")⟩

/-- Whether two batches hold equal alerts in the same order and declare the same count. -/
def same (a b : Batch) : Bool :=
  a.alerts.length == b.alerts.length &&
    (a.alerts.zip b.alerts).all (fun p => p.1.same p.2) &&
    a.declaredCount == b.declaredCount

end Batch

/-! ## Payloads -/

/-- What a delivery holds. -/
inductive Payload where
  | single (alert : Alert)
  | batch (batch : Batch)
  deriving Inhabited

namespace Payload

/-- The alerts, in order. -/
def alerts : Payload → List Alert
  | .single a => [a]
  | .batch b => b.alerts

/-- Whether two payloads are of one kind and equal. -/
def same : Payload → Payload → Bool
  | .single a, .single b => a.same b
  | .batch a, .batch b => a.same b
  | _, _ => false

end Payload

/-- Why a delivery holds no alert. -/
inductive PayloadFault where
  | utf8 (fault : Utf8.Fault)
  | json (fault : Json.Fault)
  | notAnObject (value : Value)

/-- What a reader is told about a fault. -/
def PayloadFault.message : PayloadFault → String
  | .utf8 f => "body is not valid UTF-8: " ++ f.message
  | .json f => "invalid JSON: " ++ f.message
  | .notAnObject v => "expected a JSON object, got " ++ v.kindName

/-- What was found in a delivery: its payload, and what kept it from being a batch, if it looked
like one. -/
structure Reading where
  payload : Payload
  mismatch : Option Mismatch

/-- What was found in an object. -/
def Reading.ofMembers (ms : Members) : Reading :=
  if ms.has "alerts" ∧ ¬ ms.has "alert_id" then
    match Mismatch.first? ms with
    | none => ⟨.batch (.ofMembers ms), none⟩
    | some m => ⟨.single ⟨ms⟩, some m⟩
  else
    ⟨.single ⟨ms⟩, none⟩

/-- What was found in the body of a delivery. -/
def Reading.ofBytes (body : List UInt8) : Except PayloadFault Reading :=
  match Utf8.fault? 0 body with
  | some f => .error (.utf8 f)
  | none =>
    match Json.read body with
    | .error f => .error (.json f)
    | .ok v =>
      match members? v with
      | none => .error (.notAnObject v)
      | some ms => .ok (.ofMembers ms)

/-- The payload of the body of a delivery. -/
def Payload.ofBytes (body : List UInt8) : Except PayloadFault Payload :=
  (Reading.ofBytes body).map Reading.payload

end AlertConsole
