import AlertConsole.Receiver
import AlertConsole.Run
import Std.Async.Signal
import Std.Http.Server
import Std.Time.Zoned
set_option autoImplicit false

/-!
# The program

The outer layer: it listens, hands what arrives to the library, writes what the library says, and
stops at an interrupt.
-/

namespace AlertConsole.Program

/-- The instant at which it is called. -/
def now : IO Calendar.Instant := do
  let t ← Std.Time.Timestamp.now
  return ⟨t.toMillisecondsSinceUnixEpoch.val⟩

/-- The rules of local time: those of the zone that the environment names, or else those that the
machine is set to, or else those of UTC. -/
def localRules : IO Std.Time.TimeZone.ZoneRules := do
  let machine := Std.Time.Database.defaultGetLocalZoneRules
  let named := match ← IO.getEnv "TZ" with
    | some zone => Std.Time.Database.defaultGetZoneRules (zone.dropPrefix ":").toString
    | none => machine
  named <|> machine <|> pure .UTC

/-- What a local clock shows when it is called. -/
def localClockText : IO String := do
  let t ← Std.Time.Timestamp.now
  let offset := ((← localRules).timezoneAt t).offset.second.val * 1000
  return Calendar.Instant.clockText ⟨t.toMillisecondsSinceUnixEpoch.val + offset⟩

/-- Writes the log records that a filter lets through. -/
def writeLog (filter : Log.Filter) (records : List LogRecord) : IO Unit := do
  for r in records.filter filter.admits do
    IO.eprintln (Run.stampedLine (← now) r)

/-- The request that arrived with a head and a body. -/
def requestOf (head : Std.Http.Request.Head) (body : ByteArray) : Request where
  method := toString head.method
  target := .ofText (toString head.uri)
  headers := head.headers.toList.map fun h => ⟨toString h.1, Utf8.bytes (toString h.2)⟩
  body := body.toList

/-- The status that a response is sent with. -/
def statusOf : Status → Std.Http.Status
  | .ok => .ok
  | .badRequest => .badRequest
  | .notFound => .notFound
  | .methodNotAllowed => .methodNotAllowed
  | .lengthRequired => .lengthRequired

/-- Why the machine refused something, in the words that the library has for it. -/
def reasonOf : IO.Error → String
  | .resourceBusy .. => Run.addressInUse
  | .resourceExhausted .. => Console.fullMessage
  | e => toString e

/-- Writes a text to the console at once. -/
def write (text : String) : IO Unit := do
  let console ← IO.getStdout
  console.putStr text
  console.flush

/-- How requests are read and answered: bodies of nearly any size, and no header that names the
program. -/
def serving : Std.Http.Config := { serverName := none, maxBodySize := 0x10000000000 }

/-- Handles one request: its report goes to the console in one piece. -/
def answer (filter : Log.Filter) (request : Std.Http.Request Std.Http.Body.Stream) :
    Std.Async.ContextAsync (Std.Http.Response Std.Http.Body.Any) := do
  let body : ByteArray ← request.body.readAll
  let reply := Receiver.handle .writable (← localClockText) (requestOf request.line body)
  writeLog filter reply.log
  match ← (write reply.printed).toBaseIO with
  | .ok () => pure ()
  | .error e => writeLog filter [Receiver.unwritten (reasonOf e)]
  let builder := reply.response.headers.foldl (fun b h => (b.header? h.1 h.2).getD b)
    (Std.Http.Response.withStatus (statusOf reply.response.status))
  let full ← builder.fromBytes reply.response.body.toUTF8
  return { full with body := .ofBody full.body }

/-- Listens until an interrupt. -/
def listen (port : UInt16) : IO UInt32 := do
  let wanted := Listener.onPort port
  let wantedRecords := (← IO.getEnv Run.filterVariable).getD Run.defaultFilter
  let (filter, warnings) := Log.Filter.ofText wantedRecords
  for warning in warnings do
    IO.eprintln warning
  let address : Std.Net.SocketAddress := .v4 ⟨.ofParts 0 0 0 0, port⟩
  let handler := Std.Http.Server.Handler.ofFn (answer filter)
  let interrupt ← Std.Async.Signal.Waiter.mk .sigint false
  let started ← (Std.Http.Server.serve address handler serving).block.toBaseIO
  match started with
  | .error e =>
    for line in Run.bindFailure wanted (reasonOf e) do
      IO.eprintln line
    return 1
  | .ok server =>
    write wanted.banner
    let bound := match server.localAddr with
      | some (.v4 a) => { wanted with port := a.port }
      | _ => wanted
    writeLog filter [Run.listening bound]
    let _ ← IO.wait (← interrupt.wait)
    writeLog filter (Run.interrupted :: Run.stopping)
    server.shutdownAndWait.block
    writeLog filter [Run.stopped]
    write (Listener.farewell ++ "\n")
    return 0

end AlertConsole.Program

/-- Runs the program. -/
def main (arguments : List String) : IO UInt32 := do
  match AlertConsole.CommandLine.read (AlertConsole.CommandLine.defaultProgram :: arguments) with
  | .error (refusal, message) =>
    if refusal.isError then IO.eprint message else IO.print message
    return refusal.exitCode.toUInt32
  | .ok port => AlertConsole.Program.listen port
