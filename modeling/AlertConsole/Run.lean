import AlertConsole.Calendar
import AlertConsole.CommandLine
import AlertConsole.Log.Filter
set_option autoImplicit false

/-!
# A run of the program

What a run shows from its start until it is interrupted, without the deliveries in between: nothing
but a refusal if the arguments are no good or the port cannot be had, and otherwise the banner, the
log and the farewell.
-/

namespace AlertConsole.Run

/-- What the program finds on the machine that it runs on. -/
structure Machine where
  /-- whether something else listens on a port already -/
  taken : UInt16 → Bool
  /-- the port that is handed out to a program that asks for port 0 -/
  free : UInt16
  /-- what the environment says on which log records to show -/
  filter : Option String

/-- What a run leaves behind. -/
structure Transcript where
  exitCode : Nat
  output : String
  errors : List String
  deriving DecidableEq, Repr, Inhabited

/-- The variable of the environment that names the log records to show. -/
def filterVariable : String := "RUST_LOG"

/-- The filter for log records if the environment names none. -/
def defaultFilter : String := "info"

/-- A record on a line, its level five characters wide, up to the bracket that opens it. -/
def tail (r : LogRecord) : String :=
  let level := r.level.name
  level ++ String.ofList (List.replicate (5 - level.length) ' ') ++ " " ++ r.source.name ++ "] " ++
    r.text

/-- A record as it is shown on the error channel, the time left out. -/
def errorLine (r : LogRecord) : String := "[" ++ tail r

/-- A record as it is shown on the error channel. -/
def stampedLine (time : Calendar.Instant) (r : LogRecord) : String :=
  "[" ++ time.date.text ++ "T" ++ time.timeText ++ "Z " ++ tail r

/-- The lines of a text, of which the last is closed by a newline. -/
def linesOf (text : String) : List String := (text.splitOn "\n").dropLast

/-- The record of listening at an address. -/
def listening (l : Listener) : LogRecord := ⟨.info, .receiver, "Listening on " ++ l.bindText⟩

/-- The record of an interrupt. -/
def interrupted : LogRecord := ⟨.info, .program, "Received Ctrl-C, shutting down"⟩

/-- The records of a server that is told to stop while no connection is open. -/
def stopping : List LogRecord :=
  ["received graceful shutdown signal. Telling tasks to shutdown",
    "signal received, not accepting new connections",
    "waiting for 0 task(s) to finish"].map fun text => ⟨.trace, .server, text⟩

/-- The record of the end of listening. -/
def stopped : LogRecord := ⟨.info, .receiver, "Webhook receiver shut down"⟩

/-- The lines about an address that cannot be had. -/
def bindFailure (l : Listener) (reason : String) : List String :=
  ["Error: failed to bind " ++ l.bindText, "", "Caused by:", "    " ++ reason]

/-- Why an address that something else listens on cannot be had. -/
def addressInUse : String := "Address already in use (os error 98)"

/-- The run of a program that is to listen on a port. -/
def listen (machine : Machine) (port : UInt16) : Transcript :=
  let wanted := Listener.onPort port
  let (filter, warnings) := Log.Filter.ofText (machine.filter.getD defaultFilter)
  if machine.taken port then
    ⟨1, "", warnings ++ bindFailure wanted addressInUse⟩
  else
    let bound := if port = 0 then { wanted with port := machine.free } else wanted
    let records := [listening bound, interrupted] ++ stopping ++ [stopped]
    ⟨0, wanted.banner ++ Listener.farewell ++ "\n",
      warnings ++ (records.filter filter.admits).map errorLine⟩

/-- The run of a program that was called with arguments. -/
def transcript (machine : Machine) (program : String) (arguments : List String) : Transcript :=
  match CommandLine.read (program :: arguments) with
  | .error (refusal, message) =>
    if refusal.isError then ⟨refusal.exitCode, "", linesOf message⟩
    else ⟨refusal.exitCode, message, []⟩
  | .ok port => listen machine port

end AlertConsole.Run
