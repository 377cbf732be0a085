set_option autoImplicit false

/-!
# Log records
-/

namespace AlertConsole

/-- How much a log record matters, from most to least. -/
inductive Level where
  | error
  | warn
  | info
  | debug
  | trace
  deriving DecidableEq, Repr, Inhabited

namespace Level

/-- The name of a level, as log lines have it. -/
def name : Level → String
  | .error => "ERROR"
  | .warn => "WARN"
  | .info => "INFO"
  | .debug => "DEBUG"
  | .trace => "TRACE"

/-- The place of a level: the higher, the less it matters. -/
def rank : Level → Nat
  | .error => 1
  | .warn => 2
  | .info => 3
  | .debug => 4
  | .trace => 5

end Level

/-- The part of the program that a log record comes from. -/
inductive Source where
  /-- the serving of connections -/
  | server
  /-- the program as a whole -/
  | program
  /-- the reading of deliveries -/
  | payload
  /-- the handling of requests -/
  | receiver
  deriving DecidableEq, Repr, Inhabited

/-- The name of a source, as log lines have it. -/
def Source.name : Source → String
  | .server => "axum::serve"
  | .program => "webhook_receiver"
  | .payload => "webhook_receiver::payload"
  | .receiver => "webhook_receiver::receiver"

/-- One log record. -/
structure LogRecord where
  level : Level
  source : Source
  text : String
  deriving DecidableEq, Repr, Inhabited

/-- A record on one line. -/
def LogRecord.line (r : LogRecord) : String :=
  r.level.name ++ " " ++ r.source.name ++ ": " ++ r.text

end AlertConsole
