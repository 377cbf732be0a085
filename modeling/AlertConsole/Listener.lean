import AlertConsole.Address
set_option autoImplicit false

/-!
# Where deliveries are awaited
-/

namespace AlertConsole

/-- A host and a port to listen on. -/
structure Listener where
  host : Address
  port : UInt16
  deriving DecidableEq, Repr

namespace Listener

/-- The port that is listened on unless another is given. -/
def defaultPort : UInt16 := 8888

/-- All hosts and the default port. -/
def standard : Listener := ⟨.v4 0 0 0 0, defaultPort⟩

/-- All hosts and the given port. -/
def onPort (port : UInt16) : Listener := { standard with port := port }

/-- The text of host and port. -/
def bindText (l : Listener) : String := l.host.withPort l.port.toNat

/-- The address that senders are told to use, which is one of many that are received. -/
def webhookUrl (l : Listener) : String := s!"http://localhost:{l.port.toNat}/webhook"

/-- What the console shows when it starts. -/
def banner (l : Listener) : String :=
  s!"🚀 Webhook receiver started on port {l.port.toNat}\n" ++
    "📡 Webhook URL: " ++ l.webhookUrl ++ "\n" ++
    "⏳ Waiting for alert notifications...\n\n"

/-- What the console shows when it stops. -/
def farewell : String := "\n\n👋 Webhook receiver stopped"

end Listener

end AlertConsole
