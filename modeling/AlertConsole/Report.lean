import AlertConsole.Payload
set_option autoImplicit false

/-!
# Reports

The text that the console shows for one delivery: a heading with the time of receipt, then the
fields of each alert, or the reason why there are none together with the bytes that came.
-/

namespace AlertConsole

open Json (Value)

/-! ## Values -/

/-- What stands in place of no value. -/
def nothingText : String := "None"

/-- The text shown for a value: a string as it is, no value or null as `None`, and anything else as
compact JSON. -/
def displayText : Option Value → String
  | none => nothingText
  | some .null => nothingText
  | some (.string s) => s
  | some v => v.text

/-! ## Alerts -/

namespace Alert

/-- What stands in place of a device that the sender left out. -/
def devicePlaceholder : String := "N/A"

/-- The text shown for a field. -/
def fieldText (a : Alert) (key : String) : String := displayText (a.get? key)

/-- The text shown for the device. -/
def deviceText (a : Alert) : String :=
  match a.get? "device_id" with
  | none => devicePlaceholder
  | some v => displayText (some v)

/-- The text shown for the timestamp, with the UTC time of a numeric one behind it. -/
def timestampText (a : Alert) : String :=
  a.fieldText "timestamp" ++
    match a.instant? with
    | some t => " (" ++ t.clockText ++ " UTC)"
    | none => ""

/-- The labelled lines of an alert, in the order in which they are shown. -/
def lines (a : Alert) : List (String × String) :=
  [("Alert ID: ", a.fieldText "alert_id"),
   ("Title: ", a.fieldText "title"),
   ("Message: ", a.fieldText "message"),
   ("Severity: ", a.fieldText "severity"),
   ("Alert Type: ", a.fieldText "alert_type"),
   ("Device ID: ", a.deviceText),
   ("Created At: ", a.fieldText "created_at"),
   ("Timestamp: ", a.timestampText)]

/-- The lines of the metadata, one for each entry. -/
def metadataLines (a : Alert) : List (String × String) :=
  a.metadata.map fun m => ("  " ++ m.1 ++ ": ", displayText (some m.2))

end Alert

/-- Lines of a label and a text each. -/
def linesText (lines : List (String × String)) : String :=
  String.join (lines.map fun l => l.1 ++ l.2 ++ "\n")

/-- The block of an alert. -/
def Alert.block (a : Alert) : String :=
  "\n" ++ linesText a.lines ++
    if a.metadata.isEmpty then "" else "\nMetadata:\n" ++ linesText a.metadataLines

/-! ## Batches -/

/-- The blocks of the alerts of a batch, the first of them being number `next` of `total`. -/
def blocksFrom (total : Nat) (next : Nat) : List Alert → List String
  | [] => []
  | a :: as => s!"\n--- Alert {next}/{total} ---" :: a.block :: blocksFrom total (next + 1) as

/-- The heading of a batch, with the count that its sender declared if that is another. -/
def Batch.heading (b : Batch) : String :=
  let total := b.alerts.length
  s!"\n📦 Batch notification: {total} alerts" ++
    (match b.declaredCount with
      | some count => if count = total then "" else s!" (declared count: {count})"
      | none => "") ++ "\n"

/-- The heading of a batch and the blocks of its alerts. -/
def Batch.block (b : Batch) : String :=
  b.heading ++ String.join (blocksFrom b.alerts.length 1 b.alerts)

/-! ## Reports -/

/-- What is shown for a payload. -/
def Payload.block : Payload → String
  | .single a => a.block
  | .batch b => b.block

/-- A report on one delivery: its payload or the fault in it, the bytes that came, and the time of
receipt as the console's clock shows it. -/
structure Report where
  outcome : Except PayloadFault Payload
  raw : List UInt8
  receivedAt : String

namespace Report

/-- The line between the parts of the console's output. -/
def separator : String := String.ofList (List.replicate 80 '=')

/-- The part of a report between its heading and its last line. -/
def body (r : Report) : String :=
  match r.outcome with
  | .ok payload => payload.block
  | .error fault =>
    "Parse error: " ++ fault.message ++ "\n" ++ "Raw data: " ++ Utf8.lossy r.raw ++ "\n"

/-- The text of a report. -/
def text (r : Report) : String :=
  "\n" ++ separator ++ "\n" ++ "✅ Webhook notification received at " ++ r.receivedAt ++ "\n" ++
    separator ++ "\n" ++ r.body ++ "\n" ++ separator ++ "\n" ++ "\n"

end Report

end AlertConsole
