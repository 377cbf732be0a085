import AlertConsole.Calendar
import AlertConsole.Json.Text
set_option autoImplicit false

/-!
# Alerts

An alert is the object that a sender posted, kept as it is.  Nothing is required of it: a field
that is missing has no value, and a field of an unexpected kind is shown all the same.
-/

namespace AlertConsole

open Json (Value Members)

/-- One alert, as it was posted. -/
structure Alert where
  members : Members
  deriving Inhabited

namespace Alert

/-- The value of a field, if the sender gave it one. -/
def get? (a : Alert) (key : String) : Option Value := a.members.get? key

/-- Whether two alerts have equal fields, in any order. -/
def same (a b : Alert) : Bool := a.members.same b.members

/-- The entries of the metadata, which are none unless they are a non-empty object. -/
def metadata (a : Alert) : Members :=
  match a.get? "metadata" with
  | some (.object entries) => entries
  | _ => []

/-! ## The time of an alert -/

/-- From here on the magnitude of a numeric timestamp shows that it counts milliseconds. -/
def millisFrom : Nat := 100000000000

/-- A number limited to the range of a signed word of 64 bits. -/
def clampToWord (i : Int) : Int :=
  if i < -0x8000000000000000 then -0x8000000000000000
  else if 0x7FFFFFFFFFFFFFFF < i then 0x7FFFFFFFFFFFFFFF
  else i

/-- The instant that a count of seconds or of milliseconds stands for. -/
def instantOf (count : Int) : Option Calendar.Instant :=
  if millisFrom ≤ count.natAbs then Calendar.Instant.ofMillis? count
  else Calendar.Instant.ofSeconds? count

/-- The count that a numeric timestamp stands for: an integer that a signed word can hold as it is,
and any other number rounded toward zero and limited to the range of such a word. -/
def timeCount : Json.Number → Int
  | .integer i _ => clampToWord i
  | .double x => clampToWord x.truncate

/-- The instant of a numeric timestamp. -/
def instant? (a : Alert) : Option Calendar.Instant :=
  match a.get? "timestamp" with
  | some (.number n) => instantOf (timeCount n)
  | _ => none

end Alert

end AlertConsole
