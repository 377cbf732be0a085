set_option autoImplicit false

/-!
# Dates and instants in UTC

Dates of the Gregorian calendar, carried on into the past without end; year 0 is the year before
year 1.  An instant is a whole number of milliseconds since the start of 1970, and an instant has a
date and a time of day.

Days are counted in years that begin in March, so that a leap day is the last day of its year: 400
years have 146097 days, a century in them has 36524 or one more, four years have 1461 or one less,
and a year has 365 or one more.
-/

namespace AlertConsole.Calendar

/-! ## Dates -/

/-- A date. -/
structure Date where
  year : Int
  month : Nat
  day : Nat
  deriving DecidableEq, Repr, Inhabited

/-- The month and the day of the month of a day counted from the start of March. -/
def monthDay (dayOfYear : Nat) : Nat × Nat :=
  let fromMarch := (5 * dayOfYear + 2) / 153
  let day := dayOfYear - (153 * fromMarch + 2) / 5 + 1
  (if fromMarch < 10 then fromMarch + 3 else fromMarch - 9, day)

/-- The date of a day counted from the start of 1970. -/
def Date.ofDays (days : Int) : Date :=
  let fromEpoch := days + 719468
  let cycles := Int.fdiv fromEpoch 146097
  let rest := (Int.fmod fromEpoch 146097).toNat
  let centuries := min 3 (rest / 36524)
  let rest := rest - centuries * 36524
  let fours := rest / 1461
  let rest := rest - fours * 1461
  let years := min 3 (rest / 365)
  let (month, day) := monthDay (rest - years * 365)
  let year := cycles * 400 + (centuries * 100 + fours * 4 + years : Nat)
  ⟨if month ≤ 2 then year + 1 else year, month, day⟩

/-! ## Instants -/

/-- Milliseconds since the start of 1970 in UTC. -/
structure Instant where
  millis : Int
  deriving DecidableEq, Repr, Inhabited

namespace Instant

/-- The instants that are shown lie between these two. -/
def earliest : Int := -8334601228800000

@[inherit_doc earliest]
def latest : Int := 8210266876799999

/-- The instant a number of milliseconds after the start of 1970, if it can be shown. -/
def ofMillis? (millis : Int) : Option Instant :=
  if earliest ≤ millis ∧ millis ≤ latest then some ⟨millis⟩ else none

/-- The instant a number of seconds after the start of 1970, if it can be shown. -/
def ofSeconds? (seconds : Int) : Option Instant := ofMillis? (seconds * 1000)

/-- Whole seconds since the start of 1970. -/
def seconds (t : Instant) : Int := Int.fdiv t.millis 1000

/-- The milliseconds within the second. -/
def fraction (t : Instant) : Nat := (Int.fmod t.millis 1000).toNat

/-- The date. -/
def date (t : Instant) : Date := Date.ofDays (Int.fdiv t.seconds 86400)

/-- The seconds within the day. -/
def secondOfDay (t : Instant) : Nat := (Int.fmod t.seconds 86400).toNat

end Instant

/-! ## Texts -/

/-- A number with zeros before it, up to a width. -/
def padded (width n : Nat) : String :=
  let digits := Nat.toDigits 10 n
  String.ofList (List.replicate (width - digits.length) '0' ++ digits)

/-- A year: four digits from year 0 to year 9999, and otherwise a sign and at least four digits. -/
def yearText (year : Int) : String :=
  if 0 ≤ year ∧ year ≤ 9999 then padded 4 year.toNat
  else (if year < 0 then "-" else "+") ++ padded 4 year.natAbs

/-- A date, as in `2023-11-14`. -/
def Date.text (d : Date) : String :=
  yearText d.year ++ "-" ++ padded 2 d.month ++ "-" ++ padded 2 d.day

namespace Instant

/-- A time of day, as in `22:13:20`. -/
def timeText (t : Instant) : String :=
  padded 2 (t.secondOfDay / 3600) ++ ":" ++ padded 2 (t.secondOfDay / 60 % 60) ++ ":" ++
    padded 2 (t.secondOfDay % 60)

/-- Date and time of day, as in `2023-11-14 22:13:20`. -/
def clockText (t : Instant) : String := t.date.text ++ " " ++ t.timeText

/-- The form that machines exchange, as in `2023-11-14T22:13:20.123+00:00`; a fraction is written
if it is not zero. -/
def exchangeText (t : Instant) : String :=
  t.date.text ++ "T" ++ t.timeText ++
    (if t.fraction = 0 then "" else "." ++ padded 3 t.fraction) ++ "+00:00"

end Instant

end AlertConsole.Calendar
