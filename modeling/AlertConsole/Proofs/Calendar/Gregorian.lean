import AlertConsole.Calendar
import Mathlib.Algebra.BigOperators.Group.List.Basic
import Mathlib.Data.Int.Init
import Mathlib.Tactic.IntervalCases
set_option autoImplicit false

/-!
# The Gregorian calendar

The calendar itself: which years are leap years, how long months and years are, and how many days
lie between the start of 1970 and a date.  `Date.ofDays` counts in years that begin in March and in
cycles of 400, 100 and 4 years; that it finds the date of the calendar is `Date.valid_ofDays` and
`Date.toDays_ofDays`.  Later dates have more days before them (`Date.toDays_lt_of_before`), so no
two dates are confused.
-/

namespace AlertConsole.Calendar

/-! ## Years and months -/

/-- A leap year: every fourth one, of the full centuries only every fourth. -/
def isLeap (year : Int) : Bool :=
  decide ((4 ∣ year ∧ ¬ 100 ∣ year) ∨ 400 ∣ year)

/-- The days of a year. -/
def yearLength (year : Int) : Int := if isLeap year then 366 else 365

/-- The days of a month. -/
def monthLength (leap : Bool) (month : Nat) : Nat :=
  if month = 2 then (if leap then 29 else 28)
  else if month = 4 ∨ month = 6 ∨ month = 9 ∨ month = 11 then 30
  else 31

/-- The days from the start of 1970 to the start of a year, less than zero for a year before. -/
def daysToYear (year : Int) : Int :=
  if 1970 ≤ year then
    ((List.range (year - 1970).toNat).map fun k : Nat => yearLength (1970 + k)).sum
  else
    -((List.range (1970 - year).toNat).map fun k : Nat => yearLength (1969 - k)).sum

/-- The days from the start of a year to the start of a month of it. -/
def daysToMonth (leap : Bool) (month : Nat) : Nat :=
  ((List.range (month - 1)).map fun k => monthLength leap (k + 1)).sum

/-- The date is one of the calendar: its month is one of twelve, and its day is in that month. -/
structure Date.Valid (d : Date) : Prop where
  month : 1 ≤ d.month ∧ d.month ≤ 12
  day : 1 ≤ d.day ∧ d.day ≤ monthLength (isLeap d.year) d.month

/-- The days from the start of 1970 to a date. -/
def Date.toDays (d : Date) : Int :=
  daysToYear d.year + daysToMonth (isLeap d.year) d.month + (d.day - 1)

/-! ## Counting years -/

theorem yearLength_eq_toNat (year : Int) : yearLength year = 365 + (isLeap year).toNat := by
  rw [yearLength]
  cases isLeap year <;> rfl

theorem sum_map_range_succ {M : Type} [AddMonoid M] (f : Nat → M) (n : Nat) :
    ((List.range (n + 1)).map f).sum = ((List.range n).map f).sum + f n := by
  rw [List.range_succ, List.map_append, List.sum_append, List.map_singleton, List.sum_singleton]

/-- The next year starts a year later. -/
theorem daysToYear_add_one (year : Int) :
    daysToYear (year + 1) = daysToYear year + yearLength year := by
  rcases Int.lt_or_le year 1970 with hbefore | hafter
  · -- one year less lies between it and 1970
    obtain ⟨n, hn⟩ : ∃ n : Nat, year = 1969 - n := ⟨(1969 - year).toNat, by omega⟩
    have hyear : (1970 - year).toNat = n + 1 := by omega
    have hnext : (1970 - (year + 1)).toNat = n := by omega
    have hsum : daysToYear (year + 1) =
        -((List.range n).map fun k : Nat => yearLength (1969 - k)).sum := by
      rw [daysToYear, hnext]
      split
      · rename_i h1970
        obtain rfl : n = 0 := by omega
        obtain rfl : year = 1969 := by omega
        rfl
      · rfl
    rw [hsum, daysToYear, if_neg (by omega), hyear, sum_map_range_succ, ← hn]
    omega
  · obtain ⟨n, hn⟩ : ∃ n : Nat, year = 1970 + n := ⟨(year - 1970).toNat, by omega⟩
    have hyear : (year - 1970).toNat = n := by omega
    have hnext : (year + 1 - 1970).toNat = n + 1 := by omega
    rw [daysToYear, daysToYear, if_pos (by omega), if_pos hafter, hyear, hnext,
      sum_map_range_succ, ← hn]

/-- The leap days from the start of year 1 to the start of a year. -/
def leapDaysBefore (year : Int) : Int := (year - 1) / 4 - (year - 1) / 100 + (year - 1) / 400

theorem yearLength_eq (year : Int) :
    yearLength year = 365 + (leapDaysBefore (year + 1) - leapDaysBefore year) := by
  unfold yearLength isLeap leapDaysBefore
  simp only [decide_eq_true_eq]
  split <;> omega

/-- A year has 365 days and one more in leap years, of which there are 477 before 1970. -/
theorem daysToYear_eq (year : Int) :
    daysToYear year = 365 * (year - 1970) + leapDaysBefore year - 477 := by
  have hstep (y : Int) :
      daysToYear (y + 1) - (365 * (y + 1 - 1970) + leapDaysBefore (y + 1) - 477) =
        daysToYear y - (365 * (y - 1970) + leapDaysBefore y - 477) := by
    rw [daysToYear_add_one, yearLength_eq]
    omega
  -- the two sides agree in 1970, and from year to year their difference stays as it is
  induction year using Int.inductionOn' (b := 1970) with
  | zero => rfl
  | succ y _ ih =>
    have := hstep y
    omega
  | pred y _ ih =>
    have := hstep (y - 1)
    rw [Int.sub_add_cancel] at this
    omega

/-! ## Counting from March -/

/-- The month that is the given number of months after March. -/
def monthFromMarch (months : Nat) : Nat := if months < 10 then months + 3 else months - 9

/-- The days from the start of March to the start of a month: 153 in every five months. -/
def daysFromMarch (months : Nat) : Nat := (153 * months + 2) / 5

theorem monthDay_eq (dayOfYear : Nat) :
    monthDay dayOfYear =
      (monthFromMarch ((5 * dayOfYear + 2) / 153),
        dayOfYear - daysFromMarch ((5 * dayOfYear + 2) / 153) + 1) := rfl

/-- Behind March, the length of a month is what is counted from its start to that of the next one,
but for February, the last of them. -/
theorem monthLength_monthFromMarch (leap : Bool) {months : Nat} (h : months ≤ 11) :
    monthLength leap (monthFromMarch months) =
      if months = 11 then 28 + leap.toNat
      else daysFromMarch (months + 1) - daysFromMarch months := by
  cases leap <;> interval_cases months <;> rfl

theorem daysToMonth_monthFromMarch (leap : Bool) {months : Nat} (h : months ≤ 11) :
    daysToMonth leap (monthFromMarch months) =
      if months < 10 then 59 + leap.toNat + daysFromMarch months
      else daysFromMarch months - 306 := by
  cases leap <;> interval_cases months <;> rfl

/-- A day of a year that begins in March has a month and a day of the calendar. -/
theorem monthDay_valid {leap : Bool} {dayOfYear : Nat} (h : dayOfYear < 365 + leap.toNat) :
    (1 ≤ (monthDay dayOfYear).1 ∧ (monthDay dayOfYear).1 ≤ 12) ∧
    1 ≤ (monthDay dayOfYear).2 ∧
      (monthDay dayOfYear).2 ≤ monthLength leap (monthDay dayOfYear).1 := by
  have hleap := Bool.toNat_le leap
  rw [monthDay_eq]
  dsimp only
  generalize hmonths : (5 * dayOfYear + 2) / 153 = months
  have hle : months ≤ 11 := by omega
  rw [monthLength_monthFromMarch leap hle]
  unfold monthFromMarch daysFromMarch
  refine ⟨?_, ?_, ?_⟩
  · split <;> omega
  · omega
  · split <;> omega

/-- The days to that month and day are counted from the start of March in the same year, or in the
year before if the month is January or February. -/
theorem daysToMonth_monthDay {leap : Bool} {dayOfYear : Nat} (h : dayOfYear < 365 + leap.toNat) :
    (daysToMonth leap (monthDay dayOfYear).1 : Int) + ((monthDay dayOfYear).2 - 1) =
      if (monthDay dayOfYear).1 ≤ 2 then (dayOfYear : Int) - 306
      else 59 + leap.toNat + dayOfYear := by
  have hleap := Bool.toNat_le leap
  rw [monthDay_eq]
  dsimp only
  generalize hmonths : (5 * dayOfYear + 2) / 153 = months
  have hle : months ≤ 11 := by omega
  rw [daysToMonth_monthFromMarch leap hle]
  unfold monthFromMarch daysFromMarch
  split <;> split <;> omega

/-! ## Dates of days -/

theorem toNat_isLeap (year : Int) :
    (isLeap year).toNat = if (4 ∣ year ∧ ¬ 100 ∣ year) ∨ 400 ∣ year then 1 else 0 := by
  rw [isLeap]
  split <;> simp_all

namespace Date

/-- A day is one of a year that begins in March. -/
theorem ofDays_eq (days : Int) :
    ∃ (year : Int) (dayOfYear : Nat), dayOfYear < 365 + (isLeap (year + 1)).toNat ∧
      days + 719468 = 365 * year + leapDaysBefore (year + 1) + dayOfYear ∧
      ofDays days =
        ⟨if (monthDay dayOfYear).1 ≤ 2 then year + 1 else year, (monthDay dayOfYear).1,
          (monthDay dayOfYear).2⟩ := by
  obtain ⟨cycles, hcycles⟩ : ∃ n, n = Int.fdiv (days + 719468) 146097 := ⟨_, rfl⟩
  obtain ⟨rest, hrest⟩ : ∃ n, n = (Int.fmod (days + 719468) 146097).toNat := ⟨_, rfl⟩
  obtain ⟨centuries, hcenturies⟩ : ∃ n, n = min 3 (rest / 36524) := ⟨_, rfl⟩
  obtain ⟨ofCentury, hofCentury⟩ : ∃ n, n = rest - centuries * 36524 := ⟨_, rfl⟩
  obtain ⟨fours, hfours⟩ : ∃ n, n = ofCentury / 1461 := ⟨_, rfl⟩
  obtain ⟨ofFour, hofFour⟩ : ∃ n, n = ofCentury - fours * 1461 := ⟨_, rfl⟩
  obtain ⟨years, hyears⟩ : ∃ n, n = min 3 (ofFour / 365) := ⟨_, rfl⟩
  have hdate : ofDays days =
      ⟨if (monthDay (ofFour - years * 365)).1 ≤ 2
        then cycles * 400 + (centuries * 100 + fours * 4 + years : Nat) + 1
        else cycles * 400 + (centuries * 100 + fours * 4 + years : Nat),
        (monthDay (ofFour - years * 365)).1, (monthDay (ofFour - years * 365)).2⟩ := by
    rw [ofDays, ← hcycles, ← hrest, ← hcenturies, ← hofCentury, ← hfours, ← hofFour, ← hyears]
  have hsplit : days + 719468 = cycles * 146097 + rest ∧ rest < 146097 := by
    rw [Int.fmod_eq_emod_of_nonneg _ (by decide)] at hrest
    rw [Int.fdiv_eq_ediv_of_nonneg _ (by decide)] at hcycles
    omega
  -- only the last century of a cycle has a leap day in its last year
  have hcentury : centuries ≤ 3 ∧ (ofCentury < 36524 ∨ centuries = 3 ∧ ofCentury = 36524) := by
    omega
  have hfour : fours ≤ 24 ∧ ofFour < 1461 := by omega
  have hyear : years ≤ 3 ∧ ofFour - years * 365 < 365 ∨ years = 3 ∧ ofFour = 1460 := by omega
  have hleap : leapDaysBefore (cycles * 400 + (centuries * 100 + fours * 4 + years : Nat) + 1) =
      cycles * 97 + (centuries * 24 + fours : Nat) := by
    unfold leapDaysBefore
    omega
  refine ⟨_, ofFour - years * 365, ?_, ?_, hdate⟩
  · rw [toNat_isLeap]
    split <;> omega
  · rw [hleap]
    omega

/-- From March on, no leap day of the year lies behind. -/
theorem dayOfYear_lt_of_month {dayOfYear : Nat} (hlt : dayOfYear ≤ 365)
    (h : 2 < (monthDay dayOfYear).1) : dayOfYear < 306 := by
  rw [monthDay_eq] at h
  unfold monthFromMarch at h
  dsimp only at h
  split at h <;> omega

/-- The date of a day is a date of the calendar. -/
theorem valid_ofDays (days : Int) : (ofDays days).Valid := by
  obtain ⟨year, dayOfYear, hlt, -, heq⟩ := ofDays_eq days
  rw [heq]
  by_cases hmonth : (monthDay dayOfYear).1 ≤ 2
  · obtain ⟨hmonths, hdays⟩ := monthDay_valid hlt
    rw [if_pos hmonth]
    exact ⟨hmonths, hdays⟩
  · have hleap := Bool.toNat_le (isLeap (year + 1))
    have hmarch := dayOfYear_lt_of_month (by omega) (Nat.lt_of_not_le hmonth)
    obtain ⟨hmonths, hdays⟩ := @monthDay_valid (isLeap year) dayOfYear (by omega)
    rw [if_neg hmonth]
    exact ⟨hmonths, hdays⟩

/-- And it is that many days from the start of 1970. -/
theorem toDays_ofDays (days : Int) : (ofDays days).toDays = days := by
  obtain ⟨year, dayOfYear, hlt, hdays, heq⟩ := ofDays_eq days
  rw [heq, toDays]
  by_cases hmonth : (monthDay dayOfYear).1 ≤ 2
  · have hcount := daysToMonth_monthDay hlt
    rw [if_pos hmonth] at hcount
    dsimp only
    rw [if_pos hmonth, daysToYear_eq]
    omega
  · have hleap := Bool.toNat_le (isLeap (year + 1))
    have hmarch := dayOfYear_lt_of_month (by omega) (Nat.lt_of_not_le hmonth)
    have hcount := @daysToMonth_monthDay (isLeap year) dayOfYear (by omega)
    rw [if_neg hmonth] at hcount
    have hyear := yearLength_eq year
    rw [yearLength_eq_toNat] at hyear
    dsimp only
    rw [if_neg hmonth, daysToYear_eq]
    omega

/-! ## The order of dates -/

/-- One date is before another. -/
def Before (d e : Date) : Prop :=
  d.year < e.year ∨ d.year = e.year ∧ (d.month < e.month ∨ d.month = e.month ∧ d.day < e.day)

end Date

/-- A later year starts when the year before it is over. -/
theorem daysToYear_le_of_lt {year later : Int} (h : year < later) :
    daysToYear year + yearLength year ≤ daysToYear later := by
  rw [← daysToYear_add_one, daysToYear_eq, daysToYear_eq]
  unfold leapDaysBefore
  omega

/-- The next month starts a month later. -/
theorem daysToMonth_add_one (leap : Bool) {month : Nat} (h : 1 ≤ month) :
    daysToMonth leap (month + 1) = daysToMonth leap month + monthLength leap month := by
  obtain ⟨n, rfl⟩ := Nat.exists_eq_add_of_le' h
  exact sum_map_range_succ _ n

/-- A later month starts when the month before it is over. -/
theorem daysToMonth_le_of_lt (leap : Bool) {month later : Nat} (hmonth : 1 ≤ month)
    (h : month < later) :
    daysToMonth leap month + monthLength leap month ≤ daysToMonth leap later := by
  induction later, h using Nat.le_induction with
  | base => exact Nat.le_of_eq (daysToMonth_add_one leap hmonth).symm
  | succ later hlater ih =>
    rw [daysToMonth_add_one leap (by omega)]
    omega

/-- Twelve months make a year. -/
theorem daysToMonth_thirteen (year : Int) : daysToMonth (isLeap year) 13 = yearLength year := by
  rw [yearLength_eq_toNat]
  cases isLeap year <;> rfl

namespace Date

/-- Of two dates that differ, one is before the other. -/
theorem before_or_eq_or_before (d e : Date) : d.Before e ∨ d = e ∨ e.Before d := by
  obtain ⟨year, month, day⟩ := d
  obtain ⟨year', month', day'⟩ := e
  simp only [Before, mk.injEq]
  omega

/-- The days to a later date are more. -/
theorem toDays_lt_of_before {d e : Date} (hd : d.Valid) (he : e.Valid) (h : d.Before e) :
    d.toDays < e.toDays := by
  obtain ⟨⟨hmonth, hmonth'⟩, hday, hday'⟩ := hd
  obtain ⟨-, hfirst, -⟩ := he
  unfold toDays
  rcases h with hyear | ⟨hyear, hmonths | ⟨hmonths, hdays⟩⟩
  · have hend := daysToMonth_le_of_lt (isLeap d.year) hmonth (show d.month < 13 by omega)
    have hlength := daysToMonth_thirteen d.year
    have hnext := daysToYear_le_of_lt hyear
    omega
  · have hend := daysToMonth_le_of_lt (isLeap d.year) hmonth hmonths
    rw [← hyear]
    omega
  · rw [← hyear, ← hmonths]
    omega

end Date

end AlertConsole.Calendar
