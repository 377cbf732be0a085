import AlertConsole.Proofs.Calendar.Gregorian
set_option autoImplicit false

/-!
# What a clock shows

An instant is shown as a date and a time of day.  `Clock` holds these fields, `Clock.Writes` is the
form in which they are written, and `Clock.toSeconds` counts back from them.  The text of an instant
writes the fields of its clock (`Instant.writes_clock`), and those are the fields of the second in
which it lies (`Instant.toSeconds_clock`).  A text writes the fields of one clock only
(`Clock.Writes.unique`), and a later second has later fields (`Clock.before_of_toSeconds_lt`).
-/

namespace AlertConsole.Calendar

/-! ## Numerals -/

/-- Decimal digits, as many as the width, that write a number. -/
structure Numeral (width n : Nat) (ds : List Char) : Prop where
  length : ds.length = width
  digits : ∀ d ∈ ds, d.isDigit = true
  value : Nat.ofDigitChars 10 ds 0 = n

/-- Numerals of one width in front of the same mark are told apart from what follows. -/
theorem Numeral.append_inj {width m n : Nat} {ds es r s : List Char} {mark : Char}
    (hds : Numeral width m ds) (hes : Numeral width n es) (h : ds ++ mark :: r = es ++ mark :: s) :
    m = n ∧ r = s := by
  obtain ⟨rfl, hrest⟩ := List.append_inj h (hds.length.trans hes.length.symm)
  exact ⟨hds.value.symm.trans hes.value, (List.cons.inj hrest).2⟩

/-- Zeros in front fill a number up to the width, or up to its own digits if they are more. -/
theorem numeral_padded (width n : Nat) :
    Numeral (max width (Nat.toDigits 10 n).length) n (padded width n).toList := by
  rw [padded, String.toList_ofList]
  constructor
  · rw [List.length_append, List.length_replicate]
    omega
  · intro d hd
    rcases List.mem_append.mp hd with hzero | hdigit
    · rw [List.eq_of_mem_replicate hzero]
      decide
    · exact Nat.isDigit_of_mem_toDigits (by decide) (by decide) hdigit
  · rw [Nat.ofDigitChars_append, Nat.ofDigitChars_replicate_zero, Nat.mul_zero,
      Nat.ofDigitChars_toDigits (by decide) (by decide)]

/-- A number that fits into the width has a numeral of just that width. -/
theorem numeral_padded_of_lt {width n : Nat} (hwidth : 0 < width) (h : n < 10 ^ width) :
    Numeral width n (padded width n).toList := by
  have hlength := (Nat.length_toDigits_le_iff (by decide) hwidth).mpr h
  have hnumeral := numeral_padded width n
  rwa [Nat.max_eq_left hlength] at hnumeral

/-- The digits of a number begin with no zero. -/
theorem head?_toDigits {n : Nat} (h : 0 < n) : (Nat.toDigits 10 n).head? ≠ some '0' := by
  induction n using Nat.strongRecOn with
  | ind n ih =>
    by_cases hn : n < 10
    · rw [Nat.toDigits_of_lt_base hn]
      interval_cases n <;> decide
    · rw [Nat.toDigits_of_base_le (by decide) (Nat.le_of_not_lt hn), List.head?_append,
        List.head?_eq_some_head Nat.toDigits_ne_nil, Option.some_or,
        ← List.head?_eq_some_head Nat.toDigits_ne_nil]
      exact ih (n / 10) (by omega) (by omega)

/-- A number that does not fit into the width is written by its own digits. -/
theorem padded_of_le {width n : Nat} (hwidth : 0 < width) (h : 10 ^ width ≤ n) :
    padded width n = String.ofList (Nat.toDigits 10 n) ∧
      width < (Nat.toDigits 10 n).length := by
  have hlength : width < (Nat.toDigits 10 n).length := by
    have hle := (@Nat.length_toDigits_le_iff 10 n width (by decide) hwidth).not
    omega
  rw [padded, Nat.sub_eq_zero_of_le (Nat.le_of_lt hlength)]
  exact ⟨rfl, hlength⟩

/-! ## Years -/

/-- The form in which a year is written: four digits from year 0 to year 9999; behind a plus
afterwards, and behind a minus before, in digits of which the first is not zero if they are more
than four. -/
inductive WritesYear : Int → List Char → Prop where
  | common {n : Nat} {ds : List Char} : Numeral 4 n ds → WritesYear n ds
  | late {width n : Nat} {ds : List Char} : 9999 < n → Numeral width n ds →
      ds.head? ≠ some '0' → WritesYear n ('+' :: ds)
  | early {width n : Nat} {ds : List Char} : 0 < n → Numeral width n ds →
      width = 4 ∨ 4 < width ∧ ds.head? ≠ some '0' → WritesYear (-n) ('-' :: ds)

theorem writesYear_yearText (year : Int) : WritesYear year (yearText year).toList := by
  have hfour : 0 < 4 := by decide
  unfold yearText
  split
  · rename_i hcommon
    have hnumeral := @numeral_padded_of_lt 4 year.toNat hfour (by omega)
    have hyear := WritesYear.common hnumeral
    rwa [Int.toNat_of_nonneg hcommon.1] at hyear
  · rename_i hother
    rw [String.toList_append]
    by_cases hneg : year < 0
    · have hyear : year = -(year.natAbs : Int) := by omega
      rw [if_pos hneg]
      generalize year.natAbs = n at hyear
      obtain rfl := hyear
      by_cases hn : n < 10 ^ 4
      · exact .early (by omega) (numeral_padded_of_lt hfour hn) (.inl rfl)
      · obtain ⟨hpadded, hlength⟩ := padded_of_le hfour (Nat.le_of_not_lt hn)
        refine .early (by omega) (numeral_padded 4 n) (.inr ⟨by omega, ?_⟩)
        rw [hpadded, String.toList_ofList]
        exact head?_toDigits (by omega)
    · have hyear : year = (year.natAbs : Int) := by omega
      rw [if_neg hneg]
      generalize year.natAbs = n at hyear
      obtain rfl := hyear
      obtain ⟨hpadded, -⟩ := @padded_of_le 4 n hfour (by omega)
      refine .late (by omega) (numeral_padded 4 n) ?_
      rw [hpadded, String.toList_ofList]
      exact head?_toDigits (by omega)

/-- A numeral starts with a digit, not with a sign. -/
theorem Numeral.isDigit_head {width n : Nat} {d : Char} {ds : List Char}
    (h : Numeral width n (d :: ds)) : d.isDigit = true :=
  h.digits d List.mem_cons_self

theorem WritesYear.unique {y z : Int} {ds : List Char} (hy : WritesYear y ds)
    (hz : WritesYear z ds) : y = z := by
  cases hy with
  | common hm =>
    cases hz with
    | common hn => rw [← hm.value, ← hn.value]
    | late _ hn _ => exact absurd hm.isDigit_head (by decide)
    | early _ hn _ => exact absurd hm.isDigit_head (by decide)
  | late _ hm _ =>
    cases hz with
    | common hn => exact absurd hn.isDigit_head (by decide)
    | late _ hn _ => rw [← hm.value, ← hn.value]
  | early _ hm _ =>
    cases hz with
    | common hn => exact absurd hn.isDigit_head (by decide)
    | early _ hn _ => rw [← hm.value, ← hn.value]

/-! ## Clocks -/

/-- The fields that a clock shows. -/
structure Clock where
  date : Date
  hour : Nat
  minute : Nat
  second : Nat
  deriving DecidableEq, Repr, Inhabited

namespace Clock

/-- The fields are those of a second of the calendar. -/
structure Valid (c : Clock) : Prop where
  date : c.date.Valid
  hour : c.hour < 24
  minute : c.minute < 60
  second : c.second < 60

/-- The seconds from the start of 1970 to the second that a clock shows. -/
def toSeconds (c : Clock) : Int :=
  c.date.toDays * 86400 + (c.hour * 3600 + c.minute * 60 + c.second : Nat)

/-- One clock shows an earlier second than another: of the first fields that differ, the lesser. -/
def Before (c d : Clock) : Prop :=
  c.date.Before d.date ∨ c.date = d.date ∧
    (c.hour < d.hour ∨ c.hour = d.hour ∧
      (c.minute < d.minute ∨ c.minute = d.minute ∧ c.second < d.second))

/-- The form in which the fields are written, as in `2023-11-14 22:13:20 UTC`. -/
inductive Writes (c : Clock) : List Char → Prop where
  | mk {year month day hour minute second : List Char} : WritesYear c.date.year year →
      Numeral 2 c.date.month month → Numeral 2 c.date.day day → Numeral 2 c.hour hour →
      Numeral 2 c.minute minute → Numeral 2 c.second second →
      Writes c (year ++ '-' :: (month ++ '-' :: (day ++ ' ' :: (hour ++ ':' :: (minute ++ ':' ::
        (second ++ [' ', 'U', 'T', 'C']))))))

/-- A text writes the fields of one clock only. -/
theorem Writes.unique {c d : Clock} {s : List Char} (hc : c.Writes s) (hd : d.Writes s) :
    c = d := by
  obtain ⟨hyear, hmonth, hday, hhour, hminute, hsecond⟩ := hc
  rename_i year month day hour minute second
  generalize htext : year ++ '-' :: (month ++ '-' :: (day ++ ' ' :: (hour ++ ':' :: (minute ++
    ':' :: (second ++ [' ', 'U', 'T', 'C']))))) = text at hd
  obtain ⟨hyear', hmonth', hday', hhour', hminute', hsecond'⟩ := hd
  -- all that follows the year is of one length
  obtain ⟨rfl, hrest⟩ := List.append_inj' htext (by
    simp [hmonth.length, hday.length, hhour.length, hminute.length, hsecond.length, hmonth'.length,
      hday'.length, hhour'.length, hminute'.length, hsecond'.length])
  obtain ⟨hmonths, hrest⟩ := hmonth.append_inj hmonth' (List.cons.inj hrest).2
  obtain ⟨hdays, hrest⟩ := hday.append_inj hday' hrest
  obtain ⟨hhours, hrest⟩ := hhour.append_inj hhour' hrest
  obtain ⟨hminutes, hrest⟩ := hminute.append_inj hminute' hrest
  obtain ⟨hseconds, -⟩ := hsecond.append_inj hsecond' hrest
  have hyears := hyear.unique hyear'
  obtain ⟨⟨_, _, _⟩, _, _, _⟩ := c
  obtain ⟨⟨_, _, _⟩, _, _, _⟩ := d
  dsimp only at hyears hmonths hdays hhours hminutes hseconds
  rw [hyears, hmonths, hdays, hhours, hminutes, hseconds]

/-- A clock that shows an earlier second has fewer seconds behind it. -/
theorem toSeconds_lt_of_before {c d : Clock} (hc : c.Valid) (hd : d.Valid) (h : c.Before d) :
    c.toSeconds < d.toSeconds := by
  obtain ⟨hdate, hhour, hminute, hsecond⟩ := hc
  unfold toSeconds
  rcases h with hdates | ⟨hdates, htimes⟩
  · have hdays := Date.toDays_lt_of_before hdate hd.date hdates
    omega
  · rw [hdates]
    have hminute' := hd.minute
    have hsecond' := hd.second
    omega

/-- Of two clocks that show different seconds, one is before the other. -/
theorem before_or_eq_or_before (c d : Clock) : c.Before d ∨ c = d ∨ d.Before c := by
  obtain ⟨date, hour, minute, second⟩ := c
  obtain ⟨date', hour', minute', second'⟩ := d
  unfold Before
  rcases date.before_or_eq_or_before date' with hdate | rfl | hdate
  · exact .inl (.inl hdate)
  · simp only [mk.injEq, true_and]
    omega
  · exact .inr (.inr (.inl hdate))

/-- A clock with fewer seconds behind it shows an earlier second. -/
theorem before_of_toSeconds_lt {c d : Clock} (hc : c.Valid) (hd : d.Valid)
    (h : c.toSeconds < d.toSeconds) : c.Before d := by
  rcases c.before_or_eq_or_before d with hbefore | rfl | hafter
  · exact hbefore
  · exact absurd h (Int.lt_irrefl _)
  · exact absurd (toSeconds_lt_of_before hd hc hafter) (Int.not_lt.mpr (Int.le_of_lt h))

end Clock

/-! ## Instants -/

namespace Instant

/-- What a clock shows at an instant. -/
def clock (t : Instant) : Clock :=
  ⟨t.date, t.secondOfDay / 3600, t.secondOfDay / 60 % 60, t.secondOfDay % 60⟩

theorem secondOfDay_eq (t : Instant) :
    t.secondOfDay < 86400 ∧ t.seconds = Int.fdiv t.seconds 86400 * 86400 + t.secondOfDay := by
  rw [secondOfDay, Int.fdiv_eq_ediv_of_nonneg _ (by decide),
    Int.fmod_eq_emod_of_nonneg _ (by decide)]
  omega

theorem valid_clock (t : Instant) : t.clock.Valid := by
  have hday := t.secondOfDay_eq.1
  refine ⟨Date.valid_ofDays _, ?_, ?_, ?_⟩
  · exact Nat.div_lt_of_lt_mul hday
  · exact Nat.mod_lt _ (by decide)
  · exact Nat.mod_lt _ (by decide)

/-- The fields count back to the second of the instant. -/
theorem toSeconds_clock (t : Instant) : t.clock.toSeconds = t.seconds := by
  have hday := t.secondOfDay_eq.2
  have hfields : t.secondOfDay / 3600 * 3600 + t.secondOfDay / 60 % 60 * 60 + t.secondOfDay % 60 =
      t.secondOfDay := by omega
  rw [Clock.toSeconds]
  show (Date.ofDays (Int.fdiv t.seconds 86400)).toDays * 86400 + ((t.secondOfDay / 3600 * 3600 +
    t.secondOfDay / 60 % 60 * 60 + t.secondOfDay % 60 : Nat) : Int) = t.seconds
  rw [Date.toDays_ofDays, hfields, ← hday]

/-- The text of an instant writes the fields of its clock. -/
theorem writes_clock (t : Instant) : t.clock.Writes (t.clockText ++ " UTC").toList := by
  obtain ⟨⟨⟨-, hmonth⟩, -, hday⟩, hhour, hminute, hsecond⟩ := t.valid_clock
  have hlength : monthLength (isLeap t.clock.date.year) t.clock.date.month ≤ 31 := by
    unfold monthLength
    split
    · split <;> decide
    · split <;> decide
  have htwo {n : Nat} (h : n < 100) : Numeral 2 n (padded 2 n).toList :=
    numeral_padded_of_lt (by decide) h
  have hwrites := Clock.Writes.mk (c := t.clock) (writesYear_yearText _) (htwo (by omega))
    (htwo (by omega)) (htwo (by omega)) (htwo (by omega)) (htwo (by omega))
  simpa [clockText, Date.text, timeText, clock] using hwrites

end Instant

end AlertConsole.Calendar
