import AlertConsole.Alert
import AlertConsole.Proofs.Binary64.Value
import AlertConsole.Proofs.Json.Integers
set_option autoImplicit false

/-!
# The instant of a numeric timestamp

A numeric timestamp has an integer value that a signed word of 64 bits holds (`IntegerValue`), and
the magnitude of that value tells whether it counts seconds or milliseconds.  `instant?_timestamp`
says which instant it stands for, if any.  Rounding and limiting the value never change its unit,
and never bring it among the instants that can be shown.
-/

namespace AlertConsole.Alert

open Calendar (Instant)
open Json (Number Literal WholeDigits decimal)

/-! ## Integer values -/

/-- A number limited to the range of a signed word. -/
def limited (i : Int) : Int := max (-0x8000000000000000) (min 0x7FFFFFFFFFFFFFFF i)

/-- The integer value of a number.  An integer that a signed word can hold is its own; any other
number is taken as a double, rounded toward zero and limited to the range of such a word. -/
inductive IntegerValue : Number → Int → Prop where
  | word {i : Int} (inRange : -0x8000000000000000 ≤ i ∧ i < 0x10000000000000000) :
      i < 0x8000000000000000 → IntegerValue (.integer i inRange) i
  | beyond {i : Int} {x : Magnitude}
      (inRange : -0x8000000000000000 ≤ i ∧ i < 0x10000000000000000) :
      0x8000000000000000 ≤ i → Magnitude.nearest? i.toNat 1 = some x →
      IntegerValue (.integer i inRange) (limited (towardZero (Binary64.value ⟨false, x⟩)))
  | double (x : Binary64) : IntegerValue (.double x) (limited (towardZero x.value))

theorem clampToWord_eq (i : Int) : clampToWord i = limited i := by
  unfold clampToWord limited
  split
  · omega
  · split <;> omega

/-- The double of an integer beyond the range of a signed word is limited to the greatest one. -/
theorem limited_beyond {i : Int} {x : Magnitude} (hi : 0x8000000000000000 ≤ i)
    (hx : Magnitude.nearest? i.toNat 1 = some x) :
    limited (towardZero (Binary64.value ⟨false, x⟩)) = 0x7FFFFFFFFFFFFFFF := by
  have hfloor : 2 ^ 63 ≤ x.floor := by
    refine Magnitude.le_floor (Magnitude.le_units_of_nearest?_one ?_ hx)
    omega
  rw [← Binary64.truncate_eq]
  show limited (x.floor : Int) = _
  unfold limited
  omega

/-- A number has one integer value, which is its count. -/
theorem integerValue_iff {n : Number} {r : Int} : IntegerValue n r ↔ r = timeCount n := by
  constructor
  · intro h
    cases h with
    | word inRange hi =>
      rw [timeCount, clampToWord_eq, limited]
      omega
    | beyond inRange hi hx =>
      rw [limited_beyond hi hx, timeCount, clampToWord_eq, limited]
      omega
    | double x => rw [timeCount, clampToWord_eq, Binary64.truncate_eq]
  · rintro rfl
    cases n with
    | double x =>
      have hdouble := IntegerValue.double x
      rwa [← Binary64.truncate_eq, ← clampToWord_eq] at hdouble
    | integer i inRange =>
      have hcount : timeCount (.integer i inRange) = limited i := clampToWord_eq i
      rw [hcount]
      by_cases hi : i < 0x8000000000000000
      · have hword := IntegerValue.word inRange hi
        have hlimited : limited i = i := by
          unfold limited
          omega
        rwa [hlimited]
      · obtain ⟨x, hx⟩ := Magnitude.exists_nearest?_word (n := i.toNat) (by omega)
        have hbeyond := IntegerValue.beyond inRange (Int.not_lt.mp hi) hx
        have hlimited : limited i = 0x7FFFFFFFFFFFFFFF := by
          unfold limited
          omega
        rwa [limited_beyond (Int.not_lt.mp hi) hx, ← hlimited] at hbeyond

/-! ## Seconds or milliseconds -/

/-- The unit is the one that the exact value of the number dictates: limiting and rounding do not
take it across the bound. -/
theorem millisFrom_le_timeCount_iff (n : Number) :
    millisFrom ≤ (timeCount n).natAbs ↔ (millisFrom : ℚ) ≤ |n.value| := by
  have hlimited (i : Int) : millisFrom ≤ (limited i).natAbs ↔ millisFrom ≤ i.natAbs := by
    unfold limited millisFrom
    omega
  cases n with
  | integer i inRange =>
    have hvalue : |((i : Int) : ℚ)| = ((i.natAbs : Nat) : ℚ) := by
      rw [← Int.cast_abs, Int.abs_eq_natAbs, Int.cast_natCast]
    rw [timeCount, clampToWord_eq, hlimited, Number.value, hvalue, Nat.cast_le]
  | double x =>
    rw [timeCount, clampToWord_eq, hlimited, Binary64.truncate_eq, le_natAbs_towardZero_iff,
      Number.value]

/-- A count of seconds always stands for an instant, and a count of milliseconds does if the instant
can be shown. -/
theorem instantOf_eq (r : Int) :
    instantOf r =
      if r.natAbs < 100000000000 then some ⟨r * 1000⟩
      else if -8334601228800000 ≤ r ∧ r ≤ 8210266876799999 then some ⟨r⟩
      else none := by
  unfold instantOf Instant.ofSeconds? Instant.ofMillis? millisFrom
  by_cases hseconds : r.natAbs < 100000000000
  · rw [if_neg (Nat.not_le.mpr hseconds), if_pos hseconds]
    unfold Instant.earliest Instant.latest
    exact if_pos (by omega)
  · rw [if_pos (Nat.not_lt.mp hseconds), if_neg hseconds]
    rfl

/-! ## Words -/

/-- A count can be had in signed words of 64 bits: it is one, its magnitude is one, and the
milliseconds of a count of seconds are one. -/
structure FitsWord (r : Int) : Prop where
  count : (Int64.ofInt r).toInt = r
  magnitude : (Int64.ofInt r).abs.toInt = r.natAbs
  milliseconds : r.natAbs < 100000000000 → (Int64.ofInt r * 1000).toInt = r * 1000

/-- All words are such counts, but for the least one, which has no magnitude. -/
theorem fitsWord {r : Int} (hleast : -0x8000000000000000 < r)
    (hgreatest : r ≤ 0x7FFFFFFFFFFFFFFF) : FitsWord r := by
  have hr : (Int64.ofInt r).toInt = r := Int64.toInt_ofInt_of_le (by omega) (by omega)
  refine ⟨hr, ?_, fun hseconds => ?_⟩
  · have hne : (Int64.ofInt r).toBitVec ≠ BitVec.intMin 64 := by
      intro h
      have hmin : r = (BitVec.intMin 64).toInt := by
        rw [← h]
        exact hr.symm
      rw [hmin] at hleast
      exact absurd hleast (by decide)
    have habs := BitVec.toInt_abs_eq_natAbs_of_ne_intMin hne
    rw [← Int64.toBitVec_abs] at habs
    exact habs.trans (congrArg (fun i : Int => (i.natAbs : Int)) hr)
  · rw [Int64.toInt_mul, hr]
    show (r * 1000).bmod (2 ^ 64) = r * 1000
    exact Int.bmod_eq_of_le (by omega) (by omega)

theorem timeCount_bounds (n : Number) :
    -0x8000000000000000 ≤ timeCount n ∧ timeCount n ≤ 0x7FFFFFFFFFFFFFFF := by
  have hlimited (i : Int) : -0x8000000000000000 ≤ limited i ∧ limited i ≤ 0x7FFFFFFFFFFFFFFF := by
    unfold limited
    omega
  cases n with
  | integer i inRange =>
    rw [timeCount, clampToWord_eq]
    exact hlimited i
  | double x =>
    rw [timeCount, clampToWord_eq]
    exact hlimited x.truncate

/-! ## Integers that no word holds -/

/-- An integer above those that a signed word can hold counts more milliseconds than can be shown,
whether it is kept as an integer or as a double. -/
theorem latest_lt_timeCount {whole : List UInt8} {n : Number} (hwhole : WholeDigits whole)
    (hbig : 0x8000000000000000 ≤ decimal whole)
    (hn : Literal.number ⟨false, whole, [], none⟩ = .ok n) :
    8210266876799999 < timeCount n := by
  by_cases hshort : decimal whole ≤ Literal.maxSignificand
  · obtain ⟨inRange, rfl⟩ := Json.number_of_short_whole hshort hn
    rw [timeCount, clampToWord_eq, limited]
    omega
  · obtain ⟨y, rfl, hfloor⟩ := Json.number_of_long_whole hwhole (Nat.lt_of_not_le hshort) hn
    have htruncate : Binary64.truncate ⟨false, y⟩ = (y.floor : Int) := rfl
    rw [timeCount, clampToWord_eq, htruncate, limited]
    omega

/-! ## The instant -/

theorem instant?_of_number {a : Alert} {n : Number} (h : a.get? "timestamp" = some (.number n)) :
    a.instant? = instantOf (timeCount n) := by
  rw [instant?, h]

/-- A numeric timestamp has one integer value.  Unless that is the least word, it stands for the
instant that many seconds after the start of 1970 if its magnitude is below 100000000000, and
otherwise for the instant that many milliseconds after it if that can be shown; the bound is the one
on the exact value, and words of 64 bits are enough for the counts.  No instant is so late as an
integer that a signed word cannot hold, however many digits it has.  A timestamp that is missing or
no number stands for no instant. -/
theorem instant?_timestamp (a : Alert) :
    (∀ n, a.get? "timestamp" = some (.number n) →
      ∃ r, (∀ r', IntegerValue n r' ↔ r' = r) ∧
        (100000000000 ≤ r.natAbs ↔ (100000000000 : ℚ) ≤ |n.value|) ∧
        (r ≠ -0x8000000000000000 →
          FitsWord r ∧
          a.instant? =
            if r.natAbs < 100000000000 then some ⟨r * 1000⟩
            else if -8334601228800000 ≤ r ∧ r ≤ 8210266876799999 then some ⟨r⟩
            else none)) ∧
    (∀ whole n, WholeDigits whole → 0x8000000000000000 ≤ decimal whole →
      Literal.number ⟨false, whole, [], none⟩ = .ok n →
        a.get? "timestamp" = some (.number n) → a.instant? = none) ∧
    ((∀ n, a.get? "timestamp" ≠ some (.number n)) → a.instant? = none) := by
  refine ⟨fun n hget => ⟨timeCount n, fun r => integerValue_iff, ?_, fun hleast => ?_⟩, ?_, ?_⟩
  · have hunit := millisFrom_le_timeCount_iff n
    unfold millisFrom at hunit
    exact_mod_cast hunit
  · obtain ⟨hlower, hupper⟩ := timeCount_bounds n
    refine ⟨fitsWord (lt_of_le_of_ne hlower hleast.symm) hupper, ?_⟩
    rw [instant?_of_number hget, instantOf_eq]
  · intro whole n hwhole hbig hn hget
    have hlate := latest_lt_timeCount hwhole hbig hn
    rw [instant?_of_number hget, instantOf_eq, if_neg (by omega), if_neg (by omega)]
  · intro hnone
    unfold instant?
    split
    · rename_i n hget
      exact absurd hget (hnone n)
    · rfl

example : (⟨[("timestamp", .number (.integer 8210266876800000 (by decide)))]⟩ : Alert).instant? =
    none := by decide

/-- An alert of the earliest second that is counted in seconds, and one of the least integer that a
signed word cannot hold. -/
def earliestSecond : Alert := ⟨[("timestamp", .number (.integer (-99999999999) (by decide)))]⟩

@[inherit_doc earliestSecond]
def beyondWord : Alert := ⟨[("timestamp", .number (.integer 0x8000000000000000 (by decide)))]⟩

theorem instant?_timestamp_atTheBounds :
    earliestSecond.instant? = some ⟨-99999999999000⟩ ∧ beyondWord.instant? = none ∧
      (⟨[]⟩ : Alert).instant? = none := by
  have hrange : -0x8000000000000000 ≤ ((0x8000000000000000 : Nat) : Int) ∧
      ((0x8000000000000000 : Nat) : Int) < 0x10000000000000000 := by decide
  refine ⟨?_, ?_, ?_⟩
  · obtain ⟨r, hr, -, hinstant⟩ := (instant?_timestamp earliestSecond).1 _ rfl
    obtain rfl := (hr (-99999999999)).mp (.word (by decide) (by decide))
    rw [(hinstant (by decide)).2]
    rfl
  · refine (instant?_timestamp beyondWord).2.1 (Json.naturalDigits 0x8000000000000000) _
      (Json.wholeDigits_naturalDigits _) ?_ (Json.number_natural (by decide) hrange) rfl
    rw [Json.decimal_naturalDigits]
  · exact (instant?_timestamp ⟨[]⟩).2.2 fun n => nofun

end AlertConsole.Alert
