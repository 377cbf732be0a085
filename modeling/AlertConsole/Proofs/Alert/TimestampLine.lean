import AlertConsole.Proofs.Calendar.Clock
import AlertConsole.Report
set_option autoImplicit false

/-!
# The line of a timestamp

Behind a timestamp that stands for an instant, its line shows the date and the time of day in UTC;
behind any other it shows nothing.  `lines_timestamp` says that what is shown is the second in which
the instant lies, so that different seconds have different texts and later ones later fields.
-/

namespace AlertConsole.Alert

open Calendar (Clock Instant)

/-- The line of the timestamp shows a text in parentheses behind the timestamp itself. -/
def ShowsUtc (a : Alert) (utc : List Char) : Prop :=
  a.lines.lookup "Timestamp: " =
    some (a.fieldText "timestamp" ++ " (" ++ String.ofList utc ++ ")")

theorem lookup_timestamp (a : Alert) : a.lines.lookup "Timestamp: " = some a.timestampText := rfl

/-- What is shown in parentheses is the text of the instant. -/
theorem showsUtc_iff {a : Alert} {t : Instant} (h : a.instant? = some t) {utc : List Char} :
    a.ShowsUtc utc ↔ utc = (t.clockText ++ " UTC").toList := by
  have htext : a.timestampText =
      a.fieldText "timestamp" ++ " (" ++ (t.clockText ++ " UTC") ++ ")" := by
    have hclose : " UTC)" = " UTC" ++ ")" := rfl
    rw [timestampText, h]
    dsimp only
    rw [hclose]
    simp only [String.append_assoc]
  rw [ShowsUtc, lookup_timestamp, htext, Option.some.injEq, String.append_left_inj,
    String.append_right_inj, ← String.toList_inj, String.toList_ofList]
  exact eq_comm

/-- With an instant, the text in parentheses writes the fields of a date that exists and of a time
of day, and they count back to the second in which the instant lies.  Texts of different seconds
differ, and the fields of a later second are later.  Without an instant there is no such text. -/
theorem lines_timestamp (a : Alert) :
    (a.instant? = none → a.lines.lookup "Timestamp: " = some (a.fieldText "timestamp")) ∧
    (∀ t, a.instant? = some t → ∃ (utc : List Char) (c : Clock),
      a.ShowsUtc utc ∧ c.Writes utc ∧ c.Valid ∧ c.toSeconds = Int.fdiv t.millis 1000) ∧
    ∀ (b : Alert) (t u : Instant) (utc utc' : List Char), a.instant? = some t →
      b.instant? = some u → a.ShowsUtc utc → b.ShowsUtc utc' →
        (Int.fdiv t.millis 1000 ≠ Int.fdiv u.millis 1000 → utc ≠ utc') ∧
        (Int.fdiv t.millis 1000 < Int.fdiv u.millis 1000 →
          ∀ c d : Clock, c.Writes utc → d.Writes utc' → c.Before d) := by
  refine ⟨fun hnone => ?_, fun t ht => ?_, fun b t u utc utc' ht hu hutc hutc' => ?_⟩
  · rw [lookup_timestamp, timestampText, hnone]
    exact congrArg some String.append_empty
  · refine ⟨(t.clockText ++ " UTC").toList, t.clock, ?_, t.writes_clock, t.valid_clock, ?_⟩
    · exact (showsUtc_iff ht).mpr rfl
    · exact t.toSeconds_clock
  · obtain rfl := (showsUtc_iff ht).mp hutc
    obtain rfl := (showsUtc_iff hu).mp hutc'
    have hclock {c : Clock} {t : Instant} (hc : c.Writes (t.clockText ++ " UTC").toList) :
        c = t.clock := hc.unique t.writes_clock
    constructor
    · intro hseconds htext
      have hwrites : u.clock.Writes (t.clockText ++ " UTC").toList := by
        rw [htext]
        exact u.writes_clock
      have hsame : u.clock = t.clock := hclock hwrites
      refine hseconds ?_
      calc Int.fdiv t.millis 1000 = t.clock.toSeconds := t.toSeconds_clock.symm
        _ = u.clock.toSeconds := by rw [hsame]
        _ = Int.fdiv u.millis 1000 := u.toSeconds_clock
    · intro hseconds c d hc hd
      obtain rfl := hclock hc
      obtain rfl := hclock hd
      refine Clock.before_of_toSeconds_lt t.valid_clock u.valid_clock ?_
      rw [t.toSeconds_clock, u.toSeconds_clock]
      exact hseconds

example : (⟨[("timestamp", .number (.integer (-62167219201) (by decide)))]⟩ : Alert).timestampText =
    "-62167219201 (-0001-12-31 23:59:59 UTC)" := rfl

/-- An alert of the last second before year 0, and one of a millisecond before a full second. -/
def beforeYearZero : Alert := ⟨[("timestamp", .number (.integer (-62167219201) (by decide)))]⟩

@[inherit_doc beforeYearZero]
def beforeEpoch : Alert := ⟨[("timestamp", .number (.integer (-100000000001) (by decide)))]⟩

theorem lines_timestamp_beforeEpoch :
    beforeYearZero.instant? = some ⟨-62167219201000⟩ ∧ beforeEpoch.instant? = some ⟨-100000000001⟩ ∧
    ∃ (utc utc' : List Char) (c d : Clock),
      beforeYearZero.ShowsUtc utc ∧ beforeEpoch.ShowsUtc utc' ∧ utc ≠ utc' ∧
      c.Writes utc ∧ d.Writes utc' ∧ c.Before d ∧
      c.toSeconds = -62167219201 ∧ d.toSeconds = -100000001 := by
  have hyear : beforeYearZero.instant? = some ⟨-62167219201000⟩ := by decide
  have hbefore : beforeEpoch.instant? = some ⟨-100000000001⟩ := by decide
  obtain ⟨-, hshown, hcompared⟩ := lines_timestamp beforeYearZero
  obtain ⟨-, hshown', -⟩ := lines_timestamp beforeEpoch
  obtain ⟨utc, c, hutc, hc, -, hseconds⟩ := hshown _ hyear
  obtain ⟨utc', d, hutc', hd, -, hseconds'⟩ := hshown' _ hbefore
  obtain ⟨hne, hlater⟩ := hcompared beforeEpoch _ _ utc utc' hyear hbefore hutc hutc'
  exact ⟨hyear, hbefore, utc, utc', c, d, hutc, hutc', hne (by decide), hc, hd,
    hlater (by decide) c d hc hd, hseconds, hseconds'⟩

end AlertConsole.Alert
