import AlertConsole.Proofs.Report.Rows
import Mathlib.Data.List.Forall2
set_option autoImplicit false

/-!
# What the text of a report determines

Two reports have the same text just if they show the same (`Report.text_eq_iff_tellAlike`): the same
time of receipt, and alerts with the same lines, or the same fault with the same bytes behind it.
The rows of an alert are told from those behind them because a section on metadata begins with rows
that nothing else begins with, and because no other row of the section is empty.
-/

namespace AlertConsole

/-! ## Being shown alike -/

/-- Two alerts are shown alike: the same text stands on each labelled line, and the lines of the
metadata, if there are any, are the same in the same order. -/
structure Alert.ShownAlike (a b : Alert) : Prop where
  lines : a.lines = b.lines
  metadata : rowsOf a.metadataLines = rowsOf b.metadataLines

/-- Two payloads are shown alike: they are of one kind, have equally many alerts that are shown
alike one by one, and, if they are batches, show the same declared count or none. -/
inductive Payload.ShownAlike : Payload → Payload → Prop where
  | single {a b : Alert} : a.ShownAlike b → ShownAlike (.single a) (.single b)
  | batch {b b' : Batch} : List.Forall₂ Alert.ShownAlike b.alerts b'.alerts →
      b.shownCount = b'.shownCount → ShownAlike (.batch b) (.batch b')

/-- Two reports tell the same of what was delivered: payloads that are shown alike, or faults with
the same message and the same text of the bytes that came. -/
inductive Report.TellAlike : Report → Report → Prop where
  | payload {p q : Payload} {raw raw' : List UInt8} {t t' : String} : p.ShownAlike q →
      TellAlike ⟨.ok p, raw, t⟩ ⟨.ok q, raw', t'⟩
  | fault {f g : PayloadFault} {raw raw' : List UInt8} {t t' : String} :
      f.message = g.message → Utf8.lossy raw = Utf8.lossy raw' →
      TellAlike ⟨.error f, raw, t⟩ ⟨.error g, raw', t'⟩

/-! ## Rows of alerts -/

/-- Texts that begin with different characters. -/
theorem append_ne_append {s t u v : String} {c d : Char} (hs : s.toList.head? = some c)
    (ht : t.toList.head? = some d) (hne : c ≠ d) : s ++ u ≠ t ++ v := by
  intro h
  have hhead := congrArg (fun s : String => s.toList.head?) h
  simp only [String.toList_append, List.head?_append, hs, ht, Option.some_or] at hhead
  exact hne (Option.some.inj hhead)

/-- What may stand behind the rows of an alert: nothing, or an empty row with a heading behind it
that is not the heading of a section on metadata. -/
structure FollowsAlert (rows : List String) : Prop where
  empty : ∀ row ∈ rows.head?, row = ""
  heading : ∀ row ∈ rows[1]?, row ≠ "Metadata:"

theorem followsAlert_nil : FollowsAlert [] := ⟨by simp, by simp⟩

theorem followsAlert_rowsFrom (total next : Nat) (alerts : List Alert) :
    FollowsAlert (rowsFrom total next alerts) := by
  cases alerts with
  | nil => exact followsAlert_nil
  | cons a alerts =>
    refine ⟨fun row hrow => (Option.some.inj hrow).symm, ?_⟩
    intro row hrow hmetadata
    obtain rfl := Option.some.inj hrow
    have hne : "--- Alert " ++ (toString next ++ ("/" ++ (toString total ++ " ---"))) ≠
      "Metadata:" ++ "" := append_ne_append rfl rfl (by decide)
    simp only [String.append_assoc] at hmetadata
    exact hne hmetadata

theorem FollowsAlert.not_section {rows rest : List String} (h : FollowsAlert rows) :
    rows ≠ "" :: "Metadata:" :: rest := by
  rintro rfl
  exact h.heading "Metadata:" rfl rfl

/-- A section on metadata, none of whose rows is empty, is told from what stands behind it. -/
theorem metadataSection_append_inj {xs ys s t : List String} (hxs : "" ∉ xs) (hys : "" ∉ ys)
    (hs : FollowsAlert s) (ht : FollowsAlert t)
    (h : metadataSection xs ++ s = metadataSection ys ++ t) : xs = ys ∧ s = t := by
  cases xs with
  | nil =>
    cases ys with
    | nil => exact ⟨rfl, h⟩
    | cons y ys => exact absurd h hs.not_section
  | cons x xs =>
    cases ys with
    | nil => exact absurd h.symm ht.not_section
    | cons y ys =>
      have hrest : (x :: xs) ++ s = (y :: ys) ++ t :=
        (List.cons.inj (List.cons.inj h).2).2
      exact append_inj_of_not_mem hxs hys hs.empty ht.empty hrest

namespace Alert

variable {a b : Alert}

theorem empty_not_mem_metadataLines (a : Alert) : "" ∉ rowsOf a.metadataLines := by
  rw [rowsOf, metadataLines, List.map_map]
  intro hmem
  obtain ⟨m, -, hm⟩ := List.mem_map.mp hmem
  have hchars := congrArg String.toList hm
  simp at hchars

/-- The labels are the same for all alerts, so that the rows tell the lines. -/
theorem lines_eq_of_rowsOf_eq (h : rowsOf a.lines = rowsOf b.lines) : a.lines = b.lines := by
  simpa [rowsOf, lines, String.append_right_inj] using h

/-- The rows of an alert are told from what stands behind them, and they tell what is shown. -/
theorem rows_append_inj {s t : List String} (hs : FollowsAlert s) (ht : FollowsAlert t)
    (h : a.rows ++ s = b.rows ++ t) : a.ShownAlike b ∧ s = t := by
  rw [rows, rows, List.append_assoc, List.append_assoc] at h
  obtain ⟨hlines, hrest⟩ := List.append_inj h rfl
  obtain ⟨hmetadata, hbehind⟩ := metadataSection_append_inj a.empty_not_mem_metadataLines
    b.empty_not_mem_metadataLines hs ht hrest
  exact ⟨⟨lines_eq_of_rowsOf_eq hlines, hmetadata⟩, hbehind⟩

theorem ShownAlike.rows_eq (h : a.ShownAlike b) : a.rows = b.rows := by
  rw [rows, rows, h.lines, h.metadata]

end Alert

/-! ## Rows of payloads -/

theorem shownAlike_of_rowsFrom_eq {total total' next : Nat} {alerts alerts' : List Alert}
    (h : rowsFrom total next alerts = rowsFrom total' next alerts') :
    List.Forall₂ Alert.ShownAlike alerts alerts' := by
  induction alerts generalizing next alerts' with
  | nil =>
    cases alerts' with
    | nil => exact .nil
    | cons b alerts' => cases h
  | cons a alerts ih =>
    cases alerts' with
    | nil => cases h
    | cons b alerts' =>
      -- the headings carry numbers that need not be read: the order of the rows tells enough
      have hrest : a.rows ++ rowsFrom total (next + 1) alerts =
        b.rows ++ rowsFrom total' (next + 1) alerts' := (List.cons.inj (List.cons.inj h).2).2
      obtain ⟨halike, hbehind⟩ := Alert.rows_append_inj (followsAlert_rowsFrom _ _ _)
        (followsAlert_rowsFrom _ _ _) hrest
      exact .cons halike (ih hbehind)

theorem rowsFrom_eq_of_shownAlike {alerts alerts' : List Alert}
    (h : List.Forall₂ Alert.ShownAlike alerts alerts') (total next : Nat) :
    rowsFrom total next alerts = rowsFrom total next alerts' := by
  induction h generalizing next with
  | nil => rfl
  | cons halike _ ih => rw [rowsFrom, rowsFrom, halike.rows_eq, ih]

/-- A number is told from its digits. -/
theorem toString_nat_injective : Function.Injective (fun n : Nat => toString n) := by
  intro k l h
  simp only [Nat.toString_eq_ofList_toDigits, String.ofList_inj] at h
  calc
    k = Nat.ofDigitChars 10 (Nat.toDigits 10 k) 0 := Nat.ofDigitChars_ten_toDigits.symm
    _ = Nat.ofDigitChars 10 (Nat.toDigits 10 l) 0 := by rw [h]
    _ = l := Nat.ofDigitChars_ten_toDigits

namespace Batch

theorem countNote_injective : Function.Injective countNote := by
  have hsome : ∀ k, countNote (some k) = " (declared count: " ++ (toString k ++ ")") :=
    fun k => String.append_assoc
  have hne : ∀ k, countNote (some k) ≠ countNote none := by
    intro k h
    rw [hsome] at h
    have hchars := congrArg String.toList h
    simp [countNote] at hchars
  intro x y h
  cases x with
  | none =>
    cases y with
    | none => rfl
    | some l => exact absurd h.symm (hne l)
  | some k =>
    cases y with
    | none => exact absurd h (hne k)
    | some l =>
      rw [hsome, hsome, String.append_right_inj, String.append_left_inj] at h
      exact congrArg some (toString_nat_injective h)

end Batch

namespace Payload

theorem rows_single_ne_batch (a : Alert) (b : Batch) : rows (.single a) ≠ rows (.batch b) := by
  intro h
  have hrow : "Alert ID: " ++ a.fieldText "alert_id" = b.headingRow :=
    (List.cons.inj (List.cons.inj h).2).1
  unfold Batch.headingRow Batch.totalText at hrow
  simp only [String.append_assoc] at hrow
  exact append_ne_append rfl rfl (by decide) hrow

/-- The rows of a payload tell what is shown. -/
theorem rows_eq_iff {p q : Payload} : p.rows = q.rows ↔ p.ShownAlike q := by
  constructor
  · intro h
    cases p with
    | single a =>
      cases q with
      | single b =>
        have hrows : a.rows ++ [] = b.rows ++ [] := by
          rw [List.append_nil, List.append_nil]
          exact (List.cons.inj h).2
        exact .single (Alert.rows_append_inj followsAlert_nil followsAlert_nil hrows).1
      | batch b => exact absurd h (rows_single_ne_batch a b)
    | batch b =>
      cases q with
      | single a => exact absurd h.symm (rows_single_ne_batch a b)
      | batch b' =>
        obtain ⟨hheading, hrows⟩ := List.cons.inj (List.cons.inj h).2
        have halerts := shownAlike_of_rowsFrom_eq hrows
        rw [Batch.headingRow, Batch.headingRow, halerts.length_eq, String.append_right_inj]
          at hheading
        exact .batch halerts (Batch.countNote_injective hheading)
  · intro h
    cases h with
    | single halike => rw [rows, rows, halike.rows_eq]
    | @batch b b' halerts hcount =>
      rw [rows, rows, Batch.headingRow, Batch.headingRow, hcount, halerts.length_eq,
        rowsFrom_eq_of_shownAlike halerts]

theorem exists_block_eq (p : Payload) : ∃ s, p.block = "\n" ++ s := by
  rw [p.block_eq]
  cases p with
  | single a => exact ⟨_, (rowsText_cons "" _).trans String.empty_append⟩
  | batch b => exact ⟨_, (rowsText_cons "" _).trans String.empty_append⟩

end Payload

/-! ## Reports -/

namespace Report

/-- No string that a report shows as it is has a newline in it, the bytes behind a fault apart. -/
def LineClean (r : Report) : Prop :=
  match r.outcome with
  | .ok p => ∀ a ∈ p.alerts, a.LineClean
  | .error _ => True

instance : (r : Report) → Decidable r.LineClean
  | ⟨.ok p, _, _⟩ => inferInstanceAs (Decidable (∀ a ∈ p.alerts, a.LineClean))
  | ⟨.error _, _, _⟩ => .isTrue trivial

theorem payload_block_ne_fault (p : Payload) (s : String) : p.block ≠ "Parse error: " ++ s := by
  obtain ⟨rest, hblock⟩ := p.exists_block_eq
  rw [hblock]
  exact append_ne_append rfl rfl (by decide)

theorem body_error (f : PayloadFault) (raw : List UInt8) (t : String) :
    body ⟨.error f, raw, t⟩ =
      "Parse error: " ++ (f.message ++ ("\n" ++ ("Raw data: " ++ (Utf8.lossy raw ++ "\n")))) := by
  simp only [body, String.append_assoc]

/-- No report on a fault is a report on a payload, whatever the payload is. -/
theorem text_error_ne_text_ok (fault : PayloadFault) (payload : Payload) (raw raw' : List UInt8)
    (receivedAt : String) :
    text ⟨.error fault, raw, receivedAt⟩ ≠ text ⟨.ok payload, raw', receivedAt⟩ := by
  intro h
  rw [text_eq_framed, text_eq_framed, framed_right_inj, body_error] at h
  exact payload_block_ne_fault payload _ h.symm

/-- What stands between the heading and the last line tells all but the time. -/
theorem body_eq_iff {r r' : Report} (hclean : r.LineClean) (hclean' : r'.LineClean) :
    r.body = r'.body ↔ r.TellAlike r' := by
  obtain ⟨outcome, raw, t⟩ := r
  obtain ⟨outcome', raw', t'⟩ := r'
  constructor
  · intro h
    cases outcome with
    | ok p =>
      cases outcome' with
      | ok q =>
        have hrows : rowsText p.rows = rowsText q.rows :=
          p.block_eq.symm.trans (Eq.trans h q.block_eq)
        exact .payload (Payload.rows_eq_iff.mp (rowsText_inj
          (Payload.oneLine_rows hclean) (Payload.oneLine_rows hclean') hrows))
      | error g =>
        rw [body_error] at h
        exact absurd h (payload_block_ne_fault p _)
    | error f =>
      rw [body_error] at h
      cases outcome' with
      | ok q => exact absurd h.symm (payload_block_ne_fault q _)
      | error g =>
        rw [body_error, String.append_right_inj] at h
        obtain ⟨hmessage, hraw⟩ := row_append_inj f.oneLine_message g.oneLine_message h
        rw [String.append_right_inj, String.append_left_inj] at hraw
        exact .fault hmessage hraw
  · intro h
    cases h with
    | @payload p q _ _ _ _ halike =>
      show p.block = q.block
      rw [p.block_eq, q.block_eq, Payload.rows_eq_iff.mpr halike]
    | fault hmessage hraw => rw [body_error, body_error, hmessage, hraw]

/-- The time of receipt is told from what stands behind it. -/
theorem text_eq_text_iff {r r' : Report} (ht : OneLine r.receivedAt)
    (ht' : OneLine r'.receivedAt) :
    r.text = r'.text ↔ r.receivedAt = r'.receivedAt ∧ r.body = r'.body := by
  constructor
  · intro h
    unfold text at h
    simp only [String.append_assoc, String.append_right_inj] at h
    obtain ⟨htime, hrest⟩ := row_append_inj ht ht' h
    rw [String.append_right_inj, String.append_right_inj, String.append_left_inj] at hrest
    exact ⟨htime, hrest⟩
  · rintro ⟨htime, hbody⟩
    unfold text
    rw [htime, hbody]

/-- The text of a report determines what it tells: two reports, received at any instants, have the
same text just if they show the same time and tell the same, as long as the strings that they
show as they are have no newlines in them. -/
theorem text_eq_iff_tellAlike {outcome outcome' : Except PayloadFault Payload}
    {raw raw' : List UInt8} {t t' : Calendar.Instant}
    (hclean : LineClean ⟨outcome, raw, t.clockText⟩)
    (hclean' : LineClean ⟨outcome', raw', t'.clockText⟩) :
    text ⟨outcome, raw, t.clockText⟩ = text ⟨outcome', raw', t'.clockText⟩ ↔
      t.clockText = t'.clockText ∧
        TellAlike ⟨outcome, raw, t.clockText⟩ ⟨outcome', raw', t'.clockText⟩ := by
  have htext := @text_eq_text_iff ⟨outcome, raw, t.clockText⟩ ⟨outcome', raw', t'.clockText⟩
    t.oneLine_clockText t'.oneLine_clockText
  rw [body_eq_iff hclean hclean'] at htext
  exact htext

/-- A batch that declares as many alerts as it has. -/
def countedBatch : Report :=
  ⟨.ok (.batch ⟨[⟨[("title", .string "t"), ("metadata", .object [("k", .null)])]⟩, ⟨[]⟩], some 2⟩),
    [], Calendar.Instant.clockText ⟨1700000000000⟩⟩

/-- A batch without a count, with members in another order and other values that look the same. -/
def uncountedBatch : Report :=
  ⟨.ok (.batch ⟨[⟨[("metadata", .object [("k", .string "None")]), ("title", .string "t")]⟩,
    ⟨[("alert_id", .null)]⟩], none⟩), [0xFF], Calendar.Instant.clockText ⟨1700000000999⟩⟩

theorem text_eq_iff_tellAlike_batches :
    countedBatch.LineClean ∧ uncountedBatch.LineClean ∧ countedBatch.text = uncountedBatch.text ∧
      countedBatch.TellAlike uncountedBatch := by
  have hcounted : countedBatch.LineClean := by decide
  have huncounted : uncountedBatch.LineClean := by decide
  have htext : countedBatch.text = uncountedBatch.text := by rfl
  exact ⟨hcounted, huncounted, htext, ((text_eq_iff_tellAlike hcounted huncounted).mp htext).2⟩

/-- A newline in a string can make a section on metadata that the alert does not have. -/
example : text ⟨.ok (.single ⟨[("timestamp", .string "None\n\nMetadata:\n  k: v")]⟩), [], "now"⟩ =
    text ⟨.ok (.single ⟨[("metadata", .object [("k", .string "v")])]⟩), [], "now"⟩ := by rfl

end Report

end AlertConsole
