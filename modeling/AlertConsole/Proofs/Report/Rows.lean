import AlertConsole.Proofs.Report.OneLine
import AlertConsole.Report
set_option autoImplicit false

/-!
# The rows of a report

A report on alerts is a list of rows, each ended by a newline: a row for each labelled line and for
each entry of the metadata, and headings with an empty row before each of them.  If no row has a
newline in it, the text tells the rows apart (`rowsText_inj`).
-/

namespace AlertConsole

open Json (Value)

/-! ## Rows of text -/

/-- Two lists that are cut where `a` occurs for the first time are cut at the same place. -/
theorem append_inj_of_not_mem {α : Type} {a : α} {xs ys s t : List α} (hxs : a ∉ xs)
    (hys : a ∉ ys) (hs : ∀ b ∈ s.head?, b = a) (ht : ∀ b ∈ t.head?, b = a)
    (h : xs ++ s = ys ++ t) : xs = ys ∧ s = t := by
  induction xs generalizing ys with
  | nil =>
    cases ys with
    | nil => exact ⟨rfl, h⟩
    | cons y ys =>
      rw [List.nil_append, List.cons_append] at h
      rw [h] at hs
      exact absurd (List.mem_cons.mpr (.inl (hs y rfl).symm)) hys
  | cons x xs ih =>
    cases ys with
    | nil =>
      rw [List.nil_append, List.cons_append] at h
      rw [← h] at ht
      exact absurd (List.mem_cons.mpr (.inl (ht x rfl).symm)) hxs
    | cons y ys =>
      rw [List.cons_append, List.cons_append, List.cons.injEq] at h
      rw [List.mem_cons, not_or] at hxs hys
      obtain ⟨hrest, htail⟩ := ih hxs.2 hys.2 h.2
      exact ⟨by rw [h.1, hrest], htail⟩

/-- The first newline of a text is where its first row ends. -/
theorem row_append_inj {row row' s t : String} (hrow : OneLine row) (hrow' : OneLine row')
    (h : row ++ ("\n" ++ s) = row' ++ ("\n" ++ t)) : row = row' ∧ s = t := by
  have hchars := congrArg String.toList h
  rw [String.toList_append, String.toList_append, String.toList_append, String.toList_append]
    at hchars
  obtain ⟨hfirst, hrest⟩ := append_inj_of_not_mem hrow hrow' (by simp) (by simp) hchars
  exact ⟨String.toList_inj.mp hfirst, String.toList_inj.mp (List.append_cancel_left hrest)⟩

/-- Rows, each ended by a newline. -/
def rowsText (rows : List String) : String := String.join (rows.map fun row => row ++ "\n")

@[simp] theorem rowsText_cons (row : String) (rows : List String) :
    rowsText (row :: rows) = row ++ ("\n" ++ rowsText rows) := by
  rw [rowsText, List.map_cons, String.join_cons, String.append_assoc, rowsText]

@[simp] theorem rowsText_append (rows rows' : List String) :
    rowsText (rows ++ rows') = rowsText rows ++ rowsText rows' := by
  rw [rowsText, List.map_append, String.join_append, rowsText, rowsText]

theorem rowsText_cons_ne_empty (row : String) (rows : List String) :
    rowsText (row :: rows) ≠ "" := by
  rw [rowsText_cons]
  intro h
  have hchars := congrArg String.toList h
  simp at hchars

/-- Rows without newlines are told by their text. -/
theorem rowsText_inj {rows rows' : List String} (hrows : ∀ row ∈ rows, OneLine row)
    (hrows' : ∀ row ∈ rows', OneLine row) (h : rowsText rows = rowsText rows') :
    rows = rows' := by
  induction rows generalizing rows' with
  | nil =>
    cases rows' with
    | nil => rfl
    | cons row' rows' => exact absurd h.symm (rowsText_cons_ne_empty row' rows')
  | cons row rows ih =>
    cases rows' with
    | nil => exact absurd h (rowsText_cons_ne_empty row rows)
    | cons row' rows' =>
      rw [List.forall_mem_cons] at hrows hrows'
      rw [rowsText_cons, rowsText_cons] at h
      obtain ⟨hrow, hrest⟩ := row_append_inj hrows.1 hrows'.1 h
      rw [hrow, ih hrows.2 hrows'.2 hrest]

/-! ## Alerts -/

/-- The rows of lines. -/
def rowsOf (lines : List (String × String)) : List String := lines.map fun l => l.1 ++ l.2

theorem linesText_eq (lines : List (String × String)) :
    linesText lines = rowsText (rowsOf lines) := by
  rw [linesText, rowsText, rowsOf, List.map_map]
  rfl

/-- The rows of a section on metadata, which is left out if there are no entries. -/
def metadataSection (entries : List String) : List String :=
  if entries.isEmpty then [] else "" :: "Metadata:" :: entries

namespace Alert

/-- The rows of an alert behind the row that its block begins with. -/
def rows (a : Alert) : List String := rowsOf a.lines ++ metadataSection (rowsOf a.metadataLines)

theorem block_eq (a : Alert) : a.block = "\n" ++ rowsText a.rows := by
  have hempty : (rowsOf a.metadataLines).isEmpty = a.metadata.isEmpty := by
    simp [rowsOf, metadataLines]
  rw [block, rows, rowsText_append, linesText_eq, linesText_eq, metadataSection, hempty,
    String.append_assoc]
  split
  · rfl
  · have hopen : "\nMetadata:\n" = "\n" ++ ("Metadata:" ++ "\n") := rfl
    rw [rowsText_cons, rowsText_cons, hopen, String.empty_append]
    simp only [String.append_assoc]

end Alert

/-! ## Batches -/

/-- The rows of the alerts of a batch, the first of them being number `next` of `total`. -/
def rowsFrom (total : Nat) (next : Nat) : List Alert → List String
  | [] => []
  | a :: as => "" :: s!"--- Alert {next}/{total} ---" :: (a.rows ++ rowsFrom total (next + 1) as)

theorem join_blocksFrom_eq (total next : Nat) (alerts : List Alert) :
    String.join (blocksFrom total next alerts) = rowsText (rowsFrom total next alerts) := by
  induction alerts generalizing next with
  | nil => rfl
  | cons a alerts ih =>
    have hopen : toString "\n--- Alert " = "\n" ++ toString "--- Alert " := rfl
    rw [blocksFrom, String.join_cons, String.join_cons, ih, a.block_eq, rowsFrom, rowsText_cons,
      rowsText_cons, rowsText_append, hopen]
    simp only [String.append_assoc, String.empty_append]

namespace Batch

/-- The declared count, if the heading of the report shows it. -/
def shownCount (b : Batch) : Option Nat := b.declaredCount.filter fun k => k ≠ b.alerts.length

/-- What the heading says about a declared count. -/
def countNote (count : Option Nat) : String := count.elim "" fun k => s!" (declared count: {k})"

/-- What the heading says about the number of alerts. -/
def totalText (total : Nat) : String := s!"📦 Batch notification: {total} alerts"

/-- The row of the heading. -/
def headingRow (b : Batch) : String := totalText b.alerts.length ++ countNote b.shownCount

theorem heading_eq (b : Batch) : b.heading = "\n" ++ (b.headingRow ++ "\n") := by
  have hopen : toString "\n📦 Batch notification: " =
    "\n" ++ toString "📦 Batch notification: " := rfl
  obtain ⟨alerts, declared⟩ := b
  unfold heading headingRow totalText shownCount
  dsimp only
  rw [hopen]
  cases declared with
  | none => simp only [String.append_assoc, Option.filter_none, countNote, Option.elim_none]
  | some k =>
    by_cases hk : k = alerts.length
    · have hfilter : (some k).filter (fun k => k ≠ alerts.length) = none := by simp [hk]
      simp only [String.append_assoc, hfilter, if_pos hk, countNote, Option.elim_none]
    · have hfilter : (some k).filter (fun k => k ≠ alerts.length) = some k := by simp [hk]
      simp only [String.append_assoc, hfilter, if_neg hk, countNote, Option.elim_some]

end Batch

/-! ## Payloads -/

/-- The rows of a payload. -/
def Payload.rows : Payload → List String
  | .single a => "" :: a.rows
  | .batch b => "" :: b.headingRow :: rowsFrom b.alerts.length 1 b.alerts

theorem Payload.block_eq (p : Payload) : p.block = rowsText p.rows := by
  cases p with
  | single a =>
    rw [rows, rowsText_cons, String.empty_append]
    exact a.block_eq
  | batch b =>
    rw [rows, rowsText_cons, rowsText_cons, String.empty_append, ← join_blocksFrom_eq]
    show b.heading ++ _ = _
    rw [b.heading_eq]
    simp only [String.append_assoc]

/-! ## What stands around them -/

namespace Report

/-- What a report says of its payload, or of a fault, with the heading and the last line that are
printed around it. -/
def framed (receivedAt said : String) : String :=
  "\n" ++ separator ++ "\n" ++ "✅ Webhook notification received at " ++ receivedAt ++ "\n" ++
    separator ++ "\n" ++ said ++ "\n" ++ separator ++ "\n" ++ "\n"

theorem text_eq_framed (r : Report) : r.text = framed r.receivedAt r.body := rfl

/-- Between the same heading and the same last line, other things said are another text. -/
theorem framed_right_inj {receivedAt said said' : String} :
    framed receivedAt said = framed receivedAt said' ↔ said = said' := by
  unfold framed
  simp only [String.append_left_inj, String.append_right_inj]

/-- What a report says begins a row of its text. -/
theorem exists_text_eq (r : Report) :
    ∃ front back, r.text = front ++ "\n" ++ r.body ++ back := by
  refine ⟨"\n" ++ separator ++ "\n" ++ "✅ Webhook notification received at " ++ r.receivedAt ++
    "\n" ++ separator, "\n" ++ separator ++ "\n" ++ "\n", ?_⟩
  rw [text_eq_framed]
  unfold framed
  simp only [String.append_assoc]

end Report

/-! ## Rows on one line -/

/-- The fields that have a labelled line. -/
def Alert.labelledFields : List String :=
  ["alert_id", "title", "message", "severity", "alert_type", "device_id", "created_at",
    "timestamp"]

/-- A value has no newline of its own to show: only a string is shown as it is. -/
def Json.Value.LineClean : Value → Prop
  | .string s => OneLine s
  | _ => True

instance : (v : Value) → Decidable v.LineClean
  | .string s => inferInstanceAs (Decidable (OneLine s))
  | .null | .bool _ | .number _ | .array _ | .object _ => .isTrue trivial

/-- No string that an alert shows as it is has a newline in it: neither those in the labelled
fields, nor the keys of the metadata, nor the strings in it. -/
structure Alert.LineClean (a : Alert) : Prop where
  fields : ∀ key ∈ labelledFields, ∀ v ∈ a.get? key, v.LineClean
  metadata : ∀ m ∈ a.metadata, OneLine m.1 ∧ m.2.LineClean

instance (a : Alert) : Decidable a.LineClean :=
  decidable_of_iff ((∀ key ∈ Alert.labelledFields, ∀ v ∈ a.get? key, v.LineClean) ∧
    ∀ m ∈ a.metadata, OneLine m.1 ∧ m.2.LineClean) ⟨fun h => ⟨h.1, h.2⟩, fun h => ⟨h.1, h.2⟩⟩

theorem oneLine_displayText {v : Option Value} (h : ∀ w ∈ v, w.LineClean) :
    OneLine (displayText v) := by
  unfold displayText
  split
  · decide
  · decide
  · exact h _ rfl
  · exact Value.oneLine_text _

namespace Alert

variable {a : Alert}

theorem LineClean.oneLine_fieldText (h : a.LineClean) {key : String}
    (hkey : key ∈ labelledFields) : OneLine (a.fieldText key) :=
  oneLine_displayText (h.fields key hkey)

theorem LineClean.oneLine_deviceText (h : a.LineClean) : OneLine a.deviceText := by
  have hdevice := h.fields "device_id" (by decide)
  unfold deviceText
  split
  · decide
  · next v hv => exact oneLine_displayText fun w hw => hdevice w (hv.trans hw)

theorem LineClean.oneLine_timestampText (h : a.LineClean) : OneLine a.timestampText := by
  have hfield := h.oneLine_fieldText (show "timestamp" ∈ labelledFields by decide)
  rw [timestampText, oneLine_append_iff]
  refine ⟨hfield, ?_⟩
  split
  · next t _ =>
    simp only [oneLine_append_iff, t.oneLine_clockText]
    decide
  · decide

theorem LineClean.oneLine_lines (h : a.LineClean) : ∀ row ∈ rowsOf a.lines, OneLine row := by
  have hlabel : ∀ label ∈ ["Alert ID: ", "Title: ", "Message: ", "Severity: ", "Alert Type: ",
      "Device ID: ", "Created At: ", "Timestamp: "], OneLine label := by decide
  have hfield : ∀ key ∈ labelledFields, OneLine (a.fieldText key) :=
    fun key hkey => h.oneLine_fieldText hkey
  simp only [labelledFields, List.forall_mem_cons] at hlabel hfield
  simp [rowsOf, lines, hlabel, hfield, h.oneLine_deviceText, h.oneLine_timestampText]

theorem LineClean.oneLine_metadataLines (h : a.LineClean) :
    ∀ row ∈ rowsOf a.metadataLines, OneLine row := by
  intro row hrow
  rw [rowsOf, metadataLines, List.map_map] at hrow
  obtain ⟨m, hm, rfl⟩ := List.mem_map.mp hrow
  have hmarks : OneLine "  " ∧ OneLine ": " := by decide
  obtain ⟨hkey, hclean⟩ := h.metadata m hm
  have hvalue : OneLine (displayText (some m.2)) := by
    refine oneLine_displayText fun w hw => ?_
    rwa [← Option.some.inj hw]
  simp [hmarks, hkey, hvalue]

theorem LineClean.oneLine_rows (h : a.LineClean) : ∀ row ∈ a.rows, OneLine row := by
  rw [rows, List.forall_mem_append]
  refine ⟨h.oneLine_lines, ?_⟩
  unfold metadataSection
  split
  · exact fun row hrow => absurd hrow List.not_mem_nil
  · rw [List.forall_mem_cons, List.forall_mem_cons]
    exact ⟨by decide, by decide, h.oneLine_metadataLines⟩

end Alert

theorem oneLine_rowsFrom (total next : Nat) {alerts : List Alert}
    (h : ∀ a ∈ alerts, a.LineClean) : ∀ row ∈ rowsFrom total next alerts, OneLine row := by
  induction alerts generalizing next with
  | nil => exact fun row hrow => absurd hrow List.not_mem_nil
  | cons a alerts ih =>
    rw [List.forall_mem_cons] at h
    rw [rowsFrom, List.forall_mem_cons, List.forall_mem_cons, List.forall_mem_append]
    refine ⟨by decide, ?_, h.1.oneLine_rows, ih (next + 1) h.2⟩
    simp only [oneLine_append_iff, oneLine_toString]
    decide

theorem Batch.oneLine_countNote (count : Option Nat) : OneLine (countNote count) := by
  cases count with
  | none => decide
  | some k =>
    show OneLine s!" (declared count: {k})"
    simp only [oneLine_append_iff, oneLine_toString]
    decide

theorem Batch.oneLine_headingRow (b : Batch) : OneLine b.headingRow := by
  have htotal : OneLine (totalText b.alerts.length) := by
    unfold totalText
    simp only [oneLine_append_iff, oneLine_toString]
    decide
  exact oneLine_append_iff.mpr ⟨htotal, oneLine_countNote _⟩

theorem Payload.oneLine_rows {p : Payload} (h : ∀ a ∈ p.alerts, a.LineClean) :
    ∀ row ∈ p.rows, OneLine row := by
  cases p with
  | single a =>
    rw [rows, List.forall_mem_cons]
    exact ⟨by decide, (h a (List.mem_singleton_self a)).oneLine_rows⟩
  | batch b =>
    rw [rows, List.forall_mem_cons, List.forall_mem_cons]
    exact ⟨by decide, b.oneLine_headingRow, oneLine_rowsFrom _ _ h⟩

end AlertConsole
