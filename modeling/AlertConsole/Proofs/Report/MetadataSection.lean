import AlertConsole.Proofs.Json.Printing
import AlertConsole.Proofs.Payload.Sources
import AlertConsole.Proofs.Report.Rows
set_option autoImplicit false

/-!
# The section on metadata

What the last part of an alert's block shows is told by the sender's text: the object that is
written last for `metadata` in the members of the alert (`ShowsMetadata`).
`Payload.ofBytes_shows_metadata` says so for each alert of each payload.
-/

namespace AlertConsole

open Json

/-! ## What the text shows -/

/-- The line for an entry of the metadata. -/
def entryRow (m : String × Value) : String := "  " ++ m.1 ++ ": " ++ displayText (some m.2)

/-- The line for a key of the metadata shows what is written for it last. -/
def ShowsEntry (entries : List (String × Tree)) (key line : String) : Prop :=
  ∃ t v, entries.reverse.lookup key = some t ∧ t.StandsFor v ∧ line = entryRow (key, v)

/-- The section for members as they are written: none if the last of them for `metadata` is no
object that has entries, and else a line for each key of it in the order in which the keys are
first written. -/
inductive ShowsMetadata (ms : List (String × Tree)) : String → Prop where
  | absent : (∀ entries, ms.reverse.lookup "metadata" = some (.object entries) → entries = []) →
      ShowsMetadata ms ""
  | shown {entries : List (String × Tree)} {rows : List String} :
      ms.reverse.lookup "metadata" = some (.object entries) → entries ≠ [] →
      List.Forall₂ (ShowsEntry entries) (entries.map Prod.fst).eraseDups rows →
      ShowsMetadata ms ("\nMetadata:\n" ++ rowsText rows)

theorem ShowsEntry.unique {entries : List (String × Tree)} {key line line' : String}
    (h : ShowsEntry entries key line) (h' : ShowsEntry entries key line') : line = line' := by
  obtain ⟨t, v, ht, hv, rfl⟩ := h
  obtain ⟨t', v', ht', hv', rfl⟩ := h'
  obtain rfl := Option.some.inj (ht.symm.trans ht')
  obtain rfl := Option.some.inj (hv.symm.trans hv')
  rfl

/-- Members are shown in one way. -/
theorem ShowsMetadata.unique {ms : List (String × Tree)} {s s' : String}
    (h : ShowsMetadata ms s) (h' : ShowsMetadata ms s') : s = s' := by
  cases h with
  | absent hnone =>
    cases h' with
    | absent => rfl
    | shown hlast hne => exact absurd (hnone _ hlast) hne
  | @shown entries _ hlast hne hrows =>
    cases h' with
    | absent hnone => exact absurd (hnone _ hlast) hne
    | shown hlast' _ hrows' =>
      cases hlast.symm.trans hlast'
      have hunique : Relator.RightUnique (ShowsEntry entries) := fun _ _ _ h h' => h.unique h'
      rw [List.right_unique_forall₂' hunique hrows hrows']

/-- Only the last member for `metadata` counts. -/
theorem ShowsMetadata.of_last_eq {ms ns : List (String × Tree)} {s : String}
    (h : ShowsMetadata ms s)
    (hlast : ms.reverse.lookup "metadata" = ns.reverse.lookup "metadata") :
    ShowsMetadata ns s := by
  cases h with
  | absent hnone => exact .absent (hlast ▸ hnone)
  | shown hentries hne hrows => exact .shown (hlast ▸ hentries) hne hrows

/-! ## What the block shows -/

/-- The lines for the entries that some members settle into. -/
theorem showsEntries {entries : List (String × Tree)} {o : Members}
    (h : (Tree.object entries).StandsFor (.object o)) :
    List.Forall₂ (ShowsEntry entries) (entries.map Prod.fst).eraseDups
      (o.map entryRow) := by
  obtain ⟨written, ho, hms⟩ := standsFor_object_iff.mp h
  obtain rfl := Value.object.inj ho
  rw [map_fst_eq hms, ← Members.keys_ofList, Members.keys, List.forall₂_map_left_iff,
    List.forall₂_map_right_iff, List.forall₂_same]
  intro m hm
  have hvalue := (Members.get?_eq_some_iff (Members.nodup_keys_ofList written)).mpr hm
  have hrel := Tree.StandsFor.get?_rel h m.1
  rw [hvalue] at hrel
  obtain ⟨t, ht, hv⟩ := exists_of_some_rel hrel
  exact ⟨t, m.2, ht, hv, rfl⟩

namespace Alert

/-- The last part of an alert's block. -/
def metadataText (a : Alert) : String :=
  if a.metadata.isEmpty then "" else "\nMetadata:\n" ++ linesText a.metadataLines

theorem block_eq_metadataText (a : Alert) :
    a.block = "\n" ++ linesText a.lines ++ a.metadataText := rfl

theorem metadataText_eq_empty {a : Alert} (h : ∀ o, a.get? "metadata" ≠ some (.object o)) :
    a.metadataText = "" := by
  have hnone : a.metadata = [] := by
    rw [Alert.metadata]
    split
    · rename_i hvalue
      exact absurd hvalue (h _)
    · rfl
  rw [metadataText, hnone]
  rfl

theorem metadataText_of_object {a : Alert} {o : Members}
    (h : a.get? "metadata" = some (.object o)) :
    a.metadataText =
      if o.isEmpty then "" else "\nMetadata:\n" ++ rowsText (o.map entryRow) := by
  have hrows : rowsOf (o.map fun m => ("  " ++ m.1 ++ ": ", displayText (some m.2))) =
      o.map entryRow := List.map_map
  rw [metadataText, metadataLines, Alert.metadata, h, linesText_eq, hrows]

/-- The last part of the block is the section for the members that are written for the alert. -/
theorem WrittenIn.showsMetadata {body : List UInt8} {a : Alert} {ms : List (String × Tree)}
    (h : a.WrittenIn body ms) : ShowsMetadata ms a.metadataText := by
  have hrel := Tree.StandsFor.get?_rel h.standsFor "metadata"
  by_cases hlast : ∃ entries, ms.reverse.lookup "metadata" = some (.object entries)
  · obtain ⟨entries, hlast⟩ := hlast
    rw [hlast] at hrel
    obtain ⟨v, hvalue, hv⟩ := exists_of_rel_some hrel
    obtain ⟨written, rfl, hwritten⟩ := standsFor_object_iff.mp hv
    have hrows := showsEntries hv
    rw [metadataText_of_object hvalue]
    by_cases hnone : entries = []
    · obtain rfl := hnone
      obtain rfl := List.forall₂_nil_left_iff.mp hwritten
      exact .absent fun entries hentries => by cases hlast.symm.trans hentries; rfl
    · -- a key that is written has a line
      have hne : Members.ofList written ≠ [] := by
        obtain ⟨m, entries, rfl⟩ := List.exists_cons_of_ne_nil hnone
        intro hempty
        rw [hempty, List.map_nil, List.forall₂_nil_right_iff, List.map_cons, List.eraseDups_cons]
          at hrows
        contradiction
      rw [if_neg (mt List.isEmpty_iff.mp hne)]
      exact .shown hlast hnone hrows
  · rw [metadataText_eq_empty fun o hvalue => ?_]
    · exact .absent fun entries hentries => absurd ⟨entries, hentries⟩ hlast
    · -- only an object stands for an object
      rw [Alert.get?] at hvalue
      rw [hvalue] at hrel
      obtain ⟨t, ht, hv⟩ := exists_of_some_rel hrel
      obtain ⟨entries, rfl⟩ := hv.exists_object
      exact hlast ⟨entries, ht⟩

end Alert

/-! ## Where the block is printed -/

theorem exists_join_eq {s : String} {parts : List String} (h : s ∈ parts) :
    ∃ front back, String.join parts = front ++ s ++ back := by
  obtain ⟨before, after, rfl⟩ := List.append_of_mem h
  refine ⟨String.join before, String.join after, ?_⟩
  rw [String.join_append, String.join_cons, String.append_assoc]

theorem block_mem_blocksFrom {a : Alert} {alerts : List Alert} (ha : a ∈ alerts)
    (total next : Nat) : a.block ∈ blocksFrom total next alerts := by
  induction alerts generalizing next with
  | nil => contradiction
  | cons b alerts ih =>
    rw [blocksFrom]
    obtain rfl | ha := List.mem_cons.mp ha
    · exact List.mem_cons_of_mem _ List.mem_cons_self
    · exact List.mem_cons_of_mem _ (List.mem_cons_of_mem _ (ih ha (next + 1)))

namespace Payload

theorem exists_append_block_append {p : Payload} {a : Alert} (ha : a ∈ p.alerts) :
    ∃ front back, p.block = front ++ a.block ++ back := by
  cases p with
  | single b =>
    obtain rfl := List.mem_singleton.mp ha
    exact ⟨"", "", by rw [String.empty_append, String.append_empty, block]⟩
  | batch b =>
    have hmem : a.block ∈ blocksFrom b.alerts.length 1 b.alerts := block_mem_blocksFrom ha _ _
    obtain ⟨front, back, hjoin⟩ := exists_join_eq hmem
    refine ⟨b.heading ++ front, back, ?_⟩
    rw [block, Batch.block, hjoin]
    simp only [String.append_assoc]

/-- Each alert of a payload is written in its body, and its block, which the report on the payload
has in it, ends with the section for the members that are written there.  Two alerts for which the
same metadata is written last end with the same section. -/
theorem ofBytes_shows_metadata {body : List UInt8} {p : Payload} {a : Alert}
    (h : ofBytes body = .ok p) (ha : a ∈ p.alerts) :
    (∃ ms, a.WrittenIn body ms) ∧
    (∀ ms, a.WrittenIn body ms → ∀ s,
      a.block = "\n" ++ linesText a.lines ++ s ↔ ShowsMetadata ms s) ∧
    (∀ ms body' b ns, a.WrittenIn body ms → Alert.WrittenIn body' b ns →
      ms.reverse.lookup "metadata" = ns.reverse.lookup "metadata" → ∀ s,
        a.block = "\n" ++ linesText a.lines ++ s ↔ b.block = "\n" ++ linesText b.lines ++ s) ∧
    ∀ raw time, ∃ front back,
      Report.text ⟨.ok p, raw, time⟩ = front ++ a.block ++ back := by
  have hsection (body : List UInt8) (b : Alert) (ns : List (String × Tree))
      (hb : b.WrittenIn body ns) (s : String) :
      b.block = "\n" ++ linesText b.lines ++ s ↔ ShowsMetadata ns s := by
    rw [b.block_eq_metadataText, String.append_right_inj]
    constructor
    · rintro rfl
      exact hb.showsMetadata
    · exact hb.showsMetadata.unique
  refine ⟨exists_writtenIn h ha, hsection body a, ?_, fun raw time => ?_⟩
  · intro ms body' b ns hms hns hlast s
    rw [hsection body a ms hms, hsection body' b ns hns]
    exact ⟨fun hs => hs.of_last_eq hlast, fun hs => hs.of_last_eq hlast.symm⟩
  · obtain ⟨front, back, hblock⟩ := exists_append_block_append ha
    obtain ⟨above, below, htext⟩ := Report.exists_text_eq ⟨.ok p, raw, time⟩
    have hbody : Report.body ⟨.ok p, raw, time⟩ = front ++ a.block ++ back := hblock
    refine ⟨above ++ "\n" ++ front, back ++ below, ?_⟩
    rw [htext, hbody]
    simp only [String.append_assoc]

/-- Metadata with a key that is written twice, the second time by an escape. -/
def repeatedEntries : List (String × Tree) :=
  [("b", .null), ("a", .bool true), ("b", .string "x")]

/-- Members with metadata written twice. -/
def repeatedMetadata : List (String × Tree) :=
  [("metadata", .object [("c", .null)]), ("metadata", .object repeatedEntries)]

/-- The alert that has the last of it. -/
def repeatedAlert : Alert :=
  ⟨[("metadata", .object [("b", .string "x"), ("a", .bool true)])]⟩

/-- A batch of that alert. -/
def repeatedText : List UInt8 :=
  Utf8.bytes ("\x7b\"alerts\":[\x7b\"metadata\":\x7b\"c\":null\x7d,\"metadata\":" ++
    "\x7b\"b\":null,\"a\":true,\"\\u0062\":\"x\"\x7d\x7d]\x7d")

theorem accepted_repeatedText :
    Accepted repeatedText (.object [("alerts", .array [.object repeatedMetadata])]) where
  spelled := by
    have hkey (s : String) (h : s.toList.all standsForItself = true) :=
      Padded.bare (spellsString_raw h)
    have hunit : SpellsUnit [0x30, 0x30, 0x36, 0x32] 'b'.toNat :=
      @SpellsUnit.mk _ _ _ _ 0 0 6 2 rfl rfl rfl rfl
    have hescaped := Padded.bare (@SpellsString.mk _ "b" (.cons (.unit hunit) .nil))
    have hmetadata := hkey "metadata" (by decide)
    have hearlier := spells_object_intercalate (.cons
      (SpellsMember.mk (hkey "c" (by decide)) (.bare Spells.nullWord)) .nil)
    have hstring := Spells.string (@spellsString_raw "x" (by decide))
    have hlater := spells_object_intercalate (.cons
      (SpellsMember.mk (hkey "b" (by decide)) (.bare Spells.nullWord)) (.cons
      (SpellsMember.mk (hkey "a" (by decide)) (.bare Spells.trueWord)) (.cons
      (SpellsMember.mk hescaped (.bare hstring)) .nil)))
    have halert := spells_object_intercalate (.cons (SpellsMember.mk hmetadata (.bare hearlier))
      (.cons (SpellsMember.mk hmetadata (.bare hlater)) .nil))
    have halerts := spells_array_intercalate (.cons (.bare halert) .nil)
    have hbatch := spells_object_intercalate (.cons
      (SpellsMember.mk (hkey "alerts" (by decide)) (.bare halerts)) .nil)
    exact .bare hbatch
  shallow := by decide
  inRange := fun l (hl : l ∈ []) => absurd hl List.not_mem_nil

theorem ofBytes_shows_metadata_repeatedText :
    ofBytes repeatedText = .ok (.batch ⟨[repeatedAlert], none⟩) ∧
    repeatedAlert ∈ (Payload.batch ⟨[repeatedAlert], none⟩).alerts ∧
    repeatedAlert.block =
      "\n" ++ linesText repeatedAlert.lines ++ "\nMetadata:\n  b: x\n  a: true\n" := by
  have hread : Json.read repeatedText =
      .ok (.object [("alerts", .array [.object repeatedAlert.members])]) := rfl
  have hbatch : ofBytes repeatedText = .ok (.batch ⟨[repeatedAlert], none⟩) :=
    ofBytes_of_object (Utf8.isText_bytes _) hread
  have hmem : repeatedAlert ∈ (Payload.batch ⟨[repeatedAlert], none⟩).alerts :=
    List.mem_singleton.mpr rfl
  have hwritten : repeatedAlert.WrittenIn repeatedText repeatedMetadata :=
    @Alert.WrittenIn.batched _ _ _ _ _ _ 0 accepted_repeatedText hbatch rfl rfl rfl
  have hshown : ShowsMetadata repeatedMetadata
      ("\nMetadata:\n" ++ rowsText ["  b: x", "  a: true"]) :=
    .shown rfl (List.cons_ne_nil _ _)
      (.cons ⟨.string "x", .string "x", rfl, rfl, rfl⟩
        (.cons ⟨.bool true, .bool true, rfl, rfl, rfl⟩ .nil))
  exact ⟨hbatch, hmem, ((ofBytes_shows_metadata hbatch hmem).2.1 _ hwritten _).mpr hshown⟩

end Payload
end AlertConsole
