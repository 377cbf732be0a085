import AlertConsole.Proofs.Json.Composition
import AlertConsole.Proofs.Json.Naturals
import AlertConsole.Proofs.Payload.Classification
import AlertConsole.Proofs.Payload.Meaning
set_option autoImplicit false

/-!
# Single alerts put together into a batch

Bodies that hold one alert each can be put between brackets, with commas between them, as the
`alerts` of an object.  The batch that this object holds has the very alerts that the bodies hold
alone (`ofBytes_wrapped`), and its report shows each of them in the block that it has alone.
-/

namespace AlertConsole

open Json
open Utf8 (IsText)

/-! ## The text -/

/-- What may stand behind the alerts: nothing, or a comma and a count below `2 ^ 64`, with blanks
between the tokens. -/
inductive CountText : List UInt8 → Option Nat → Prop where
  | absent : CountText [] none
  | given {u v w x : List UInt8} {k : Nat} : Blanks u → Blanks v → Blanks w → Blanks x →
      k < 0x10000000000000000 →
      CountText (Byte.comma :: (u ++ (Utf8.bytes "\"count\"" ++ (v ++ Byte.colon ::
        (w ++ (Utf8.bytes (toString k) ++ x)))))) (some k)

/-- The text of an object whose `alerts` are the given bodies, with the text of a count behind
them. -/
def wrapped (bodies : List (List UInt8)) (countText : List UInt8) : List UInt8 :=
  Utf8.bytes "\x7b\"alerts\":[" ++ ([Byte.comma].intercalate bodies ++ (Utf8.bytes "]" ++
    (countText ++ Utf8.bytes "\x7d")))

/-- A body holds one alert, and is nested no deeper than there is room for in a batch. -/
structure HoldsAlone (body : List UInt8) (a : Alert) : Prop where
  holds : Payload.ofBytes body = .ok (.single a)
  shallow : ∃ ms, Accepted body (.object ms) ∧ (Tree.object ms).depth ≤ 125

/-- A body that is read with room to spare holds its alert alone. -/
theorem HoldsAlone.of_value {body r : List UInt8} {a : Alert} (hbody : IsText body)
    (hread : value body.length 125 body = .ok (.object a.members, r)) (hr : skipBlanks r = [])
    (hholds : Payload.ofBytes body = .ok (.single a)) : HoldsAlone body a := by
  obtain ⟨u, c, t, hsplit, hu, hc, ⟨hdepth, hv⟩, hrest⟩ := value_sound _ 125 hbody hread
  obtain ⟨w, rfl, hw, -⟩ := skipBlanks_sound hrest hr
  obtain ⟨ts, rfl⟩ := hv.exists_object
  rw [List.append_nil] at hsplit
  have hspelled : SpellsText body (.object ts) := by
    rw [hsplit]
    exact .mk hu hc hw
  exact ⟨hholds, ts, ⟨hspelled, Nat.le_trans hdepth (by decide), hv.inRange⟩, hdepth⟩

/-! ## What it spells -/

/-- A body that holds one alert spells a tree that stands for it. -/
theorem HoldsAlone.exists_tree {body : List UInt8} {a : Alert} (h : HoldsAlone body a) :
    ∃ t, SpellsText body t ∧ StandsWithin 125 t (.object a.members) := by
  obtain ⟨hholds, ts, haccepted, hdepth⟩ := h
  obtain ⟨v, hv⟩ := haccepted.inRange.exists_standsFor
  obtain ⟨written, rfl, -⟩ := standsFor_object_iff.mp hv
  have hpayload := (Payload.ofBytes_of_accepted haccepted hv).symm.trans hholds
  obtain rfl := Reading.alert_eq_of_single (Except.ok.inj hpayload)
  exact ⟨_, haccepted.spelled, hdepth, hv⟩

theorem exists_trees {bodies : List (List UInt8)} {alerts : List Alert}
    (h : List.Forall₂ HoldsAlone bodies alerts) :
    ∃ ts, List.Forall₂ SpellsText bodies ts ∧
      List.Forall₂ (StandsWithin 125) ts (alerts.map fun a => .object a.members) := by
  induction h with
  | nil => exact ⟨[], .nil, .nil⟩
  | cons hbody _ ih =>
    obtain ⟨t, hspelled, hstands⟩ := hbody.exists_tree
    obtain ⟨ts, hspells, hstand⟩ := ih
    exact ⟨t :: ts, .cons hspelled hspells, .cons hstands hstand⟩

/-- The members that a count makes, as trees. -/
def countTrees : Option Nat → List (String × Tree)
  | none => []
  | some k => [("count", .number (naturalLiteral k))]

/-- A key whose characters stand for themselves, and a value behind it. -/
theorem spellsMember_raw {key : String} {u v s : List UInt8} {t : Tree}
    (hkey : key.toList.all standsForItself = true) (hu : Blanks u) (hv : Blanks v)
    (hs : SpellsText s t) :
    SpellsMember Spells (u ++ (Byte.quote :: (Utf8.bytes key ++ [Byte.quote]) ++ v) ++
      Byte.colon :: s) (key, t) :=
  .mk (.mk hu (spellsString_raw hkey) hv) hs

/-- A member, and a count behind it. -/
theorem listed_countText {member countText : List UInt8} {m : String × Tree} {count : Option Nat}
    (hmember : SpellsMember Spells member m) (hcount : CountText countText count) :
    Listed (SpellsMember Spells) (member ++ countText) (m :: countTrees count) := by
  cases hcount with
  | absent =>
    rw [List.append_nil]
    exact .one hmember
  | @given u v w x k hu hv hw hx hk =>
    have hnumber : SpellsText (w ++ (Utf8.bytes (toString k) ++ x))
        (.number (naturalLiteral k)) := by
      rw [bytes_toString]
      exact .mk hw (spells_natural k) hx
    have hcount := @spellsMember_raw "count" u v _ _ (by decide) hu hv hnumber
    have hkey : Utf8.bytes "\"count\"" = Byte.quote :: (Utf8.bytes "count" ++ [Byte.quote]) := rfl
    refine .more hmember (.one ?_)
    rw [hkey]
    simpa using hcount

theorem spellsText_wrapped {bodies : List (List UInt8)} {ts : List Tree} {countText : List UInt8}
    {count : Option Nat} (hbodies : List.Forall₂ SpellsText bodies ts)
    (hcount : CountText countText count) :
    SpellsText (wrapped bodies countText)
      (.object (("alerts", .array ts) :: countTrees count)) := by
  have halerts := @spellsMember_raw "alerts" [] [] _ _ (by decide) blanks_nil blanks_nil
    (.bare (spells_array_intercalate hbodies))
  have hobject := Spells.object (listed_countText halerts hcount)
  have hopen : Utf8.bytes "\x7b\"alerts\":[" = Byte.openBrace :: Byte.quote ::
      (Utf8.bytes "alerts" ++ [Byte.quote, Byte.colon, Byte.openBracket]) := rfl
  have hclose : Utf8.bytes "]" = [Byte.closeBracket] := rfl
  have hend : Utf8.bytes "\x7d" = [Byte.closeBrace] := rfl
  rw [wrapped, hopen, hclose, hend]
  refine .bare ?_
  simpa using hobject

/-! ## What it stands for -/

theorem CountText.lt {countText : List UInt8} {count : Option Nat} (h : CountText countText count) :
    ∀ k ∈ count, k < 0x10000000000000000 := by
  cases h with
  | absent => exact fun k hk => absurd hk (Option.not_mem_none k)
  | given _ _ _ _ hk =>
    intro n hn
    obtain rfl := Option.some.inj hn
    exact hk

/-- The object tells the batch of the alerts that its elements stand for, and of the count. -/
theorem exists_tells {ts : List Tree} {alerts : List Alert} {count : Option Nat}
    (h : List.Forall₂ (StandsWithin 125) ts (alerts.map fun a => .object a.members))
    (hcount : ∀ k ∈ count, k < 0x10000000000000000) :
    ∃ o : Members,
      StandsWithin 127 (.object (("alerts", .array ts) :: countTrees count)) (.object o) ∧
      Batch.Tells o ⟨alerts, count⟩ ∧ "alert_id" ∉ o.keys := by
  have harray : StandsWithin 126 (.array ts) (.array (alerts.map fun a => .object a.members)) :=
    standsWithin_array_iff.mpr ⟨_, rfl, h⟩
  have halerts : Keyed (StandsWithin 126) ("alerts", .array ts)
      ("alerts", .array (alerts.map fun a => .object a.members)) := ⟨rfl, harray⟩
  cases count with
  | none =>
    refine ⟨_, standsWithin_object_iff.mpr ⟨_, rfl, .cons halerts .nil⟩, ⟨rfl, .absent⟩, ?_⟩
    rw [Members.keys_ofList]
    show "alert_id" ∉ ["alerts"].eraseDups
    decide
  | some k =>
    have hk := hcount k rfl
    have hrange : -0x8000000000000000 ≤ (k : Int) ∧ (k : Int) < 0x10000000000000000 := by omega
    have hnumber : Keyed (StandsWithin 126) ("count", .number (naturalLiteral k))
        ("count", .number (.integer k hrange)) :=
      ⟨rfl, standsWithin_of_isScalar rfl
        (standsFor_number_iff.mpr ⟨_, rfl, number_natural hk hrange⟩)⟩
    refine ⟨_, standsWithin_object_iff.mpr ⟨_, rfl, .cons halerts (.cons hnumber .nil)⟩,
      ⟨rfl, .natural hrange⟩, ?_⟩
    rw [Members.keys_ofList]
    show "alert_id" ∉ ["alerts", "count"].eraseDups
    decide

/-! ## Deliveries and reports -/

/-- The report on a body that holds an alert frames the block of this alert, whatever bytes it keeps
for a fault. -/
theorem HoldsAlone.body_eq {body : List UInt8} {a : Alert} (h : HoldsAlone body a)
    (raw : List UInt8) (receivedAt : String) :
    Report.body ⟨Payload.ofBytes body, raw, receivedAt⟩ = a.block := by
  rw [h.holds]
  rfl

theorem exists_holdsAlone {bodies : List (List UInt8)} {alerts : List Alert}
    (h : List.Forall₂ HoldsAlone bodies alerts) : ∀ body ∈ bodies, ∃ a, HoldsAlone body a :=
  ((List.forall₂_and_left _ _).mp (h.imp fun _ a ha => ⟨⟨a, ha⟩, ha⟩)).1

/-- The blocks of the alerts of a batch are the reports on the bodies that hold them alone. -/
theorem join_blocksFrom {bodies : List (List UInt8)} {alerts : List Alert}
    (h : List.Forall₂ HoldsAlone bodies alerts) (receivedAt : String) (total next : Nat) :
    String.join (blocksFrom total next alerts) =
      String.join ((bodies.zipIdx next).map fun p =>
        s!"\n--- Alert {p.2}/{total} ---" ++
          Report.body ⟨Payload.ofBytes p.1, p.1, receivedAt⟩) := by
  induction h generalizing next with
  | nil => rfl
  | @cons body a bodies alerts hbody _ ih =>
    rw [blocksFrom, List.zipIdx_cons, List.map_cons, String.join_cons, String.join_cons,
      String.join_cons, ih, hbody.body_eq, ← String.append_assoc]

/-- Bodies that hold one alert each make a batch of just these alerts, in order, with the count that
is put behind them.  Its report is a heading, which tells the count if that is not the number of the
alerts, and for each body a heading with its number and the block that is its own report; what is
printed around the batch is what is printed around each body alone. -/
theorem Payload.ofBytes_wrapped {bodies : List (List UInt8)} {alerts : List Alert}
    {countText : List UInt8} {count : Option Nat} (hbodies : List.Forall₂ HoldsAlone bodies alerts)
    (hcount : CountText countText count) :
    ofBytes (wrapped bodies countText) = .ok (.batch ⟨alerts, count⟩) ∧
    (∀ raw receivedAt,
      Report.text ⟨ofBytes (wrapped bodies countText), raw, receivedAt⟩ =
        Report.framed receivedAt
          (Report.body ⟨ofBytes (wrapped bodies countText), raw, receivedAt⟩) ∧
      Report.body ⟨ofBytes (wrapped bodies countText), raw, receivedAt⟩ =
        s!"\n📦 Batch notification: {bodies.length} alerts" ++
          (count.elim "" fun k => if k = bodies.length then "" else s!" (declared count: {k})") ++
          "\n" ++
          String.join ((bodies.zipIdx 1).map fun p =>
            s!"\n--- Alert {p.2}/{bodies.length} ---" ++
              Report.body ⟨ofBytes p.1, p.1, receivedAt⟩)) ∧
    ∀ body ∈ bodies, ∀ raw receivedAt,
      Report.text ⟨ofBytes body, raw, receivedAt⟩ =
        Report.framed receivedAt (Report.body ⟨ofBytes body, body, receivedAt⟩) := by
  obtain ⟨ts, hspelled, hstands⟩ := exists_trees hbodies
  obtain ⟨o, ho, htells, hid⟩ := exists_tells hstands hcount.lt
  have htext := spellsText_wrapped hspelled hcount
  have hread := (read_eq_ok_iff htext.isText).mpr ⟨_, htext, ho⟩
  have hbatch := ofBytes_of_tells htext.isText hread htells hid
  refine ⟨hbatch, fun raw receivedAt => ⟨Report.text_eq_framed _, ?_⟩, ?_⟩
  · rw [hbatch, hbodies.length_eq, ← join_blocksFrom hbodies]
    cases count <;> rfl
  · intro body hbody raw receivedAt
    obtain ⟨a, ha⟩ := exists_holdsAlone hbodies body hbody
    rw [Report.text_eq_framed, ha.body_eq, ha.body_eq]

/-- Two bodies, the second of which has blanks around it and `alerts` that are no array. -/
def titledAndNested : List (List UInt8) :=
  [Utf8.bytes "\x7b\"title\":\"t\"\x7d", Utf8.bytes " \x7b\"alerts\":\x7b\x7d\x7d\n"]

/-- The batch of the two, with a count of three. -/
def titledAndNestedText : List UInt8 :=
  Utf8.bytes ("\x7b\"alerts\":[" ++ "\x7b\"title\":\"t\"\x7d" ++ "," ++
    " \x7b\"alerts\":\x7b\x7d\x7d\n" ++ "],\"count\": 3\x7d")

theorem Payload.ofBytes_wrapped_titledAndNested :
    List.Forall₂ HoldsAlone titledAndNested
      [⟨[("title", .string "t")]⟩, ⟨[("alerts", .object [])]⟩] ∧
    CountText (Utf8.bytes ",\"count\": 3") (some 3) ∧
    ofBytes titledAndNestedText =
      .ok (.batch ⟨[⟨[("title", .string "t")]⟩, ⟨[("alerts", .object [])]⟩], some 3⟩) ∧
    ∀ receivedAt, Report.text ⟨ofBytes titledAndNestedText, titledAndNestedText, receivedAt⟩ =
      Report.framed receivedAt
        ("\n📦 Batch notification: 2 alerts (declared count: 3)\n" ++
          "\n--- Alert 1/2 ---" ++ Alert.block ⟨[("title", .string "t")]⟩ ++
          "\n--- Alert 2/2 ---" ++ Alert.block ⟨[("alerts", .object [])]⟩) := by
  have htitle : read (Utf8.bytes "\x7b\"title\":\"t\"\x7d") =
      .ok (.object [("title", .string "t")]) := rfl
  have htitled : HoldsAlone (Utf8.bytes "\x7b\"title\":\"t\"\x7d")
      ⟨[("title", .string "t")]⟩ :=
    @HoldsAlone.of_value _ [] _ (Utf8.isText_bytes _) rfl rfl
      (ofBytes_of_object (Utf8.isText_bytes _) htitle)
  have hobject : read (Utf8.bytes " \x7b\"alerts\":\x7b\x7d\x7d\n") =
      .ok (.object [("alerts", .object [])]) := rfl
  have hnested : HoldsAlone (Utf8.bytes " \x7b\"alerts\":\x7b\x7d\x7d\n")
      ⟨[("alerts", .object [])]⟩ :=
    @HoldsAlone.of_value _ [Byte.newline] _ (Utf8.isText_bytes _) rfl rfl
      (ofBytes_of_object (Utf8.isText_bytes _) hobject)
  have hspace : Blanks [Byte.space] := by
    intro b hb
    exact .inl (List.mem_singleton.mp hb)
  have hcount : CountText (Utf8.bytes ",\"count\": 3") (some 3) :=
    @CountText.given [] [] [Byte.space] [] 3 blanks_nil blanks_nil hspace blanks_nil (by decide)
  have hbodies := List.Forall₂.cons htitled (.cons hnested .nil)
  obtain ⟨hbatch, hreport, -⟩ := Payload.ofBytes_wrapped hbodies hcount
  refine ⟨hbodies, hcount, hbatch, fun receivedAt => ?_⟩
  obtain ⟨htext, hbody⟩ := hreport titledAndNestedText receivedAt
  refine htext.trans (congrArg (Report.framed receivedAt) (hbody.trans ?_))
  rw [← join_blocksFrom hbodies]
  rfl

end AlertConsole
