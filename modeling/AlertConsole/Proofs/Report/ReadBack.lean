import AlertConsole.Proofs.Json.Printing
import AlertConsole.Proofs.Payload.Language
import AlertConsole.Report
set_option autoImplicit false

/-!
# Values that are shown and read back

The text that a report shows for an integer, a truth value, an array or an object is a JSON text.
If there are no doubles in the value and no object repeats a key, the text is read back as the very
value, with its members in their order (`displayText_readBack`).
-/

namespace AlertConsole

open Json

/-- Neither a string nor null is shown as JSON, and every other value is. -/
theorem displayText_eq_text {v : Value} (hstring : ∀ s, v ≠ .string s) (hnull : v ≠ .null) :
    displayText (some v) = v.text := by
  cases v with
  | null => exact absurd rfl hnull
  | string s => exact absurd rfl (hstring s)
  | bool b => rfl
  | number n => rfl
  | array vs => rfl
  | object ms => rfl

/-- The text shown for a value without doubles and without repeated keys, nested at most 127 deep,
is a JSON text that is read back as that value, and no character of it is below U+0020.  The text
shown for an object holds the payload that every other spelling of the object holds. -/
theorem displayText_readBack {v : Value} (hdoubles : v.NoDoubles) (hkeys : v.DistinctKeys)
    (hdepth : v.depth ≤ 127) (hstring : ∀ s, v ≠ .string s) (hnull : v ≠ .null) :
    (∃ t, Accepted (Utf8.bytes (displayText (some v))) t) ∧
    Json.read (Utf8.bytes (displayText (some v))) = .ok v ∧
    (∀ w, Json.read (Utf8.bytes (displayText (some v))) = .ok w →
      displayText (some w) = displayText (some v)) ∧
    Printable (displayText (some v)) ∧
    ∀ ms, v = .object ms → ∃ p,
      Payload.ofBytes (Utf8.bytes (displayText (some v))) = .ok p ∧
      ∀ body t, SpellsText body t → t.StandsFor v → t.DistinctKeys ∨ t.depth ≤ 127 →
        Payload.ofBytes body = .ok p := by
  obtain ⟨t, ht⟩ := Value.exists_printed hdoubles hkeys
  have haccepted := ht.accepted hdepth
  have hread := haccepted.read_eq ht.standsFor
  rw [displayText_eq_text hstring hnull]
  refine ⟨⟨t, haccepted⟩, hread, ?_, v.printable_text, ?_⟩
  · intro w hw
    obtain rfl := Except.ok.inj (hread.symm.trans hw)
    exact displayText_eq_text hstring hnull
  · rintro ms rfl
    refine ⟨_, Payload.ofBytes_of_object haccepted.spelled.isText hread, ?_⟩
    intro body u hspelled hu hshallow
    have hle : u.depth ≤ 127 := by
      rcases hshallow with hdistinct | hle
      · rw [hdistinct.depth_eq hu]
        exact hdepth
      · exact hle
    have haccepted' : Accepted body u := ⟨hspelled, hle, hu.inRange⟩
    exact Payload.ofBytes_of_object hspelled.isText (haccepted'.read_eq hu)

/-- Both ends of the range of integers, empty containers, and strings that need escapes. -/
def awkward : Members :=
  [("least", .number (.integer (-0x8000000000000000) inRange_least)),
   ("\"\\\n\x01",
      .array [.number (.integer 0xFFFFFFFFFFFFFFFF inRange_greatest), .array [], .object []]),
   ("a", .object [("é", .string "\x1f/"), ("", .null)])]

theorem noDoubles_awkward : (Value.object awkward).NoDoubles := by
  refine .object ?_
  simp only [awkward, List.forall_mem_cons]
  refine ⟨.integer _, .array ?_, .object ?_, fun _ h => absurd h List.not_mem_nil⟩
  · simp only [List.forall_mem_cons]
    exact ⟨.integer _, .array (by simp), .object (by simp), fun _ h => absurd h List.not_mem_nil⟩
  · simp only [List.forall_mem_cons]
    exact ⟨.string _, .null, fun _ h => absurd h List.not_mem_nil⟩

theorem distinctKeys_awkward : (Value.object awkward).DistinctKeys := by
  refine .object (by decide) ?_
  simp only [awkward, List.forall_mem_cons]
  refine ⟨.number _, .array ?_, .object (by decide) ?_, fun _ h => absurd h List.not_mem_nil⟩
  · simp only [List.forall_mem_cons]
    exact ⟨.number _, .array (by simp), .object (by decide) (by simp),
      fun _ h => absurd h List.not_mem_nil⟩
  · simp only [List.forall_mem_cons]
    exact ⟨.string _, .null, fun _ h => absurd h List.not_mem_nil⟩

theorem displayText_readBack_awkward :
    (Value.object awkward).NoDoubles ∧ (Value.object awkward).DistinctKeys ∧
    (Value.object awkward).depth ≤ 127 ∧
    displayText (some (.object awkward)) =
      "\x7b\"least\":-9223372036854775808," ++
        "\"\\\"\\\\\\n\\u0001\":[18446744073709551615,[],\x7b\x7d]," ++
        "\"a\":\x7b\"é\":\"\\u001f/\",\"\":null\x7d\x7d" ∧
    Json.read (Utf8.bytes (displayText (some (.object awkward)))) = .ok (.object awkward) ∧
    Printable (displayText (some (.object awkward))) ∧
    ∃ p, Payload.ofBytes (Utf8.bytes (displayText (some (.object awkward)))) = .ok p := by
  have hdepth : (Value.object awkward).depth ≤ 127 := by decide
  obtain ⟨-, hread, -, hprintable, hpayload⟩ := displayText_readBack noDoubles_awkward
    distinctKeys_awkward hdepth nofun nofun
  obtain ⟨p, hp, -⟩ := hpayload awkward rfl
  exact ⟨noDoubles_awkward, distinctKeys_awkward, hdepth, rfl, hread, hprintable, p, hp⟩

end AlertConsole
