import AlertConsole.Proofs.Payload.Classification
import AlertConsole.Proofs.Receiver.Decision
import AlertConsole.Proofs.Report.Rows
set_option autoImplicit false

/-!
# What a POST leaves in the log

A POST leaves the record of its arrival, and behind that the record of its refusal, or those of a
delivery: one at most of what was found in its bytes, and one if the report could not be written.
`LogTrace` says which records these are, and `handle_log_iff` that they are all.
-/

namespace AlertConsole

open Json (Value Members)

/-! ## What does not fit in a batch -/

namespace Mismatch

/-- What does not fit in the value of `alerts`: the value if it is no array, and else the first
element that is no object. -/
inductive InAlerts : Value → Mismatch → Prop where
  | value {v : Value} : (∀ items, v ≠ .array items) → InAlerts v ⟨v, .sequence⟩
  | element {before after : List Value} {v : Value} : (∀ u ∈ before, ∃ ms, u = .object ms) →
      (∀ ms, v ≠ .object ms) → InAlerts (.array (before ++ v :: after)) ⟨v, .map⟩

/-- What does not fit in the value of `count`: the value if it declares nothing. -/
def InCount (v : Value) (m : Mismatch) : Prop :=
  (∀ n, ¬ Batch.Declares (some v) n) ∧ m = ⟨v, .natural⟩

/-- What does not fit in a member. -/
def InMember (x : String × Value) (m : Mismatch) : Prop :=
  x.1 = "alerts" ∧ InAlerts x.2 m ∨ x.1 = "count" ∧ InCount x.2 m

/-- What does not fit in the first member of an object in which something does not. -/
def FirstIn (o : Members) (m : Mismatch) : Prop :=
  ∃ before x after, o = before ++ x :: after ∧ InMember x m ∧
    ∀ y ∈ before, ∀ n, ¬ InMember y n

theorem isNone_members?_iff {v : Value} : (members? v).isNone = true ↔ ∀ ms, v ≠ .object ms := by
  cases v <;> simp [members?]

theorem inAlerts?_eq_some_iff {v : Value} {m : Mismatch} :
    inAlerts? v = some m ↔ InAlerts v m := by
  constructor
  · intro h
    cases v with
    | array items =>
      obtain ⟨v, hfind, rfl⟩ := Option.map_eq_some_iff.mp h
      obtain ⟨hv, before, after, rfl, hbefore⟩ := List.find?_eq_some_iff_append.mp hfind
      refine .element (fun u hu => ?_) (isNone_members?_iff.mp hv)
      have hsome := hbefore u hu
      obtain ⟨ms, hms⟩ := Option.isSome_iff_exists.mp (by simpa using hsome)
      exact ⟨ms, Payload.members?_eq_some_iff.mp hms⟩
    | _ =>
      obtain rfl := Option.some.inj h
      exact .value nofun
  · intro h
    cases h with
    | value hv =>
      cases v with
      | array items => exact absurd rfl (hv items)
      | _ => rfl
    | @element before after v hbefore hv =>
      have hnone : before.find? (fun u => (members? u).isNone) = none := by
        refine List.find?_eq_none.mpr fun u hu => ?_
        obtain ⟨ms, rfl⟩ := hbefore u hu
        exact Bool.false_ne_true
      have hfound : (v :: after).find? (fun u => (members? u).isNone) = some v :=
        List.find?_cons_of_pos (isNone_members?_iff.mpr hv)
      rw [inAlerts?, List.find?_append, hnone, hfound]
      rfl

theorem inCount?_eq_some_iff {v : Value} {m : Mismatch} :
    inCount? v = some m ↔ InCount v m := by
  have hfound (h : inCount? v ≠ none) : inCount? v = some ⟨v, .natural⟩ := by
    cases v with
    | null => exact absurd rfl h
    | number n =>
      simp only [inCount?] at h ⊢
      split
      · rename_i hsome
        exact absurd (if_pos hsome) h
      · rfl
    | _ => rfl
  have hfits : inCount? v ≠ none ↔ ∀ n, ¬ Batch.Declares (some v) n := by
    rw [Ne, inCount?_eq_none_iff, not_exists]
  rw [InCount, ← hfits]
  constructor
  · intro h
    have hne : inCount? v ≠ none := by simp [h]
    exact ⟨hne, Option.some.inj (h.symm.trans (hfound hne))⟩
  · rintro ⟨hne, rfl⟩
    exact hfound hne

theorem inMember?_eq_some_iff {x : String × Value} {m : Mismatch} :
    inMember? x = some m ↔ InMember x m := by
  have hne : "count" ≠ "alerts" := by decide
  obtain ⟨key, v⟩ := x
  rw [inMember?, InMember, ← inAlerts?_eq_some_iff, ← inCount?_eq_some_iff]
  dsimp only
  by_cases halerts : key = "alerts"
  · simp [halerts]
  · by_cases hcount : key = "count" <;> simp [halerts, hcount]

theorem first?_eq_some_iff {o : Members} {m : Mismatch} : first? o = some m ↔ FirstIn o m := by
  have hnone (x : String × Value) : inMember? x = none ↔ ∀ n, ¬ InMember x n := by
    simp only [← inMember?_eq_some_iff, ← Option.eq_none_iff_forall_ne_some]
  simp only [first?, List.findSome?_eq_some_iff, FirstIn, hnone, inMember?_eq_some_iff]

end Mismatch

/-! ## The records -/

namespace Receiver

open DeclaredLength (Declares)

/-- The text for the user agent: the first value for it, if there is one. -/
inductive NamesAgent (r : Request) : String → Prop where
  | named {value : List UInt8} : FirstHeader "user-agent" r.headers value →
      NamesAgent r ("Some(" ++ Text.quoteBytes value ++ ")")
  | unnamed : NoHeader "user-agent" r.headers → NamesAgent r "None"

/-- The record of a request's arrival: its method, its target, how many bytes came with it, and its
user agent. -/
inductive Arrives (r : Request) : LogRecord → Prop where
  | mk {agent : String} : NamesAgent r agent →
      Arrives r ⟨.debug, .receiver, r.method ++ " " ++ r.target.text ++ " (" ++
        toString r.body.length ++ " bytes, user agent " ++ agent ++ ")"⟩

/-- The records of what was found in a delivery.  There is one for an object that has `alerts` and
no `alert_id` but is no batch, about what does not fit first, and one for a fault. -/
inductive Reads : Except PayloadFault Payload → List LogRecord → Prop where
  | batch (b : Batch) : Reads (.ok (.batch b)) []
  | alert {a : Alert} : ¬ ("alerts" ∈ a.members.keys ∧ "alert_id" ∉ a.members.keys) →
      Reads (.ok (.single a)) []
  | misfit {a : Alert} {m : Mismatch} : "alerts" ∈ a.members.keys →
      "alert_id" ∉ a.members.keys → m.FirstIn a.members →
      Reads (.ok (.single a)) [⟨.debug, .payload,
        "Not a batch payload, showing as a single alert: " ++ m.message⟩]
  | fault (f : PayloadFault) :
      Reads (.error f) [⟨.debug, .receiver, "Failed to decode webhook body: " ++ f.message⟩]

/-- The records of writing a report. -/
inductive Writes : Console → List LogRecord → Prop where
  | writable : Writes .writable []
  | full : Writes .full [⟨.warn, .receiver,
      "Failed to write webhook report: No space left on device (os error 28)"⟩]

/-- The records of a POST. -/
inductive LogTrace (console : Console) (r : Request) : List LogRecord → Prop where
  | unsized {arrived : LogRecord} : Arrives r arrived → NoHeader "content-length" r.headers →
      LogTrace console r
        [arrived, ⟨.debug, .receiver, "Webhook rejected: 411 Length Required"⟩]
  | missized {arrived : LogRecord} {value : List UInt8} : Arrives r arrived →
      FirstHeader "content-length" r.headers value → (∀ n, ¬ Declares value n) →
      LogTrace console r [arrived, ⟨.debug, .receiver, "Webhook rejected: 400 Bad Request"⟩]
  | delivered {arrived : LogRecord} {value : List UInt8} {n : Nat}
      {reading writing : List LogRecord} : Arrives r arrived →
      FirstHeader "content-length" r.headers value → Declares value n →
      Reads (Payload.ofBytes (r.body.take n)) reading → Writes console writing →
      LogTrace console r (arrived :: (reading ++ writing))

theorem arrives_iff {r : Request} {record : LogRecord} :
    Arrives r record ↔ arrival r = record := by
  constructor
  · rintro ⟨⟨hagent⟩ | ⟨hnone⟩⟩
    · rw [arrival, firstHeader?_eq_some_iff.mpr hagent]
      rfl
    · rw [arrival, firstHeader?_eq_none_iff.mpr hnone]
      rfl
  · rintro rfl
    cases hagent : firstHeader? "user-agent" r.headers with
    | none =>
      rw [arrival, hagent]
      exact .mk (.unnamed (firstHeader?_eq_none_iff.mp hagent))
    | some value =>
      rw [arrival, hagent]
      exact .mk (.named (firstHeader?_eq_some_iff.mp hagent))

/-- What is found in bytes without a fault is found in an object. -/
theorem exists_ofMembers {bytes : List UInt8} {reading : Reading}
    (h : Reading.ofBytes bytes = .ok reading) : ∃ ms, reading = Reading.ofMembers ms := by
  rw [Reading.ofBytes] at h
  split at h
  · contradiction
  split at h
  · contradiction
  split at h
  · contradiction
  · rename_i ms _
    exact ⟨ms, (Except.ok.inj h).symm⟩

/-- The records of reading an object. -/
theorem reads_ofMembers (ms : Members) :
    Reads (.ok (Reading.ofMembers ms).payload)
      ((Reading.ofMembers ms).mismatch.toList.map notABatch) := by
  simp only [Reading.ofMembers, Members.has_eq_true_iff]
  by_cases hlike : "alerts" ∈ ms.keys ∧ "alert_id" ∉ ms.keys
  · rw [if_pos hlike]
    cases hfirst : Mismatch.first? ms with
    | none => exact .batch _
    | some m => exact .misfit hlike.1 hlike.2 (Mismatch.first?_eq_some_iff.mp hfirst)
  · rw [if_neg hlike]
    exact .alert hlike

theorem Reads.unique {outcome : Except PayloadFault Payload} {log log' : List LogRecord}
    (h : Reads outcome log) (h' : Reads outcome log') : log = log' := by
  cases h with
  | batch => cases h'; rfl
  | fault => cases h'; rfl
  | alert hunlike =>
    cases h' with
    | alert => rfl
    | misfit halerts hid => exact absurd ⟨halerts, hid⟩ hunlike
  | misfit halerts hid hfirst =>
    cases h' with
    | alert hunlike => exact absurd ⟨halerts, hid⟩ hunlike
    | misfit _ _ hfirst' =>
      have hsome := Mismatch.first?_eq_some_iff.mpr hfirst
      have hsome' := Mismatch.first?_eq_some_iff.mpr hfirst'
      rw [Option.some.inj (hsome.symm.trans hsome')]

theorem Reads.level_eq_debug {outcome : Except PayloadFault Payload} {log : List LogRecord}
    (h : Reads outcome log) : ∀ record ∈ log, record.level = .debug := by
  cases h <;> simp

/-- What is found in some bytes is the payload of them. -/
theorem reads_ofBytes (bytes : List UInt8) :
    Reads (Payload.ofBytes bytes)
      (readingLog (Reading.ofBytes bytes) ++ faultLog (Reading.ofBytes bytes)) := by
  rw [Payload.ofBytes]
  cases hreading : Reading.ofBytes bytes with
  | error f => exact .fault f
  | ok reading =>
    obtain ⟨ms, rfl⟩ := exists_ofMembers hreading
    rw [readingLog, faultLog, List.append_nil]
    exact reads_ofMembers ms

theorem Writes.unique {console : Console} {log log' : List LogRecord} (h : Writes console log)
    (h' : Writes console log') : log = log' := by
  cases h with
  | writable => cases h'; rfl
  | full => cases h'; rfl

/-! ## The trace -/

/-- The records of a delivery, behind that of its arrival. -/
theorem exists_writes (console : Console) (receivedAt : String) (bytes : List UInt8) :
    ∃ writing, Writes console writing ∧ (deliver console receivedAt bytes).log =
      readingLog (Reading.ofBytes bytes) ++ faultLog (Reading.ofBytes bytes) ++ writing := by
  cases console with
  | writable => exact ⟨[], .writable, rfl⟩
  | full => exact ⟨_, .full, rfl⟩

section

variable {console : Console} {receivedAt : String} {r : Request}

theorem receive_log {n : Nat} (h : declaredLength r.headers = .ok n) :
    (receive console receivedAt r).log =
      arrival r :: (deliver console receivedAt (r.body.take n)).log := by
  rw [receive, h]

/-- What a POST leaves in the log is a trace of it. -/
theorem logTrace_receive : LogTrace console r (receive console receivedAt r).log := by
  have harrived : Arrives r (arrival r) := arrives_iff.mpr rfl
  cases hlength : declaredLength r.headers with
  | error status =>
    rw [receive_of_refused hlength]
    obtain rfl | rfl := declaredLength_error hlength
    · exact .unsized harrived (declaredLength_eq_lengthRequired_iff.mp hlength)
    · obtain ⟨value, hfirst, hnone⟩ := declaredLength_eq_badRequest_iff.mp hlength
      exact .missized harrived hfirst hnone
  | ok n =>
    obtain ⟨value, hfirst, hdeclares⟩ := declaredLength_eq_ok_iff.mp hlength
    obtain ⟨writing, hwrites, hlog⟩ := exists_writes console receivedAt (r.body.take n)
    rw [receive_log hlength, hlog]
    exact .delivered harrived hfirst hdeclares (reads_ofBytes _) hwrites

/-- A POST has no other trace than what it leaves in the log. -/
theorem LogTrace.eq_receive_log {log : List LogRecord} (h : LogTrace console r log) :
    log = (receive console receivedAt r).log := by
  cases h with
  | unsized harrived hnone =>
    obtain rfl := arrives_iff.mp harrived
    rw [receive_of_refused (declaredLength_eq_lengthRequired_iff.mpr hnone)]
    rfl
  | missized harrived hfirst hnone =>
    obtain rfl := arrives_iff.mp harrived
    rw [receive_of_refused (declaredLength_eq_badRequest_iff.mpr ⟨_, hfirst, hnone⟩)]
    rfl
  | @delivered _ _ n _ _ harrived hfirst hdeclares hreads hwrites =>
    obtain rfl := arrives_iff.mp harrived
    obtain ⟨writing, hwrites', hlog⟩ := exists_writes console receivedAt (r.body.take n)
    rw [receive_log (declaredLength_eq_ok_iff.mpr ⟨_, hfirst, hdeclares⟩), hlog,
      hreads.unique (reads_ofBytes _), hwrites.unique hwrites']

/-- On a console that can be written no record of a POST matters more than for debugging. -/
theorem LogTrace.level_eq_debug {log : List LogRecord} (h : LogTrace .writable r log) :
    ∀ record ∈ log, record.level = .debug := by
  cases h with
  | unsized harrived => cases harrived; simp
  | missized harrived => cases harrived; simp
  | delivered harrived _ _ hreads hwrites =>
    cases harrived
    cases hwrites
    rw [List.append_nil, List.forall_mem_cons]
    exact ⟨rfl, hreads.level_eq_debug⟩

end

/-- A report on a fault has a row that says which. -/
theorem exists_faultRow (f : PayloadFault) (raw : List UInt8) (receivedAt : String) :
    ∃ front back, Report.text ⟨.error f, raw, receivedAt⟩ =
      front ++ "\n" ++ "Parse error: " ++ f.message ++ "\n" ++ back := by
  obtain ⟨front, back, htext⟩ := Report.exists_text_eq ⟨.error f, raw, receivedAt⟩
  refine ⟨front, "Raw data: " ++ Utf8.lossy raw ++ "\n" ++ back, ?_⟩
  rw [htext, Report.body]
  simp only [String.append_assoc]

theorem handle_log_level (receivedAt : String) (r : Request) :
    ∀ record ∈ (handle .writable receivedAt r).log, record.level = .debug := by
  by_cases hpath : r.target.hasPath = true
  · by_cases hmethod : r.method = "POST"
    · rw [handle_of_post hpath hmethod]
      exact logTrace_receive.level_eq_debug
    · rw [handle_of_otherMethod hpath hmethod]
      exact fun _ h => absurd h List.not_mem_nil
  · rw [handle, if_pos hpath]
    exact fun _ h => absurd h List.not_mem_nil

/-- The records of a POST to a path are those of its trace, in order, and no others.  The fault that
the log tells is the one that the report tells, if the report can be written.  No request at all, of
however many, is worth more than a record for debugging as long as the console can be written. -/
theorem handle_log_iff {r : Request} (hpath : r.target.hasPath = true) (hpost : r.method = "POST")
    (receivedAt : String) :
    (∀ console log, (handle console receivedAt r).log = log ↔ LogTrace console r log) ∧
    (∀ value n f, FirstHeader "content-length" r.headers value → Declares value n →
      Payload.ofBytes (r.body.take n) = .error f →
      ∃ front back, (handle .writable receivedAt r).printed =
        front ++ "\n" ++ "Parse error: " ++ f.message ++ "\n" ++ back) ∧
    ∀ requests : List Request,
      ∀ reply ∈ session receivedAt (requests.map fun r => (.writable, r)),
        ∀ record ∈ reply.log, record.level = .debug := by
  refine ⟨fun console log => ?_, fun value n f hfirst hdeclares hfault => ?_, ?_⟩
  · rw [handle_of_post hpath hpost]
    constructor
    · rintro rfl
      exact logTrace_receive
    · exact fun h => h.eq_receive_log.symm
  · have hlength := declaredLength_eq_ok_iff.mpr ⟨value, hfirst, hdeclares⟩
    rw [handle_of_post hpath hpost, receive_printed hlength, deliver_printed_writable, hfault]
    exact exists_faultRow f _ _
  · intro requests reply hreply
    obtain ⟨p, hp, rfl⟩ := List.mem_map.mp hreply
    obtain ⟨r, -, rfl⟩ := List.mem_map.mp hp
    exact handle_log_level receivedAt r

/-- An object with two members that do not fit in a batch. -/
def misfittingMembers : Members :=
  [("alerts", .array [.object [], .number (.integer 5 (by decide))]),
   ("count", .number (.integer (-1) (by decide)))]

/-- Its text. -/
def misfittingText : List UInt8 :=
  Utf8.bytes "\x7b\"alerts\":[\x7b\x7d,5],\"count\":-1\x7d"

/-- A POST of that text. -/
def misfitting : Request :=
  ⟨"POST", ⟨"", "/hook", "?from=a"⟩,
    [⟨"Content-Length", Utf8.bytes "28"⟩, ⟨"User-Agent", Utf8.bytes "curl"⟩], misfittingText⟩

theorem handle_log_iff_misfitting :
    misfitting.target.hasPath = true ∧ misfitting.method = "POST" ∧
    (handle .full "12:00:00" misfitting).log =
      [⟨.debug, .receiver, "POST /hook?from=a (28 bytes, user agent Some(\"curl\"))"⟩,
        ⟨.debug, .payload, "Not a batch payload, showing as a single alert: " ++
          "invalid type: integer `5`, expected a map"⟩,
        ⟨.warn, .receiver,
          "Failed to write webhook report: No space left on device (os error 28)"⟩] := by
  have hpath : misfitting.target.hasPath = true := by decide
  have harrived : Arrives misfitting
      ⟨.debug, .receiver, "POST /hook?from=a (28 bytes, user agent Some(\"curl\"))"⟩ :=
    arrives_iff.mpr rfl
  obtain ⟨value, hfirst, hdeclares⟩ :
      ∃ value, FirstHeader "content-length" misfitting.headers value ∧ Declares value 28 :=
    declaredLength_eq_ok_iff.mp rfl
  have hbody : Utf8.IsText misfittingText := Utf8.isText_bytes _
  have hread : Json.read misfittingText = .ok (.object misfittingMembers) := rfl
  have hnone : ¬ Batch.Shaped misfittingMembers := by
    rintro ⟨-, -, n, hn⟩
    cases hn
  have hsingle := Payload.ofBytes_of_not_shaped hbody hread hnone
  have hmisfit : Mismatch.FirstIn misfittingMembers ⟨.number (.integer 5 (by decide)), .map⟩ := by
    refine ⟨[], _, _, rfl, .inl ⟨rfl, ?_⟩, fun _ h => absurd h List.not_mem_nil⟩
    have hfirst : ∀ v ∈ [Value.object []], ∃ ms, v = .object ms :=
      List.forall_mem_singleton.mpr ⟨_, rfl⟩
    exact .element hfirst (by simp)
  have htake : misfitting.body.take 28 = misfittingText := List.take_of_length_le (by decide)
  have hreads := @Reads.misfit ⟨misfittingMembers⟩ _ (by decide) (by decide) hmisfit
  rw [← hsingle, ← htake] at hreads
  exact ⟨hpath, rfl, ((handle_log_iff hpath rfl "12:00:00").1 .full _).mpr
    (.delivered harrived hfirst hdeclares hreads .full)⟩

end Receiver

end AlertConsole
