import AlertConsole.Proofs.Receiver.Decision
set_option autoImplicit false

/-!
# Only the declared bytes count

A delivery is considered up to the length that it declares, or up to its end if it is shorter than
that.  Nothing else that a request carries has a part in what comes of it, apart from the log record
of its arrival: neither its path and its query, nor its other headers, nor the bytes beyond the
declared length.  `handle_of_delivers` says what a reply is made of, and `session_of_delivers`
compares the replies to two requests.
-/

namespace AlertConsole.Receiver

open DeclaredLength (Declares)

/-- A request delivers some bytes.  It is a POST to a path, the first header for a length declares
one, and the bytes are those of the body up to that length, or all of them if they are fewer. -/
structure Delivers (r : Request) (bytes : List UInt8) : Prop where
  path : r.target.hasPath = true
  post : r.method = "POST"
  considered : ∃ n value, FirstHeader "content-length" r.headers value ∧ Declares value n ∧
    bytes = r.body.take (min n r.body.length)

theorem delivers_of_declaredLength {r : Request} {n : Nat} (hpath : r.target.hasPath = true)
    (hpost : r.method = "POST") (hlength : declaredLength r.headers = .ok n) :
    Delivers r (r.body.take (min n r.body.length)) := by
  obtain ⟨value, hfirst, hdeclares⟩ := declaredLength_eq_ok_iff.mp hlength
  exact ⟨hpath, hpost, n, value, hfirst, hdeclares, rfl⟩

/-- The records of a delivery do not tell when it was received. -/
theorem deliver_log_eq (console : Console) (receivedAt receivedAt' : String)
    (body : List UInt8) :
    (deliver console receivedAt body).log = (deliver console receivedAt' body).log := by
  cases console <;> rfl

/-- The reply to a delivery is made of its bytes, and of the request only the record of its arrival
is added. -/
theorem handle_of_delivers {r : Request} {bytes : List UInt8} (h : Delivers r bytes)
    (console : Console) (receivedAt : String) :
    handle console receivedAt r =
      ⟨.acknowledge, (deliver console receivedAt bytes).printed,
        arrival r :: (deliver console receivedAt bytes).log⟩ := by
  obtain ⟨hpath, hpost, n, value, hfirst, hdeclares, rfl⟩ := h
  have hlength : declaredLength r.headers = .ok n :=
    declaredLength_eq_ok_iff.mpr ⟨value, hfirst, hdeclares⟩
  have htake : r.body.take n = r.body.take (min n r.body.length) := by
    rw [List.take_eq_take_min]
  rw [handle_of_post hpath hpost, receive, hlength, ← htake]
  dsimp only
  rw [deliver_response]

/-- Two requests that deliver the same bytes get the same response, whatever else they carry and
whatever came before them.  With the same console the records behind that of the arrival are the
same, and received at the same time they print the same text. -/
theorem session_of_delivers {r₁ r₂ : Request} {bytes : List UInt8} (h₁ : Delivers r₁ bytes)
    (h₂ : Delivers r₂ bytes) (earlier₁ earlier₂ : List (Console × Request))
    (console₁ console₂ : Console) (receivedAt₁ receivedAt₂ : String) :
    ∃ response printed₁ printed₂ log₁ log₂,
      session receivedAt₁ (earlier₁ ++ [(console₁, r₁)]) =
        session receivedAt₁ earlier₁ ++ [⟨response, printed₁, arrival r₁ :: log₁⟩] ∧
      session receivedAt₂ (earlier₂ ++ [(console₂, r₂)]) =
        session receivedAt₂ earlier₂ ++ [⟨response, printed₂, arrival r₂ :: log₂⟩] ∧
      (console₁ = console₂ → log₁ = log₂) ∧
      (console₁ = console₂ → receivedAt₁ = receivedAt₂ → printed₁ = printed₂) := by
  refine ⟨.acknowledge, (deliver console₁ receivedAt₁ bytes).printed,
    (deliver console₂ receivedAt₂ bytes).printed, (deliver console₁ receivedAt₁ bytes).log,
    (deliver console₂ receivedAt₂ bytes).log, ?_, ?_, ?_, ?_⟩
  · rw [session_concat, handle_of_delivers h₁]
  · rw [session_concat, handle_of_delivers h₂]
  · intro hconsole
    rw [hconsole]
    exact deliver_log_eq console₂ receivedAt₁ receivedAt₂ bytes
  · intro hconsole hreceived
    rw [hconsole, hreceived]

/-- A POST that declares the first two of its three bytes. -/
def cutShort : Request :=
  ⟨"POST", ⟨"", "/hook", "?from=a"⟩, [⟨"Content-Length", Utf8.bytes "2"⟩],
    Utf8.bytes "\x7b\x7d!"⟩

/-- A POST to another path that declares more than its two bytes, with a header before and a second
length behind. -/
def pastTheEnd : Request :=
  ⟨"POST", ⟨"", "/", ""⟩,
    [⟨"User-Agent", Utf8.bytes "b"⟩, ⟨"content-length", Utf8.bytes " +99"⟩,
      ⟨"content-length", Utf8.bytes "none"⟩],
    Utf8.bytes "\x7b\x7d"⟩

theorem session_of_delivers_cutShort_pastTheEnd :
    Delivers cutShort (Utf8.bytes "\x7b\x7d") ∧ Delivers pastTheEnd (Utf8.bytes "\x7b\x7d") ∧
    ∃ response printed log,
      session "12:00:00" [(.writable, cutShort)] =
        [⟨response, printed, arrival cutShort :: log⟩] ∧
      session "12:00:00" [(.full, cutShort), (.writable, pastTheEnd)] =
        session "12:00:00" [(.full, cutShort)] ++
          [⟨response, printed, arrival pastTheEnd :: log⟩] := by
  have hshort : Delivers cutShort (Utf8.bytes "\x7b\x7d") :=
    @delivers_of_declaredLength cutShort 2 (by decide) rfl rfl
  have hpast : Delivers pastTheEnd (Utf8.bytes "\x7b\x7d") :=
    @delivers_of_declaredLength pastTheEnd 99 (by decide) rfl rfl
  obtain ⟨response, printed₁, printed₂, log₁, log₂, hfirst, hsecond, hlog, hprinted⟩ :=
    session_of_delivers hshort hpast [] [(.full, cutShort)] .writable .writable
      "12:00:00" "12:00:00"
  obtain rfl := hlog rfl
  obtain rfl := hprinted rfl rfl
  exact ⟨hshort, hpast, response, printed₁, log₁, hfirst, hsecond⟩

end AlertConsole.Receiver
