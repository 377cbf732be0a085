import AlertConsole.Proofs.Receiver.DeclaredLength
import AlertConsole.Proofs.Receiver.Replies
set_option autoImplicit false

/-!
# How requests are answered

A request is answered by its method and by the first length that it declares, and by nothing else:
neither what it holds, nor the requests before it, nor the console has a part in the response.
-/

namespace AlertConsole.Receiver

open DeclaredLength (Declares)

/-- One more request is one more reply. -/
theorem session_concat (receivedAt : String) (earlier : List (Console × Request))
    (console : Console) (r : Request) :
    session receivedAt (earlier ++ [(console, r)]) =
      session receivedAt earlier ++ [handle console receivedAt r] := by
  rw [session, List.map_append]
  rfl

/-- What is printed for a delivery of which `n` bytes are declared. -/
theorem receive_printed_of_declares {console : Console} {receivedAt : String} {r : Request}
    {n : Nat} (h : declaredLength r.headers = .ok n) :
    (receive console receivedAt r).printed =
      match console with
      | .writable =>
        Report.text ⟨Payload.ofBytes (r.body.take n), r.body.take n, receivedAt⟩
      | .full => "" := by
  rw [receive_printed h]
  cases console with
  | writable => exact deliver_printed_writable receivedAt _
  | full => exact deliver_printed_full receivedAt _

/-- How a request to a path is answered, after any other requests.  A method other than POST is
refused, then a request without a length, then one whose first length is none; every other request
is acknowledged.  What is refused prints nothing, and what is acknowledged prints the report on the
declared bytes, or nothing on a full console. -/
theorem session_decides (receivedAt : String) {r : Request} (hpath : r.target.hasPath = true) :
    ∃ response : Response,
      (response.status.code = 405 ↔ r.method ≠ "POST") ∧
      (response.status.code = 411 ↔
        r.method = "POST" ∧ NoHeader "content-length" r.headers) ∧
      (response.status.code = 400 ↔
        r.method = "POST" ∧ ∃ value, FirstHeader "content-length" r.headers value ∧
          ∀ n, ¬ Declares value n) ∧
      (response.status.code = 200 ↔
        r.method = "POST" ∧ ∃ n value, FirstHeader "content-length" r.headers value ∧
          Declares value n) ∧
      (response.status.code = 200 →
        response.headers.lookup "content-type" = some "application/json" ∧
          response.body = "\x7b\"status\": \"received\"\x7d") ∧
      ∀ (earlier : List (Console × Request)) (console : Console), ∃ printed log,
        session receivedAt (earlier ++ [(console, r)]) =
          session receivedAt earlier ++ [⟨response, printed, log⟩] ∧
        (response.status.code ≠ 200 → printed = "") ∧
        ∀ n, r.method = "POST" →
          (∃ value, FirstHeader "content-length" r.headers value ∧ Declares value n) →
          printed =
            match console with
            | .writable =>
              Report.text ⟨Payload.ofBytes (r.body.take n), r.body.take n, receivedAt⟩
            | .full => "" := by
  simp only [← declaredLength_eq_lengthRequired_iff, ← declaredLength_eq_badRequest_iff,
    ← declaredLength_eq_ok_iff]
  simp only [session_concat]
  by_cases hmethod : r.method = "POST"
  · cases hlength : declaredLength r.headers with
    | error status =>
      have hhandle (console : Console) : handle console receivedAt r =
          ⟨.refuse status, "", [arrival r, rejected status]⟩ := by
        rw [handle_of_post hpath hmethod, receive_of_refused hlength]
      refine ⟨.refuse status, ?_, ?_, ?_, ?_, ?_, fun earlier console =>
        ⟨"", _, congrArg _ (congrArg ([·]) (hhandle console)), fun _ => rfl, by simp⟩⟩
      all_goals
        obtain rfl | rfl := declaredLength_error hlength <;>
          simp [Response.refuse, Status.code, hmethod]
    | ok n =>
      have hhandle (console : Console) : handle console receivedAt r =
          ⟨.acknowledge, (receive console receivedAt r).printed,
            (receive console receivedAt r).log⟩ := by
        rw [handle_of_post hpath hmethod, ← @receive_response console receivedAt r n hlength]
      refine ⟨.acknowledge, ?_, ?_, ?_, ?_, ?_, fun earlier console =>
        ⟨_, _, congrArg _ (congrArg ([·]) (hhandle console)), absurd rfl, fun m _ hm => ?_⟩⟩
      · simp [Response.acknowledge, Status.code, hmethod]
      · simp [Response.acknowledge, Status.code, hmethod]
      · simp [Response.acknowledge, Status.code, hmethod]
      · simp [Response.acknowledge, Status.code, hmethod]
      · exact fun _ => ⟨rfl, rfl⟩
      · obtain rfl := Except.ok.inj hm
        exact receive_printed_of_declares hlength
  · have hhandle (console : Console) : handle console receivedAt r = ⟨.refuseMethod, "", []⟩ :=
      handle_of_otherMethod hpath hmethod
    refine ⟨.refuseMethod, ?_, ?_, ?_, ?_, ?_, fun earlier console =>
      ⟨"", [], congrArg _ (congrArg ([·]) (hhandle console)), fun _ => rfl, by simp [hmethod]⟩⟩
    all_goals simp [Response.refuseMethod, Status.code, hmethod]

/-- A POST that declares two of its three bytes, by a signed number with blanks around it. -/
def signedLength : Request :=
  ⟨"POST", ⟨"", "/hook", ""⟩, [⟨"Content-Length", Utf8.bytes " +2\t"⟩], Utf8.bytes "\x7b\x7d!"⟩

theorem session_decides_signedLength :
    signedLength.target.hasPath = true ∧
    ∃ response : Response, response.status.code = 200 ∧
      ∀ earlier : List (Console × Request), ∃ printed log,
        session "12:00:00" (earlier ++ [(.writable, signedLength)]) =
          session "12:00:00" earlier ++ [⟨response, printed, log⟩] ∧
        printed = Report.text ⟨Payload.ofBytes (Utf8.bytes "\x7b\x7d"), Utf8.bytes "\x7b\x7d",
          "12:00:00"⟩ := by
  have hpath : signedLength.target.hasPath = true := by decide
  have hdeclares : ∃ value, FirstHeader "content-length" signedLength.headers value ∧
      Declares value 2 := declaredLength_eq_ok_iff.mp rfl
  obtain ⟨response, -, -, -, hok, -, hreply⟩ := session_decides "12:00:00" hpath
  refine ⟨hpath, response, hok.mpr ⟨rfl, 2, hdeclares⟩, fun earlier => ?_⟩
  obtain ⟨printed, log, hsession, -, hprinted⟩ := hreply earlier .writable
  exact ⟨printed, log, hsession, hprinted 2 rfl hdeclares⟩

end AlertConsole.Receiver
