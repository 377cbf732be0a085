import AlertConsole.Receiver
set_option autoImplicit false

/-!
# What comes of a request, case by case

One lemma for each way that a request can go.  The console decides only what is printed and logged.
-/

namespace AlertConsole.Receiver

/-! ## Deliveries -/

/-- Whatever a delivery holds, it is acknowledged, on a full console too. -/
@[simp] theorem deliver_response (console : Console) (receivedAt : String) (body : List UInt8) :
    (deliver console receivedAt body).response = .acknowledge := by
  cases console <;> rfl

/-- A delivery is printed as the report on its bytes. -/
theorem deliver_printed_writable (receivedAt : String) (body : List UInt8) :
    (deliver .writable receivedAt body).printed =
      Report.text ⟨Payload.ofBytes body, body, receivedAt⟩ := rfl

/-- Nothing of a delivery is printed on a full console. -/
theorem deliver_printed_full (receivedAt : String) (body : List UInt8) :
    (deliver .full receivedAt body).printed = "" := rfl

/-! ## Requests -/

section

variable {console : Console} {receivedAt : String} {r : Request}

theorem handle_of_otherMethod (hpath : r.target.hasPath = true) (hmethod : r.method ≠ "POST") :
    handle console receivedAt r = ⟨.refuseMethod, "", []⟩ := by
  rw [handle, if_neg (not_not_intro hpath), if_neg hmethod]

theorem handle_of_post (hpath : r.target.hasPath = true) (hmethod : r.method = "POST") :
    handle console receivedAt r = receive console receivedAt r := by
  rw [handle, if_neg (not_not_intro hpath), if_pos hmethod]

theorem receive_of_refused {status : Status} (h : declaredLength r.headers = .error status) :
    receive console receivedAt r = ⟨.refuse status, "", [arrival r, rejected status]⟩ := by
  rw [receive, h]

theorem receive_response {n : Nat} (h : declaredLength r.headers = .ok n) :
    (receive console receivedAt r).response = .acknowledge := by
  rw [receive, h]
  exact deliver_response console receivedAt (r.body.take n)

/-- Only the declared bytes count. -/
theorem receive_printed {n : Nat} (h : declaredLength r.headers = .ok n) :
    (receive console receivedAt r).printed =
      (deliver console receivedAt (r.body.take n)).printed := by
  rw [receive, h]

end

end AlertConsole.Receiver
