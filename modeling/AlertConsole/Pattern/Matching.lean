import AlertConsole.Pattern.Expression
set_option autoImplicit false

/-!
# Where expressions match

All places of a text at which a match can stop are found at once: a mark for each place says
whether the way so far leads there.  One more repetition after as many as there are places changes
nothing, so no count makes this slow.
-/

namespace AlertConsole.Pattern

/-- A mark for each place of a text, from the start to the end. -/
abbrev Marks : Type := List Bool

namespace Marks

/-- Marks at the places that one of two has. -/
def union (m n : Marks) : Marks := m.zipWith (· || ·) n

/-- Marks behind the characters of a text with a property that have a mark before them. -/
def step (text : List Char) (p : Char → Bool) (m : Marks) : Marks :=
  false :: m.zipWith (fun b c => b && p c) text

/-- The marks at places that are as asked. -/
def filter (text : List Char) (l : Look) (m : Marks) : Marks :=
  let before := none :: text.map some
  let behind := text.map some ++ [none]
  m.zipWith (· && ·) (before.zipWith l.holds behind)

/-- Whether no place is marked. -/
def isNone (m : Marks) : Bool := !m.contains true

/-- Marks after so many rounds.  Once a round changes nothing, no later one does. -/
def iterate (round : Marks → Marks) : (n : Nat) → Marks → Marks
  | 0, m => m
  | n + 1, m =>
    if m.isNone then m
    else
      let next := round m
      if next = m then m else iterate round n next

/-- The places marked already and those that any number of rounds up to so many leads to from fresh
ones among them.  Each round starts only from the places that the last one has added. -/
def gather (round : Marks → Marks) : (n : Nat) → (seen fresh : Marks) → Marks
  | 0, seen, _ => seen
  | n + 1, seen, fresh =>
    if fresh.isNone then seen
    else
      let added := (round fresh).zipWith (fun new old => new && !old) seen
      gather round n (seen.union added) added

/-- Marks have one place more than the text has characters. -/
def Fits (text : List Char) (m : Marks) : Prop := m.length = text.length + 1

theorem Fits.union {text : List Char} {m n : Marks} (hm : Fits text m) (hn : Fits text n) :
    Fits text (m.union n) := by
  simp_all [Fits, Marks.union]

theorem Fits.step {text : List Char} {m : Marks} (p : Char → Bool) (hm : Fits text m) :
    Fits text (m.step text p) := by
  simp_all [Fits, Marks.step]

theorem Fits.filter {text : List Char} {m : Marks} (l : Look) (hm : Fits text m) :
    Fits text (m.filter text l) := by
  simp_all [Fits, Marks.filter]

theorem Fits.iterate {text : List Char} {round : Marks → Marks}
    (hr : ∀ m, Fits text m → Fits text (round m)) (n : Nat) {m : Marks} (hm : Fits text m) :
    Fits text (Marks.iterate round n m) := by
  induction n generalizing m with
  | zero => exact hm
  | succ n ih =>
    unfold Marks.iterate
    split
    · exact hm
    · simp only
      split
      · exact hm
      · exact ih (hr m hm)

theorem Fits.gather {text : List Char} {round : Marks → Marks}
    (hr : ∀ m, Fits text m → Fits text (round m)) (n : Nat) {seen fresh : Marks}
    (hs : Fits text seen) (hf : Fits text fresh) : Fits text (Marks.gather round n seen fresh) := by
  induction n generalizing seen fresh with
  | zero => exact hs
  | succ n ih =>
    unfold Marks.gather
    split
    · exact hs
    · have hw : Fits text
          ((round fresh).zipWith (fun new old => new && !old) seen) := by
        have hr' := hr fresh hf
        simp_all [Fits]
      exact ih (hs.union hw) hw

end Marks

namespace Expression

mutual

/-- The places of a text at which matches stop that start at marked places. -/
def stops (text : List Char) : Expression → Marks → Marks
  | .blank, m => m
  | .literal chars, m => chars.foldl (fun m c => m.step text (· = c)) m
  | .set s, m => m.step text s.contains
  | .look l, m => m.filter text l
  | .repetition least most _ item, m =>
    let more := match most with
      | some most => min (most - least) text.length
      | none => text.length
    let start := Marks.iterate (item.stops text) (min least (text.length + 1)) m
    Marks.gather (item.stops text) more start start
  | .kept _ item, m => item.stops text m
  | .sequence items, m => stopsOfAll text items m
  | .alternatives items, m => stopsOfAny text items m

/-- The places at which matches of some expressions in a row stop. -/
def stopsOfAll (text : List Char) : List Expression → Marks → Marks
  | [], m => m
  | e :: es, m => stopsOfAll text es (e.stops text m)

/-- The places at which matches of one of some expressions stop. -/
def stopsOfAny (text : List Char) : List Expression → Marks → Marks
  | [], m => m.map fun _ => false
  | e :: es, m => (e.stops text m).union (stopsOfAny text es m)

end

/-- Whether an expression matches some part of a text. -/
def isFoundIn (e : Expression) (text : List Char) : Bool :=
  (e.stops text (List.replicate (text.length + 1) true)).any id

/-! ## Laws -/

mutual

/-- The places at which matches stop are those of the text. -/
theorem fits_stops {text : List Char} (e : Expression) {m : Marks} (hm : Marks.Fits text m) :
    Marks.Fits text (e.stops text m) := by
  cases e with
  | blank => exact hm
  | literal chars =>
    unfold stops
    induction chars generalizing m with
    | nil => exact hm
    | cons c chars ih => exact ih (hm.step _)
  | set s => exact hm.step _
  | look l => exact hm.filter l
  | repetition least most greedy item =>
    have hr : ∀ m, Marks.Fits text m → Marks.Fits text (item.stops text m) := fun m hm => fits_stops item hm
    exact Marks.Fits.gather hr _ (Marks.Fits.iterate hr _ hm) (Marks.Fits.iterate hr _ hm)
  | kept index item => exact fits_stops item hm
  | sequence items => exact fits_stopsOfAll items hm
  | alternatives items => exact fits_stopsOfAny items hm

theorem fits_stopsOfAll {text : List Char} (es : List Expression) {m : Marks} (hm : Marks.Fits text m) :
    Marks.Fits text (stopsOfAll text es m) := by
  cases es with
  | nil => exact hm
  | cons e es => exact fits_stopsOfAll es (fits_stops e hm)

theorem fits_stopsOfAny {text : List Char} (es : List Expression) {m : Marks} (hm : Marks.Fits text m) :
    Marks.Fits text (stopsOfAny text es m) := by
  cases es with
  | nil => simpa [Marks.Fits, stopsOfAny] using hm
  | cons e es => exact (fits_stops e hm).union (fits_stopsOfAny es hm)

end

end Expression

end AlertConsole.Pattern
