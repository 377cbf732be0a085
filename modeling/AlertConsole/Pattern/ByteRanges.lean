import AlertConsole.Pattern.CharSet
set_option autoImplicit false

/-!
# Sets of characters as sequences of bytes

A set of characters is cut into sequences of ranges of bytes: the encodings of the characters in a
part of it are just the byte strings whose bytes lie in the ranges of one sequence.
-/

namespace AlertConsole.Pattern

/-- A range of bytes for each byte of an encoding. -/
abbrev ByteRanges : Type := List (Nat × Nat)

namespace ByteRanges

/-- The last code points with encodings of one, two and three bytes. -/
def lastOfWidths : List Nat := [0x7F, 0x7FF, 0xFFFF]

/-- The numbers of code points that differ in the last one, two and three continuation bytes. -/
def blocks : List Nat := [0x40, 0x1000, 0x40000]

/-- Where a range that does not lie in one block has to be cut, so that each part starts or stops
at a block's edge. -/
def blockCut? (lo hi block : Nat) : Option Nat :=
  if lo / block = hi / block then none
  else if lo % block ≠ 0 then some ((lo / block + 1) * block)
  else if hi % block ≠ block - 1 then some (hi / block * block)
  else none

/-- Where a range of code points has to be cut first: the start of the second part. -/
def cut? (lo hi : Nat) : Option Nat :=
  match lastOfWidths.find? fun last => lo ≤ last && last < hi with
  | some last => some (last + 1)
  | none => if hi ≤ CharSet.lastAscii then none else blocks.findSome? (blockCut? lo hi)

/-- The parts of a range of code points that are sequences of ranges of bytes. -/
def parts (lo hi : Nat) : List (Nat × Nat) :=
  match cut? lo hi with
  | none => [(lo, hi)]
  | some k =>
    if _h : lo < k ∧ k ≤ hi then parts lo (k - 1) ++ parts k hi else [(lo, hi)]
termination_by hi - lo

/-- The bytes of a code point's encoding. -/
def bytes (n : Nat) : List Nat := (String.utf8EncodeChar (Char.ofNat n)).map UInt8.toNat

/-- The parts of a range below and above the surrogates. -/
def aroundSurrogates (r : Nat × Nat) : List (Nat × Nat) :=
  [(r.1, min r.2 0xD7FF), (max r.1 0xE000, r.2)].filter fun r => r.1 ≤ r.2

/-- The sequences of a set, in order. -/
def ofSet (s : CharSet) : List ByteRanges :=
  ((s.ranges.flatMap aroundSurrogates).flatMap fun r => parts r.1 r.2).map fun r =>
    (bytes r.1).zip (bytes r.2)

/-- The beginnings of a sequence, the empty one left out. -/
def beginnings (s : ByteRanges) : List ByteRanges :=
  (List.range s.length).map fun n => s.take (n + 1)

/-- The first ranges of some sequences, each with what follows it; those that stand next to each
other and start alike are put together. -/
def heads : List ByteRanges → List ((Nat × Nat) × List ByteRanges)
  | [] => []
  | [] :: ss => heads ss
  | (r :: s) :: ss =>
    match heads ss with
    | [] => [(r, [s])]
    | h :: hs => if r = h.1 then (r, s :: h.2) :: hs else (r, [s]) :: h :: hs

/-- What is still to come after each beginning of some sequences, no longer than `depth`, the ends
left out. -/
def remainders : (depth : Nat) → List ByteRanges → List (List ByteRanges)
  | 0, _ => []
  | depth + 1, ss =>
    if ss.all (·.isEmpty) then []
    else ss :: (heads ss).flatMap fun h => remainders depth h.2

end ByteRanges

end AlertConsole.Pattern
