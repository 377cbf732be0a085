set_option autoImplicit false

/-!
# How alike two words are

Two characters of two words match if they are equal and not farther apart than half the length of
the longer word, each character matching one other at most.  The likeness of two words is the mean
of three shares: of the characters of each word that have a match, and of the matches that are not
out of order.  All of it is counted in natural numbers.
-/

namespace AlertConsole.Text.Similar

/-- Marks the first free place in a window that holds a character.  `j` is the number of the first
place of the list. -/
def claim? (low high : Nat) (c : Char) : (j : Nat) → List (Char × Bool) →
    Option (List (Char × Bool))
  | _, [] => none
  | j, (d, taken) :: places =>
    if low ≤ j ∧ j < high ∧ c = d ∧ taken = false then some ((d, true) :: places)
    else (claim? low high c (j + 1) places).map ((d, taken) :: ·)

/-- The characters of a word, from number `i` on, that find a match, and the places with those
taken. -/
def matchesFrom (reach : Nat) : (i : Nat) → List Char → List (Char × Bool) →
    List Char × List (Char × Bool)
  | _, [], places => ([], places)
  | i, c :: cs, places =>
    match claim? (i - reach) (i + reach + 1) c 0 places with
    | none => matchesFrom reach (i + 1) cs places
    | some places =>
      let (matched, places) := matchesFrom reach (i + 1) cs places
      (c :: matched, places)

/-- How far apart two characters that match may be. -/
def reach (a b : List Char) : Nat := max a.length b.length / 2 - 1

/-- The characters that match, in the order of the first word and in that of the second. -/
def matched (a b : List Char) : List Char × List Char :=
  let (inFirst, places) := matchesFrom (reach a b) 0 a (b.map fun c => (c, false))
  (inFirst, (places.filter (·.2)).map (·.1))

/-- Whether the likeness of two words is at least `tenths` tenths. -/
def atLeast (tenths : Nat) (a b : List Char) : Bool :=
  let (first, second) := matched a b
  let m := first.length
  let swaps := ((first.zip second).filter fun p => p.1 ≠ p.2).length / 2
  let shares := m * m * b.length + m * m * a.length + (m - swaps) * a.length * b.length
  0 < m && 3 * tenths * (a.length * b.length * m) ≤ 10 * shares

end AlertConsole.Text.Similar
