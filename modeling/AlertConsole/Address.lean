set_option autoImplicit false

/-!
# Network addresses

Addresses of 32 bits are written as four decimal numbers.  Addresses of 128 bits are written as
eight groups in hexadecimal, the longest run of two zero groups or more being left out between two
colons, the first one of several that are equally long; an address that stands for one of 32 bits
shows it in decimal.
-/

namespace AlertConsole

/-- A network address. -/
inductive Address where
  | v4 (a b c d : UInt8)
  | v6 (groups : Vector UInt16 8)
  deriving DecidableEq, Repr

namespace Address

/-! ## Texts -/

/-- Four numbers with points between them. -/
def dotted (a b c d : Nat) : String := s!"{a}.{b}.{c}.{d}"

/-- Groups with colons between them. -/
def groupsText (groups : List UInt16) : String :=
  ":".intercalate (groups.map fun g => String.ofList (Nat.toDigits 16 g.toNat))

/-- The number of zero groups from a place on. -/
def zerosFrom (groups : List UInt16) (i : Nat) : Nat :=
  ((groups.drop i).takeWhile (· = 0)).length

/-- The start of the longest run of zero groups among the first `n` places, and its length. -/
def longestZeros (groups : List UInt16) : (n : Nat) → Nat × Nat
  | 0 => (0, 0)
  | n + 1 =>
    let best := longestZeros groups n
    if best.2 < zerosFrom groups n then (n, zerosFrom groups n) else best

/-- The 32 bits that an address of 128 bits stands for, if it stands for any. -/
def embedded? : List UInt16 → Option (Nat × Nat × Nat × Nat)
  | [0, 0, 0, 0, 0, 0xFFFF, g, h] =>
    some (g.toNat / 256, g.toNat % 256, h.toNat / 256, h.toNat % 256)
  | _ => none

/-- The text of an address. -/
def text : Address → String
  | .v4 a b c d => dotted a.toNat b.toNat c.toNat d.toNat
  | .v6 groups =>
    let gs := groups.toList
    match embedded? gs with
    | some (a, b, c, d) => "::ffff:" ++ dotted a b c d
    | none =>
      let (start, length) := longestZeros gs gs.length
      if 2 ≤ length then
        groupsText (gs.take start) ++ "::" ++ groupsText (gs.drop (start + length))
      else groupsText gs

/-- The text of an address and a port. -/
def withPort (a : Address) (port : Nat) : String :=
  match a with
  | .v4 .. => s!"{a.text}:{port}"
  | .v6 .. => s!"[{a.text}]:{port}"

/-! ## Reading -/

/-- The value of a digit in a base up to sixteen, letters of either case included. -/
def digitValue? (base : Nat) (c : Char) : Option Nat :=
  let value? :=
    if '0' ≤ c ∧ c ≤ '9' then some (c.toNat - '0'.toNat)
    else if 'a' ≤ c ∧ c ≤ 'f' then some (c.toNat - 'a'.toNat + 10)
    else if 'A' ≤ c ∧ c ≤ 'F' then some (c.toNat - 'A'.toNat + 10)
    else none
  value?.filter (· < base)

/-- The number that some digits write, behind those already read as `n`. -/
def numberFrom? (base n : Nat) : List Char → Option Nat
  | [] => some n
  | c :: s => (digitValue? base c).bind fun d => numberFrom? base (n * base + d) s

/-- One number of a dotted address: up to three digits, no needless zero in front, below 256. -/
def octet? (s : List Char) : Option UInt8 :=
  if s = [] ∨ 3 < s.length ∨ (1 < s.length ∧ s.head? = some '0') then none
  else ((numberFrom? 10 0 s).filter (· < 256)).map Nat.toUInt8

/-- A text cut at every occurrence of a character. -/
def splitAt (separator : Char) (s : List Char) : List (List Char) :=
  s.foldr (fun c pieces =>
    if c = separator then [] :: pieces
    else match pieces with
      | [] => [[c]]
      | p :: ps => (c :: p) :: ps) [[]]

/-- An address of 32 bits. -/
def v4? (s : List Char) : Option (UInt8 × UInt8 × UInt8 × UInt8) :=
  match (splitAt '.' s).map octet? with
  | [some a, some b, some c, some d] => some (a, b, c, d)
  | _ => none

/-- One group: one to four hexadecimal digits. -/
def group? (s : List Char) : Option UInt16 :=
  if s = [] ∨ 4 < s.length then none else (numberFrom? 16 0 s).map Nat.toUInt16

/-- The groups that some pieces between colons write.  If `tail` is set, the last one may be an
address of 32 bits, which makes two groups. -/
def groups? (tail : Bool) : List (List Char) → Option (List UInt16)
  | [] => some []
  | [p] =>
    match group? p with
    | some g => some [g]
    | none =>
      if tail then
        (v4? p).map fun (a, b, c, d) =>
          [a.toUInt16 * 256 + b.toUInt16, c.toUInt16 * 256 + d.toUInt16]
      else none
  | p :: ps => (group? p).bind fun g => (groups? tail ps).map (g :: ·)

/-- The groups of a text, which has none if it is empty. -/
def groupsOf? (tail : Bool) (s : List Char) : Option (List UInt16) :=
  if s = [] then some [] else groups? tail (splitAt ':' s)

/-- The texts before and behind the first two colons that stand together. -/
def aroundColons? : (seen : List Char) → List Char → Option (List Char × List Char)
  | seen, ':' :: ':' :: s => some (seen.reverse, s)
  | seen, c :: s => aroundColons? (c :: seen) s
  | _, [] => none

/-- The address of eight groups. -/
def ofGroups? (groups : List UInt16) : Option Address :=
  if h : groups.length = 8 then some (.v6 ⟨groups.toArray, by simpa using h⟩) else none

/-- The address that a text writes. -/
def ofText? (text : String) : Option Address :=
  let s := text.toList
  match v4? s with
  | some (a, b, c, d) => some (.v4 a b c d)
  | none =>
    match aroundColons? [] s with
    | none => (groupsOf? true s).bind ofGroups?
    | some (head, tail) =>
      match groupsOf? false head, groupsOf? true tail with
      | some hs, some ts =>
        if hs.length + ts.length < 8 then
          ofGroups? (hs ++ List.replicate (8 - hs.length - ts.length) 0 ++ ts)
        else none
      | _, _ => none

end Address

end AlertConsole
