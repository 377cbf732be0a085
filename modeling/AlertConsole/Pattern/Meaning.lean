import AlertConsole.Pattern.Expression
import AlertConsole.Pattern.Fault
import AlertConsole.Pattern.Tree
set_option autoImplicit false

/-!
# What patterns mean

From the tree of a pattern to its expression.  Flags hold from where they stand to the end of the
group that they stand in.  Without the `unicode` flag sets are sets of bytes, and one that is not
of ASCII characters alone could match half a character.
-/

namespace AlertConsole.Pattern

/-! ## Flags -/

/-- Which flags are on. -/
structure Mode where
  caseless : Bool
  lines : Bool
  dotAll : Bool
  short : Bool
  unicode : Bool
  returns : Bool
  deriving DecidableEq, Repr, Inhabited

namespace Mode

/-- The flags at the start of a pattern. -/
def start : Mode := ⟨false, false, false, false, true, false⟩

/-- The flags with one set. -/
def set (m : Mode) (flag : Flag) (value : Bool) : Mode :=
  match flag with
  | .caseless => { m with caseless := value }
  | .lines => { m with lines := value }
  | .dotAll => { m with dotAll := value }
  | .short => { m with short := value }
  | .unicode => { m with unicode := value }
  | .returns => { m with returns := value }
  | .spaced => m

/-- The flags with some set. -/
def setAll (m : Mode) (flags : List (Flag × Bool)) : Mode :=
  flags.foldl (fun m f => m.set f.1 f.2) m

/-- The last of what a set is taken from. -/
def last (m : Mode) : Nat := if m.unicode then CharSet.lastPoint else CharSet.lastByte

end Mode

/-! ## Sets -/

/-- A set in brackets, and whether it is known to have both cases of each of its letters. -/
structure Gathered where
  set : CharSet
  caseless : Bool
  deriving DecidableEq, Repr, Inhabited

namespace Gathered

/-- The set of nothing. -/
def empty : Gathered := ⟨.empty, true⟩

/-- A set of which no more is known. -/
def ofSet (s : CharSet) : Gathered := ⟨s, false⟩

/-- A set with a range of characters. -/
def push (g : Gathered) (a b : Char) : Gathered :=
  ofSet (g.set.union ⟨[(a.toNat, b.toNat)]⟩)

/-- Two sets as one. -/
def union (g h : Gathered) : Gathered :=
  if h.set.isEmpty || g.set = h.set then g
  else ⟨g.set.union h.set, g.caseless && h.caseless⟩

/-- What is in both sets. -/
def inter (g h : Gathered) : Gathered :=
  if g.set.isEmpty then g
  else if h.set.isEmpty then empty
  else ⟨g.set.inter h.set, g.caseless && h.caseless⟩

/-- What is in the first set only. -/
def diff (g h : Gathered) : Gathered :=
  if g.set.isEmpty || h.set.isEmpty then g
  else ⟨g.set.diff h.set, g.caseless && h.caseless⟩

/-- What is in just one of the sets. -/
def symmDiff (g h : Gathered) : Gathered := (g.union h).diff (g.inter h)

/-- What is not in a set, up to a last code point. -/
def negate (last : Nat) (g : Gathered) : Gathered :=
  if g.set.isEmpty then ⟨.upTo last, true⟩ else { g with set := g.set.complement last }

/-- A set with both cases of its letters if the case does not count.  Only those of ASCII letters
are known. -/
def folded (m : Mode) (span : Span) (g : Gathered) : Except Fault Gathered :=
  if !m.caseless || g.caseless then .ok g
  else if !m.unicode then .ok ⟨g.set.caseless, true⟩
  else if g.set.isEmpty then .ok { g with caseless := true }
  else fail .noCaseTable span

/-- A set that stands on its own, or what is not in it. -/
def closed (m : Mode) (span : Span) (negated : Bool) (g : Gathered) : Except Fault Gathered := do
  let g ← g.folded m span
  let g := if negated then g.negate m.last else g
  if m.unicode || g.set.isAscii then return g else fail .halfCharacters span

/-- Two sets put together. -/
def operate (op : SetOperation) (g h : Gathered) : Gathered :=
  match op with
  | .inter => g.inter h
  | .diff => g.diff h
  | .symmDiff => g.symmDiff h

end Gathered

/-! ## Leaves -/

/-- The fault of a property.  Some short names are of values alone. -/
def Property.fault (p : Property) (m : Mode) : Fault :=
  let plain := p.name.filter fun c => c.toNat ≤ CharSet.lastAscii && !" _-".toList.contains c
  let bare := match p.name.map Char.toLower with
    | 'i' :: 's' :: _ => (plain.drop 2).map Char.toLower
    | _ => plain.map Char.toLower
  let valued := p.name.contains '=' || p.name.contains ':'
  let cause : Cause :=
    if !m.unicode then .onlyBytes
    else if !valued && ["cf", "sc", "lc"].contains (String.ofList bare) then .unknownPropertyValue
    else .unknownProperty
  ⟨cause, p.span, none⟩

/-- The set of an escaped letter. -/
def Named.shorthandSet (c : Named) (m : Mode) : Except Fault CharSet :=
  if m.unicode then fail .noClassTable c.span
  else
    let set := if c.negated then c.set.complement m.last else c.set
    if set.isAscii then .ok set else fail .halfCharacters c.span

/-- The character that a literal is for sets of bytes and, outside of brackets, without the
`unicode` flag. -/
def Literal.check (l : Literal) (m : Mode) : Except Fault Char :=
  if !m.unicode && l.isByte && CharSet.lastAscii < l.char.toNat then fail .halfCharacters l.span
  else .ok l.char

/-- The character of a literal in brackets. -/
def Literal.member (l : Literal) (m : Mode) : Except Fault Char := do
  let c ← l.check m
  if !m.unicode && CharSet.lastAscii < c.toNat then fail .onlyBytes l.span
  else return c

/-- The expression of a literal. -/
def Literal.expression (l : Literal) (m : Mode) : Except Fault Expression := do
  let c ← l.check m
  if !m.caseless then return .literal [c]
  else if m.unicode then fail .noCaseTable l.span
  else return .ofSet (CharSet.ofChar c).caseless

/-- What the dot stands for. -/
def dotSet (m : Mode) : CharSet :=
  if m.dotAll then .upTo CharSet.lastPoint
  else
    let ends := if m.returns then ['\n', '\r'] else ['\n']
    (CharSet.ofRanges (ends.map fun c => (c.toNat, c.toNat))).complement CharSet.lastPoint

/-- What an assertion asks. -/
def Anchor.look (a : Anchor) (m : Mode) : Look :=
  match a with
  | .lineStart => if m.lines then .lineStart m.returns else .textStart
  | .lineEnd => if m.lines then .lineEnd m.returns else .textEnd
  | .textStart => .textStart
  | .textEnd => .textEnd
  | .boundary => .word m.unicode .boundary
  | .noBoundary => .word m.unicode .noBoundary
  | .wordStart => .word m.unicode .wordStart
  | .wordEnd => .word m.unicode .wordEnd
  | .wordStartHalf => .word m.unicode .startHalf
  | .wordEndHalf => .word m.unicode .endHalf

/-! ## Brackets -/

mutual

/-- A set with what stands in brackets. -/
def Members.addTo (m : Mode) (g : Gathered) : Members → Except Fault Gathered
  | .blank _ => .ok g
  | .literal l => do
    let c ← l.member m
    return g.push c c
  | .range _ first last => do
    let a ← first.member m
    let b ← last.member m
    return g.push a b
  | .named c => do
    let h ← (Gathered.ofSet c.set).closed m c.span c.negated
    return g.union h
  | .shorthand c => do
    let s ← c.shorthandSet m
    return g.union (.ofSet s)
  | .property p => .error (p.fault m)
  | .brackets span negated inside => do
    let h ← inside.addTo m .empty
    let h ← h.closed m span negated
    return g.union h
  | .union _ items => Members.addAllTo m g items
  | .operation _ op left right => do
    let a ← left.addTo m .empty
    let b ← right.addTo m .empty
    let b ← b.folded m right.span
    let a ← a.folded m left.span
    return g.union (.operate op a b)

/-- A set with all of some members. -/
def Members.addAllTo (m : Mode) (g : Gathered) : List Members → Except Fault Gathered
  | [] => .ok g
  | item :: items =>
    match item.addTo m g with
    | .error f => .error f
    | .ok g => Members.addAllTo m g items

end

/-! ## Trees -/

mutual

/-- The expression of a part of a pattern, and the flags behind it. -/
def Tree.expression (m : Mode) : Tree → Except Fault (Expression × Mode)
  | .blank _ => .ok (.blank, m)
  | .flags _ switches => .ok (.blank, m.setAll switches)
  | .literal l => do
    let e ← l.expression m
    return (e, m)
  | .dot span => if m.unicode then .ok (.ofSet (dotSet m), m) else fail .halfCharacters span
  | .anchor _ a => .ok (.look (a.look m), m)
  | .shorthand c => do
    let s ← c.shorthandSet m
    return (.ofSet s, m)
  | .property p => .error (p.fault m)
  | .brackets span negated inside => do
    let g ← inside.addTo m .empty
    let g ← g.closed m span negated
    return (.ofSet g.set, m)
  | .repetition _ count item => do
    let (e, m) ← item.expression m
    return (.repeated count.least count.most (count.marked == m.short) e, m)
  | .group _ (.kept index) item => do
    let (e, _) ← item.expression m
    return (.kept index e, m)
  | .group _ (.plain switches) item => do
    let (e, _) ← item.expression (m.setAll switches)
    return (e, m)
  | .alternatives _ items => do
    let (es, m) ← Tree.expressions m items
    return (.anyOf es, m)
  | .sequence _ items => do
    let (es, m) ← Tree.expressions m items
    return (.inRow es, m)

/-- The expressions of parts of a pattern, one behind the other, and the flags behind them. -/
def Tree.expressions (m : Mode) : List Tree → Except Fault (List Expression × Mode)
  | [] => .ok ([], m)
  | t :: ts => do
    let (e, m) ← t.expression m
    let (es, m) ← Tree.expressions m ts
    return (e :: es, m)

end

end AlertConsole.Pattern
