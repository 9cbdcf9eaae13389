/-
# Sets in brackets

`Cursor.brackets` reads a set from its opening bracket to the closing one.  Brackets inside brackets
are kept on a stack, the innermost first; a level holds the items read since its opening bracket or
since the last operator, and the left side of that operator.  Operators bind to the left, and less
than the items side by side.
-/

import TextScan.Regex.Escape

namespace TextScan
namespace Regex

/-- An open bracket, and what was read after it. -/
structure BracketLevel where
  /-- The bracket with what belongs to it before the first item. -/
  opening : Extent
  negated : Bool
  /-- The operator before the items, with its left side. -/
  left : Option (SetOp × SetTree)
  /-- Where the items were read. -/
  extent : Extent
  /-- The items, latest first. -/
  items : List SetTree

namespace BracketLevel

/-- One more item. -/
def push (l : BracketLevel) (s : SetTree) : BracketLevel :=
  let first := if l.items.isEmpty then s.extent.first else l.extent.first
  { l with extent := ⟨first, s.extent.stop⟩, items := s :: l.items }

/-- What a level holds so far, as one set. -/
def set (l : BracketLevel) : SetTree :=
  let right := SetTree.ofItems l.extent l.items.reverse
  match l.left with
  | none => right
  | some (op, left) => .combine ⟨left.extent.first, right.extent.stop⟩ op left right

/-- Makes what was read the left side of an operator; the cursor is after it. -/
def operate (l : BracketLevel) (op : SetOp) (index : Nat) : BracketLevel :=
  { l with left := some (op, l.set), extent := ⟨index, index⟩, items := [] }

/-- The set of a level whose closing bracket ends at an index. -/
def close (l : BracketLevel) (stop : Nat) : SetTree :=
  .bracket ⟨l.opening.first, stop⟩ l.negated l.set

end BracketLevel

/-- An atom as an item of a set. -/
def SetTree.ofAtom : Atom → Except Fault SetTree
  | .literal l => .ok (.literal l)
  | .shorthand e k n => .ok (.shorthand e k n)
  | .property e p n => .ok (.property e p n)
  | .dot e => fail .setEscapeInvalid e.first e.stop
  | .assertion e _ => fail .setEscapeInvalid e.first e.stop

/-- An atom as an end of a range. -/
def Atom.rangeEnd : Atom → Except Fault Literal
  | .literal l => .ok l
  | a => fail .rangeEndNotLiteral a.extent.first a.extent.stop

namespace Cursor

/-- Reads hyphens that stand for themselves at the start of a set; `fuel` is a bound on their
number. -/
def hyphens (start : Nat) : Nat → BracketLevel → Cursor → Except Fault (BracketLevel × Cursor)
  | 0, l, c => .ok (l, c)
  | fuel + 1, l, c =>
    if c.rest.head? = some '-' then
      let c' := c.next
      if c'.rest.isEmpty then fail .setUnclosed start start
      else hyphens start fuel (l.push (.literal ⟨c.charExtent, '-', false⟩)) c'
    else .ok (l, c)

/-- Reads an opening bracket, the sign of a complement, and the hyphens or the closing bracket that
stand for themselves at the start of a set. -/
def openBracket (c : Cursor) : Except Fault (BracketLevel × Cursor) := do
  let start := c.index
  let c₁ := c.next
  if c₁.rest.isEmpty then fail .setUnclosed start c₁.index
  else
    let negated := c₁.rest.head? == some '^'
    let c₂ := if negated then c₁.next else c₁
    if c₂.rest.isEmpty then fail .setUnclosed start c₂.index
    else
      let level : BracketLevel := ⟨⟨start, c₂.index⟩, negated, none, ⟨c₂.index, c₂.index⟩, []⟩
      let (l, c₃) ← hyphens start c₂.rest.length level c₂
      if l.items.isEmpty && c₃.rest.head? == some ']' then
        let c₄ := c₃.next
        if c₄.rest.isEmpty then fail .setUnclosed start c₄.index
        else
          let l := l.push (.literal ⟨c₃.charExtent, ']', false⟩)
          pure ({ l with opening := ⟨start, c₄.index⟩ }, c₄)
      else pure ({ l with opening := ⟨start, c₃.index⟩ }, c₃)

/-- Reads a class with a name in colons; anything else is left unread. -/
def posixClass? (c : Cursor) : Option (SetTree × Cursor) := do
  let c₁ ← c.accept? "[:".toList
  let (negated, c₂) := match c₁.accept? ['^'] with
    | some c₂ => (true, c₂)
    | none => (false, c₁)
  let name := c₂.rest.takeWhile (· != ':')
  let kind ← PosixClass.ofName? name
  let c₃ ← c₂.accept? (name ++ ":]".toList)
  pure (.posix ⟨c.index, c₃.index⟩ kind negated, c₃)

/-- Reads an end of a range or an item that stands for itself. -/
def setAtom (c : Cursor) : Except Fault (Atom × Cursor) :=
  match c.rest with
  | [] => fail .escapeUnfinished c.index c.index
  | ch :: _ =>
    if ch = '\\' then c.escape else .ok (.literal ⟨c.charExtent, ch, false⟩, c.advance)

/-- Reads an item or a range.  A hyphen makes a range unless a hyphen or the closing bracket
follows. -/
def setItem (l : BracketLevel) (c : Cursor) : Except Fault (SetTree × Cursor) := do
  let (low, c₁) ← c.setAtom
  let c₂ := c₁.skipBlanks
  if c₂.rest.isEmpty then fail .setUnclosed l.opening.first l.opening.stop
  else if c₂.rest.head? != some '-' || c₂.following? == some ']' || c₂.following? == some '-' then
    let s ← SetTree.ofAtom low
    pure (s, c₂)
  else
    let c₃ := c₂.next
    if c₃.rest.isEmpty then fail .setUnclosed l.opening.first l.opening.stop
    else
      let (high, c₄) ← c₃.setAtom
      let a ← low.rangeEnd
      let b ← high.rangeEnd
      if a.char ≤ b.char then pure (.range ⟨a.extent.first, b.extent.stop⟩ a b, c₄)
      else fail .rangeBackwards a.extent.first b.extent.stop

/-- The operator at a cursor, with the cursor after it. -/
def setOp? (c : Cursor) : Option (SetOp × Cursor) :=
  (c.accept? "&&".toList).map (.inter, ·) <|> (c.accept? "--".toList).map (.diff, ·) <|>
    (c.accept? "~~".toList).map (.symmDiff, ·)

/-- Reads on in the innermost of the open brackets until all are closed; `fuel` is a bound on the
number of items, operators and brackets. -/
def bracketItems : Nat → BracketLevel → List BracketLevel → Cursor →
    Except Fault (SetTree × Cursor)
  | 0, l, _, _ => fail .setUnclosed l.opening.first l.opening.stop
  | fuel + 1, l, outer, c =>
    let c := c.skipBlanks
    match c.rest with
    | [] => fail .setUnclosed l.opening.first l.opening.stop
    | ch :: _ =>
      if ch = '[' then
        match c.posixClass? with
        | some (s, c') => bracketItems fuel (l.push s) outer c'
        | none => do
          let (inner, c') ← c.openBracket
          bracketItems fuel inner (l :: outer) c'
      else if ch = ']' then
        let c' := c.advance
        match outer with
        | [] => .ok (l.close c'.index, c')
        | o :: outer => bracketItems fuel (o.push (l.close c'.index)) outer c'
      else
        match c.setOp? with
        | some (op, c') => bracketItems fuel (l.operate op c'.index) outer c'
        | none => do
          let (s, c') ← c.setItem l
          bracketItems fuel (l.push s) outer c'

/-- Reads a set, with the cursor at its opening bracket. -/
def brackets (c : Cursor) : Except Fault (SetTree × Cursor) := do
  let (l, c') ← c.openBracket
  bracketItems c.rest.length l [] c'

end Cursor
end Regex
end TextScan
