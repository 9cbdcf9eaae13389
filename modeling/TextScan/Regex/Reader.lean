/-
# Reading a regular expression

`Tree.ofSource` reads a source into a tree, or finds the first fault in it.  The reader goes from
left to right and keeps the open groups on a stack, the innermost first.  A level holds what was
read since its group was opened: the finished branches and the items of the current one.

A source is read in whole before it is checked that nothing in it lies too deep.
-/

import TextScan.Unicode.Newer
import TextScan.Regex.Brackets

namespace TextScan
namespace Regex

/-- What was read inside a group, or outside of all groups. -/
structure Level where
  /-- Where the first branch starts. -/
  first : Nat
  /-- The finished branches, latest first. -/
  branches : List Tree
  /-- Where the current branch starts. -/
  start : Nat
  /-- The items of the current branch, latest first. -/
  items : List Tree

namespace Level

/-- A level before anything is read. -/
def empty (index : Nat) : Level := ⟨index, [], index, []⟩

/-- One more item. -/
def push (l : Level) (t : Tree) : Level := { l with items := t :: l.items }

/-- The current branch, if it stops at an index. -/
def branch (l : Level) (stop : Nat) : Tree := Tree.ofItems ⟨l.start, stop⟩ l.items.reverse

/-- Ends the current branch at a bar with the given index. -/
def bar (l : Level) (index : Nat) : Level :=
  ⟨l.first, l.branch index :: l.branches, index + 1, []⟩

/-- All of a level that stops at an index. -/
def close (l : Level) (stop : Nat) : Tree :=
  match l.branches with
  | [] => l.branch stop
  | bs => .alternation ⟨l.first, stop⟩ (l.branch stop :: bs).reverse

end Level

/-- An open group. -/
structure OpenGroup where
  /-- What was read before it. -/
  outer : Level
  /-- Where its parenthesis is. -/
  paren : Nat
  kind : GroupKind
  /-- The mode to go back to. -/
  verbose : Bool

/-- How far a source is read. -/
structure Reader where
  cursor : Cursor
  level : Level
  groups : List OpenGroup
  /-- The number of capturing groups opened. -/
  captures : Nat
  /-- The names of groups, with the places where they stand. -/
  names : List (Text × Extent)

/-- What begins with a parenthesis. -/
inductive Paren where
  | group (kind : GroupKind) (name : Option Extent)
  | flags (change : FlagChange)

/-- The flag of a letter. -/
def flag? : Char → Option Flag
  | 'i' => some .ignoreCase
  | 'm' => some .multiLine
  | 's' => some .dotAll
  | 'U' => some .swapGreed
  | 'u' => some .unicode
  | 'R' => some .crlf
  | 'x' => some .verbose
  | _ => none

/-- Whether a character may start the name of a group. -/
def isNameStart (c : Char) : Bool := c == '_' || Unicode.nameLetters.contains c

/-- Whether a character may be in the name of a group. -/
def isNameChar (c : Char) : Bool :=
  isNameStart c || c == '.' || c == '[' || c == ']' || Unicode.nameDigits.contains c

namespace Cursor

/-- The characters of a group's name, up to one that may not be in it. -/
def groupName : Text → Text
  | [] => []
  | c :: t => if isNameStart c then c :: t.takeWhile isNameChar else []

/-- Reads the name of a group, with the cursor after its opening sign. -/
def captureName (c : Cursor) : Except Fault (Text × Extent × Cursor) :=
  let name := groupName c.rest
  let stop := c.index + name.length
  match c.rest.drop name.length with
  | [] => fail .nameUnclosed stop stop
  | ch :: t =>
    if ch = '>' then
      if name.isEmpty then fail .nameEmpty c.index c.index
      else .ok (name, ⟨c.index, stop⟩, { c with rest := t, index := stop + 1 })
    else fail .nameInvalid stop (stop + 1)

/-- What was read of a list of flags: each flag or the sign of negation (`none`), with its place,
latest first. -/
abbrev FlagItems := List (Option Flag × Extent)

/-- Reads flags up to the colon or the parenthesis that ends them. -/
def flagItems (seen : FlagItems) : Text → Nat → Except Fault (FlagItems × Text × Nat)
  | [], n => fail .flagsUnfinished n n
  | ch :: t, n =>
    let here : Extent := ⟨n, n + 1⟩
    if ch = ':' ∨ ch = ')' then .ok (seen, ch :: t, n)
    else if ch = '-' then
      match seen.find? (·.1 == none) with
      | some (_, e) => .error ⟨.negationRepeated, here, some e⟩
      | none => flagItems ((none, here) :: seen) t (n + 1)
    else
      match flag? ch with
      | none => .error ⟨.flagUnknown, here, none⟩
      | some f =>
        match seen.find? (·.1 == some f) with
        | some (_, e) => .error ⟨.flagRepeated, here, some e⟩
        | none => flagItems ((some f, here) :: seen) t (n + 1)

/-- The change that a list of flags makes: flags are cleared after the sign of negation. -/
def flagChange (enable : Bool) : List (Option Flag × Extent) → FlagChange
  | [] => []
  | (none, _) :: rest => flagChange false rest
  | (some f, _) :: rest => (f, enable) :: flagChange enable rest

/-- Reads what stands in parentheses after a question mark, with the cursor after that. -/
def flagsOrGroup (question : Nat) (c : Cursor) : Except Fault (Paren × Cursor) := do
  let (items, rest, index) ← flagItems [] c.rest c.index
  match items with
  | (none, e) :: _ => fail .negationDangling e.first e.stop
  | _ =>
    let after : Cursor := { c with rest := rest.drop 1, index := index + 1 }
    let change := flagChange true items.reverse
    if rest.head? = some ')' then
      if items.isEmpty then fail .repetitionOfNothing question question
      else pure (.flags change, after)
    else pure (.group (.plain change) none, after)

/-- Reads the start of a group, or a change of flags, with the cursor at the parenthesis.  `number`
is the number of the next capturing group. -/
def paren (number : Nat) (c : Cursor) : Except Fault (Paren × Cursor) :=
  let c' := c.next
  let named (sign : String) : Option Cursor := c'.accept? sign.toList
  match (named "?=" <|> named "?!") <|> (named "?<=" <|> named "?<!") with
  | some after => fail .lookAround c.index after.index
  | none =>
    match named "?P<" <|> named "?<" with
    | some after => do
      let (name, extent, after) ← after.captureName
      pure (.group (.capture number (some name)) (some extent), after)
    | none =>
      match named "?" with
      | some after =>
        if after.rest.isEmpty then fail .groupUnclosed c.index (c.index + 1)
        else after.flagsOrGroup c'.index
      | none => .ok (.group (.capture number none) none, c')

/-- A number of a count, where one is; its fault waits until the rest of the count is looked at. -/
def decimal (c : Cursor) : Except Fault Nat × Cursor :=
  let c₁ := c.skipWhite
  let (ds, c₂) := c₁.collect Char.isDigit
  let value :=
    if ds.isEmpty then fail .countEmpty c₁.index c₂.index
    else if Text.ofDigits ds < Nat.pow 2 32 then .ok (Text.ofDigits ds)
    else fail .countTooLarge c₁.index c₂.index
  (value, c₂.skipWhite)

/-- Reads the numbers of a count, for the brace at `start`, with the cursor after the first. -/
def countBounds (start : Nat) (least : Except Fault Nat) (c : Cursor) :
    Except Fault (Bounds × Cursor) :=
  match c.rest with
  | [] => fail .countUnclosed start c.index
  | ch :: _ =>
    if ch = ',' then
      let c' := c.next
      match c'.rest with
      | [] => fail .countUnclosed start c'.index
      | d :: _ =>
        if d = '\x7d' then least.map fun m => (⟨m, none⟩, c')
        else do
          let m ← least
          let (most, after) := c'.decimal
          let n ← most
          pure (⟨m, some n⟩, after)
    else least.map fun m => (⟨m, some m⟩, c)

/-- Reads a count in braces and the question mark that makes it lazy, with the cursor at the opening
brace. -/
def count (c : Cursor) : Except Fault (Bounds × Bool × Cursor) :=
  let start := c.index
  let c₁ := c.next
  if c₁.rest.isEmpty then fail .countUnclosed start c₁.index
  else do
    let (least, c₂) := c₁.decimal
    let (bounds, c₃) ← countBounds start least c₂
    if c₃.rest.head? = some '\x7d' then
      let c₄ := c₃.next
      let lazy := c₄.rest.head? == some '?'
      let c₅ := if lazy then c₄.advance else c₄
      if bounds.most.all fun n => decide (bounds.least ≤ n) then pure (bounds, !lazy, c₅)
      else fail .countBackwards start c₅.index
    else fail .countUnclosed start c₃.index

/-- The bounds of a repetition that is one sign. -/
def signBounds? : Char → Option Bounds
  | '?' => some ⟨0, some 1⟩
  | '*' => some ⟨0, none⟩
  | '+' => some ⟨1, none⟩
  | _ => none

/-- Reads a sign of repetition, and the question mark that makes it lazy. -/
def sign (bounds : Bounds) (c : Cursor) : Bounds × Bool × Cursor :=
  let c' := c.advance
  if c'.rest.head? = some '?' then (bounds, false, c'.advance) else (bounds, true, c')

/-- Reads what stands for itself. -/
def atom (ch : Char) (c : Cursor) : Except Fault (Atom × Cursor) :=
  let e := c.charExtent
  match ch with
  | '\\' => c.escape
  | '.' => .ok (.dot e, c.advance)
  | '^' => .ok (.assertion e .lineStart, c.advance)
  | '$' => .ok (.assertion e .lineEnd, c.advance)
  | _ => .ok (.literal ⟨e, ch, false⟩, c.advance)

end Cursor

namespace Reader

/-- A reader before a source. -/
def ofSource (source : Text) : Reader := ⟨Cursor.ofSource source, Level.empty 0, [], 0, []⟩

/-- Keeps an item, and goes on after it. -/
def push (r : Reader) (t : Tree) (c : Cursor) : Reader :=
  { r with cursor := c, level := r.level.push t }

/-- Opens a group or changes flags. -/
def openParen (r : Reader) (c : Cursor) : Except Fault Reader := do
  let (p, c') ← c.paren (r.captures + 1)
  match p with
  | .flags change =>
    let verbose := (change.state? .verbose).getD c.verbose
    pure (r.push (.flags change) { c' with verbose := verbose })
  | .group kind name =>
    let (captures, verbose) := match kind with
      | .capture n _ => (n, c.verbose)
      | .plain change => (r.captures, (change.state? .verbose).getD c.verbose)
    let names ← match kind, name with
      | .capture _ (some n), some e =>
        match r.names.find? (·.1 == n) with
        | some (_, e') => .error ⟨.nameRepeated, e, some e'⟩
        | none => .ok ((n, e) :: r.names)
      | _, _ => .ok r.names
    let group : OpenGroup := ⟨r.level, c.index, kind, c.verbose⟩
    pure ⟨{ c' with verbose := verbose }, Level.empty c'.index, group :: r.groups, captures, names⟩

/-- Closes the innermost group. -/
def closeParen (r : Reader) (c : Cursor) : Except Fault Reader :=
  match r.groups with
  | [] => fail .groupUnopened c.index (c.index + 1)
  | g :: groups =>
    let c' := { c.advance with verbose := g.verbose }
    let t := Tree.group ⟨g.paren, c'.index⟩ g.kind (r.level.close c.index)
    .ok { r with cursor := c', level := g.outer.push t, groups := groups }

/-- Makes the latest item the body of a repetition that was read up to a cursor. -/
def repetition (r : Reader) (t : Tree) (items : List Tree) (p : Bounds × Bool × Cursor) : Reader :=
  let (bounds, greedy, c) := p
  let t := Tree.repetition ⟨t.extent.first, c.index⟩ bounds greedy t
  { r with cursor := c, level := { r.level with items := t :: items } }

/-- Reads a repetition of the latest item, if there is one that can be repeated. -/
def repeated (r : Reader) (c : Cursor)
    (read : Except Fault (Bounds × Bool × Cursor)) : Except Fault Reader :=
  match r.level.items with
  | [] => fail .repetitionOfNothing c.index c.index
  | .empty :: _ => fail .repetitionOfNothing c.index c.index
  | .flags _ :: _ => fail .repetitionOfNothing c.index c.index
  | t :: items => read.map (r.repetition t items)

/-- Reads on by one item, sign or parenthesis, with the cursor at its first character. -/
def step (r : Reader) (ch : Char) (c : Cursor) : Except Fault Reader :=
  if ch = '(' then r.openParen c
  else if ch = ')' then r.closeParen c
  else if ch = '|' then .ok { r with cursor := c.advance, level := r.level.bar c.index }
  else if ch = '[' then c.brackets.map fun p => r.push (.bracket p.1) p.2
  else if ch = '\x7b' then r.repeated c c.count
  else
    match Cursor.signBounds? ch with
    | some bounds => r.repeated c (.ok (c.sign bounds))
    | none => (c.atom ch).map fun p => r.push (.atom p.1) p.2

/-- Ends the reading at the end of the source. -/
def finish (r : Reader) (stop : Nat) : Except Fault Tree :=
  match r.groups with
  | [] => .ok (r.level.close stop)
  | g :: _ => fail .groupUnclosed g.paren (g.paren + 1)

/-- Reads on to the end of the source; `fuel` is more than the number of steps. -/
def run : Nat → Reader → Except Fault Tree
  | 0, r => r.finish r.cursor.index
  | fuel + 1, r =>
    let c := r.cursor.skipBlanks
    match c.rest with
    | [] => r.finish c.index
    | ch :: _ => do
      let r' ← r.step ch c
      run fuel r'

end Reader

/-- The tree of a source. -/
def Tree.ofSource (source : Text) : Except Fault Tree := do
  let t ← Reader.run (source.length + 1) (Reader.ofSource source)
  match t.tooDeep? nestLimit with
  | some e => fail .nestedTooDeep e.first e.stop
  | none => pure t

end Regex
end TextScan
