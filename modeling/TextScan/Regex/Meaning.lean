/-
# The meaning of a tree

`Tree.meaning` turns a tree into an expression under the flags that are set where it stands.  A
change of flags holds from where it is written to the end of the group around it, in later branches
too.

Without the flag `u` an expression matches bytes.  Such an expression is refused if it could match
something that is no text: a set with a byte that is not ASCII, or the dot.
-/

import TextScan.Regex.Reader
import TextScan.Regex.Expr
import TextScan.Unicode.CaseFold
import TextScan.Unicode.Query

namespace TextScan
namespace Regex

/-- The flags that are set. -/
structure Flags where
  ignoreCase : Bool := false
  multiLine : Bool := false
  dotAll : Bool := false
  swapGreed : Bool := false
  unicode : Bool := true
  crlf : Bool := false
  deriving DecidableEq, Repr

namespace Flags

/-- Sets or clears one flag. -/
def put (f : Flags) : Flag × Bool → Flags
  | (.ignoreCase, b) => { f with ignoreCase := b }
  | (.multiLine, b) => { f with multiLine := b }
  | (.dotAll, b) => { f with dotAll := b }
  | (.swapGreed, b) => { f with swapGreed := b }
  | (.unicode, b) => { f with unicode := b }
  | (.crlf, b) => { f with crlf := b }
  | (.verbose, _) => f

/-- Makes a change. -/
def change (f : Flags) (c : FlagChange) : Flags := c.foldl put f

/-- A set with everything that differs from a member in case only, where case makes no
difference. -/
def fold (f : Flags) (s : CharSet) : CharSet :=
  if f.ignoreCase then
    if f.unicode then Unicode.foldCase s else Unicode.foldAsciiCase s
  else s

end Flags

/-- The ranges of a list of pairs of characters. -/
def setOfPairs (ps : List (Char × Char)) : CharSet :=
  CharSet.ofRanges (ps.map fun p => ⟨p.1.toNat, p.2.toNat⟩)

/-- The members of an ASCII class. -/
def PosixClass.set : PosixClass → CharSet
  | .alnum => setOfPairs [('0', '9'), ('A', 'Z'), ('a', 'z')]
  | .alpha => setOfPairs [('A', 'Z'), ('a', 'z')]
  | .ascii => setOfPairs [('\x00', '\x7F')]
  | .blank => setOfPairs [('\t', '\t'), (' ', ' ')]
  | .cntrl => setOfPairs [('\x00', '\x1F'), ('\x7F', '\x7F')]
  | .digit => setOfPairs [('0', '9')]
  | .graph => setOfPairs [('!', '~')]
  | .lower => setOfPairs [('a', 'z')]
  | .print => setOfPairs [(' ', '~')]
  | .punct => setOfPairs [('!', '/'), (':', '@'), ('[', '\x60'), ('\x7b', '~')]
  | .space => setOfPairs [('\t', '\r'), (' ', ' ')]
  | .upper => setOfPairs [('A', 'Z')]
  | .word => setOfPairs [('0', '9'), ('A', 'Z'), ('_', '_'), ('a', 'z')]
  | .xdigit => setOfPairs [('0', '9'), ('A', 'F'), ('a', 'f')]

/-- The members of a class with a one-letter name. -/
def Shorthand.set (unicode : Bool) : Shorthand → CharSet
  | .digit => if unicode then Unicode.digits else PosixClass.digit.set
  | .space => if unicode then Unicode.blanks else PosixClass.space.set
  | .word => if unicode then Unicode.wordChars else PosixClass.word.set

/-- The members of a class that is asked for by name. -/
def PropertyName.set : PropertyName → Except Unicode.QueryFault CharSet
  | .short c => Unicode.ofName [c]
  | .named n => Unicode.ofName n
  | .valued n v => Unicode.ofNameAndValue n v

/-- A set that an expression may have: one of bytes must be ASCII. -/
def checkedSet (f : Flags) (e : Extent) (s : CharSet) : Except Fault CharSet :=
  if f.unicode || s.isAscii then .ok s else fail .invalidUtf8 e.first e.stop

/-- A set or its complement.  Case is looked at before the complement is taken. -/
def foldedSet (f : Flags) (e : Extent) (negated : Bool) (s : CharSet) : Except Fault CharSet :=
  let s := f.fold s
  checkedSet f e (if negated then s.complement else s)

/-- The set of a class with a one-letter name; these do not change with case. -/
def shorthandSet (f : Flags) (e : Extent) (k : Shorthand) (negated : Bool) :
    Except Fault CharSet :=
  let s := k.set f.unicode
  checkedSet f e (if negated then s.complement else s)

/-- The set of a class that is asked for by name. -/
def propertySet (f : Flags) (e : Extent) (p : PropertyName) (negated : Bool) :
    Except Fault CharSet :=
  if f.unicode then
    match p.set with
    | .error .noSuchProperty => fail .propertyUnknown e.first e.stop
    | .error .noSuchValue => fail .propertyValueUnknown e.first e.stop
    | .ok s => foldedSet f e negated s
  else fail .unicodeNotAllowed e.first e.stop

/-- The character of a literal.  A byte that is no ASCII character is no text. -/
def Literal.value (f : Flags) (l : Literal) : Except Fault Char :=
  if !f.unicode && l.isByte && decide (0x7F < l.char.toNat) then
    fail .invalidUtf8 l.extent.first l.extent.stop
  else .ok l.char

/-- The character of a literal in a set.  A set of bytes has ASCII characters only. -/
def Literal.member (f : Flags) (l : Literal) : Except Fault Nat := do
  let c ← l.value f
  if f.unicode || decide (c.toNat < 0x80) then pure c.toNat
  else fail .unicodeNotAllowed l.extent.first l.extent.stop

/-- Two sets combined. -/
def SetOp.apply : SetOp → CharSet → CharSet → CharSet
  | .inter => CharSet.inter
  | .diff => CharSet.diff
  | .symmDiff => CharSet.symmDiff

mutual

/-- The members of a set.  Case is looked at wherever sets are combined or a complement is taken. -/
def SetTree.members (f : Flags) : SetTree → Except Fault CharSet
  | .empty _ => .ok CharSet.empty
  | .literal l => do
    let n ← l.member f
    pure ⟨[⟨n, n⟩]⟩
  | .range _ low high => do
    let a ← low.member f
    let b ← high.member f
    pure ⟨[⟨a, b⟩]⟩
  | .posix e k negated => foldedSet f e negated k.set
  | .shorthand e k negated => shorthandSet f e k negated
  | .property e p negated => propertySet f e p negated
  | .bracket e negated s => do
    let m ← s.members f
    foldedSet f e negated m
  | .union _ ss => SetTree.allMembers f CharSet.empty ss
  | .combine _ op l r => do
    let a ← l.members f
    let b ← r.members f
    pure (op.apply (f.fold a) (f.fold b))

/-- The members of sets side by side, with those of a set. -/
def SetTree.allMembers (f : Flags) (s : CharSet) : List SetTree → Except Fault CharSet
  | [] => .ok s
  | t :: ts => do
    let m ← t.members f
    SetTree.allMembers f (s.union m) ts

end

/-- The characters that the dot matches. -/
def dotSet (f : Flags) : CharSet :=
  if f.dotAll then CharSet.all
  else if f.crlf then (setOfPairs [('\n', '\n'), ('\r', '\r')]).complement
  else (CharSet.single '\n').complement

/-- The condition of an assertion. -/
def Assertion.anchor (f : Flags) : Assertion → Anchor
  | .lineStart =>
    if f.multiLine then (if f.crlf then .lineStartCrlf else .lineStart) else .textStart
  | .lineEnd => if f.multiLine then (if f.crlf then .lineEndCrlf else .lineEnd) else .textEnd
  | .textStart => .textStart
  | .textEnd => .textEnd
  | .wordBoundary => .wordBoundary f.unicode
  | .notWordBoundary => .notWordBoundary f.unicode
  | .wordStart => .wordStart f.unicode
  | .wordEnd => .wordEnd f.unicode
  | .wordStartHalf => .wordStartHalf f.unicode
  | .wordEndHalf => .wordEndHalf f.unicode

/-- The expression of a literal character.  Where case makes no difference, a character that has no
other case is a text still. -/
def charExpr (f : Flags) (c : Char) : Expr :=
  let s := f.fold (CharSet.single c)
  if s = CharSet.single c then .text [c] else Expr.oneOfSet (!f.unicode) s

/-- The expression of an atom. -/
def Atom.meaning (f : Flags) : Atom → Except Fault Expr
  | .literal l => (l.value f).map (charExpr f)
  | .dot e => if f.unicode then .ok (.oneOf false (dotSet f)) else fail .invalidUtf8 e.first e.stop
  | .assertion _ k => .ok (.anchor (k.anchor f))
  | .shorthand e k negated => (shorthandSet f e k negated).map (Expr.oneOfSet (!f.unicode))
  | .property e p negated => (propertySet f e p negated).map (Expr.oneOfSet false)

mutual

/-- The expression of a tree, and the flags that are set after it. -/
def Tree.meaning (f : Flags) : Tree → Except Fault (Expr × Flags)
  | .empty => .ok (.empty, f)
  | .flags change => .ok (.empty, f.change change)
  | .atom a => (a.meaning f).map (·, f)
  | .bracket s => (s.members f).map fun m => (Expr.oneOfSet (!f.unicode) m, f)
  | .repetition _ bounds greedy t => do
    let (e, f) ← t.meaning f
    pure (Expr.repeated bounds.least bounds.most (greedy != f.swapGreed) e, f)
  | .group _ (.capture index name) t => do
    let (e, _) ← t.meaning f
    pure (.group index name e, f)
  | .group _ (.plain change) t => do
    let (e, _) ← t.meaning (f.change change)
    pure (e, f)
  | .alternation _ ts => do
    let (es, f) ← Tree.allMeanings f ts
    pure (Expr.alternatives es, f)
  | .sequence _ ts => do
    let (es, f) ← Tree.allMeanings f ts
    pure (Expr.sequence es, f)

/-- The expressions of trees, each under the flags that are set after the one before. -/
def Tree.allMeanings (f : Flags) : List Tree → Except Fault (List Expr × Flags)
  | [] => .ok ([], f)
  | t :: ts => do
    let (e, f) ← t.meaning f
    let (es, f) ← Tree.allMeanings f ts
    pure (e :: es, f)

end

end Regex
end TextScan
