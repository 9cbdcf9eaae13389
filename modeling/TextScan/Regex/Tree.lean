/-
# What a regular expression says

The tree of a regular expression, as it is written.  Every part knows its extent, the range of
characters of the source that it was read from, so that a fault found later can be pointed at.

| type | holds |
| --- | --- |
| `Atom` | what stands for itself: a literal, the dot, an assertion, an escaped class |
| `SetTree` | what stands inside brackets |
| `Tree` | a whole expression |
-/

import TextScan.Text.Basic

namespace TextScan
namespace Regex

/-- A range of characters of a source. -/
structure Extent where
  first : Nat
  stop : Nat
  deriving DecidableEq, Repr

/-- The flags that change how an expression is read or what it means. -/
inductive Flag where
  /-- `i`: letters match in either case. -/
  | ignoreCase
  /-- `m`: `^` and `$` match at every line. -/
  | multiLine
  /-- `s`: the dot matches a line feed. -/
  | dotAll
  /-- `U`: repetitions are lazy, and greedy after a question mark. -/
  | swapGreed
  /-- `u`: classes and assertions know all characters, not only ASCII. -/
  | unicode
  /-- `R`: a carriage return ends a line. -/
  | crlf
  /-- `x`: blanks and comments in the source mean nothing. -/
  | verbose
  deriving DecidableEq, Repr

/-- The flags that an expression sets (`true`) or clears, in order. -/
abbrev FlagChange := List (Flag × Bool)

/-- Whether a change sets or clears a flag. -/
def FlagChange.state? (f : Flag) (change : FlagChange) : Option Bool :=
  (change.find? (·.1 == f)).map (·.2)

/-- A literal character.  One that is written as `\x` and two digits stands for a byte where the
expression matches bytes. -/
structure Literal where
  extent : Extent
  char : Char
  isByte : Bool := false
  deriving DecidableEq, Repr

/-- The assertions, as they are written. -/
inductive Assertion where
  | lineStart
  | lineEnd
  | textStart
  | textEnd
  | wordBoundary
  | notWordBoundary
  | wordStart
  | wordEnd
  | wordStartHalf
  | wordEndHalf
  deriving DecidableEq, Repr

/-- The classes with a one-letter name: `\d`, `\s` and `\w`. -/
inductive Shorthand where
  | digit
  | space
  | word
  deriving DecidableEq, Repr

/-- How a class of characters is asked for by name. -/
inductive PropertyName where
  | short (c : Char)
  | named (name : Text)
  | valued (name value : Text)
  deriving DecidableEq, Repr

/-- What stands for itself. -/
inductive Atom where
  | literal (l : Literal)
  | dot (extent : Extent)
  | assertion (extent : Extent) (kind : Assertion)
  | shorthand (extent : Extent) (kind : Shorthand) (negated : Bool)
  | property (extent : Extent) (name : PropertyName) (negated : Bool)
  deriving DecidableEq, Repr

/-- Where an atom was read. -/
def Atom.extent : Atom → Extent
  | .literal l => l.extent
  | .dot e => e
  | .assertion e _ => e
  | .shorthand e _ _ => e
  | .property e _ _ => e

/-- The ASCII classes with a name in colons: `[:alpha:]`. -/
inductive PosixClass where
  | alnum
  | alpha
  | ascii
  | blank
  | cntrl
  | digit
  | graph
  | lower
  | print
  | punct
  | space
  | upper
  | word
  | xdigit
  deriving DecidableEq, Repr

/-- The class of a name. -/
def PosixClass.ofName? (name : Text) : Option PosixClass :=
  ([("alnum", alnum), ("alpha", alpha), ("ascii", ascii), ("blank", blank), ("cntrl", cntrl),
    ("digit", digit), ("graph", graph), ("lower", lower), ("print", print), ("punct", punct),
    ("space", space), ("upper", upper), ("word", word), ("xdigit", xdigit)].find?
      fun p => p.1.toList == name).map (·.2)

/-- How two sets are combined inside brackets. -/
inductive SetOp where
  /-- `&&`: what is in both. -/
  | inter
  /-- `--`: what is in the first only. -/
  | diff
  /-- `~~`: what is in one only. -/
  | symmDiff
  deriving DecidableEq, Repr

/-- What stands inside brackets. -/
inductive SetTree where
  | empty (extent : Extent)
  | literal (l : Literal)
  | range (extent : Extent) (low high : Literal)
  | posix (extent : Extent) (kind : PosixClass) (negated : Bool)
  | shorthand (extent : Extent) (kind : Shorthand) (negated : Bool)
  | property (extent : Extent) (name : PropertyName) (negated : Bool)
  | bracket (extent : Extent) (negated : Bool) (sub : SetTree)
  | union (extent : Extent) (items : List SetTree)
  | combine (extent : Extent) (op : SetOp) (left right : SetTree)
  deriving Repr

/-- Where a set was read. -/
def SetTree.extent : SetTree → Extent
  | .empty e => e
  | .literal l => l.extent
  | .range e _ _ => e
  | .posix e _ _ => e
  | .shorthand e _ _ => e
  | .property e _ _ => e
  | .bracket e _ _ => e
  | .union e _ => e
  | .combine e _ _ _ => e

/-- What a pair of parentheses is for. -/
inductive GroupKind where
  /-- A group that remembers what it matched, by number and perhaps by name. -/
  | capture (index : Nat) (name : Option Text)
  /-- A group that only holds together, and may change flags for what it holds. -/
  | plain (change : FlagChange)
  deriving DecidableEq, Repr

/-- How often something is repeated: at least `least` times, and at most `most` times if there is a
bound. -/
structure Bounds where
  least : Nat
  most : Option Nat
  deriving DecidableEq, Repr

/-- A whole expression. -/
inductive Tree where
  | empty
  | flags (change : FlagChange)
  | atom (a : Atom)
  | bracket (set : SetTree)
  | repetition (extent : Extent) (bounds : Bounds) (greedy : Bool) (sub : Tree)
  | group (extent : Extent) (kind : GroupKind) (sub : Tree)
  | alternation (extent : Extent) (branches : List Tree)
  | sequence (extent : Extent) (items : List Tree)
  deriving Repr

/-- Where an expression was read; nothing was read for an empty one or for flags. -/
def Tree.extent : Tree → Extent
  | .empty => ⟨0, 0⟩
  | .flags _ => ⟨0, 0⟩
  | .atom a => a.extent
  | .bracket s => s.extent
  | .repetition e _ _ _ => e
  | .group e _ _ => e
  | .alternation e _ => e
  | .sequence e _ => e

/-- The tree of items in a row. -/
def Tree.ofItems (extent : Extent) : List Tree → Tree
  | [] => .empty
  | [t] => t
  | ts => .sequence extent ts

/-- The set of items side by side. -/
def SetTree.ofItems (extent : Extent) : List SetTree → SetTree
  | [] => .empty extent
  | [s] => s
  | ss => .union extent ss

mutual

/-- The first part of a set, from the outside in and from left to right, that lies under more than
`limit` levels. -/
def SetTree.tooDeep? : SetTree → Nat → Option Extent
  | .bracket e _ _, 0 => some e
  | .bracket _ _ s, n + 1 => s.tooDeep? n
  | .union e _, 0 => some e
  | .union _ ss, n + 1 => SetTree.anyTooDeep? ss n
  | .combine e _ _ _, 0 => some e
  | .combine _ _ l r, n + 1 => (l.tooDeep? n) <|> (r.tooDeep? n)
  | _, _ => none

/-- The same for the items of a list. -/
def SetTree.anyTooDeep? : List SetTree → Nat → Option Extent
  | [], _ => none
  | s :: ss, n => (s.tooDeep? n) <|> (SetTree.anyTooDeep? ss n)

end

mutual

/-- The first part of an expression, from the outside in and from left to right, that lies under
more than `limit` levels. -/
def Tree.tooDeep? : Tree → Nat → Option Extent
  | .bracket s, n => s.tooDeep? n
  | .repetition e _ _ _, 0 => some e
  | .repetition _ _ _ t, n + 1 => t.tooDeep? n
  | .group e _ _, 0 => some e
  | .group _ _ t, n + 1 => t.tooDeep? n
  | .alternation e _, 0 => some e
  | .alternation _ ts, n + 1 => Tree.anyTooDeep? ts n
  | .sequence e _, 0 => some e
  | .sequence _ ts, n + 1 => Tree.anyTooDeep? ts n
  | .empty, _ => none
  | .flags _, _ => none
  | .atom _, _ => none

/-- The same for the parts of a list. -/
def Tree.anyTooDeep? : List Tree → Nat → Option Extent
  | [], _ => none
  | t :: ts, n => (t.tooDeep? n) <|> (Tree.anyTooDeep? ts n)

end

end Regex
end TextScan
