/-
# Regular expressions

What a regular expression means, without the way it is written: flags, escapes and names of classes
are gone.  Sequences and alternatives are built of two parts each, the second of which may be a
sequence or alternative again.

The functions `sequence`, `alternatives`, `oneOf` and `repeated` build expressions in a simple form:

- texts side by side are one text, and nothing side by side with an expression is left out;
- alternatives of single characters, or of sets, are one set;
- what all alternatives start with stands before them;
- what can only match nothing is repeated once at most.
-/

import TextScan.Regex.Anchor

namespace TextScan
namespace Regex

/-- A regular expression. -/
inductive Expr where
  /-- Matches nothing at all, everywhere. -/
  | empty
  /-- Matches the text. -/
  | text (t : Text)
  /-- Matches one character of a set; the set is one of bytes, all of them ASCII, or of characters.
  -/
  | oneOf (bytes : Bool) (set : CharSet)
  /-- Matches nothing, where the condition holds. -/
  | anchor (a : Anchor)
  /-- Matches what the body does, and remembers it. -/
  | group (index : Nat) (name : Option Text) (body : Expr)
  /-- Matches what the body does, several times. -/
  | times (least : Nat) (most : Option Nat) (greedy : Bool) (body : Expr)
  /-- Matches one after the other. -/
  | seq (first second : Expr)
  /-- Matches one or the other, the first if possible. -/
  | alt (first second : Expr)
  deriving DecidableEq, Repr

namespace Expr

/-- Matches nowhere. -/
def never : Expr := .oneOf true CharSet.empty

/-- The bytes of the character with a code point. -/
def codePointSize (n : Nat) : Nat :=
  if n < 0x80 then 1 else if n < 0x800 then 2 else if n < 0x10000 then 3 else 4

/-- The least number of bytes that an expression matches, where it can match at all. -/
def minSize : Expr → Option Nat
  | .empty => some 0
  | .text t => some (Text.size t)
  | .oneOf _ s => s.ranges.head?.map fun r => codePointSize r.low
  | .anchor _ => some 0
  | .group _ _ e => e.minSize
  | .times least _ _ e => e.minSize.map (· * least)
  | .seq a b => a.minSize.bind fun m => b.minSize.map (m + ·)
  | .alt a b => a.minSize.bind fun m => b.minSize.map (min m)

/-- The greatest number of bytes that an expression matches, where there is one. -/
def maxSize : Expr → Option Nat
  | .empty => some 0
  | .text t => some (Text.size t)
  | .oneOf _ s => s.ranges.getLast?.map fun r => codePointSize r.high
  | .anchor _ => some 0
  | .group _ _ e => e.maxSize
  | .times _ most _ e => most.bind fun n => e.maxSize.map (· * n)
  | .seq a b => a.maxSize.bind fun m => b.maxSize.map (m + ·)
  | .alt a b => a.maxSize.bind fun m => b.maxSize.map (max m)

/-- The parts of a sequence. -/
def parts : Expr → List Expr
  | .empty => []
  | .seq a b => a.parts ++ b.parts
  | e => [e]

/-- The branches of alternatives. -/
def branches : Expr → List Expr
  | .alt a b => a.branches ++ b.branches
  | e => [e]

/-- A list of parts in which no two texts stand side by side. -/
def joinTexts : List Expr → List Expr
  | [] => []
  | .text t :: es =>
    match joinTexts es with
    | .text u :: rest => .text (t ++ u) :: rest
    | rest => .text t :: rest
  | e :: es => e :: joinTexts es

/-- The sequence of the parts. -/
def ofParts : List Expr → Expr
  | [] => .empty
  | [e] => e
  | e :: es => .seq e (ofParts es)

/-- The alternatives with the branches. -/
def ofBranches : List Expr → Expr
  | [] => never
  | [e] => e
  | e :: es => .alt e (ofBranches es)

/-- One expression after the other. -/
def sequence (es : List Expr) : Expr := ofParts (joinTexts (es.flatMap parts))

/-- One character of a set.  A set with one member is a text. -/
def oneOfSet (bytes : Bool) (s : CharSet) : Expr :=
  if s.ranges.isEmpty then never
  else
    match s.single? with
    | some c => .text [c]
    | none => .oneOf bytes s

/-- The character of an expression that is one. -/
def char? : Expr → Option Char
  | .text [c] => some c
  | _ => none

/-- The set of an expression that is one. -/
def set? : Expr → Option CharSet
  | .oneOf _ s => some s
  | _ => none

/-- The set that branches make up, if all are characters or all are sets. -/
def unionOf? (es : List Expr) : Option CharSet :=
  match es.mapM char? with
  | some cs => some (cs.foldl (fun s c => s.union (CharSet.single c)) CharSet.empty)
  | none => (es.mapM set?).map fun ss => ss.foldl CharSet.union CharSet.empty

/-- Any of some branches. -/
def anyOf (es : List Expr) : Expr :=
  match es with
  | [e] => e
  | _ =>
    match unionOf? es with
    | some s => oneOfSet false s
    | none => ofBranches es

/-- What two lists start with. -/
def commonStart : List Expr → List Expr → List Expr
  | e :: es, f :: fs => if e = f then e :: commonStart es fs else []
  | _, _ => []

/-- What all branches start with, if there are several and all are sequences. -/
def sharedStart : List Expr → List Expr
  | e :: f :: es =>
    if (e :: f :: es).all fun b => decide (2 ≤ b.parts.length) then
      (f :: es).foldl (fun p b => commonStart p b.parts) e.parts
    else []
  | _ => []

/-- One expression or another, the earlier one if possible. -/
def alternatives (es : List Expr) : Expr :=
  let bs := es.flatMap branches
  let shared := sharedStart bs
  if shared.isEmpty then anyOf bs
  else
    let rests := bs.map fun b => sequence (b.parts.drop shared.length)
    sequence (shared ++ [anyOf (rests.flatMap branches)])

/-- An expression several times. -/
def repeated (least : Nat) (most : Option Nat) (greedy : Bool) (e : Expr) : Expr :=
  let nothing := decide (e.maxSize = some 0)
  let least := if nothing then min least 1 else least
  let most := if nothing then some (most.elim 1 (min · 1)) else most
  if least = 0 ∧ most = some 0 then .empty
  else if least = 1 ∧ most = some 1 then e
  else .times least most greedy e

end Expr
end Regex
end TextScan
