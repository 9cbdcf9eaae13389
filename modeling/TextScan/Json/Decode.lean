/-
# Spans, positions and patterns as JSON

A span and a position are objects of two numbers, or arrays of them when they are read; a pattern is
the string of its source.  Reading finds the first fault: the fields of an object are looked at in
the order of their names, before it is asked whether one is missing, and unknown fields do not
count.
-/

import TextScan.Json.Value
import TextScan.Pattern
import TextScan.Position
import TextScan.Text.Quoted

namespace TextScan
namespace Json

/-- Why a value cannot be read. -/
inductive DecodeFault where
  /-- A value of the wrong kind. -/
  | kind (found : Json) (expected : String)
  /-- A number that is out of bounds. -/
  | value (found : Int) (expected : String)
  /-- An array of the wrong length. -/
  | length (found : Nat) (expected : String)
  /-- A missing field. -/
  | missing (name : String)
  /-- A source that does not compile. -/
  | pattern (f : PatternFault)

/-- What a value is called. -/
def describe : Json → Text
  | .null => "null".toList
  | .bool b => "boolean \x60".toList ++ (if b then "true" else "false").toList ++ ['\x60']
  | .integer n => "integer \x60".toList ++ Text.ofInt n ++ ['\x60']
  | .float x => "floating point \x60".toList ++ x.display ++ ['\x60']
  | .string t => "string ".toList ++ Text.quoted t
  | .array _ => "sequence".toList
  | .object _ => "map".toList

/-- What a fault says. -/
def DecodeFault.message : DecodeFault → Text
  | .kind v e => "invalid type: ".toList ++ v.describe ++ ", expected ".toList ++ e.toList
  | .value n e =>
    "invalid value: ".toList ++ (Json.integer n).describe ++ ", expected ".toList ++ e.toList
  | .length n e => "invalid length ".toList ++ Text.ofNat n ++ ", expected ".toList ++ e.toList
  | .missing n => "missing field \x60".toList ++ n.toList ++ ['\x60']
  | .pattern f => f.message

/-- Reads a number from zero up to `2 ^ 64 - 1`. -/
def toNat : Json → Except DecodeFault Nat
  | .integer (.ofNat n) => .ok n
  | .integer (.negSucc n) => .error (.value (.negSucc n) "usize")
  | v => .error (.kind v "usize")

/-- The name of a type of two numbers, and the names of the two. -/
structure PairType where
  name : String
  first : String
  second : String

/-- Reads two numbers from the items of an array. -/
def pairOfItems (t : PairType) (items : List Json) : Except DecodeFault (Nat × Nat) :=
  match items with
  | [] => .error (.length 0 (t.name ++ " with 2 elements"))
  | [a] => do
    let _ ← a.toNat
    .error (.length 1 (t.name ++ " with 2 elements"))
  | a :: b :: rest => do
    let m ← a.toNat
    let n ← b.toNat
    if rest.isEmpty then pure (m, n)
    else .error (.length items.length "fewer elements in array")

/-- Reads two numbers from the fields of an object.  The name of the second comes first in the order
of names. -/
def pairOfFields (t : PairType) (fields : List (Text × Json)) : Except DecodeFault (Nat × Nat) := do
  let n ← (field? fields t.second).mapM toNat
  let m ← (field? fields t.first).mapM toNat
  match m, n with
  | none, _ => .error (.missing t.first)
  | some _, none => .error (.missing t.second)
  | some m, some n => pure (m, n)

/-- Reads two numbers. -/
def toPair (t : PairType) : Json → Except DecodeFault (Nat × Nat)
  | .array items => pairOfItems t items
  | .object fields => pairOfFields t fields
  | v => .error (.kind v t.name)

/-- Spans, as pairs. -/
def spanType : PairType := ⟨"struct Span", "start", "end"⟩

/-- Positions, as pairs. -/
def positionType : PairType := ⟨"struct Position", "line", "column"⟩

end Json

/-- Reads a span; its ends may be in any order. -/
def Span.ofJson (v : Json) : Except Json.DecodeFault Span :=
  (v.toPair Json.spanType).map fun p => ⟨p.1, p.2⟩

/-- A span as JSON. -/
def Span.toJson (s : Span) : Json :=
  .object [("start".toList, .integer s.start), ("end".toList, .integer s.stop)]

/-- Reads a position; its numbers may be zero. -/
def Position.ofJson (v : Json) : Except Json.DecodeFault Position :=
  (v.toPair Json.positionType).map fun p => ⟨p.1, p.2⟩

/-- A position as JSON. -/
def Position.toJson (p : Position) : Json :=
  .object [("line".toList, .integer p.line), ("column".toList, .integer p.column)]

/-- Reads a pattern: the source is compiled. -/
def Pattern.ofJson : Json → Except Json.DecodeFault Pattern
  | .string s => (Pattern.compile s).mapError .pattern
  | v => .error (.kind v "a string")

/-- A pattern as JSON. -/
def Pattern.toJson (p : Pattern) : Json := .string p.source

end TextScan
