/-
# Tables of character properties

All tables are those of Unicode 16.0.  A row has the names under which its set is known and the set
itself, written in lines as the ends of its ranges in hexadecimal: `41-5A 61-7A AA`.  Names are in
loose form: lower case, without blanks, hyphens and underscores.
-/

import TextScan.CharSet
import TextScan.Text.Number

namespace TextScan
namespace Unicode

/-- How far the reading of a list of ranges has come: the ranges read, the first end of the range
being read, and the number being read. -/
structure RangeReader where
  done : List CharRange
  low : Option Nat
  number : Nat

/-- The ranges read, with the one being read. -/
def RangeReader.close (r : RangeReader) : List CharRange :=
  ⟨r.low.getD r.number, r.number⟩ :: r.done

/-- One more character: a digit, the hyphen between two ends, or the blank after a range. -/
def RangeReader.next (r : RangeReader) (c : Char) : RangeReader :=
  match Text.hexDigit? c with
  | some d => { r with number := 16 * r.number + d }
  | none => if c = '-' then ⟨r.done, some r.number, 0⟩ else ⟨r.close, none, 0⟩

/-- The ranges that a line writes. -/
def rangesOfLine (s : String) : List CharRange :=
  (s.toList.foldl RangeReader.next ⟨[], none, 0⟩).close.reverse

/-- The set that lines of ranges write. -/
def ofRangeLines (lines : List String) : CharSet := ⟨lines.flatMap rangesOfLine⟩

/-- The classes that lines write: numbers joined by `=`, blanks between classes. -/
def ofClassLines (lines : List String) : List (List Nat) :=
  lines.flatMap fun s => (s.toList.splitOnP (· == ' ')).map fun k =>
    (k.splitOnP (· == '=')).map Text.ofHexDigits

/-- A row of a table. -/
structure Row where
  names : List String
  ranges : List String

/-- The set of the row with a name. -/
def lookup? (rows : List Row) (name : Text) : Option CharSet :=
  (rows.find? fun r => r.names.any fun n => n.toList == name).map fun r => ofRangeLines r.ranges

/-- The set of the row with a name; no row, no members. -/
def setOf (rows : List Row) (name : String) : CharSet :=
  (lookup? rows name.toList).getD CharSet.empty

end Unicode
end TextScan
