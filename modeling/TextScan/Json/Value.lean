/-
# JSON values

The values of JSON.  Integers from `-2 ^ 63` up to `2 ^ 64 - 1` are exact; every other number is
kept in binary.

A number is read from its digits up to the last that leaves an integer below `2 ^ 64`.  A digit that
does not count any more still counts as a place before the point; behind the point it is as if it
were not there.
-/

import TextScan.Json.Binary64

namespace TextScan

/-- A value of JSON. -/
inductive Json where
  | null
  | bool (b : Bool)
  | integer (n : Int)
  | float (x : Json.Binary64)
  | string (t : Text)
  | array (items : List Json)
  /-- Fields by name; of two with one name the later counts. -/
  | object (fields : List (Text × Json))
  deriving Repr

namespace Json

/-- A number as it is written: the digits before and behind the point, and the exponent. -/
structure Literal where
  negative : Bool
  whole : Text
  fraction : Option Text
  exponent : Option Int

/-- The digits of a number that count, and how many do not. -/
structure Significand where
  value : Nat
  dropped : Nat

/-- The bound of a significand. -/
def Significand.limit : Nat := Nat.pow 2 64

/-- One more digit: none counts after one that does not. -/
def Significand.push (s : Significand) (c : Char) : Significand :=
  let n := 10 * s.value + (c.toNat - '0'.toNat)
  if s.dropped = 0 ∧ n < limit then ⟨n, 0⟩ else ⟨s.value, s.dropped + 1⟩

/-- The significand of digits. -/
def Significand.ofDigits (s : Significand) (t : Text) : Significand := t.foldl push s

/-- A number that is no integer, by its significand and its power of ten. -/
def decimal (negative : Bool) (n : Nat) (e : Int) : Option Json :=
  (Binary64.ofDecimal negative n e).map .float

/-- The value of a number, if it is not too large. -/
def ofLiteral (l : Literal) : Option Json :=
  let whole := Significand.ofDigits ⟨0, 0⟩ l.whole
  match l.fraction, l.exponent with
  | none, none =>
    if whole.dropped = 0 ∧ l.negative = false then some (.integer whole.value)
    else if whole.dropped = 0 ∧ whole.value ≠ 0 ∧ whole.value ≤ Nat.pow 2 63 then
      some (.integer (-(whole.value : Int)))
    else decimal l.negative whole.value whole.dropped
  | fraction, exponent =>
    let digits := fraction.getD []
    let all := Significand.ofDigits ⟨whole.value, 0⟩ digits
    let places : Int := (whole.dropped : Int) - (digits.length - all.dropped : Nat)
    decimal l.negative all.value (places + exponent.getD 0)

/-- The value of a field. -/
def field? (fields : List (Text × Json)) (name : String) : Option Json :=
  (fields.reverse.find? (·.1 == name.toList)).map (·.2)

end Json
end TextScan
