/-
# Numbers with a fraction

A number that is not an integer is kept in binary, with 53 digits: its value is `mantissa * 2 ^
exponent` with `mantissa < 2 ^ 53` and `-1074 ≤ exponent ≤ 971`.  A product or a quotient is the
exact one, rounded to the nearest number; of two that are equally near the one with the even
mantissa is taken.

A number is written with the fewest decimal digits that read back as the same number: with a point
and no exponent if the leading digit stands from four places behind the point up to sixteen before
it, with an exponent otherwise.
-/

import TextScan.Text.Number

namespace TextScan
namespace Json

/-- A number in binary. -/
structure Binary64 where
  negative : Bool
  mantissa : Nat
  exponent : Int
  deriving DecidableEq, Repr

/-- A fraction rounded to an integer, a half to the even neighbour. -/
def roundHalfEven (num den : Nat) : Nat :=
  let q := num / den
  let r := 2 * (num % den)
  if r < den then q else if den < r then q + 1 else q + q % 2

namespace Binary64

/-! ## Rounding -/

/-- A fraction over `2 ^ e`. -/
def scaled (num den : Nat) (e : Int) : Nat × Nat :=
  match e with
  | .ofNat n => (num, den * Nat.pow 2 n)
  | .negSucc n => (num * Nat.pow 2 (n + 1), den)

/-- The number nearest to a fraction, if there is one that is not too large. -/
def nearest (negative : Bool) (num den : Nat) : Option Binary64 :=
  if num = 0 then some ⟨negative, 0, -1074⟩
  else
    let guess : Int := (num.log2 : Int) - (den.log2 : Int) - 53
    let (n, d) := scaled num den guess
    let exponent := max (-1074) (if n / d < Nat.pow 2 53 then guess else guess + 1)
    let (n, d) := scaled num den exponent
    let m := roundHalfEven n d
    let (m, exponent) := if m = Nat.pow 2 53 then (Nat.pow 2 52, exponent + 1) else (m, exponent)
    if exponent ≤ 971 then some ⟨negative, m, exponent⟩ else none

/-- A number without its sign, as a fraction. -/
def ratio (x : Binary64) : Nat × Nat :=
  match x.exponent with
  | .ofNat n => (x.mantissa * Nat.pow 2 n, 1)
  | .negSucc n => (x.mantissa, Nat.pow 2 (n + 1))

/-- The product of two numbers, if it is not too large. -/
def mul (x y : Binary64) : Option Binary64 :=
  let (a, b) := x.ratio
  let (c, d) := y.ratio
  nearest (x.negative != y.negative) (a * c) (b * d)

/-- The quotient of two numbers, if it is not too large. -/
def div (x y : Binary64) : Option Binary64 :=
  let (a, b) := x.ratio
  let (c, d) := y.ratio
  nearest (x.negative != y.negative) (a * d) (b * c)

/-! ## Powers of ten -/

/-- The greatest power of ten that is a number. -/
def topPower : Nat := 308

/-- The number nearest to a power of ten. -/
def powerOfTen (n : Nat) : Option Binary64 := nearest false (Nat.pow 10 n) 1

/-- A number times a power of ten. -/
def shiftUp (x : Binary64) (n : Nat) : Option Binary64 :=
  if n ≤ topPower then (powerOfTen n).bind x.mul
  else if x.mantissa = 0 then some x
  else none

/-- A number divided by a power of ten, the greatest powers first.  Every step rounds. -/
def shiftDown (x : Binary64) (n : Nat) : Option Binary64 :=
  if n ≤ topPower then (powerOfTen n).bind x.div
  else if x.mantissa = 0 then some x
  else (powerOfTen topPower).bind x.div |>.bind fun y => shiftDown y (n - topPower)
  termination_by n
  decreasing_by simp only [topPower] at *; omega

/-- The number that an integer and a power of ten stand for: the integer is rounded first, and then
the product or the quotient. -/
def ofDecimal (negative : Bool) (n : Nat) (e : Int) : Option Binary64 :=
  (nearest negative n 1).bind fun x =>
    match e with
    | .ofNat k => x.shiftUp k
    | .negSucc k => x.shiftDown (k + 1)

/-! ## Decimal digits -/

/-- `10 ^ e` as a fraction. -/
def decimalUnit (e : Int) : Nat × Nat :=
  match e with
  | .ofNat n => (Nat.pow 10 n, 1)
  | .negSucc n => (1, Nat.pow 10 (n + 1))

/-- Whether a multiple of a power of ten, `n * 10 ^ e`, reads back as a number: it lies between the
middles of the number and its two neighbours, or on one of these if the mantissa is even. -/
def readsBack (x : Binary64) (n : Nat) (e : Int) : Bool :=
  let (p, q) := decimalUnit e
  let (a, b) := scaled (4 * n * p) q x.exponent
  let low := 4 * x.mantissa - (if x.mantissa = Nat.pow 2 52 ∧ x.exponent ≠ -1074 then 1 else 2)
  let high := 4 * x.mantissa + 2
  if x.mantissa % 2 = 0 then decide (low * b ≤ a) && decide (a ≤ high * b)
  else decide (low * b < a) && decide (a < high * b)

/-- The two multiples of `10 ^ e` next to a number, the nearer one first; of two that are equally
near the even one is first. -/
def neighbours (x : Binary64) (e : Int) : Nat × Nat :=
  let (p, q) := decimalUnit e
  let (m, two) := x.ratio
  let first := roundHalfEven (m * q) (two * p)
  let below := m * q / (two * p)
  (first, if first = below then below + 1 else below)

/-- The decimal digits of a number with the greatest power of ten that allows to read it back, from
`10 ^ e` downwards. -/
def shortestFrom (x : Binary64) : Nat → Int → Nat × Int
  | 0, e => (x.mantissa, e)
  | fuel + 1, e =>
    let (first, second) := x.neighbours e
    if first ≠ 0 ∧ x.readsBack first e = true then (first, e)
    else if second ≠ 0 ∧ x.readsBack second e = true then (second, e)
    else shortestFrom x fuel (e - 1)

/-- The fewest decimal digits that read back, and the power of ten of the last of them. -/
def shortest (x : Binary64) : Nat × Int :=
  if x.mantissa = 0 then (0, 0) else shortestFrom x 700 310

/-- Decimal digits, with a power of ten, written out with a point. -/
def positional (digits : Text) (e : Int) : Text :=
  match e with
  | .ofNat n => digits ++ List.replicate n '0' ++ ".0".toList
  | .negSucc n =>
    let padded := List.replicate (n + 2 - digits.length) '0' ++ digits
    let whole := padded.length - (n + 1)
    padded.take whole ++ ['.'] ++ padded.drop whole

/-- Decimal digits with the power of ten of the first of them: a point after the first digit, if
more follow, and the exponent with its sign. -/
def scientific (digits : Text) (e : Int) : Text :=
  let fraction := digits.drop 1
  digits.take 1 ++ (if fraction.isEmpty then [] else '.' :: fraction) ++ ['e'] ++
    (if e < 0 then [] else ['+']) ++ Text.ofInt e

/-- A number in decimal digits. -/
def display (x : Binary64) : Text :=
  let (n, e) := x.shortest
  let digits := Text.ofNat n
  let point := e + digits.length
  (if x.negative then ['-'] else []) ++
    (if -5 < point ∧ point ≤ 16 then positional digits e else scientific digits (point - 1))

end Binary64
end Json
end TextScan
