/-
# Spans

A span is a range of byte offsets, its start included and its stop not.  Nothing makes the start
come first: a span whose start is not before its stop is empty.
-/

import TextScan.Text.Number

namespace TextScan

/-- A range of byte offsets. -/
structure Span where
  /-- The first offset. -/
  start : Nat
  /-- The offset after the last. -/
  stop : Nat
  deriving DecidableEq, Repr

namespace Span

/-- Whether a span holds no byte. -/
def isEmpty (s : Span) : Bool := decide (s.stop ≤ s.start)

/-- The number of bytes in a span. -/
def length (s : Span) : Nat := s.stop - s.start

theorem isEmpty_iff_length (s : Span) : s.isEmpty = true ↔ s.length = 0 := by
  simp only [isEmpty, length, decide_eq_true_eq]
  omega

/-- A span of a region, seen from the text in which the region starts at `base`. -/
def shift (base : Nat) (s : Span) : Span := ⟨s.start + base, s.stop + base⟩

@[simp] theorem length_shift (base : Nat) (s : Span) : (s.shift base).length = s.length := by
  simp only [length, shift]
  omega

/-- The short form, `2..5`. -/
def display (s : Span) : Text := Text.ofNat s.start ++ "..".toList ++ Text.ofNat s.stop

/-- The long form, which names the two ends. -/
def describe (s : Span) : Text :=
  "Span \x7b start: ".toList ++ Text.ofNat s.start ++ ", end: ".toList ++ Text.ofNat s.stop ++
    " \x7d".toList

end Span

/-- The part of a text that a span marks, if its ends are in order and lie on characters. -/
def Text.slice? (t : Text) (s : Span) : Option Text :=
  if s.start ≤ s.stop then
    (Text.drop? t s.start).bind fun r => (Text.cut? r (s.stop - s.start)).map (·.1)
  else none

/-- A span marks the middle of a text written in three parts. -/
theorem Text.slice?_append (t u v : Text) :
    slice? (t ++ u ++ v) ⟨size t, size t + size u⟩ = some u := by
  have h := cut?_append t (u ++ v)
  simp [slice?, drop?, h, cut?_append]

end TextScan
