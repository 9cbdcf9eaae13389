/-
# Operations that can break off

Words have 64 bits, and a text is cut at byte offsets that have to be boundaries in order.  A guarded
operation breaks off with a trap where it would leave the words or cut a text where it cannot be cut:

| operation | breaks off |
| --- | --- |
| `add a b` | if the sum is more than `greatest` |
| `sub a b` | if `b` is more than `a` |
| `cut t s` | if the span does not lie in the text |
| `shift base s` | if one of the two sums does |

Each of them has one equation, for the arguments with which it does not break off.
-/

import TextScan.Cache
import TextScan.Position
import TextScan.Span

namespace TextScan

/-- Why an operation breaks off. -/
inductive Trap where
  /-- A sum does not fit into a word. -/
  | overflow
  /-- A difference would be less than zero. -/
  | underflow
  /-- A text cannot be cut at these offsets. -/
  | badCut
  /-- There is nothing under a key. -/
  | noEntry
  /-- Two numbers are no position. -/
  | badPosition (f : Position.Fault)
  deriving DecidableEq, Repr

/-- What comes of an operation that can break off. -/
abbrev Guarded (α : Type) := Except Trap α

namespace Guarded

/-- The greatest number that fits into a word. -/
def greatest : Nat := Nat.pow 2 64 - 1

/-- The sum of two words. -/
def add (a b : Nat) : Guarded Nat := if a + b ≤ greatest then .ok (a + b) else .error .overflow

/-- The difference of two words. -/
def sub (a b : Nat) : Guarded Nat := if b ≤ a then .ok (a - b) else .error .underflow

/-- The part of a text that a span marks. -/
def cut (t : Text) (s : Span) : Guarded Text := (Text.slice? t s).elim (.error .badCut) .ok

/-- A span of a region, seen from the text in which the region starts at `base`. -/
def shift (base : Nat) (s : Span) : Guarded Span := do
  let start ← add s.start base
  let stop ← add s.stop base
  pure ⟨start, stop⟩

/-- The pattern of a source that the cache has. -/
def lookUp (c : Cache) (source : Text) : Guarded Pattern :=
  (c.find? source).elim (.error .noEntry) .ok

/-- The position with the given numbers. -/
def makePosition (line column : Nat) : Guarded Position :=
  match Position.make line column with
  | .ok p => .ok p
  | .error f => .error (.badPosition f)

@[simp] theorem ok_bind {α β : Type} (a : α) (f : α → Guarded β) :
    ((.ok a : Guarded α) >>= f) = f a := rfl

theorem add_eq {a b : Nat} (h : a + b ≤ greatest) : add a b = .ok (a + b) := if_pos h

theorem sub_eq {a b : Nat} (h : b ≤ a) : sub a b = .ok (a - b) := if_pos h

theorem cut_eq {t u : Text} {s : Span} (h : Text.slice? t s = some u) : cut t s = .ok u := by
  rw [cut, h]
  rfl

/-- The two sums fit into words if the greater one does. -/
theorem shift_eq {base : Nat} {s : Span} (hs : s.start ≤ s.stop)
    (h : s.stop + base ≤ greatest) : shift base s = .ok (s.shift base) := by
  have hstart : s.start + base ≤ greatest := Nat.le_trans (Nat.add_le_add_right hs base) h
  rw [shift, add_eq hstart, add_eq h]
  rfl

theorem lookUp_eq {c : Cache} {source : Text} {p : Pattern} (h : c.find? source = some p) :
    lookUp c source = .ok p := by
  rw [lookUp, h]
  rfl

theorem makePosition_after (t : Text) :
    makePosition (Position.after t).line (Position.after t).column = .ok (Position.after t) := by
  rw [makePosition, Position.make_after]

/-- Operations on the members of a list, none of which breaks off. -/
theorem mapM_eq {α β : Type} {f : α → Guarded β} {g : α → β} {xs : List α}
    (h : ∀ x ∈ xs, f x = .ok (g x)) : xs.mapM f = .ok (xs.map g) := by
  induction xs with
  | nil => rfl
  | cons x xs ih =>
    have hx := h x List.mem_cons_self
    have hxs := ih fun y hy => h y (List.mem_cons_of_mem x hy)
    rw [List.mapM_cons, hx, hxs]
    rfl

end Guarded
end TextScan
