/-
# Positions

A position is a line and a column, both counted from one.  A column counts characters.  The position
of a byte offset is read off the text before it: an offset beyond the end stands for the end, and an
offset inside a character for the character's start.
-/

import TextScan.Text.Number

namespace TextScan

/-- A line and a column. -/
structure Position where
  line : Nat
  column : Nat
  deriving DecidableEq, Repr

namespace Position

/-- Why two numbers are no position. -/
inductive Fault where
  | lineZero
  | columnZero
  deriving DecidableEq, Repr

/-- What a fault says. -/
def Fault.message : Fault → Text
  | .lineZero => "line number must be greater than 0".toList
  | .columnZero => "column number must be greater than 0".toList

/-- The position with the given numbers; the line is looked at first. -/
def make (line column : Nat) : Except Fault Position :=
  if line = 0 then .error .lineZero
  else if column = 0 then .error .columnZero
  else .ok ⟨line, column⟩

/-- The position after a text: one line for each line feed in it, and one column for each character
after the last line feed. -/
def after (t : Text) : Position :=
  ⟨t.count '\n' + 1, (t.reverse.takeWhile (· != '\n')).length + 1⟩

/-- Every text ends at a position that `make` accepts. -/
theorem make_after (t : Text) : make (after t).line (after t).column = .ok (after t) := by
  simp [make, after]

/-- The position of a byte offset of a text. -/
def ofOffset (t : Text) (n : Nat) : Position := after (Text.fit n t)

/-- The short form. -/
def display (p : Position) : Text :=
  "line: ".toList ++ Text.ofNat p.line ++ ", column: ".toList ++ Text.ofNat p.column

/-- The long form, which names the type. -/
def describe (p : Position) : Text := "Position \x7b ".toList ++ p.display ++ " \x7d".toList

end Position
end TextScan
