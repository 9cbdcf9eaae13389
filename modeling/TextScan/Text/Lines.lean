/-
# Lines of a text

A line ends with a line feed, or with a carriage return and a line feed, which are not part of it.
What follows the last line feed is a line if it is not empty.
-/

import TextScan.Text.Basic

namespace TextScan
namespace Text

/-- A line without the carriage return at its end. -/
def dropReturn (t : Text) : Text := if t.getLast? = some '\r' then t.dropLast else t

/-- The lines that start with the characters of `begun`, latest first. -/
def linesFrom (begun : Text) : Text → List Text
  | [] => if begun.isEmpty then [] else [begun.reverse]
  | c :: t =>
    if c = '\n' then dropReturn begun.reverse :: linesFrom [] t else linesFrom (c :: begun) t

/-- The lines of a text. -/
def lines (t : Text) : List Text := linesFrom [] t

/-- A character as often as a number says. -/
def repeated (c : Char) (n : Nat) : Text := List.replicate n c

end Text
end TextScan
