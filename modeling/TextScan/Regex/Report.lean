/-
# Reports on faults

A report shows the source and marks the extents of a fault with carets below the line that they lie
in.  A source of one line is indented by four blanks; the lines of a longer one are numbered and set
between two rules, and an extent that goes over a line's end is told in words after the second rule.
-/

import TextScan.Regex.Fault
import TextScan.Text.Lines
import TextScan.Position

namespace TextScan
namespace Regex

/-- The two ends of an extent, as positions in the source. -/
structure Marked where
  extent : Extent
  start : Position
  stop : Position

/-- An extent with its positions. -/
def Marked.ofExtent (source : Text) (e : Extent) : Marked :=
  ⟨e, Position.after (source.take e.first), Position.after (source.take e.stop)⟩

/-- Whether both ends are in the same line. -/
def Marked.inOneLine (m : Marked) : Bool := m.start.line == m.stop.line

/-- Whether one extent comes before another, the shorter one first of two that start together. -/
def Marked.before (m n : Marked) : Bool :=
  if m.extent.first = n.extent.first then decide (m.extent.stop ≤ n.extent.stop)
  else decide (m.extent.first ≤ n.extent.first)

/-- The extents of a fault in the order of the source. -/
def Fault.marks (source : Text) (f : Fault) : List Marked :=
  let m := Marked.ofExtent source f.extent
  match f.earlier with
  | none => [m]
  | some e =>
    let n := Marked.ofExtent source e
    if n.before m then [n, m] else [m, n]

/-- Carets below a line, after `used` columns of it. -/
def carets (used : Nat) : List Marked → Text
  | [] => []
  | m :: ms =>
    let gap := m.start.column - 1 - used
    let width := max 1 (m.stop.column - m.start.column)
    Text.repeated ' ' gap ++ Text.repeated '^' width ++ carets (used + gap + width) ms

/-- The digits of the greatest line number, where lines are numbered. -/
def numberWidth (source : Text) : Nat :=
  let lines := (Text.lines source).length
  let lines := if source.getLast? = some '\n' then lines + 1 else lines
  if lines ≤ 1 then 0 else (Text.ofNat lines).length

/-- What stands before a line. -/
def lineLead (width number : Nat) : Text :=
  if width = 0 then Text.repeated ' ' 4
  else
    let digits := Text.ofNat number
    Text.repeated ' ' (width - digits.length) ++ digits ++ ": ".toList

/-- The lines of a source from a number on, each with its carets. -/
def markedLines (width : Nat) (marks : List Marked) : Nat → List Text → Text
  | _, [] => []
  | number, line :: rest =>
    let here := marks.filter fun m => m.start.line == number
    let below :=
      if here.isEmpty then []
      else Text.repeated ' ' (if width = 0 then 4 else width + 2) ++ carets 0 here ++ ['\n']
    lineLead width number ++ line ++ ['\n'] ++ below ++ markedLines width marks (number + 1) rest

/-- An extent over several lines, in words. -/
def Marked.inWords (m : Marked) : Text :=
  "on line ".toList ++ Text.ofNat m.start.line ++ " (column ".toList ++
    Text.ofNat m.start.column ++ ") through line ".toList ++ Text.ofNat m.stop.line ++
    " (column ".toList ++ Text.ofNat (m.stop.column - 1) ++ ")".toList

/-- The report on a fault of a source. -/
def Fault.report (source : Text) (f : Fault) : Text :=
  let marks := f.marks source
  let shown := markedLines (numberWidth source) (marks.filter (·.inOneLine)) 1 (Text.lines source)
  let rule := Text.repeated '~' 79 ++ ['\n']
  let wide := (marks.filter fun m => !m.inOneLine).flatMap fun m => m.inWords ++ ['\n']
  let body := if source.contains '\n' then rule ++ shown ++ rule ++ wide else shown
  "regex parse error:\n".toList ++ body ++ "error: ".toList ++ f.cause.message.toList

end Regex
end TextScan
