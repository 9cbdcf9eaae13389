/-
# Spots and anchors

A spot is a place between two characters of the text that is searched.  An anchor is a condition on
a spot; it looks at the characters before and after it and at nothing else.
-/

import TextScan.Unicode.Word

namespace TextScan
namespace Regex

/-- A place in a text: the character before it, the text after it, and its byte offset. -/
structure Spot where
  before : Option Char
  rest : Text
  offset : Nat
  deriving DecidableEq, Repr

namespace Spot

/-- The start of a text. -/
def start (t : Text) : Spot := ⟨none, t, 0⟩

/-- The character after a spot. -/
def after (s : Spot) : Option Char := s.rest.head?

/-- The spot behind one more character. -/
def past (s : Spot) (c : Char) (t : Text) : Spot := ⟨some c, t, s.offset + c.utf8Size⟩

end Spot

/-- A condition on a spot. -/
inductive Anchor where
  /-- The start of the text. -/
  | textStart
  /-- The end of the text. -/
  | textEnd
  /-- The start of a line. -/
  | lineStart
  /-- The end of a line. -/
  | lineEnd
  /-- The start of a line, where a carriage return ends one too. -/
  | lineStartCrlf
  /-- The end of a line, where a carriage return ends one too. -/
  | lineEndCrlf
  /-- A word on one side only. -/
  | wordBoundary (unicode : Bool)
  /-- A word on both sides or on none. -/
  | notWordBoundary (unicode : Bool)
  /-- No word before, a word after. -/
  | wordStart (unicode : Bool)
  /-- A word before, no word after. -/
  | wordEnd (unicode : Bool)
  /-- No word before. -/
  | wordStartHalf (unicode : Bool)
  /-- No word after. -/
  | wordEndHalf (unicode : Bool)
  deriving DecidableEq, Repr

namespace Anchor

/-- Whether a character beside a spot belongs to a word. -/
def inWord (unicode : Bool) (c : Option Char) : Bool :=
  c.any fun c => if unicode then Unicode.isWordChar c else Unicode.isAsciiWordChar c

/-- Whether a spot meets a condition. -/
def holds (s : Spot) : Anchor → Bool
  | textStart => s.before.isNone
  | textEnd => s.after.isNone
  | lineStart => s.before.all (· == '\n')
  | lineEnd => s.after.all (· == '\n')
  | lineStartCrlf =>
    s.before.all fun c => c == '\n' || (c == '\r' && s.after != some '\n')
  | lineEndCrlf =>
    s.after.all fun c => c == '\r' || (c == '\n' && s.before != some '\r')
  | wordBoundary u => inWord u s.before != inWord u s.after
  | notWordBoundary u => inWord u s.before == inWord u s.after
  | wordStart u => !inWord u s.before && inWord u s.after
  | wordEnd u => inWord u s.before && !inWord u s.after
  | wordStartHalf u => !inWord u s.before
  | wordEndHalf u => !inWord u s.after

end Anchor
end Regex
end TextScan
