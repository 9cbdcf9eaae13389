/-
# Escaped texts

The escaped form of a text is printable ASCII.  Quotes, the backslash and three control characters
get a backslash, and every other character that is not printable ASCII is written as its code point
in hexadecimal, in braces.
-/

import TextScan.Text.Number

namespace TextScan
namespace Text

/-- A backslash and a character. -/
def backslashed (c : Char) : Text := ['\\', c]

/-- A character as its code point. -/
def asCodePoint (c : Char) : Text := "\\u\x7b".toList ++ hex c.toNat ++ ['\x7d']

/-- Whether a character is printable ASCII. -/
def isPrintableAscii (c : Char) : Bool := decide (' ' ≤ c) && decide (c ≤ '~')

/-- The escaped form of a character. -/
def escapeChar (c : Char) : Text :=
  match c with
  | '\t' => backslashed 't'
  | '\n' => backslashed 'n'
  | '\r' => backslashed 'r'
  | '\'' => backslashed c
  | '"' => backslashed c
  | '\\' => backslashed c
  | _ => if isPrintableAscii c then [c] else asCodePoint c

/-- The escaped form of a text. -/
def escaped (t : Text) : Text := t.flatMap escapeChar

@[simp] theorem escaped_nil : escaped [] = [] := rfl

end Text
end TextScan
