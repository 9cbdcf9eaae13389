/-
# Digits, blanks and words

The three classes of characters that have a short name in regular expressions.
-/

import TextScan.Unicode.Category
import TextScan.Unicode.Property

namespace TextScan
namespace Unicode

/-- The characters of a decimal number. -/
def digits : CharSet := setOf categoryRows "nd"

/-- The blank characters. -/
def blanks : CharSet := setOf propertyRows "whitespace"

/-- The characters of a word: alphabetic ones, marks, digits, connecting punctuation and the
characters that control joining. -/
def wordChars : CharSet :=
  ((setOf propertyRows "alphabetic").union (categories ["mn", "mc", "me", "nd", "pc"])).union
    (setOf propertyRows "joincontrol")

/-- Whether a character is blank: the test of `blanks`, spelled out. -/
def isBlank (c : Char) : Bool :=
  let n := c.toNat
  (decide (0x09 ≤ n) && decide (n ≤ 0x0D)) || n == 0x20 || n == 0x85 || n == 0xA0 ||
    n == 0x1680 || (decide (0x2000 ≤ n) && decide (n ≤ 0x200A)) || n == 0x2028 || n == 0x2029 ||
    n == 0x202F || n == 0x205F || n == 0x3000

/-- Whether a character may stand in a word. -/
def isWordChar (c : Char) : Bool := wordChars.contains c

/-- Whether an ASCII character may stand in a word: letters, digits and the underscore. -/
def isAsciiWordChar (c : Char) : Bool :=
  ('a' ≤ c && c ≤ 'z') || ('A' ≤ c && c ≤ 'Z') || ('0' ≤ c && c ≤ '9') || c == '_'

end Unicode
end TextScan
