/-
# Quoted texts

The quoted form of a text shows it as a reader would see it: characters with a shape of their own
stand as they are, and the others are escaped.
-/

import TextScan.Text.Escaped
import TextScan.Unicode.Newer

namespace TextScan
namespace Text

/-- A character as it stands between quotes. -/
def quoteChar (c : Char) : Text :=
  match c with
  | '\x00' => backslashed '0'
  | '\t' => backslashed 't'
  | '\n' => backslashed 'n'
  | '\r' => backslashed 'r'
  | '"' => backslashed c
  | '\\' => backslashed c
  | _ =>
    if isPrintableAscii c then [c]
    else if Unicode.hidden.contains c then asCodePoint c
    else [c]

/-- A text between quotes. -/
def quoted (t : Text) : Text := ['"'] ++ t.flatMap quoteChar ++ ['"']

end Text
end TextScan
