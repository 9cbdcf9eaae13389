/-
# Reading a source

A cursor stands before a character of the source.  In verbose mode blanks mean nothing, nor does a
comment, which runs from `#` to the end of its line.
-/

import TextScan.Regex.Fault
import TextScan.Unicode.Word

namespace TextScan
namespace Regex

/-- Where the reading of a source stands. -/
structure Cursor where
  /-- What is still to be read. -/
  rest : Text
  /-- The number of characters read. -/
  index : Nat
  /-- Whether blanks and comments mean nothing. -/
  verbose : Bool
  deriving Repr

namespace Cursor

/-- The start of a source. -/
def ofSource (source : Text) : Cursor := ⟨source, 0, false⟩

/-- The extent of the character at a cursor. -/
def charExtent (c : Cursor) : Extent := ⟨c.index, c.index + 1⟩

/-- Goes over one character. -/
def advance (c : Cursor) : Cursor :=
  match c.rest with
  | [] => c
  | _ :: t => { c with rest := t, index := c.index + 1 }

/-- The text after blanks and comments, with the number of characters read. -/
def afterBlanks (inComment : Bool) : Text → Nat → Text × Nat
  | [], n => ([], n)
  | ch :: t, n =>
    if inComment then afterBlanks (ch != '\n') t (n + 1)
    else if Unicode.isBlank ch then afterBlanks false t (n + 1)
    else if ch = '#' then afterBlanks true t (n + 1)
    else (ch :: t, n)

/-- Goes over blanks and comments where they mean nothing. -/
def skipBlanks (c : Cursor) : Cursor :=
  if c.verbose then
    let (t, n) := afterBlanks false c.rest c.index
    { c with rest := t, index := n }
  else c

/-- Goes over one character and the blanks and comments after it. -/
def next (c : Cursor) : Cursor := c.advance.skipBlanks

/-- Goes over blanks in every mode. -/
def skipWhite (c : Cursor) : Cursor :=
  let white := c.rest.takeWhile Unicode.isBlank
  { c with rest := c.rest.dropWhile Unicode.isBlank, index := c.index + white.length }

/-- The first character that is not blank; the sign of a comment hides blanks as well, but nothing
else. -/
def significant? (inComment : Bool) : Text → Option Char
  | [] => none
  | ch :: t =>
    if Unicode.isBlank ch then significant? inComment t
    else if !inComment && ch == '#' then significant? true t
    else some ch

/-- The character after the one at a cursor, past blanks where they mean nothing. -/
def following? (c : Cursor) : Option Char :=
  let t := c.rest.drop 1
  if c.verbose then significant? false t <|> t.head? else t.head?

/-- Reads a text if it is next. -/
def accept? (c : Cursor) (t : Text) : Option Cursor :=
  if t.isPrefixOf c.rest then
    some { c with rest := c.rest.drop t.length, index := c.index + t.length }
  else none

/-- Reads characters as long as they pass a test; `fuel` is a bound on their number. -/
def collectUpTo (keep : Char → Bool) : Nat → Cursor → Text × Cursor
  | 0, c => ([], c)
  | fuel + 1, c =>
    match c.rest with
    | [] => ([], c)
    | ch :: _ =>
      if keep ch then
        let (t, c') := collectUpTo keep fuel c.next
        (ch :: t, c')
      else ([], c)

/-- Reads characters as long as they pass a test, and the blanks and comments between them. -/
def collect (keep : Char → Bool) (c : Cursor) : Text × Cursor := collectUpTo keep c.rest.length c

end Cursor
end Regex
end TextScan
