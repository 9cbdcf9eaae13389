/-
# Escapes

What a backslash and the characters after it stand for.  `Cursor.escape` reads one escape, with the
cursor at the backslash.

| written | stands for |
| --- | --- |
| `\x`, `\u`, `\U` with 2, 4, 8 digits or digits in braces | the character of a code point |
| `\p`, `\P` with a letter or a name in braces | a class of characters or its complement |
| `\d \s \w`, `\D \S \W` | a class with a short name or its complement |
| `\a \f \t \n \r \v` | a control character |
| `\A \z \b \B \< \>` and `\b` with a name in braces | an assertion |
| any other ASCII character but a letter or a digit | itself |
-/

import TextScan.Regex.Cursor

namespace TextScan
namespace Regex

/-- The characters that mean something outside of brackets or inside. -/
def isMeta (c : Char) : Bool := "\\.+*?()|[]\x7b\x7d^$#&-~".toList.contains c

/-- Whether a backslash before a character makes it stand for itself. -/
def standsForItself (c : Char) : Bool :=
  isMeta c || (decide (c.toNat < 0x80) && !c.isAlphanum && c != '<' && c != '>')

/-- The control characters that have a letter. -/
def controlChar? : Char → Option Char
  | 'a' => some '\x07'
  | 'f' => some '\x0C'
  | 't' => some '\t'
  | 'n' => some '\n'
  | 'r' => some '\r'
  | 'v' => some '\x0B'
  | _ => none

/-- The assertions that have a letter or a sign. -/
def assertion? : Char → Option Assertion
  | 'A' => some .textStart
  | 'z' => some .textEnd
  | 'b' => some .wordBoundary
  | 'B' => some .notWordBoundary
  | '<' => some .wordStart
  | '>' => some .wordEnd
  | _ => none

/-- The classes that have a letter, with `true` for a complement. -/
def shorthand? : Char → Option (Shorthand × Bool)
  | 'd' => some (.digit, false)
  | 's' => some (.space, false)
  | 'w' => some (.word, false)
  | 'D' => some (.digit, true)
  | 'S' => some (.space, true)
  | 'W' => some (.word, true)
  | _ => none

/-- The number of digits after a letter that introduces a code point. -/
def codePointDigits? : Char → Option Nat
  | 'x' => some 2
  | 'u' => some 4
  | 'U' => some 8
  | _ => none

/-- Whether a character is a hexadecimal digit. -/
def isHexDigit (c : Char) : Bool := (Text.hexDigit? c).isSome

/-- The character of a code point. -/
def charOf? (n : Nat) : Option Char := if n.isValidChar then some (Char.ofNat n) else none

/-- Cuts a text before the first place where another one begins. -/
def splitAt? (mark : Text) : Text → Option (Text × Text)
  | [] => if mark.isEmpty then some ([], []) else none
  | c :: t =>
    if mark.isPrefixOf (c :: t) then some ([], (c :: t).drop mark.length)
    else (splitAt? mark t).map fun p => (c :: p.1, p.2)

/-- What a name in braces asks for, and whether for the complement.  Of the signs between a property
and a value `!=` is looked for first, then the colon, then `=`. -/
def propertyName (name : Text) : PropertyName × Bool :=
  match splitAt? "!=".toList name with
  | some (n, v) => (.valued n v, true)
  | none =>
    match splitAt? [':'] name <|> splitAt? ['='] name with
    | some (n, v) => (.valued n v, false)
    | none => (.named name, false)

/-- The word boundaries that have a name. -/
def boundaryName? (name : Text) : Option Assertion :=
  if name = "start".toList then some .wordStart
  else if name = "end".toList then some .wordEnd
  else if name = "start-half".toList then some .wordStartHalf
  else if name = "end-half".toList then some .wordEndHalf
  else none

/-- Whether a character may be in the name of a word boundary. -/
def isBoundaryChar (c : Char) : Bool := c.isAlpha || c == '-'

namespace Cursor

/-- Reads a number of hexadecimal digits. -/
def hexDigits : Nat → Cursor → Except Fault (Text × Cursor)
  | 0, c => .ok ([], c)
  | n + 1, c =>
    match c.rest with
    | [] => fail .escapeUnfinished c.index c.index
    | d :: _ =>
      if isHexDigit d then do
        let (ds, c') ← hexDigits n c.next
        pure (d :: ds, c')
      else fail .hexDigitInvalid c.index (c.index + 1)

/-- Reads a code point with a fixed number of digits, for an escape that began at `start`. -/
def fixedCodePoint (start digits : Nat) (isByte : Bool) (c : Cursor) :
    Except Fault (Literal × Cursor) := do
  let (ds, c') ← c.hexDigits digits
  match charOf? (Text.ofHexDigits ds) with
  | some ch => pure (⟨⟨start, c'.index⟩, ch, isByte⟩, c')
  | none => fail .hexNotCharacter c.index c'.index

/-- Reads a code point in braces, with the cursor at the opening one. -/
def bracedCodePoint (start : Nat) (c : Cursor) : Except Fault (Literal × Cursor) :=
  let (ds, close) := c.next.collect isHexDigit
  match close.rest with
  | [] => fail .escapeUnfinished c.index close.index
  | ch :: _ =>
    if ch = '\x7d' then
      let after := close.next
      if ds.isEmpty then fail .hexEmpty c.index after.index
      else
        match charOf? (Text.ofHexDigits ds) with
        | some v => .ok (⟨⟨start, after.index⟩, v, false⟩, after)
        | none => fail .hexNotCharacter (c.index + 1) close.index
    else fail .hexDigitInvalid close.index (close.index + 1)

/-- Reads a code point, with the cursor at the letter that introduces it. -/
def codePoint (start digits : Nat) (c : Cursor) : Except Fault (Literal × Cursor) :=
  let c' := c.next
  match c'.rest with
  | [] => fail .escapeUnfinished c'.index c'.index
  | ch :: _ =>
    if ch = '\x7b' then c'.bracedCodePoint start
    else c'.fixedCodePoint start digits (digits == 2)

/-- Reads a class of characters, with the cursor at the `p` or `P`. -/
def property (start : Nat) (negated : Bool) (c : Cursor) : Except Fault (Atom × Cursor) :=
  let c' := c.next
  match c'.rest with
  | [] => fail .escapeUnfinished c'.index c'.index
  | ch :: _ =>
    if ch = '\x7b' then
      let (name, close) := c'.next.collect (· != '\x7d')
      match close.rest with
      | [] => fail .escapeUnfinished close.index close.index
      | _ :: _ =>
        let after := close.advance
        let (n, unequal) := propertyName name
        .ok (.property ⟨start, after.index⟩ n (negated != unequal), after)
    else if ch = '\\' then fail .propertyInvalid c'.index (c'.index + 1)
    else
      let after := c'.next
      .ok (.property ⟨start, after.index⟩ (.short ch) negated, after)

/-- Reads the name of a word boundary, with the cursor at the brace after `\b`.  Where no name can
begin, the brace belongs to a repetition, and nothing is read. -/
def namedBoundary? (start : Nat) (c : Cursor) : Except Fault (Option (Assertion × Cursor)) :=
  let c' := c.next
  match c'.rest with
  | [] => fail .wordBoundaryUnfinished start c'.index
  | ch :: _ =>
    if isBoundaryChar ch then
      let (name, close) := c'.collect isBoundaryChar
      if close.rest.head? = some '\x7d' then
        match boundaryName? name with
        | some a => .ok (some (a, close.advance))
        | none => fail .wordBoundaryUnknown c'.index close.index
      else fail .wordBoundaryUnclosed c.index close.index
    else .ok none

/-- Reads the assertion `\b`, with the cursor after it. -/
def boundary (start : Nat) (c : Cursor) : Except Fault (Atom × Cursor) :=
  if c.rest.head? = some '\x7b' then do
    match ← c.namedBoundary? start with
    | some (a, c') => pure (.assertion ⟨start, c'.index⟩ a, c')
    | none => pure (.assertion ⟨start, c.index⟩ .wordBoundary, c)
  else .ok (.assertion ⟨start, c.index⟩ .wordBoundary, c)

/-- Reads an escape of one character, with the cursor at that character. -/
def shortEscape (start : Nat) (ch : Char) (c : Cursor) : Except Fault (Atom × Cursor) :=
  let after := c.advance
  let extent : Extent := ⟨start, after.index⟩
  if standsForItself ch then
    .ok (.literal ⟨extent, ch, false⟩, after)
  else
    match controlChar? ch, assertion? ch with
    | some v, _ => .ok (.literal ⟨extent, v, false⟩, after)
    | none, some .wordBoundary => after.boundary start
    | none, some a => .ok (.assertion extent a, after)
    | none, none => fail .escapeUnknown start after.index

/-- Reads an escape, with the cursor at the backslash. -/
def escape (c : Cursor) : Except Fault (Atom × Cursor) :=
  let c' := c.advance
  match c'.rest with
  | [] => fail .escapeUnfinished c.index c'.index
  | ch :: _ =>
    if ch.isDigit then fail .backreference c.index (c'.index + 1)
    else if ch = 'p' then c'.property c.index false
    else if ch = 'P' then c'.property c.index true
    else
      match codePointDigits? ch, shorthand? ch with
      | some n, _ => do
        let (l, after) ← c'.codePoint c.index n
        pure (.literal l, after)
      | none, some (k, negated) =>
        let after := c'.advance
        .ok (.shorthand ⟨c.index, after.index⟩ k negated, after)
      | none, none => c'.shortEscape c.index ch

end Cursor
end Regex
end TextScan
