/-
# Scanners

A scanner holds a text, a cursor and the match that was found last.  The cursor is a byte offset.
It can be set to any number; nothing is found from a cursor that is beyond the end or inside a
character, or in a scanner without a text.

`attempt` is the only way to a match.  It looks for a pattern in the text from the cursor on, as if
nothing stood before it, and leaves the cursor behind the match.

| the pattern | the match | the cursor | last match |
| --- | --- | --- | --- |
| does not compile | | stays | stays |
| compiles, the text is absent | none | stays | stays |
| compiles | none | stays | forgotten |
| compiles | found | goes behind it | the new one |
-/

import TextScan.Cache
import TextScan.Position
import TextScan.Scanner.Event

namespace TextScan

/-- A match in the text of a scanner: its span, and the names and spans of the groups. -/
structure Found where
  span : Span
  groups : List (Option Text × Option Span)
  deriving DecidableEq, Repr

/-- A match in the text from `base` on, seen from the whole text. -/
def Found.ofHit (base : Nat) (r : Regex) (h : Regex.Hit) : Found :=
  ⟨h.span.shift base, (r.groupsOf h).map fun g => (g.1, g.2.map (·.shift base))⟩

/-- The span of a group by number; number zero is the whole match. -/
def Found.group? (f : Found) (index : Nat) : Option Span :=
  match index with
  | 0 => some f.span
  | i + 1 => (f.groups[i]?).bind (·.2)

/-- The span of a group by name. -/
def Found.groupNamed? (f : Found) (name : Text) : Option Span :=
  (f.groups.find? (·.1 == some name)).bind (·.2)

/-- What is asked for in a scan: a source, which the scanner compiles once, or a pattern. -/
inductive Query where
  | source (s : Text)
  | pattern (p : Pattern)
  deriving DecidableEq

/-- The pattern that is asked for, the cache after that, and what was done to get it. -/
def Query.resolve (q : Query) (c : Cache) : Except PatternFault (Pattern × Cache × List Event) :=
  match q with
  | .pattern p => .ok (p, c, [])
  | .source s =>
    match c.find? s with
    | some p => .ok (p, c, [])
    | none =>
      match Pattern.compile s with
      | .error e => .error e
      | .ok p => .ok (p, c.insert p, [.cached p])

/-- A text with a cursor, the last match and the patterns compiled. -/
structure Scanner where
  input : Option Text
  cursor : Nat
  found : Option Found
  cache : Cache
  deriving DecidableEq

/-- What came of a search: the match or why there was no search, the scanner after it, and the
events on the way. -/
structure Attempt where
  result : Except PatternFault (Option Found)
  scanner : Scanner
  events : List Event

namespace Scanner

/-- A scanner at the start of a text. -/
def new (input : Option Text) : Scanner := ⟨input, 0, none, Cache.empty⟩

/-- Looks for a pattern from the cursor on. -/
def attempt (s : Scanner) (m : Regex.Mode) (q : Query) : Attempt :=
  match q.resolve s.cache with
  | .error e => ⟨.error e, s, []⟩
  | .ok (p, cache, caching) =>
    let s := { s with cache := cache }
    match s.input with
    | none => ⟨.ok none, s, caching⟩
    | some t =>
      let started := caching ++ [.started m p s.cursor]
      match Text.drop? t s.cursor with
      | none => ⟨.ok none, { s with found := none }, started⟩
      | some region =>
        match p.regex.hit? m region with
        | none => ⟨.ok none, { s with found := none }, started ++ [.missed m p]⟩
        | some h =>
          let f := Found.ofHit s.cursor p.regex h
          ⟨.ok (some f), { s with cursor := f.span.stop, found := some f },
            started ++ [.matched m p h.span]⟩

/-- The source of the pattern that matches any character. -/
def anyCharacter : Text := "(?s:.)".toList

/-- Looks for a pattern right at the cursor. -/
def scan (s : Scanner) (q : Query) : Attempt := s.attempt .anchored q

/-- Looks for a pattern at the cursor or behind it. -/
def scanUntil (s : Scanner) (q : Query) : Attempt := s.attempt .leftmost q

/-- Takes the character at the cursor. -/
def takeChar (s : Scanner) : Attempt := s.scan (.source anyCharacter)

/-- Puts the cursor anywhere. -/
def moveTo (s : Scanner) (n : Nat) : Scanner := { s with cursor := n }

/-- Puts the cursor at the start and forgets the match. -/
def reset (s : Scanner) : Scanner := { s with cursor := 0, found := none }

/-- Puts the cursor at the end and forgets the match. -/
def terminate (s : Scanner) : Scanner :=
  { s with cursor := s.input.elim 0 Text.size, found := none }

/-- Whether there is nothing behind the cursor. -/
def isAtEnd (s : Scanner) : Bool := s.input.all fun t => decide (Text.size t ≤ s.cursor)

/-- Whether the cursor is at the start of the text or right behind a line feed. -/
def isAtLineStart (s : Scanner) : Bool :=
  s.cursor == 0 || s.input.any fun t => Text.byte? t (s.cursor - 1) == some 0x0A

/-- The text of a span. -/
def slice? (s : Scanner) (span : Span) : Option Text := s.input.bind (Text.slice? · span)

/-- The text of the last match. -/
def matched (s : Scanner) : Option Text := s.found.bind fun f => s.slice? f.span

/-- The span of the last match. -/
def matchedSpan (s : Scanner) : Option Span := s.found.map (·.span)

/-- The bytes of the last match. -/
def matchedSize (s : Scanner) : Option Nat := s.matchedSpan.map (·.length)

/-- The texts of the groups of the last match; no text for a group that took no part. -/
def captures (s : Scanner) : List (Option Text) :=
  s.found.elim [] fun f => f.groups.map fun g => g.2.bind s.slice?

/-- The text of a group of the last match by number. -/
def group (s : Scanner) (index : Nat) : Option Text :=
  s.found.bind fun f => (f.group? index).bind s.slice?

/-- The text of a group of the last match by name. -/
def groupNamed (s : Scanner) (name : Text) : Option Text :=
  s.found.bind fun f => (f.groupNamed? name).bind s.slice?

/-- The text before the last match. -/
def beforeMatch (s : Scanner) : Option Text :=
  s.found.bind fun f => s.slice? ⟨0, f.span.start⟩

/-- The text behind the last match. -/
def afterMatch (s : Scanner) : Option Text :=
  s.found.bind fun f => s.input.bind (Text.drop? · f.span.stop)

/-- The text from the cursor on; nothing if the cursor is not in the text. -/
def rest (s : Scanner) : Text := (s.input.bind (Text.drop? · s.cursor)).getD []

/-- The bytes of the text from the cursor on. -/
def restSize (s : Scanner) : Nat := Text.size s.rest

/-- As much of the text from the cursor on as fits into a number of bytes. -/
def peek (s : Scanner) (n : Nat) : Text := Text.fit n s.rest

/-- The position of a byte offset; without a text there is only one. -/
def location (s : Scanner) (n : Nat) : Position := Position.ofOffset (s.input.getD []) n

/-- The position of the cursor. -/
def cursorLocation (s : Scanner) : Position := s.location s.cursor

end Scanner
end TextScan
