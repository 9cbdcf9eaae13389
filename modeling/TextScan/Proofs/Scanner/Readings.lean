/-
# What a scanner shows

A scanner shows its cursor and its match in many ways, and all of them are read off the text, the
cursor and the match (`reading_eq`).  What it shows of a match does not depend on the cursor
(`sameMatch_of_found`), and it shows nothing where it has none (`showsNone_of_found`).
-/

import TextScan.Scanner.Request

namespace TextScan

/-- All that a scanner shows without being asked for a number or a name. -/
structure Reading where
  cursor : Nat
  atEnd : Bool
  atLineStart : Bool
  location : Position
  rest : Text
  matched : Option Text
  span : Option Span
  size : Option Nat
  captures : List (Option Text)
  before : Option Text
  after : Option Text
  view : Option MatchView
  deriving DecidableEq, Repr

namespace Scanner

/-- What a scanner shows. -/
def reading (s : Scanner) : Reading where
  cursor := s.cursor
  atEnd := s.isAtEnd
  atLineStart := s.isAtLineStart
  location := s.cursorLocation
  rest := s.rest
  matched := s.matched
  span := s.matchedSpan
  size := s.matchedSize
  captures := s.captures
  before := s.beforeMatch
  after := s.afterMatch
  view := s.matchView

/-- Nothing is to be read of a match. -/
structure ShowsNone (s : Scanner) : Prop where
  matched : s.matched = none
  span : s.matchedSpan = none
  size : s.matchedSize = none
  before : s.beforeMatch = none
  after : s.afterMatch = none
  view : s.matchView = none
  captures : s.captures = []
  group : ∀ i, s.group i = none
  named : ∀ name, s.groupNamed name = none

/-- Two scanners show one match, with all its groups. -/
structure SameMatch (s s' : Scanner) : Prop where
  matched : s.matched = s'.matched
  span : s.matchedSpan = s'.matchedSpan
  size : s.matchedSize = s'.matchedSize
  before : s.beforeMatch = s'.beforeMatch
  after : s.afterMatch = s'.afterMatch
  view : s.matchView = s'.matchView
  captures : s.captures = s'.captures
  group : ∀ i, s.group i = s'.group i
  named : ∀ name, s.groupNamed name = s'.groupNamed name

variable {s s' : Scanner}

theorem showsNone_of_found (h : s.found = none) : s.ShowsNone := by
  obtain ⟨input, cursor, found, cache⟩ := s
  obtain rfl : found = none := h
  exact ⟨rfl, rfl, rfl, rfl, rfl, rfl, rfl, fun _ => rfl, fun _ => rfl⟩

theorem sameMatch_of_found (hi : s.input = s'.input) (hf : s.found = s'.found) :
    s.SameMatch s' := by
  obtain ⟨input, cursor, found, cache⟩ := s
  obtain ⟨input', cursor', found', cache'⟩ := s'
  obtain rfl : input = input' := hi
  obtain rfl : found = found' := hf
  exact ⟨rfl, rfl, rfl, rfl, rfl, rfl, rfl, fun _ => rfl, fun _ => rfl⟩

theorem slice?_eq {t : Text} (hi : s.input = some t) (sp : Span) :
    s.slice? sp = Text.slice? t sp := by
  rw [slice?, hi, Option.bind_some]

/-- The text of a match is said if there is one. -/
theorem sayText_eq {f : Found} {u : Text} (h : s.slice? f.span = some u) :
    s.sayText f = .text u := by
  rw [sayText, h]
  rfl

/-- What a scanner shows does not depend on its cache. -/
theorem reading_eq (hi : s.input = s'.input) (hc : s.cursor = s'.cursor)
    (hf : s.found = s'.found) : s.reading = s'.reading := by
  obtain ⟨input, cursor, found, cache⟩ := s
  obtain ⟨input', cursor', found', cache'⟩ := s'
  obtain rfl : input = input' := hi
  obtain rfl : cursor = cursor' := hc
  obtain rfl : found = found' := hf
  rfl

end Scanner
end TextScan
