/-
# Requests

Everything that a scanner can be asked for, as a type, so that a series of requests is a list.
`Scanner.answer` gives the reply, the scanner after it, and the events on the way.
-/

import TextScan.Scanner.Basic

namespace TextScan

/-- What a scanner can be asked for. -/
inductive Request where
  /-- To match at the cursor; the reply is the text of the match. -/
  | scan (q : Query)
  /-- To find a match; the reply is its text. -/
  | scanUntil (q : Query)
  /-- To match at the cursor; the reply is the size of the match. -/
  | skip (q : Query)
  /-- To find a match; the reply is how far the cursor went. -/
  | skipUntil (q : Query)
  /-- To take a character. -/
  | takeChar
  /-- To put the cursor anywhere. -/
  | moveTo (n : Nat)
  | reset
  | terminate
  | peek (n : Nat)
  | rest
  | restSize
  | beforeMatch
  | afterMatch
  /-- The text of a group of the last match, by name. -/
  | groupNamed (name : Text)
  /-- The text of a group of the last match, by number. -/
  | group (index : Nat)
  /-- All about the last match. -/
  | lastMatch
  | location (n : Nat)
  | cursorLocation
  | input
  deriving DecidableEq

/-- All about a match. -/
structure MatchView where
  span : Span
  text : Option Text
  captures : List (Option Text)
  deriving DecidableEq, Repr

/-- What a scanner replies. -/
inductive Reply where
  | nothing
  | text (t : Text)
  | number (n : Nat)
  | position (p : Position)
  | view (v : MatchView)
  | fault (e : PatternFault)
  deriving DecidableEq

namespace Reply

/-- A text, if there is one. -/
def ofText? (t : Option Text) : Reply := t.elim .nothing .text

/-- The fault of an attempt, or what is said of its match. -/
def ofAttempt (a : Attempt) (say : Found → Reply) : Reply :=
  match a.result with
  | .error e => .fault e
  | .ok none => .nothing
  | .ok (some f) => say f

end Reply

/-- A reply, the scanner after it, and the events on the way. -/
structure Answer where
  reply : Reply
  scanner : Scanner
  events : List Event

namespace Scanner

/-- The last match, with its texts. -/
def matchView (s : Scanner) : Option MatchView :=
  s.found.map fun f => ⟨f.span, s.slice? f.span, s.captures⟩

/-- The answer of an attempt. -/
def answerAttempt (a : Attempt) (say : Found → Reply) : Answer :=
  ⟨Reply.ofAttempt a say, a.scanner, a.events⟩

/-- The text of a match, as a reply. -/
def sayText (s : Scanner) (f : Found) : Reply := Reply.ofText? (s.slice? f.span)

/-- The answer to a request. -/
def answer (s : Scanner) : Request → Answer
  | .scan q => answerAttempt (s.scan q) s.sayText
  | .scanUntil q => answerAttempt (s.scanUntil q) s.sayText
  | .skip q => answerAttempt (s.scan q) fun f => .number f.span.length
  | .skipUntil q => answerAttempt (s.scanUntil q) fun f => .number (f.span.stop - s.cursor)
  | .takeChar => answerAttempt s.takeChar s.sayText
  | .moveTo n => ⟨.nothing, s.moveTo n, []⟩
  | .reset => ⟨.nothing, s.reset, [.reset]⟩
  | .terminate => ⟨.nothing, s.terminate, [.terminated]⟩
  | .peek n => ⟨.text (s.peek n), s, []⟩
  | .rest => ⟨.text s.rest, s, []⟩
  | .restSize => ⟨.number s.restSize, s, []⟩
  | .beforeMatch => ⟨Reply.ofText? s.beforeMatch, s, []⟩
  | .afterMatch => ⟨Reply.ofText? s.afterMatch, s, []⟩
  | .groupNamed n => ⟨Reply.ofText? (s.groupNamed n), s, []⟩
  | .group i => ⟨Reply.ofText? (s.group i), s, []⟩
  | .lastMatch => ⟨s.matchView.elim .nothing .view, s, []⟩
  | .location n => ⟨.position (s.location n), s, []⟩
  | .cursorLocation => ⟨.position s.cursorLocation, s, []⟩
  | .input => ⟨Reply.ofText? s.input, s, []⟩

/-- The answers to a series of requests, and the scanner after them. -/
def answers (s : Scanner) : List Request → List Answer × Scanner
  | [] => ([], s)
  | r :: rs =>
    let a := s.answer r
    let (as, s') := answers a.scanner rs
    (a :: as, s')

end Scanner
end TextScan
