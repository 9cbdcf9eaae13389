/-
# Sessions

A session holds several scanners, one of them the current one.  A request goes to the current
scanner; a copy of it can be added, and another one can be made the current one.
-/

import TextScan.Scanner.Request

namespace TextScan

/-- The scanners of a session, and the number of the current one. -/
structure Session where
  scanners : List Scanner
  current : Nat

/-- A step of a session. -/
inductive Step where
  /-- A request to the current scanner. -/
  | ask (r : Request)
  /-- Adds a copy of the current scanner; the reply is its number. -/
  | clone
  /-- Makes another scanner the current one. -/
  | use (n : Nat)
  deriving DecidableEq

namespace Session

/-- A session with one scanner. -/
def new (input : Option Text) : Session := ⟨[Scanner.new input], 0⟩

/-- The current scanner; a number without a scanner stands for one without a text. -/
def scanner (s : Session) : Scanner := (s.scanners[s.current]?).getD (Scanner.new none)

/-- Takes a step: the reply, the events on the way, and the session after it. -/
def take (s : Session) : Step → Reply × List Event × Session
  | .ask r =>
    let a := s.scanner.answer r
    (a.reply, a.events, { s with scanners := s.scanners.set s.current a.scanner })
  | .clone => (.number s.scanners.length, [], { s with scanners := s.scanners ++ [s.scanner] })
  | .use n => (.nothing, [], { s with current := n })

/-- Takes steps one after the other: the replies with their events, and the session after them. -/
def run (s : Session) : List Step → List (Reply × List Event) × Session
  | [] => ([], s)
  | step :: steps =>
    let (reply, events, s') := s.take step
    let (replies, s'') := s'.run steps
    ((reply, events) :: replies, s'')

end Session
end TextScan
