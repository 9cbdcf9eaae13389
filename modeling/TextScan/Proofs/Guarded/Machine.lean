/-
# A scanner that can break off

A machine is a scanner that keeps a match the way a search finds it, with offsets that count from
where it was looked for.  Whatever is read of the match is added up and cut anew each time, with the
operations of `TextScan.Proofs.Guarded.Basic`; so a machine breaks off where one of them does.  What
a scanner does without sums, differences, cuts and look-ups, a machine does in the same way.

`Machine.answer` answers a request, `Machine.reading` shows everything that a machine shows, and
`Bench` is a session of machines.
-/

import TextScan.Proofs.Guarded.Offsets
import TextScan.Proofs.Scanner.Readings
import TextScan.Scanner.Session

namespace TextScan
namespace Guarded

/-- A match in the text from `base` on. -/
structure Kept where
  base : Nat
  regex : Regex
  hit : Regex.Hit

namespace Kept

/-- The match, seen from the whole text. -/
def found (k : Kept) : Found := Found.ofHit k.base k.regex k.hit

/-- The span of a group in the text from the base on; number zero is the whole match. -/
def relative? (k : Kept) : Nat → Option Span
  | 0 => some k.hit.span
  | i + 1 => if i < k.regex.names.length then k.hit.group? (i + 1) else none

/-- The span of the match. -/
def span (k : Kept) : Guarded Span := shift k.base k.hit.span

/-- The text of the match. -/
def text (k : Kept) (t : Text) : Guarded Text := do
  let s ← k.span
  cut t s

/-- The text of a group by number. -/
def group (k : Kept) (t : Text) (index : Nat) : Guarded (Option Text) :=
  match k.relative? index with
  | none => .ok none
  | some s => do
    let s' ← shift k.base s
    let u ← cut t s'
    pure (some u)

/-- The texts of the groups. -/
def captures (k : Kept) (t : Text) : Guarded (List (Option Text)) :=
  (List.range k.regex.names.length).mapM fun i => k.group t (i + 1)

/-- The text of a group by name. -/
def groupNamed (k : Kept) (t : Text) (name : Text) : Guarded (Option Text) :=
  match k.regex.names.findIdx? (· == some name) with
  | none => .ok none
  | some i => k.group t (i + 1)

end Kept

/-- The pattern of a source, the cache with it, and what was done: a source that the cache does not
have is compiled and put there, and then the pattern is looked up. -/
def fetch (c : Cache) (source : Text) :
    Guarded (Except PatternFault (Pattern × Cache × List Event)) :=
  if (c.find? source).isSome then do
    let p ← lookUp c source
    pure (.ok (p, c, []))
  else
    match Pattern.compile source with
    | .error e => .ok (.error e)
    | .ok p => do
      let c' := c.insert p
      let p' ← lookUp c' source
      pure (.ok (p', c', [.cached p]))

/-- The pattern of a query. -/
def resolve (q : Query) (c : Cache) :
    Guarded (Except PatternFault (Pattern × Cache × List Event)) :=
  match q with
  | .pattern p => .ok (.ok (p, c, []))
  | .source s => fetch c s

/-- A text with a cursor, the last match and the patterns compiled. -/
structure Machine where
  input : Option Text
  cursor : Nat
  kept : Option Kept
  cache : Cache

/-- A reply, the machine after it, and the events on the way. -/
structure Outcome where
  reply : Reply
  machine : Machine
  events : List Event

/-- The text of a match or why there was no search, the machine after it, and the events. -/
structure Trial where
  result : Except PatternFault (Option Text)
  machine : Machine
  events : List Event

namespace Machine

/-- A machine at the start of a text. -/
def new (input : Option Text) : Machine := ⟨input, 0, none, Cache.empty⟩

/-- The scanner that a machine stands for. -/
def scanner (M : Machine) : Scanner := ⟨M.input, M.cursor, M.kept.map Kept.found, M.cache⟩

/-- Reads the text and the last match, if there are both. -/
def view {α : Type} (M : Machine) (nothing : α) (f : Text → Kept → Guarded α) : Guarded α :=
  match M.input, M.kept with
  | some t, some k => f t k
  | _, _ => .ok nothing

/-- The text of the last match. -/
def matched (M : Machine) : Guarded (Option Text) := M.view none fun t k => do
  let u ← k.text t
  pure (some u)

/-- The span of the last match. -/
def matchedSpan (M : Machine) : Guarded (Option Span) :=
  match M.kept with
  | none => .ok none
  | some k => do
    let s ← k.span
    pure (some s)

/-- The bytes of the last match. -/
def matchedSize (M : Machine) : Guarded (Option Nat) := do
  let s ← M.matchedSpan
  pure (s.map (·.length))

/-- The texts of the groups of the last match. -/
def captures (M : Machine) : Guarded (List (Option Text)) := M.view [] fun t k => k.captures t

/-- The text of a group of the last match by number. -/
def group (M : Machine) (index : Nat) : Guarded (Option Text) :=
  M.view none fun t k => k.group t index

/-- The text of a group of the last match by name. -/
def groupNamed (M : Machine) (name : Text) : Guarded (Option Text) :=
  M.view none fun t k => k.groupNamed t name

/-- The last match, with its texts. -/
def matchView (M : Machine) : Guarded (Option MatchView) := M.view none fun t k => do
  let s ← k.span
  let u ← k.text t
  let us ← k.captures t
  pure (some ⟨s, some u, us⟩)

/-- The part of the text that depends on the span of the last match. -/
def around (M : Machine) (part : Text → Span → Span) : Guarded (Option Text) := do
  match ← M.matchedSpan, M.input with
  | some s, some t => do
    let u ← cut t (part t s)
    pure (some u)
  | _, _ => pure none

/-- The text before the last match. -/
def beforeMatch (M : Machine) : Guarded (Option Text) := M.around fun _ s => ⟨0, s.start⟩

/-- The text behind the last match. -/
def afterMatch (M : Machine) : Guarded (Option Text) :=
  M.around fun t s => ⟨s.stop, Text.size t⟩

/-- Whether the cursor is at the start of the text or right behind a line feed. -/
def isAtLineStart (M : Machine) : Guarded Bool :=
  if M.cursor = 0 then .ok true
  else
    match M.input with
    | none => .ok false
    | some t => do
      let n ← sub M.cursor 1
      pure (Text.byte? t n == some 0x0A)

/-- The position of a byte offset. -/
def location (M : Machine) (n : Nat) : Guarded Position := position (M.input.getD []) n

/-- Everything that a machine shows. -/
def reading (M : Machine) : Guarded Reading := do
  let atLineStart ← M.isAtLineStart
  let location ← M.location M.cursor
  let matched ← M.matched
  let span ← M.matchedSpan
  let size ← M.matchedSize
  let captures ← M.captures
  let before ← M.beforeMatch
  let after ← M.afterMatch
  let view ← M.matchView
  pure { cursor := M.cursor, atEnd := M.scanner.isAtEnd, atLineStart, location,
         rest := M.scanner.rest, matched, span, size, captures, before, after, view }

/-- Looks for a pattern from the cursor on. -/
def attempt (M : Machine) (m : Regex.Mode) (q : Query) : Guarded Trial := do
  match ← resolve q M.cache with
  | .error e => pure ⟨.error e, M, []⟩
  | .ok (p, cache, caching) =>
    let M := { M with cache := cache }
    match M.input with
    | none => pure ⟨.ok none, M, caching⟩
    | some t =>
      let started := caching ++ [.started m p M.cursor]
      match Text.drop? t M.cursor with
      | none => pure ⟨.ok none, { M with kept := none }, started⟩
      | some region =>
        match p.regex.hit? m region with
        | none => pure ⟨.ok none, { M with kept := none }, started ++ [.missed m p]⟩
        | some h => do
          let k : Kept := ⟨M.cursor, p.regex, h⟩
          let s ← k.span
          let u ← cut t s
          pure ⟨.ok (some u), { M with cursor := s.stop, kept := some k },
            started ++ [.matched m p h.span]⟩

/-- The outcome of a trial, given what is said of a text that was found. -/
def outcome (trial : Guarded Trial) (say : Trial → Text → Guarded Reply) : Guarded Outcome := do
  let a ← trial
  let reply ← match a.result with
    | .error e => pure (.fault e)
    | .ok none => pure .nothing
    | .ok (some u) => say a u
  pure ⟨reply, a.machine, a.events⟩

/-- Takes the character at the cursor; a fault of the pattern is passed over in silence. -/
def takeChar (M : Machine) : Guarded Outcome := do
  let a ← M.attempt .anchored (.source Scanner.anyCharacter)
  pure ⟨Reply.ofText? (a.result.toOption.bind id), a.machine, a.events⟩

/-- A reply that leaves the machine as it is. -/
def say (M : Machine) (reply : Guarded Reply) : Guarded Outcome := do
  let reply ← reply
  pure ⟨reply, M, []⟩

/-- The answer to a request. -/
def answer (M : Machine) : Request → Guarded Outcome
  | .scan q => outcome (M.attempt .anchored q) fun _ u => .ok (.text u)
  | .scanUntil q => outcome (M.attempt .leftmost q) fun _ u => .ok (.text u)
  | .skip q => outcome (M.attempt .anchored q) fun _ u => .ok (.number (Text.size u))
  | .skipUntil q => outcome (M.attempt .leftmost q) fun a _ => do
    let n ← sub a.machine.cursor M.cursor
    pure (.number n)
  | .takeChar => M.takeChar
  | .moveTo n => .ok ⟨.nothing, { M with cursor := n }, []⟩
  | .reset => .ok ⟨.nothing, { M with cursor := 0, kept := none }, [.reset]⟩
  | .terminate =>
    .ok ⟨.nothing, { M with cursor := M.input.elim 0 Text.size, kept := none }, [.terminated]⟩
  | .peek n => M.say ((peek M.scanner.rest n).map .text)
  | .rest => M.say (.ok (.text M.scanner.rest))
  | .restSize => M.say (.ok (.number M.scanner.restSize))
  | .beforeMatch => M.say (M.beforeMatch.map Reply.ofText?)
  | .afterMatch => M.say (M.afterMatch.map Reply.ofText?)
  | .groupNamed n => M.say ((M.groupNamed n).map Reply.ofText?)
  | .group i => M.say ((M.group i).map Reply.ofText?)
  | .lastMatch => M.say (M.matchView.map fun v => v.elim .nothing .view)
  | .location n => M.say ((M.location n).map .position)
  | .cursorLocation => M.say ((M.location M.cursor).map .position)
  | .input => M.say (.ok (Reply.ofText? M.input))

end Machine

/-- The machines of a session, and the number of the current one. -/
structure Bench where
  machines : List Machine
  current : Nat

namespace Bench

/-- A bench with one machine. -/
def new (input : Option Text) : Bench := ⟨[Machine.new input], 0⟩

/-- The session that a bench stands for. -/
def session (b : Bench) : Session := ⟨b.machines.map Machine.scanner, b.current⟩

/-- The current machine; a number without a machine stands for one without a text. -/
def machine (b : Bench) : Machine := (b.machines[b.current]?).getD (Machine.new none)

/-- Takes a step: the reply, the events on the way, and the bench after it. -/
def take (b : Bench) : Step → Guarded (Reply × List Event × Bench)
  | .ask r => do
    let a ← b.machine.answer r
    pure (a.reply, a.events, { b with machines := b.machines.set b.current a.machine })
  | .clone => .ok (.number b.machines.length, [], { b with machines := b.machines ++ [b.machine] })
  | .use n => .ok (.nothing, [], { b with current := n })

/-- Takes steps one after the other: the replies with their events, and the bench after them. -/
def run (b : Bench) : List Step → Guarded (List (Reply × List Event) × Bench)
  | [] => .ok ([], b)
  | step :: steps => do
    let (reply, events, b') ← b.take step
    let (replies, b'') ← run b' steps
    pure ((reply, events) :: replies, b'')

end Bench
end Guarded
end TextScan
