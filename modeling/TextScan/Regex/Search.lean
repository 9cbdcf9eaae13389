/-
# Searching

`explore` runs a program from a list of threads, the preferred one first.  A thread that forks goes
on as two threads in the place of one.  No address is visited twice at the same offset: a thread
that comes to a place where another one has been is dropped, for the earlier one was preferred.  So
the first thread to accept is the preferred match.

A search that may start anywhere tries one spot after the other.  What was visited from earlier
spots stays visited, for no match was found from there and none would be found now.  So a search
takes one step for each address at each offset, and one for each thread that is dropped.
-/

import TextScan.Regex.Program
import TextScan.Span

namespace TextScan
namespace Regex

/-- The slots that were filled, with the offsets, latest first. -/
abbrev Marks := List (Nat × Nat)

/-- The offset last put into a slot. -/
def Marks.get? (ms : Marks) (slot : Nat) : Option Nat := (ms.find? (·.1 == slot)).map (·.2)

/-- A place in a program and in a text, with what was remembered on the way. -/
structure Thread where
  address : Nat
  spot : Spot
  marks : Marks
  deriving Repr

/-- The addresses visited at each byte offset, 32 of them a number. -/
abbrev Visited := Array (Array Nat)

namespace Visited

/-- No address of a program visited, for offsets up to `n`. -/
def none (p : Program) (n : Nat) : Visited :=
  Array.replicate (n + 1) (Array.replicate (p.size / 32 + 1) 0)

/-- Whether an address was visited at an offset. -/
def has (v : Visited) (address offset : Nat) : Bool :=
  ((v.getD offset #[]).getD (address / 32) 0).testBit (address % 32)

/-- One more visit. -/
def add (v : Visited) (address offset : Nat) : Visited :=
  v.modify offset fun row => row.modify (address / 32) fun w => w ||| (1 <<< (address % 32))

end Visited

/-- Where a thread goes on, preferred first. -/
def Inst.next (i : Inst) (t : Thread) : List Thread :=
  match i with
  | .char c =>
    match t.spot.rest with
    | [] => []
    | d :: r => if c = d then [⟨t.address + 1, t.spot.past d r, t.marks⟩] else []
  | .oneOf s =>
    match t.spot.rest with
    | [] => []
    | d :: r => if s.contains d then [⟨t.address + 1, t.spot.past d r, t.marks⟩] else []
  | .anchor a => if a.holds t.spot then [⟨t.address + 1, t.spot, t.marks⟩] else []
  | .mark slot => [⟨t.address + 1, t.spot, (slot, t.spot.offset) :: t.marks⟩]
  | .jump target => [⟨target, t.spot, t.marks⟩]
  | .fork first second => [⟨first, t.spot, t.marks⟩, ⟨second, t.spot, t.marks⟩]
  | .accept => []

/-- Runs threads until one accepts; `fuel` is a bound on the number of steps.  If none does, what
was visited is the result. -/
def explore (p : Program) : Nat → List Thread → Visited → Except Visited Thread
  | 0, _, v => .error v
  | _ + 1, [], v => .error v
  | fuel + 1, t :: ts, v =>
    if v.has t.address t.spot.offset then explore p fuel ts v
    else
      match p[t.address]? with
      | none => explore p fuel ts v
      | some .accept => .ok t
      | some i => explore p fuel (i.next t ++ ts) (v.add t.address t.spot.offset)

/-- More steps than a search from one spot of a text can take. -/
def searchFuel (p : Program) (t : Text) : Nat := 2 * (p.size * (t.length + 1) + 1)

/-- A match: where it is, and what was remembered. -/
structure Hit where
  span : Span
  marks : Marks
  deriving Repr

/-- The match that starts at a spot, or what is visited in vain. -/
def hitAt (p : Program) (fuel : Nat) (v : Visited) (s : Spot) : Except Visited Hit :=
  (explore p fuel [⟨0, s, []⟩] v).map fun t => ⟨⟨s.offset, t.spot.offset⟩, t.marks⟩

/-- The match that starts at the first spot, among a spot and those behind it, where one does. -/
def hitFrom? (p : Program) (fuel : Nat) (v : Visited) (before : Option Char) (offset : Nat) :
    Text → Option Hit
  | [] => (hitAt p fuel v ⟨before, [], offset⟩).toOption
  | c :: t =>
    match hitAt p fuel v ⟨before, c :: t, offset⟩ with
    | .ok h => some h
    | .error v => hitFrom? p fuel v (some c) (offset + c.utf8Size) t

/-- Where a match may start. -/
inductive Mode where
  /-- At the start of the text only. -/
  | anchored
  /-- Anywhere, the first place preferred. -/
  | leftmost
  deriving DecidableEq, Repr

/-- The match of a program in a text. -/
def Program.hit? (p : Program) (m : Mode) (t : Text) : Option Hit :=
  let fuel := searchFuel p t
  let v := Visited.none p (Text.size t)
  match m with
  | .anchored => (hitAt p fuel v (Spot.start t)).toOption
  | .leftmost => hitFrom? p fuel v none 0 t

/-- The span of a group, if both its ends were remembered. -/
def Hit.group? (h : Hit) (index : Nat) : Option Span :=
  match h.marks.get? (2 * index), h.marks.get? (2 * index + 1) with
  | some a, some b => some ⟨a, b⟩
  | _, _ => none

end Regex
end TextScan
