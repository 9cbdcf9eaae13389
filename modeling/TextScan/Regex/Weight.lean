/-
# The weight of an expression

A regular expression is refused if an automaton for it would take more than ten mebibytes.  There
are two automata, one that reads a text forward and one that reads it backward; neither may be too
large.  Where texts are searched for in the place of the expression, there is no automaton.

The weight of an automaton is the number of bytes of its states, with every repetition counted out.
The states have numbers in the order in which they are made.  So what makes states takes the bulk of
the states before and gives the bulk with its own: how many there are and the bytes that they take.

The automata read bytes.  A set of characters is read by sequences of byte ranges: `80-7FF` is one
sequence, `C2-DF 80-BF`, and `81-7FF` is two, `C2 81-BF` and `C3-DF 80-BF`.  States that read the
same and go on to the same state are made once, as long as they are remembered (`Recall`).

| states | bytes |
| --- | --- |
| a state | 32 |
| a state with several byte ranges, for each range | 8 more |
| a state with several ways on, for each way | 4 more |
-/

import Std.Data.TreeMap
import TextScan.Regex.Openings

namespace TextScan
namespace Regex

/-- The bytes of a state. -/
def stateWeight : Nat := 32

/-- The bytes that a range of bytes takes in a state that has several. -/
def rangeWeight : Nat := 8

/-- The bytes that a way on takes in a state that has several. -/
def wayWeight : Nat := 4

/-- The greatest number of bytes of an automaton. -/
def weightLimit : Nat := 10 * 1024 * 1024

/-- The states of an automaton that were made so far. -/
structure Bulk where
  states : Nat
  bytes : Nat
  deriving DecidableEq, Repr

namespace Bulk

/-- With `n` more states, which take `extra` bytes beyond those of every state. -/
def add (b : Bulk) (n extra : Nat) : Bulk := ⟨b.states + n, b.bytes + n * stateWeight + extra⟩

/-- With a state that has two ways on. -/
def fork (b : Bulk) : Bulk := b.add 1 (2 * wayWeight)

/-- Whether the states take too many bytes. -/
def isTooLarge (b : Bulk) : Bool := decide (weightLimit < b.bytes)

/-- With the states of `f`, several times.  No more are made once they are too large. -/
def copies (f : Bulk → Bulk) : Nat → Bulk → Bulk
  | 0, b => b
  | n + 1, b => if b.isTooLarge then b else copies f n (f b)

end Bulk

/-! ## Sets -/

/-- The bytes from `low` to `high`. -/
structure ByteRange where
  low : Nat
  high : Nat
  deriving DecidableEq, Repr

/-- The byte ranges that read one character of a set, one after the other. -/
abbrev ByteSequence := List ByteRange

/-- The sequences for the characters from `a` to `b`, all of which have `tails` bytes after the
first.  The first byte is counted from `lead`. -/
def byteSequences : Nat → Nat → Nat → Nat → List ByteSequence
  | 0, lead, a, b => [[⟨lead + a, lead + b⟩]]
  | tails + 1, lead, a, b =>
    let block := Nat.pow 64 (tails + 1)
    let within (q a b : Nat) : List ByteSequence :=
      (byteSequences tails 0x80 a b).map (⟨lead + q, lead + q⟩ :: ·)
    let p := a / block
    let q := b / block
    if p = q then within p (a % block) (b % block)
    else
      let head := if a % block = 0 then [] else within p (a % block) (block - 1)
      let tail := if b % block = block - 1 then [] else within q 0 (b % block)
      let first := if head.isEmpty then p else p + 1
      let last := if tail.isEmpty then q + 1 else q
      let whole := if first < last then
        [⟨lead + first, lead + last - 1⟩ :: List.replicate (tails + 1) ⟨0x80, 0xBF⟩] else []
      head ++ whole ++ tail

/-- The code points of equal size, without the surrogates, with the number of their bytes after the
first and what the first byte is counted from. -/
def sizeClasses : List (CharRange × Nat × Nat) :=
  [(⟨0, 0x7F⟩, 0, 0), (⟨0x80, 0x7FF⟩, 1, 0xC0), (⟨0x800, 0xD7FF⟩, 2, 0xE0),
    (⟨0xE000, 0xFFFF⟩, 2, 0xE0), (⟨0x10000, CharRange.top⟩, 3, 0xF0)]

/-- The sequences for a range of characters. -/
def CharRange.sequences (r : CharRange) : List ByteSequence :=
  sizeClasses.flatMap fun c =>
    match r.inter? c.1 with
    | some s => byteSequences c.2.1 c.2.2 s.low s.high
    | none => []

/-- The sequences for a set of characters, in order. -/
def sequencesOf (s : CharSet) : List ByteSequence := s.ranges.flatMap CharRange.sequences

/-- The states of a set, and what is remembered of them.  A state is remembered by what it reads and
where it goes on, its code.  There are a number of slots; the code says which of them a state is put
into, and it is forgotten when another one is put there. -/
structure Recall where
  bulk : Bulk
  slots : Std.TreeMap Nat (List Nat × Nat) := {}

namespace Recall

/-- The slots for the states that read a set forward. -/
def forwardSlots : Nat := 10000

/-- The slots for the states that read a set backward. -/
def backwardSlots : Nat := 1000

/-- The slot of a code: its hash value of 64 bits, within the number of slots. -/
def slot (capacity : Nat) (code : List Nat) : Nat :=
  let hash : UInt64 :=
    code.foldl (fun h n => (h ^^^ UInt64.ofNat n) * 1099511628211) 14695981039346656037
  hash.toNat % capacity

/-- The number of the state with a code.  If it is not remembered, it is made. -/
def state (capacity : Nat) (code : List Nat) (extra : Nat) : Recall → Nat × Recall
  | ⟨⟨n, bytes⟩, slots⟩ =>
    let place := slot capacity code
    let made : Nat × Recall := (n, ⟨Bulk.add ⟨n, bytes⟩ 1 extra, slots.insert place (code, n)⟩)
    match slots[place]? with
    | some (code', m) => if code' = code then (m, ⟨⟨n, bytes⟩, slots⟩) else made
    | none => made

/-- The states that read sequences in order from the first byte on, up to a number of bytes; `last`
is the state behind them.  The states further on are made first. -/
def forward (last : Nat) : Nat → List ByteSequence → Recall → Nat × Recall
  | 0, _, r => (last, r)
  | n + 1, ss, r =>
    let groups := ss.splitBy fun s t => s.head? == t.head?
    let (ways, r) := groups.foldl (fun (ways, r) group =>
      let rests := group.map List.tail
      let (next, r) := if rests.all List.isEmpty then (last, r) else forward last n rests r
      let way := (group.head?.bind List.head?).map fun x => [x.low, x.high, next]
      (ways ++ way.getD [], r)) ([], r)
    state forwardSlots ways (rangeWeight * groups.length) r

/-- The states that read a sequence from its last byte on, and then go on to a state. -/
def backward : Nat → ByteSequence → Recall → Recall
  | _, [], r => r
  | next, x :: s, r =>
    let (n, r) := state backwardSlots [next, x.low, x.high] 0 r
    backward n s r

end Recall

/-- The states for a set, forward. -/
def Bulk.forwardSet (s : CharSet) (b : Bulk) : Bulk :=
  if s.isAscii then b.add 2 (rangeWeight * s.ranges.length)
  else (Recall.forward b.states 4 (sequencesOf s) ⟨b.add 1 0, {}⟩).2.bulk

/-- The states for a set, backward: there is a way for each sequence. -/
def Bulk.backwardSet (s : CharSet) (b : Bulk) : Bulk :=
  if s.isAscii then b.add 2 (rangeWeight * s.ranges.length)
  else
    let ss := sequencesOf s
    let start : Recall := ⟨b.add 2 (wayWeight * ss.length), {}⟩
    (ss.foldl (fun r t => Recall.backward (b.states + 1) t r) start).bulk

/-! ## Alternatives of texts -/

/-- The states of a tree of byte strings without the one at its end; up to a number of bytes.
Strings that start with the same byte share a branch, but for two with one between them that ends
here: the order of alternatives is kept. -/
def Bulk.tree : Nat → List (List UInt8) → Bulk → Bulk
  | 0, _, b => b
  | n + 1, ws, b =>
    if ws.all List.isEmpty then b
    else
      -- strings that end here before any other are one
      let ws := if ws.head? = some [] then [] :: ws.dropWhile List.isEmpty else ws
      let runs := ws.splitOnP List.isEmpty
      let long := runs.filter fun run => !run.isEmpty
      let b := long.foldl (fun b run =>
        let firsts := (run.filterMap List.head?).eraseDups
        let b := firsts.foldl (fun b c =>
          Bulk.tree n ((run.filter fun w => w.head? == some c).map List.tail) b) b
        b.add 1 (if firsts.length = 1 then 0 else rangeWeight * firsts.length)) b
      b.add 1 (wayWeight * (long.length + (runs.length - 1)))

/-! ## Expressions -/

/-- Which way an automaton reads a text. -/
inductive Direction where
  | forward
  | backward
  deriving DecidableEq, Repr

namespace Direction

/-- The states for a set. -/
def set : Direction → CharSet → Bulk → Bulk
  | forward => Bulk.forwardSet
  | backward => Bulk.backwardSet

/-- The states for what is in a group, `f`, with those that remember where the group starts and
ends: only the automaton that reads forward has them. -/
def group (f : Bulk → Bulk) : Direction → Bulk → Bulk
  | forward, b => (f (b.add 1 0)).add 1 0
  | backward, b => f b

/-- The states for texts, one of which is read. -/
def texts (d : Direction) (ts : List Text) (b : Bulk) : Bulk :=
  let ws := ts.map fun t => if d = backward then (bytesOf t).reverse else bytesOf t
  Bulk.tree ((ws.map List.length).foldl max 0 + 1) ws (b.add 1 0)

/-- The states for alternatives; `fs` are those for the branches `es`.  From the second one on, a
state has the ways to the branches, and one is behind them. -/
def choice (d : Direction) (es : List Expr) : List (Bulk → Bulk) → Bulk → Bulk
  | [], b => b
  | [f], b => f b
  | f :: g :: fs, b =>
    match textsOf? es with
    | some ts => d.texts ts b
    | none => fs.foldl (fun b h => (h b).add 0 wayWeight) ((g (f b)).add 2 (2 * wayWeight))

end Direction

/-- The states of `f`, as often as bounds allow. -/
def Bulk.repeated (least : Nat) (most : Option Nat) (canBeEmpty : Bool) (f : Bulk → Bulk)
    (b : Bulk) : Bulk :=
  let needed := if least = 0 then b.add 1 0 else b.copies f least
  match most with
  | none =>
    if least = 0 then if canBeEmpty then (f b).fork.fork.add 1 0 else f b.fork
    else needed.fork
  | some n =>
    if least = n then needed
    else if least = 0 ∧ n = 1 then (f b.fork).add 1 0
    else Bulk.copies (fun b => f b.fork) (n - least) (needed.add 1 0)

/-- The states for each branch of an expression. -/
def Expr.branchStates (d : Direction) : Expr → List (Bulk → Bulk)
  | .empty => [fun b => b.add 1 0]
  | .text t => [fun b => b.add (Text.size t) 0]
  | .oneOf _ s => [d.set s]
  | .anchor _ => [fun b => b.add 1 0]
  | .group _ _ e => [d.group (d.choice e.branches (e.branchStates d))]
  | .times least most _ e =>
    [Bulk.repeated least most (e.minSize.all (· == 0)) (d.choice e.branches (e.branchStates d))]
  | .seq e f =>
    let first := d.choice e.branches (e.branchStates d)
    let second := d.choice f.branches (f.branchStates d)
    [match d with
      | .forward => fun b => second (first b)
      | .backward => fun b => first (second b)]
  | .alt e f => e.branchStates d ++ f.branchStates d

/-- Whether an expression matches at the start of a text only. -/
def Expr.startsText : Expr → Bool
  | .anchor .textStart => true
  | .group _ _ e => e.startsText
  | .times least _ _ e => decide (0 < least) && e.startsText
  | .seq a b => a.startsText || (decide (a.maxSize = some 0) && b.startsText)
  | .alt a b => a.startsText && b.startsText
  | _ => false

/-- Whether an expression matches at the end of a text only. -/
def Expr.endsText : Expr → Bool
  | .anchor .textEnd => true
  | .group _ _ e => e.endsText
  | .times least _ _ e => decide (0 < least) && e.endsText
  | .seq a b => b.endsText || (decide (b.maxSize = some 0) && a.endsText)
  | .alt a b => a.endsText && b.endsText
  | _ => false

/-- An automaton for an expression, with the state that accepts.  Where a match may start anywhere,
the automaton first skips bytes. -/
def Expr.bulk (d : Direction) (e : Expr) : Bulk :=
  let bound := match d with
    | .forward => e.startsText
    | .backward => e.endsText
  let skip : Bulk :=
    if bound then Bulk.add ⟨0, 0⟩ 1 0 else (Bulk.fork ⟨0, 0⟩).add 2 rangeWeight
  (d.group (d.choice e.branches (e.branchStates d)) skip).add 1 0

/-- Whether an automaton for an expression would be too large. -/
def Expr.isTooLarge (e : Expr) : Bool :=
  ((e.bulk .forward).isTooLarge || (e.bulk .backward).isTooLarge) && !e.isTexts

end Regex
end TextScan
