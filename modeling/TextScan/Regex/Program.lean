/-
# Programs

A program is a list of instructions that reads a text one character at a time.  `code` lays out the
instructions of an expression from a given address on; every instruction but a jump or a fork goes
on at the next address, and the code of an expression ends at the address after its last
instruction.

| expression | code |
| --- | --- |
| `e?` | a fork into `e` or behind it |
| `e*`, where `e` cannot match nothing | a fork into `e` or behind it, and a jump back to the fork |
| `e*` otherwise | a fork into `e` or behind it, and the same fork again after `e` |
| `e{n,}` | `e` as often as needed, and a fork back to the last one or on |
| `e{m,n}` | `e` as often as needed, then forks into more of it or to the end |

Which of its two ways a fork prefers says whether a repetition is greedy.
-/

import TextScan.Regex.Expr

namespace TextScan
namespace Regex

/-- An instruction. -/
inductive Inst where
  /-- Reads a character. -/
  | char (c : Char)
  /-- Reads a character of a set. -/
  | oneOf (s : CharSet)
  /-- Goes on where a condition holds. -/
  | anchor (a : Anchor)
  /-- Remembers the offset in a slot. -/
  | mark (slot : Nat)
  /-- Goes on at an address. -/
  | jump (target : Nat)
  /-- Goes on at the first address or, should that fail, at the second. -/
  | fork (first second : Nat)
  /-- Ends with a match. -/
  | accept
  deriving DecidableEq, Repr

namespace Inst

/-- A fork between a body and what comes after it. -/
def choose (greedy : Bool) (body after : Nat) : Inst :=
  if greedy then .fork body after else .fork after body

end Inst

/-- Code several times, one after the other. -/
def copies (body : Nat → List Inst) : Nat → Nat → List Inst
  | 0, _ => []
  | n + 1, pc =>
    let c := body pc
    c ++ copies body n (pc + c.length)

/-- Code several times, with a fork to an address before each. -/
def optionalCopies (greedy : Bool) (body : Nat → List Inst) (stop : Nat) : Nat → Nat → List Inst
  | 0, _ => []
  | n + 1, pc =>
    let c := body (pc + 1)
    Inst.choose greedy (pc + 1) stop :: (c ++ optionalCopies greedy body stop n (pc + 1 + c.length))

/-- Code any number of times. -/
def star (greedy canBeEmpty : Bool) (body : Nat → List Inst) (pc : Nat) : List Inst :=
  let c := body (pc + 1)
  let stop := pc + c.length + 2
  Inst.choose greedy (pc + 1) stop ::
    (c ++ [if canBeEmpty then Inst.choose greedy (pc + 1) stop else .jump pc])

/-- Code once or more often. -/
def plus (greedy : Bool) (body : Nat → List Inst) (pc : Nat) : List Inst :=
  let c := body pc
  c ++ [Inst.choose greedy pc (pc + c.length + 1)]

/-- The number of instructions of code of a given size, as often as bounds allow. -/
def repeatedSize (least : Nat) (most : Option Nat) (size : Nat) : Nat :=
  match least, most with
  | 0, none => size + 2
  | n + 1, none => n * size + (size + 1)
  | m, some n => m * size + (n - m) * (size + 1)

/-- The number of instructions of an expression. -/
def Expr.codeSize : Expr → Nat
  | .empty => 0
  | .text t => t.length
  | .oneOf _ _ => 1
  | .anchor _ => 1
  | .group _ _ e => e.codeSize + 2
  | .times least most _ e => repeatedSize least most e.codeSize
  | .seq a b => a.codeSize + b.codeSize
  | .alt a b => a.codeSize + b.codeSize + 2

/-- Code of a given size as often as bounds allow.  The size says where the last copy ends. -/
def repeatedCode (least : Nat) (most : Option Nat) (greedy canBeEmpty : Bool) (size : Nat)
    (body : Nat → List Inst) (pc : Nat) : List Inst :=
  match least, most with
  | 0, none => star greedy canBeEmpty body pc
  | n + 1, none => copies body n pc ++ plus greedy body (pc + n * size)
  | m, some n =>
    let start := pc + m * size
    copies body m pc ++ optionalCopies greedy body (start + (n - m) * (size + 1)) (n - m) start

/-- The code of an expression from an address on. -/
def code : Expr → Nat → List Inst
  | .empty, _ => []
  | .text t, _ => t.map .char
  | .oneOf _ s, _ => [.oneOf s]
  | .anchor a, _ => [.anchor a]
  | .group i _ e, pc => .mark (2 * i) :: (code e (pc + 1) ++ [.mark (2 * i + 1)])
  | .times least most greedy e, pc =>
    repeatedCode least most greedy (e.minSize.all (· == 0)) e.codeSize (code e) pc
  | .seq a b, pc =>
    let c := code a pc
    c ++ code b (pc + c.length)
  | .alt a b, pc =>
    let c := code a (pc + 1)
    let second := pc + c.length + 2
    let d := code b second
    .fork (pc + 1) second :: (c ++ .jump (second + d.length) :: d)

theorem length_copies {body : Nat → List Inst} {size : Nat} (h : ∀ pc, (body pc).length = size) :
    ∀ n pc, (copies body n pc).length = n * size
  | 0, _ => by rw [copies, List.length_nil, Nat.zero_mul]
  | n + 1, pc => by
    rw [copies, List.length_append, h, length_copies h n, Nat.add_mul, Nat.one_mul, Nat.add_comm]

theorem length_optionalCopies {body : Nat → List Inst} {size : Nat}
    (h : ∀ pc, (body pc).length = size) (greedy : Bool) (stop : Nat) :
    ∀ n pc, (optionalCopies greedy body stop n pc).length = n * (size + 1)
  | 0, _ => by rw [optionalCopies, List.length_nil, Nat.zero_mul]
  | n + 1, pc => by
    rw [optionalCopies, List.length_cons, List.length_append, h,
      length_optionalCopies h greedy stop n, Nat.add_mul n 1, Nat.one_mul]
    omega

theorem length_repeatedCode {body : Nat → List Inst} {size : Nat}
    (h : ∀ pc, (body pc).length = size) (least : Nat) (most : Option Nat)
    (greedy canBeEmpty : Bool) (pc : Nat) :
    (repeatedCode least most greedy canBeEmpty size body pc).length =
      repeatedSize least most size := by
  unfold repeatedCode repeatedSize
  split
  · simp [star, h]
  · simp [plus, h, length_copies h]
  · simp [length_copies h, length_optionalCopies h]

/-- The code of an expression has its size wherever it is laid out. -/
theorem length_code (e : Expr) (pc : Nat) : (code e pc).length = e.codeSize := by
  induction e generalizing pc with
  | empty => rfl
  | text t => simp [code, Expr.codeSize]
  | oneOf _ _ => rfl
  | anchor _ => rfl
  | group _ _ e ih => simp [code, Expr.codeSize, ih]
  | times least most greedy e ih => exact length_repeatedCode ih least most greedy _ pc
  | seq a b iha ihb => simp [code, Expr.codeSize, iha, ihb]
  | alt a b iha ihb =>
    simp only [code, Expr.codeSize, List.length_cons, List.length_append, iha, ihb]
    omega

/-- The instructions of a regular expression. -/
abbrev Program := Array Inst

/-- The program of an expression. -/
def Program.ofExpr (e : Expr) : Program := (code e 0 ++ [Inst.accept]).toArray

end Regex
end TextScan
