/-
# Code at another address

Code that is laid out further on differs in the targets of its jumps and forks alone, and code whose
groups have other numbers in the slots that it fills alone.  `Inst.move d k` does both: targets are
`d` addresses further on and slots `k` further on.  A moved instruction leads a moved thread to where
the instruction leads the thread (`Inst.next_move`), and the code of an expression with other numbers
at another address is its moved code (`code_move`).

The instructions of an expression lead into its code or right behind it (`stays_of_mem_code`).
-/

import TextScan.Regex.Search

namespace TextScan
namespace Regex

/-- An instruction with its targets `d` addresses and its slot `k` further on. -/
def Inst.move (d k : Nat) : Inst → Inst
  | .char c => .char c
  | .oneOf s => .oneOf s
  | .anchor a => .anchor a
  | .mark slot => .mark (slot + k)
  | .jump target => .jump (target + d)
  | .fork first second => .fork (first + d) (second + d)
  | .accept => .accept

/-- Marks with their slots further on. -/
def Marks.move (k : Nat) (ms : Marks) : Marks := ms.map fun m => (m.1 + k, m.2)

/-- A thread at an address `d` further on, that has filled slots `k` further on. -/
def Thread.move (d k : Nat) (t : Thread) : Thread := ⟨t.address + d, t.spot, t.marks.move k⟩

/-- An expression with the numbers of its groups `k` further on. -/
def Expr.renumber (k : Nat) : Expr → Expr
  | .empty => .empty
  | .text t => .text t
  | .oneOf bytes s => .oneOf bytes s
  | .anchor a => .anchor a
  | .group i name e => .group (i + k) name (e.renumber k)
  | .times least most greedy e => .times least most greedy (e.renumber k)
  | .seq a b => .seq (a.renumber k) (b.renumber k)
  | .alt a b => .alt (a.renumber k) (b.renumber k)

/-- A moved instruction leads a moved thread where the instruction leads the thread. -/
theorem Inst.next_move (i : Inst) (d k : Nat) (t : Thread) :
    (i.move d k).next (t.move d k) = (i.next t).map (Thread.move d k) := by
  have haddress : (t.move d k).address + 1 = t.address + 1 + d := Nat.add_right_comm ..
  have hspot : (t.move d k).spot = t.spot := rfl
  cases i with
  | char c =>
    simp only [move, next, hspot, haddress]
    cases t.spot.rest with
    | nil => rfl
    | cons e r => by_cases he : c = e <;> simp [he, Thread.move]
  | oneOf s =>
    simp only [move, next, hspot, haddress]
    cases t.spot.rest with
    | nil => rfl
    | cons e r => by_cases he : s.contains e = true <;> simp [he, Thread.move]
  | anchor a =>
    simp only [move, next, hspot, haddress]
    by_cases ha : a.holds t.spot = true <;> simp [ha, Thread.move]
  | mark slot =>
    simp only [move, next, hspot, haddress]
    rfl
  | jump target => rfl
  | fork first second => rfl
  | accept => rfl

namespace Expr

@[simp] theorem renumber_zero (e : Expr) : e.renumber 0 = e := by
  induction e with
  | group i name e ih => rw [renumber, ih, Nat.add_zero]
  | times least most greedy e ih => rw [renumber, ih]
  | seq a b iha ihb => rw [renumber, iha, ihb]
  | alt a b iha ihb => rw [renumber, iha, ihb]
  | _ => rfl

@[simp] theorem codeSize_renumber (e : Expr) (k : Nat) : (e.renumber k).codeSize = e.codeSize := by
  induction e with
  | group i name e ih => simp only [renumber, codeSize, ih]
  | times least most greedy e ih => simp only [renumber, codeSize, ih]
  | seq a b iha ihb => simp only [renumber, codeSize, iha, ihb]
  | alt a b iha ihb => simp only [renumber, codeSize, iha, ihb]
  | _ => rfl

@[simp] theorem minSize_renumber (e : Expr) (k : Nat) : (e.renumber k).minSize = e.minSize := by
  induction e with
  | group i name e ih => simp only [renumber, minSize, ih]
  | times least most greedy e ih => simp only [renumber, minSize, ih]
  | seq a b iha ihb => simp only [renumber, minSize, iha, ihb]
  | alt a b iha ihb => simp only [renumber, minSize, iha, ihb]
  | _ => rfl

end Expr

/-! ## Repeated code -/

theorem choose_move (greedy : Bool) (a b d k : Nat) :
    Inst.choose greedy (a + d) (b + d) = (Inst.choose greedy a b).move d k := by
  cases greedy <;> rfl

section Repeated

variable {body body' : Nat → List Inst} {d k : Nat}
  (h : ∀ pc, body' (pc + d) = (body pc).map (Inst.move d k))

include h

theorem copies_move (n pc : Nat) :
    copies body' n (pc + d) = (copies body n pc).map (Inst.move d k) := by
  induction n generalizing pc with
  | zero => rfl
  | succ n ih =>
    simp only [copies, h, List.length_map, List.map_append, ← ih, Nat.add_right_comm]

theorem optionalCopies_move (greedy : Bool) (stop n pc : Nat) :
    optionalCopies greedy body' (stop + d) n (pc + d) =
      (optionalCopies greedy body stop n pc).map (Inst.move d k) := by
  induction n generalizing pc with
  | zero => rfl
  | succ n ih =>
    have hbody : body' (pc + d + 1) = (body (pc + 1)).map (Inst.move d k) := by
      rw [Nat.add_right_comm, h]
    rw [optionalCopies, optionalCopies]
    simp only [hbody, List.length_map, List.map_cons, List.map_append, ← ih]
    rw [Nat.add_right_comm pc d 1, choose_move greedy _ _ d k, Nat.add_right_comm (pc + 1) d]

theorem star_move (greedy canBeEmpty : Bool) (pc : Nat) :
    star greedy canBeEmpty body' (pc + d) = (star greedy canBeEmpty body pc).map (Inst.move d k) := by
  have hbody : body' (pc + d + 1) = (body (pc + 1)).map (Inst.move d k) := by
    rw [Nat.add_right_comm, h]
  have hstop : pc + d + (body (pc + 1)).length + 2 = pc + (body (pc + 1)).length + 2 + d := by omega
  rw [star, star]
  simp only [hbody, List.length_map, List.map_cons, List.map_append, List.map_nil, hstop]
  rw [Nat.add_right_comm pc d 1, choose_move greedy _ _ d k]
  cases canBeEmpty <;> rfl

theorem plus_move (greedy : Bool) (pc : Nat) :
    plus greedy body' (pc + d) = (plus greedy body pc).map (Inst.move d k) := by
  have hstop : pc + d + (body pc).length + 1 = pc + (body pc).length + 1 + d := by omega
  rw [plus, plus]
  simp only [h, List.length_map, List.map_append, List.map_cons, List.map_nil, hstop]
  rw [choose_move greedy _ _ d k]

theorem repeatedCode_move (least : Nat) (most : Option Nat) (greedy canBeEmpty : Bool)
    (size pc : Nat) :
    repeatedCode least most greedy canBeEmpty size body' (pc + d) =
      (repeatedCode least most greedy canBeEmpty size body pc).map (Inst.move d k) := by
  unfold repeatedCode
  split
  · exact star_move h greedy canBeEmpty pc
  · rw [copies_move h, Nat.add_right_comm, plus_move h, List.map_append]
  · dsimp only
    rw [Nat.add_right_comm pc d (least * size), Nat.add_right_comm (pc + least * size) d,
      copies_move h, optionalCopies_move h, List.map_append]

end Repeated

/-- **The code of an expression with other numbers, at another address, is its moved code.** -/
theorem code_move (e : Expr) (d k pc : Nat) :
    code (e.renumber k) (pc + d) = (code e pc).map (Inst.move d (2 * k)) := by
  induction e generalizing pc with
  | empty => rfl
  | text t => simp [code, Expr.renumber, Inst.move, Function.comp_def]
  | oneOf _ s => rfl
  | anchor a => rfl
  | group i name e ih =>
    simp only [code, Expr.renumber, Nat.add_right_comm pc d 1, ih, List.map_cons, List.map_append,
      List.map_nil, Inst.move, Nat.mul_add, Nat.add_right_comm (2 * i) (2 * k) 1]
  | times least most greedy e ih =>
    rw [Expr.renumber, code, code, Expr.minSize_renumber, Expr.codeSize_renumber]
    exact repeatedCode_move ih least most greedy _ _ pc
  | seq a b iha ihb =>
    simp only [code, Expr.renumber, iha, List.length_map, List.map_append,
      Nat.add_right_comm pc d (code a pc).length, ihb]
  | alt a b iha ihb =>
    have hsecond : pc + d + (code a (pc + 1)).length + 2 =
        pc + (code a (pc + 1)).length + 2 + d := by omega
    simp only [code, Expr.renumber, Nat.add_right_comm pc d 1, iha, List.length_map, hsecond, ihb,
      List.map_cons, List.map_append, Inst.move,
      Nat.add_right_comm _ d (code b (pc + (code a (pc + 1)).length + 2)).length]

/-! ## Where code leads -/

/-- An instruction leads to addresses of a stretch, or on to the next one. -/
def Inst.Stays (lo hi : Nat) : Inst → Prop
  | .jump a => lo ≤ a ∧ a ≤ hi
  | .fork a b => (lo ≤ a ∧ a ≤ hi) ∧ lo ≤ b ∧ b ≤ hi
  | _ => True

namespace Inst

variable {lo hi lo' hi' : Nat} {i : Inst}

theorem Stays.mono (h : i.Stays lo hi) (hlo : lo' ≤ lo) (hhi : hi ≤ hi') : i.Stays lo' hi' := by
  cases i with
  | jump a => exact ⟨Nat.le_trans hlo h.1, Nat.le_trans h.2 hhi⟩
  | fork a b =>
    exact ⟨⟨Nat.le_trans hlo h.1.1, Nat.le_trans h.1.2 hhi⟩, Nat.le_trans hlo h.2.1,
      Nat.le_trans h.2.2 hhi⟩
  | _ => trivial

theorem stays_choose {greedy : Bool} {a b : Nat} (ha : lo ≤ a ∧ a ≤ hi) (hb : lo ≤ b ∧ b ≤ hi) :
    (choose greedy a b).Stays lo hi := by
  cases greedy
  · exact ⟨hb, ha⟩
  · exact ⟨ha, hb⟩

/-- A thread in a stretch goes on in it or right behind it. -/
theorem Stays.next_address {t u : Thread} (h : i.Stays lo hi) (ht : lo ≤ t.address ∧ t.address < hi)
    (hu : u ∈ i.next t) : lo ≤ u.address ∧ u.address ≤ hi := by
  have hstep : ∀ {s : Spot} {ms : Marks}, u = ⟨t.address + 1, s, ms⟩ →
      lo ≤ u.address ∧ u.address ≤ hi := by
    rintro s ms rfl
    exact ⟨Nat.le_succ_of_le ht.1, ht.2⟩
  cases i with
  | char c =>
    unfold next at hu
    dsimp only at hu
    split at hu
    · exact absurd hu List.not_mem_nil
    · split at hu
      · exact hstep (List.mem_singleton.1 hu)
      · exact absurd hu List.not_mem_nil
  | oneOf s =>
    unfold next at hu
    dsimp only at hu
    split at hu
    · exact absurd hu List.not_mem_nil
    · split at hu
      · exact hstep (List.mem_singleton.1 hu)
      · exact absurd hu List.not_mem_nil
  | anchor a =>
    unfold next at hu
    dsimp only at hu
    split at hu
    · exact hstep (List.mem_singleton.1 hu)
    · exact absurd hu List.not_mem_nil
  | mark slot => exact hstep (List.mem_singleton.1 hu)
  | jump a =>
    obtain rfl := List.mem_singleton.1 hu
    exact h
  | fork a b =>
    rcases List.mem_cons.1 hu with rfl | hu
    · exact h.1
    · obtain rfl := List.mem_singleton.1 hu
      exact h.2
  | accept => exact absurd hu List.not_mem_nil

end Inst

section Repeated

variable {body : Nat → List Inst} {size : Nat} (hsize : ∀ pc, (body pc).length = size)
  (h : ∀ pc, ∀ i ∈ body pc, i.Stays pc (pc + size))

include hsize h

theorem stays_of_mem_copies {n pc : Nat} {i : Inst} (hi : i ∈ copies body n pc) :
    i.Stays pc (pc + n * size) := by
  induction n generalizing pc with
  | zero => exact absurd hi List.not_mem_nil
  | succ n ih =>
    simp only [copies, hsize] at hi
    rw [Nat.succ_mul]
    rcases List.mem_append.1 hi with hi | hi
    · exact (h pc i hi).mono (Nat.le_refl _) (by omega)
    · exact (ih hi).mono (by omega) (by omega)

theorem stays_of_mem_optionalCopies {greedy : Bool} {stop n pc : Nat} {i : Inst}
    (hstop : stop = pc + n * (size + 1)) (hi : i ∈ optionalCopies greedy body stop n pc) :
    i.Stays pc stop := by
  induction n generalizing pc with
  | zero => exact absurd hi List.not_mem_nil
  | succ n ih =>
    simp only [optionalCopies, hsize] at hi
    rw [Nat.succ_mul] at hstop
    rcases List.mem_cons.1 hi with rfl | hi
    · exact Inst.stays_choose ⟨by omega, by omega⟩ ⟨by omega, Nat.le_refl _⟩
    rcases List.mem_append.1 hi with hi | hi
    · exact (h _ i hi).mono (by omega) (by omega)
    · exact (ih (by omega) hi).mono (by omega) (Nat.le_refl _)

theorem stays_of_mem_repeatedCode {least : Nat} {most : Option Nat} {greedy canBeEmpty : Bool}
    {pc : Nat} {i : Inst} (hi : i ∈ repeatedCode least most greedy canBeEmpty size body pc) :
    i.Stays pc (pc + repeatedSize least most size) := by
  unfold repeatedCode at hi
  unfold repeatedSize
  split at hi
  · simp only [star, hsize] at hi
    rcases List.mem_cons.1 hi with rfl | hi
    · exact Inst.stays_choose ⟨by omega, by omega⟩ ⟨by omega, by omega⟩
    rcases List.mem_append.1 hi with hi | hi
    · exact (h _ i hi).mono (by omega) (by omega)
    · obtain rfl := List.mem_singleton.1 hi
      split
      · exact Inst.stays_choose ⟨by omega, by omega⟩ ⟨by omega, by omega⟩
      · exact ⟨Nat.le_refl _, by omega⟩
  · rename_i n
    rcases List.mem_append.1 hi with hi | hi
    · exact (stays_of_mem_copies hsize h hi).mono (Nat.le_refl _) (by omega)
    simp only [plus, hsize] at hi
    rcases List.mem_append.1 hi with hi | hi
    · exact (h _ i hi).mono (by omega) (by omega)
    · obtain rfl := List.mem_singleton.1 hi
      exact Inst.stays_choose ⟨by omega, by omega⟩ ⟨by omega, by omega⟩
  · rcases List.mem_append.1 hi with hi | hi
    · exact (stays_of_mem_copies hsize h hi).mono (Nat.le_refl _) (by omega)
    · exact (stays_of_mem_optionalCopies hsize h rfl hi).mono (by omega) (by omega)

end Repeated

/-- The code of an expression leads into itself or right behind. -/
theorem stays_of_mem_code (e : Expr) {pc : Nat} {i : Inst} (hi : i ∈ code e pc) :
    i.Stays pc (pc + e.codeSize) := by
  induction e generalizing pc i with
  | empty => exact absurd hi List.not_mem_nil
  | text t =>
    obtain ⟨c, -, rfl⟩ := List.mem_map.1 hi
    trivial
  | oneOf _ s =>
    obtain rfl := List.mem_singleton.1 hi
    trivial
  | anchor a =>
    obtain rfl := List.mem_singleton.1 hi
    trivial
  | group j _ e ih =>
    simp only [code] at hi
    rcases List.mem_cons.1 hi with rfl | hi
    · trivial
    rcases List.mem_append.1 hi with hi | hi
    · exact (ih hi).mono (by omega) (by simp only [Expr.codeSize]; omega)
    · obtain rfl := List.mem_singleton.1 hi
      trivial
  | times least most greedy e ih => exact stays_of_mem_repeatedCode (length_code e) (fun _ _ => ih) hi
  | seq a b iha ihb =>
    simp only [code, length_code] at hi
    rw [Expr.codeSize]
    rcases List.mem_append.1 hi with hi | hi
    · exact (iha hi).mono (Nat.le_refl _) (by omega)
    · exact (ihb hi).mono (by omega) (by omega)
  | alt a b iha ihb =>
    simp only [code, length_code] at hi
    rw [Expr.codeSize]
    rcases List.mem_cons.1 hi with rfl | hi
    · exact ⟨⟨by omega, by omega⟩, by omega, by omega⟩
    rcases List.mem_append.1 hi with hi | hi
    · exact (iha hi).mono (by omega) (by omega)
    rcases List.mem_cons.1 hi with rfl | hi
    · exact ⟨by omega, by omega⟩
    · exact (ihb hi).mono (by omega) (by omega)

end Regex
end TextScan
