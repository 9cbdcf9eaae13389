/-
# The code of an expression

The code of an expression does what the expression runs, from its first address to the address
behind it (`does_code`).  The bounds of repetitions have to be in order: code with bounds that are
not would read as often as the lower one says.

A program of an expression accepts in one place only, behind its code, so a thread gets to an
accepting address exactly along a run of the expression (`accepts_iff_runs`).
-/

import TextScan.Proofs.Regex.Layout

namespace TextScan
namespace Regex

theorem mem_next_choose {greedy : Bool} {a b : Nat} {t u : Thread} :
    u ∈ (Inst.choose greedy a b).next t ↔ u = ⟨a, t.spot, t.marks⟩ ∨ u = ⟨b, t.spot, t.marks⟩ := by
  cases greedy
  · simp [Inst.choose, Inst.next, or_comm]
  · simp [Inst.choose, Inst.next]

theorem mem_next_char {c : Char} {a : Nat} {x : Trail} {u : Thread} :
    u ∈ (Inst.char c).next (threadAt a x) ↔
      ∃ y, (∃ r, x.1.rest = c :: r ∧ y = (x.1.past c r, x.2)) ∧ u = threadAt (a + 1) y := by
  unfold Inst.next threadAt
  cases hrest : x.1.rest with
  | nil => simp
  | cons d r =>
    by_cases hc : c = d
    · subst hc
      simp
    · simp [hc, Ne.symm hc]

theorem mem_next_oneOf {bytes : Bool} {s : CharSet} {a : Nat} {x : Trail} {u : Thread} :
    u ∈ (Inst.oneOf s).next (threadAt a x) ↔
      ∃ y, (Expr.oneOf bytes s).Runs x y ∧ u = threadAt (a + 1) y := by
  unfold Inst.next threadAt Expr.Runs
  cases hrest : x.1.rest with
  | nil => simp
  | cons d r =>
    by_cases hd : s.contains d = true
    · simp only [hd, if_true, List.mem_singleton, List.cons.injEq]
      constructor
      · rintro rfl
        exact ⟨_, ⟨d, r, ⟨rfl, rfl⟩, hd, rfl⟩, rfl⟩
      · rintro ⟨_, ⟨c, r, ⟨rfl, rfl⟩, -, rfl⟩, rfl⟩
        rfl
    · simp only [hd, Bool.false_eq_true, if_false, List.not_mem_nil, List.cons.injEq, false_iff]
      rintro ⟨_, ⟨c, r, ⟨rfl, rfl⟩, hc, -⟩, -⟩
      exact hd hc

theorem mem_next_anchor {k : Anchor} {a : Nat} {x : Trail} {u : Thread} :
    u ∈ (Inst.anchor k).next (threadAt a x) ↔
      ∃ y, (Expr.anchor k).Runs x y ∧ u = threadAt (a + 1) y := by
  unfold Inst.next threadAt Expr.Runs
  by_cases hk : k.holds x.1 = true
  · simp [hk]
  · simp [hk]

theorem mem_next_mark {slot a : Nat} {x : Trail} {u : Thread} :
    u ∈ (Inst.mark slot).next (threadAt a x) ↔
      ∃ y, y = (x.1, (slot, x.1.offset) :: x.2) ∧ u = threadAt (a + 1) y := by
  simp [Inst.next, threadAt]

theorem mem_next_jump {target a : Nat} {x : Trail} {u : Thread} :
    u ∈ (Inst.jump target).next (threadAt a x) ↔ ∃ y, y = x ∧ u = threadAt target y := by
  simp [Inst.next, threadAt]

namespace Program

variable {p : Program} {pc : Nat}

theorem does_text {t : Text} (h : p.Has pc (t.map .char)) :
    Does p pc (pc + t.length) pc (pc + t.length) (Expr.text t).Runs := by
  induction t generalizing pc with
  | nil =>
    refine Does.nothing.congr fun x y => ⟨?_, ?_⟩
    · rintro rfl
      exact ⟨y.1.rest, rfl, rfl⟩
    · rintro ⟨r, hr, rfl⟩
      obtain rfl : x.1.rest = r := hr
      rfl
  | cons c t ih =>
    have hc : Does p pc (pc + (c :: t).length) pc (pc + 1) _ :=
      Does.single (Nat.le_refl pc) (by simp) h.head fun x u => mem_next_char
    have ht := (ih h.tail).mono (Nat.le_succ pc)
      (show pc + 1 + t.length ≤ pc + (c :: t).length by simp; omega)
    have hstop : pc + (c :: t).length = pc + 1 + t.length := by simp; omega
    rw [hstop] at hc ht ⊢
    refine (hc.then ht).congr fun x y => ⟨?_, ?_⟩
    · rintro ⟨z, ⟨r, hr, rfl⟩, r', rfl, rfl⟩
      exact ⟨r', hr, by rw [Spot.behind_cons]⟩
    · rintro ⟨r, hr, rfl⟩
      exact ⟨_, ⟨t ++ r, hr, rfl⟩, r, rfl, by rw [Spot.behind_cons]⟩

section Copies

variable {body : Nat → List Inst} {size : Nat} {r : Trail → Trail → Prop}

/-- Code does a relation wherever it is laid out. -/
def DoesAnywhere (p : Program) (body : Nat → List Inst) (size : Nat) (r : Trail → Trail → Prop) :
    Prop :=
  ∀ {pc}, p.Has pc (body pc) → Does p pc (pc + size) pc (pc + size) r

theorem does_copies (hsize : ∀ pc, (body pc).length = size) (hbody : p.DoesAnywhere body size r)
    {n : Nat} (h : p.Has pc (copies body n pc)) :
    Does p pc (pc + n * size) pc (pc + n * size) (Repeats r n) := by
  induction n generalizing pc with
  | zero =>
    rw [Nat.zero_mul]
    exact Does.nothing
  | succ n ih =>
    rw [copies, hsize] at h
    have hfirst := hbody h.left
    have hrest := h.right
    rw [hsize] at hrest
    have hstop : pc + (n + 1) * size = pc + size + n * size := by rw [Nat.succ_mul]; omega
    rw [hstop]
    exact (hfirst.mono (Nat.le_refl _) (by omega)).then ((ih hrest).mono (by omega) (Nat.le_refl _))

theorem does_optionalCopies (hsize : ∀ pc, (body pc).length = size)
    (hbody : p.DoesAnywhere body size r) {greedy : Bool} {n stop : Nat}
    (hstop : stop = pc + n * (size + 1)) (h : p.Has pc (optionalCopies greedy body stop n pc)) :
    Does p pc stop pc stop (fun x y => ∃ k, k ≤ n ∧ Repeats r k x y) := by
  induction n generalizing pc with
  | zero =>
    obtain rfl : stop = pc := by simpa using hstop
    refine Does.nothing.congr fun x y => ⟨fun hxy => ⟨0, Nat.le_refl 0, hxy⟩, ?_⟩
    rintro ⟨k, hk, hr⟩
    obtain rfl : k = 0 := Nat.le_zero.1 hk
    exact hr
  | succ n ih =>
    rw [optionalCopies, hsize] at h
    have hlen : stop = pc + 1 + size + n * (size + 1) := by rw [hstop, Nat.succ_mul]; omega
    have hfirst := hbody h.tail.left
    have hrest := h.tail.right
    rw [hsize] at hrest
    have hmore := (hfirst.mono (Nat.le_succ pc) (show _ ≤ stop by omega)).then
      ((ih hlen hrest).mono (show pc ≤ _ by omega) (Nat.le_refl stop))
    refine (Does.either (Nat.le_refl pc) (by omega) h.head (fun x u => mem_next_choose) hmore
      Does.nothing).congr fun x y => ⟨?_, ?_⟩
    · rintro (⟨z, hz, k, hk, hr⟩ | hxy)
      · exact ⟨k + 1, by omega, z, hz, hr⟩
      · exact ⟨0, Nat.zero_le _, hxy⟩
    · rintro ⟨k, hk, hr⟩
      cases k with
      | zero => exact Or.inr hr
      | succ k =>
        obtain ⟨z, hz, hr⟩ := hr
        exact Or.inl ⟨z, hz, k, by omega, hr⟩

theorem does_plus (hsize : ∀ pc, (body pc).length = size) (hbody : p.DoesAnywhere body size r)
    {greedy : Bool} (h : p.Has pc (plus greedy body pc)) :
    Does p pc (pc + size + 1) pc (pc + size + 1)
      (fun x y => ∃ z, r x z ∧ ∃ k, Repeats r k z y) := by
  rw [plus, hsize] at h
  have hfirst := (hbody h.left).mono (Nat.le_refl pc) (Nat.le_succ _)
  have hlast := h.right.head
  rw [hsize] at hlast
  exact hfirst.then (Does.loop (by omega) (by omega) hlast (fun x u => mem_next_choose) hfirst)

theorem does_star (hsize : ∀ pc, (body pc).length = size) (hbody : p.DoesAnywhere body size r)
    {greedy canBeEmpty : Bool} (h : p.Has pc (star greedy canBeEmpty body pc)) :
    Does p pc (pc + size + 2) pc (pc + size + 2) (fun x y => ∃ k, Repeats r k x y) := by
  rw [star, hsize] at h
  have hfirst := (hbody h.tail.left).mono (Nat.le_succ pc)
    (show pc + 1 + size ≤ pc + size + 2 by omega)
  have hlast := h.tail.right.head
  rw [hsize] at hlast
  cases canBeEmpty with
  | false =>
    -- The jump behind the body leads back to the fork before it.
    have hback : Does p pc (pc + size + 2) (pc + 1 + size) pc (fun x y => y = x) :=
      Does.single (by omega) (by omega) hlast fun x u => mem_next_jump
    refine Does.loop (Nat.le_refl pc) (by omega) h.head (fun x u => mem_next_choose)
      ((hfirst.then hback).congr fun x y => ⟨?_, fun hr => ⟨y, hr, rfl⟩⟩)
    rintro ⟨z, hz, rfl⟩
    exact hz
  | true =>
    -- The fork behind the body is the head of the loop; the one before it may leave it out.
    have hloop := Does.loop (by omega) (by omega) hlast (fun x u => mem_next_choose) hfirst
    refine (Does.either (Nat.le_refl pc) (by omega) h.head (fun x u => mem_next_choose)
      (hfirst.then hloop) Does.nothing).congr fun x y => ⟨?_, ?_⟩
    · rintro (⟨z, hz, k, hk⟩ | hxy)
      · exact ⟨k + 1, z, hz, hk⟩
      · exact ⟨0, hxy⟩
    · rintro ⟨k, hk⟩
      cases k with
      | zero => exact Or.inr hk
      | succ k =>
        obtain ⟨z, hz, hk⟩ := hk
        exact Or.inl ⟨z, hz, k, hk⟩

theorem does_repeatedCode (hsize : ∀ pc, (body pc).length = size)
    (hbody : p.DoesAnywhere body size r) {least : Nat} {most : Option Nat} {greedy canBeEmpty : Bool}
    (hbounds : ∀ m, most = some m → least ≤ m)
    (h : p.Has pc (repeatedCode least most greedy canBeEmpty size body pc)) :
    Does p pc (pc + repeatedSize least most size) pc (pc + repeatedSize least most size)
      (fun x y => ∃ n, Within least most n ∧ Repeats r n x y) := by
  unfold repeatedCode at h
  unfold repeatedSize
  split at h
  · rename_i least most
    refine (does_star hsize hbody h).congr fun x y => ⟨?_, ?_⟩
    · rintro ⟨k, hk⟩
      exact ⟨k, ⟨Nat.zero_le k, by simp⟩, hk⟩
    · rintro ⟨k, -, hk⟩
      exact ⟨k, hk⟩
  · rename_i least most n
    have hcopies := does_copies hsize hbody h.left
    have hplus := h.right
    rw [length_copies hsize] at hplus
    have hplus := does_plus hsize hbody hplus
    rw [show pc + (n * size + (size + 1)) = pc + n * size + size + 1 by omega]
    refine ((hcopies.mono (Nat.le_refl _) (by omega)).then
      (hplus.mono (by omega) (Nat.le_refl _))).congr fun x y => ⟨?_, ?_⟩
    · rintro ⟨u, hu, z, hz, k, hk⟩
      exact ⟨n + (k + 1), ⟨by omega, by simp⟩, hu.append ⟨z, hz, hk⟩⟩
    · rintro ⟨m, ⟨hm, -⟩, hr⟩
      obtain ⟨k, rfl⟩ : ∃ k, m = n + (k + 1) := ⟨m - (n + 1), by omega⟩
      obtain ⟨u, hu, z, hz, hk⟩ := hr.split
      exact ⟨u, hu, z, hz, k, hk⟩
  · rename_i n
    have hmn : least ≤ n := hbounds n rfl
    have hcopies := does_copies hsize hbody h.left
    have hoptional := h.right
    rw [length_copies hsize] at hoptional
    have hoptional := does_optionalCopies hsize hbody rfl hoptional
    rw [← Nat.add_assoc]
    refine ((hcopies.mono (Nat.le_refl _) (Nat.le_add_right _ _)).then
      (hoptional.mono (Nat.le_add_right _ _) (Nat.le_refl _))).congr fun x y => ⟨?_, ?_⟩
    · rintro ⟨u, hu, k, hk, hr⟩
      refine ⟨least + k, ⟨Nat.le_add_right _ _, fun m hm => ?_⟩, hu.append hr⟩
      obtain rfl := Option.some.inj hm
      omega
    · rintro ⟨k, ⟨hk, hk'⟩, hr⟩
      have hkn := hk' n rfl
      obtain ⟨j, rfl⟩ : ∃ j, k = least + j := ⟨k - least, by omega⟩
      obtain ⟨u, hu, hr⟩ := hr.split
      exact ⟨u, hu, j, by omega, hr⟩

end Copies

/-- **The code of an expression does what the expression runs.** -/
theorem does_code {e : Expr} (he : e.Ordered) {pc : Nat} (h : p.Has pc (code e pc)) :
    Does p pc (pc + e.codeSize) pc (pc + e.codeSize) e.Runs := by
  induction e generalizing pc with
  | empty => exact Does.nothing
  | text t => exact does_text h
  | oneOf _ s =>
    exact Does.single (Nat.le_refl pc) (Nat.lt_succ_self pc) h.head fun x u => mem_next_oneOf
  | anchor a =>
    exact Does.single (Nat.le_refl pc) (Nat.lt_succ_self pc) h.head fun x u => mem_next_anchor
  | group i name e ih =>
    have hlast := h.tail.right.head
    rw [length_code] at hlast
    have hstop : pc + (Expr.group i name e).codeSize = pc + 1 + e.codeSize + 1 := by
      rw [Expr.codeSize]; omega
    rw [hstop]
    have hopen : Does p pc (pc + 1 + e.codeSize + 1) pc (pc + 1) _ :=
      Does.single (Nat.le_refl pc) (by omega) h.head fun x u => mem_next_mark
    have hbody := (ih he h.tail.left).mono (show pc ≤ pc + 1 by omega)
      (show _ ≤ pc + 1 + e.codeSize + 1 by omega)
    have hclose : Does p pc (pc + 1 + e.codeSize + 1) (pc + 1 + e.codeSize) _ _ :=
      Does.single (by omega) (by omega) hlast fun x u => mem_next_mark
    refine ((hopen.then hbody).then hclose).congr fun x y => ⟨?_, ?_⟩
    · rintro ⟨z, ⟨w, rfl, hz⟩, rfl⟩
      exact ⟨z, hz, rfl⟩
    · rintro ⟨z, hz, rfl⟩
      exact ⟨z, ⟨_, rfl, hz⟩, rfl⟩
  | times least most greedy e ih =>
    exact does_repeatedCode (length_code e) (fun h => ih he.2 h) he.1 h
  | seq a b iha ihb =>
    have hb := h.right
    rw [length_code] at hb
    have hfirst := iha he.1 h.left
    have hsecond := ihb he.2 hb
    rw [show pc + (Expr.seq a b).codeSize = pc + a.codeSize + b.codeSize by
      rw [Expr.codeSize, Nat.add_assoc]]
    exact (hfirst.mono (Nat.le_refl _) (Nat.le_add_right _ _)).then
      (hsecond.mono (Nat.le_add_right _ _) (Nat.le_refl _))
  | alt a b iha ihb =>
    rw [code] at h
    simp only [length_code] at h
    have hjump := h.tail.right.head
    have hb := h.tail.right.tail
    rw [length_code] at hjump hb
    have hstop : pc + (Expr.alt a b).codeSize = pc + a.codeSize + 2 + b.codeSize := by
      rw [Expr.codeSize]; omega
    rw [hstop]
    have hfirst := (iha he.1 h.tail.left).mono (show pc ≤ pc + 1 by omega)
      (show _ ≤ pc + a.codeSize + 2 + b.codeSize by omega)
    have hover : Does p pc (pc + a.codeSize + 2 + b.codeSize) (pc + 1 + a.codeSize)
        (pc + a.codeSize + 2 + b.codeSize) (fun x y => y = x) :=
      Does.single (by omega) (by omega) hjump fun x u => mem_next_jump
    rw [show pc + 1 + a.codeSize + 1 = pc + a.codeSize + 2 by omega] at hb
    have hsecond := (ihb he.2 hb).mono (show pc ≤ _ by omega) (Nat.le_refl _)
    refine (Does.either (Nat.le_refl pc) (by omega) h.head (fun x u => ?_)
      ((hfirst.then hover).congr fun x y => ⟨?_, fun hr => ⟨y, hr, rfl⟩⟩) hsecond)
    · simp [Inst.next, threadAt]
    · rintro ⟨z, hz, rfl⟩
      exact hz

end Program

/-! ## Accepting -/

theorem accept_not_mem_copies {body : Nat → List Inst} (h : ∀ pc, Inst.accept ∉ body pc) (n pc : Nat) :
    Inst.accept ∉ copies body n pc := by
  induction n generalizing pc with
  | zero => simp [copies]
  | succ n ih => simp [copies, h, ih]

theorem choose_ne_accept (greedy : Bool) (a b : Nat) : Inst.accept ≠ Inst.choose greedy a b := by
  cases greedy <;> simp [Inst.choose]

theorem accept_not_mem_optionalCopies {body : Nat → List Inst} (h : ∀ pc, Inst.accept ∉ body pc)
    (greedy : Bool) (stop n pc : Nat) : Inst.accept ∉ optionalCopies greedy body stop n pc := by
  induction n generalizing pc with
  | zero => simp [optionalCopies]
  | succ n ih => simp [optionalCopies, h, ih, choose_ne_accept]

/-- Code does not accept; only the instruction behind it does. -/
theorem accept_not_mem_code (e : Expr) (pc : Nat) : Inst.accept ∉ code e pc := by
  induction e generalizing pc with
  | empty => simp [code]
  | text t => simp [code]
  | oneOf _ s => simp [code]
  | anchor a => simp [code]
  | group i _ e ih => simp [code, ih]
  | times least most greedy e ih =>
    unfold code repeatedCode
    split
    · cases hb : e.minSize.all (· == 0) <;> simp [star, ih, choose_ne_accept]
    · simp [plus, ih, choose_ne_accept, accept_not_mem_copies ih]
    · simp [accept_not_mem_copies ih, accept_not_mem_optionalCopies ih]
  | seq a b iha ihb => simp [code, iha, ihb]
  | alt a b iha ihb => simp [code, iha, ihb]

namespace Program

/-- The address at which the program of an expression accepts. -/
theorem getElem?_ofExpr_eq_accept {e : Expr} {a : Nat} :
    (ofExpr e)[a]? = some .accept ↔ a = e.codeSize := by
  rw [ofExpr, List.getElem?_toArray, List.getElem?_append, length_code]
  constructor
  · intro h
    split at h
    · exact absurd (List.mem_of_getElem? h) (accept_not_mem_code e 0)
    · obtain ⟨ha, -⟩ := List.getElem?_eq_some_iff.1 h
      simp only [List.length_singleton] at ha
      omega
  · rintro rfl
    simp

/-- **A program accepts behind the runs of its expression.** -/
theorem accepts_iff_runs {e : Expr} (he : e.Ordered) {x : Trail} {t : Thread} :
    ((∃ n, Repeats (Step (ofExpr e)) n (threadAt 0 x) t) ∧ (ofExpr e)[t.address]? = some .accept) ↔
      ∃ y, e.Runs x y ∧ t = threadAt e.codeSize y := by
  have hhas : (ofExpr e).Has 0 (code e 0) := fun k hk => by
    rw [ofExpr, List.getElem?_toArray, Nat.zero_add, List.getElem?_append_left hk]
  have hdoes := does_code he hhas
  rw [Nat.zero_add] at hdoes
  rw [getElem?_ofExpr_eq_accept]
  constructor
  · rintro ⟨⟨n, hp⟩, ha⟩
    obtain ⟨m, y, -, hr, hp⟩ := hdoes.leave hp (by omega)
    refine ⟨y, hr, ?_⟩
    cases m with
    | zero => exact hp
    | succ m =>
      -- An accepting thread does not go on.
      obtain ⟨u, ⟨i, hi, hu⟩, -⟩ := hp
      rw [address_threadAt, getElem?_ofExpr_eq_accept.2 rfl] at hi
      obtain rfl := Option.some.inj hi
      exact absurd hu List.not_mem_nil
  · rintro ⟨y, hr, rfl⟩
    exact ⟨hdoes.enter hr, rfl⟩

end Program
end Regex
end TextScan
