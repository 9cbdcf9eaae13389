/-
# What an expression chooses

`Expr.Chooses e k x y` says that the code of `e`, entered with the trail `x`, is left with the trail
`y` if only the spots with the property `k` count as an end: the first way through the code to such a
spot leads there.  `Expr.Can e k s` says that there is such a way from `s`.

Both follow the expression.  A sequence chooses for its first part the way to a spot from which the
second part can go on (`chooses_seq`), and of two branches the second one is chosen only where the
first one cannot be (`chooses_alt`).  A program prefers what its expression chooses among all ends
(`prefers_ofExpr_iff`).

These laws need no induction on what is repeated: they hold because the code of a part, laid out
inside other code, is the code of the part moved (`carries_within`, `carries_last`), and because
nothing leads back into a part that was left (`Course.Parts.prefers_iff`).
-/

import TextScan.Proofs.Regex.Code
import TextScan.Proofs.Regex.Relocation
import TextScan.Proofs.Regex.Stages

namespace TextScan
namespace Regex

/-- Where code goes on.  It ends right behind itself, at the spots with a property. -/
def codeCourse (is : List Inst) (k : Spot → Prop) : Course where
  next t := (is[t.address]?).elim [] fun i => i.next t
  goal t := t.address = is.length ∧ k t.spot
  map_place_next {t u} h := by
    rw [show t.address = u.address from congrArg Prod.fst h]
    cases is[u.address]? with
    | none => rfl
    | some i => exact map_place_next i h
  goal_iff {t u} h := by
    rw [show t.address = u.address from congrArg Prod.fst h,
      show t.spot = u.spot from congrArg Prod.snd h]
  next_of_goal h := by rw [h.1, List.getElem?_eq_none (Nat.le_refl _)]; rfl

variable {is js p q : List Inst} {k K : Spot → Prop} {d m : Nat} {t u w : Thread}

theorem mem_next_codeCourse :
    u ∈ (codeCourse is k).next t ↔ ∃ i, is[t.address]? = some i ∧ u ∈ i.next t := by
  unfold codeCourse
  dsimp only
  cases is[t.address]? with
  | none => simp
  | some i => simp

theorem next_codeCourse {i : Inst} (h : is[t.address]? = some i) :
    (codeCourse is k).next t = i.next t := by
  unfold codeCourse
  dsimp only
  rw [h]
  rfl

/-! ## Moved code -/

theorem Thread.move_threadAt (a : Nat) (x : Trail) (d m : Nat) :
    (threadAt a x).move d m = threadAt (a + d) (x.1, x.2.move m) := rfl

@[simp] theorem Marks.move_zero (ms : Marks) : ms.move 0 = ms := List.map_id ms

theorem Thread.place_move_iff : (t.move d m).place = (u.move d m).place ↔ t.place = u.place := by
  simp only [Thread.place, Thread.move, Prod.mk.injEq, Nat.add_right_cancel_iff]

/-- Where moved code stands in other code, it leads a moved thread where it leads the thread. -/
theorem next_codeCourse_move (h : js[t.address + d]? = (is[t.address]?).map (Inst.move d m)) :
    (codeCourse js K).next (t.move d m) = ((codeCourse is k).next t).map (Thread.move d m) := by
  unfold codeCourse
  dsimp only
  rw [show (t.move d m).address = t.address + d from rfl, h]
  cases is[t.address]? with
  | none => rfl
  | some i => exact i.next_move d m t

namespace Expr

variable {e a b : Expr} {x y : Trail} {s : Spot}

/-- Where the code of an expression goes on, if it ends at spots with a property. -/
def course (e : Expr) (k : Spot → Prop) : Course := codeCourse (code e 0) k

/-- The first way through an expression to a spot with a property. -/
def Chooses (e : Expr) (k : Spot → Prop) (x y : Trail) : Prop :=
  (e.course k).Prefers ∅ (threadAt 0 x) (threadAt e.codeSize y)

/-- There is a way through an expression to a spot with a property. -/
def Can (e : Expr) (k : Spot → Prop) (s : Spot) : Prop := (e.course k).Reaches ∅ (threadAt 0 (s, []))

theorem can_iff : (e.course k).Reaches ∅ (threadAt 0 x) ↔ e.Can k x.1 :=
  ⟨fun h => h.of_place rfl, fun h => h.of_place rfl⟩

theorem goal_course : (e.course k).goal t ↔ t.address = e.codeSize ∧ k t.spot := by
  unfold course codeCourse
  dsimp only
  rw [length_code]

/-- What is preferred in the code of an expression stands behind it. -/
theorem prefers_course_iff : (e.course k).Prefers ∅ (threadAt 0 x) w ↔
    ∃ y, e.Chooses k x y ∧ w = threadAt e.codeSize y := by
  constructor
  · intro h
    obtain ⟨ha, -⟩ := goal_course.1 h.goal
    have hw : w = threadAt e.codeSize (w.spot, w.marks) := by rw [← ha]; rfl
    exact ⟨(w.spot, w.marks), hw ▸ h, hw⟩
  · rintro ⟨y, h, rfl⟩
    exact h

theorem Chooses.can (h : e.Chooses k x y) : e.Can k x.1 := can_iff.1 h.reaches

theorem Chooses.holds (h : e.Chooses k x y) : k y.1 := (goal_course.1 h.goal).2

/-- Threads in the code of an expression stay in it or stop right behind it. -/
theorem address_le_of_next (hu : u ∈ (e.course k).next t) : u.address ≤ e.codeSize := by
  obtain ⟨i, hi, hu⟩ := mem_next_codeCourse.1 hu
  obtain ⟨hlt, -⟩ := List.getElem?_eq_some_iff.1 hi
  rw [length_code] at hlt
  have hstays := stays_of_mem_code e (List.mem_of_getElem? hi)
  rw [Nat.zero_add] at hstays
  exact (hstays.next_address ⟨Nat.zero_le _, hlt⟩ hu).2

theorem next_end : (e.course k).next (threadAt e.codeSize x) = [] := by
  unfold course codeCourse
  dsimp only
  rw [address_threadAt, List.getElem?_eq_none (by rw [length_code])]
  rfl

/-- Behind its code an expression is at an end, where that counts. -/
theorem reaches_end : (e.course k).Reaches ∅ (threadAt e.codeSize x) ↔ k x.1 := by
  refine ⟨fun h => ?_, fun h => .here (Set.notMem_empty _) (goal_course.2 ⟨rfl, h⟩)⟩
  cases h with
  | here _ hgoal => exact (goal_course.1 hgoal).2
  | step _ hnext _ =>
    rw [next_end] at hnext
    exact absurd hnext List.not_mem_nil

theorem prefers_end :
    (e.course k).Prefers ∅ (threadAt e.codeSize x) w ↔ k x.1 ∧ w = threadAt e.codeSize x := by
  constructor
  · intro h
    cases h with
    | here _ hgoal => exact ⟨(goal_course.1 hgoal).2, rfl⟩
    | step _ hnext _ _ =>
      rw [next_end] at hnext
      exact absurd hnext (by simp)
  · rintro ⟨h, rfl⟩
    exact .here (Set.notMem_empty _) (goal_course.2 ⟨rfl, h⟩)

/-- Behind its code an expression comes to no other address. -/
theorem clear_end {i : Nat} (hi : i ≠ e.codeSize) :
    (e.course k).Clear {(i, s)} (threadAt e.codeSize x) := by
  intro n u hu hmem
  cases n with
  | zero =>
    obtain rfl : u = _ := hu
    exact hi (congrArg Prod.fst (Set.mem_singleton_iff.1 hmem)).symm
  | succ n =>
    obtain ⟨v, hv, -⟩ := hu
    rw [Course.Step, next_end] at hv
    exact absurd hv List.not_mem_nil

/-! ## Code inside other code

An expression `f` has the code of `e` in it, from the address `d` on. -/

section Inside

variable {f : Expr} {b : Set Nat} {l : Nat × Spot → Prop}

theorem getElem?_code_inside (hf : code f 0 = p ++ (code e d ++ q)) (hd : p.length = d) {i : Nat}
    (hi : i < e.codeSize) : (code f 0)[i + d]? = ((code e 0)[i]?).map (Inst.move d 0) := by
  have hmove := code_move e d 0 0
  rw [renumber_zero, Nat.zero_add, Nat.mul_zero] at hmove
  rw [hf, List.getElem?_append_right (hd ▸ Nat.le_add_left _ _), hd, Nat.add_sub_cancel,
    List.getElem?_append_left (by rw [length_code]; exact hi), hmove, List.getElem?_map]

/-- Code does by itself what it does as a part of other code, up to its end. -/
theorem carries_within (hf : code f 0 = p ++ (code e d ++ q)) (hd : p.length = d)
    (hb : ∀ i, i ≤ e.codeSize → (i + d ∈ b ↔ i < e.codeSize)) :
    Course.Carries (e.course fun s => l (e.codeSize + d, s)) ((f.course K).within b l)
      (Thread.move d 0) (fun t => t.address ≤ e.codeSize) where
  keep _ := address_le_of_next
  next {t} ht := by
    rcases Nat.lt_or_eq_of_le ht with hlt | heq
    · rw [Course.next_within (show (t.move d 0).address ∈ b from (hb _ ht).2 hlt)]
      exact next_codeCourse_move (getElem?_code_inside hf hd hlt)
    · have hout : (t.move d 0).address ∉ b := fun hmem => absurd ((hb _ ht).1 hmem) (by omega)
      rw [show ((f.course K).within b l).next (t.move d 0) = [] from if_neg hout]
      unfold course codeCourse
      dsimp only
      rw [List.getElem?_eq_none (by rw [length_code]; omega)]
      rfl
  goal {t} ht := by
    rw [goal_course]
    constructor
    · rintro ⟨hout, hk⟩
      have haddress : t.address = e.codeSize :=
        Nat.le_antisymm ht (Nat.le_of_not_lt fun hlt => hout ((hb _ ht).2 hlt))
      refine ⟨haddress, ?_⟩
      rwa [← haddress]
    · rintro ⟨haddress, hk⟩
      refine ⟨fun hmem => absurd ((hb _ ht).1 hmem) (by omega), ?_⟩
      rwa [← haddress] at hk
  place _ _ := Thread.place_move_iff

/-- Code does by itself what it does as the last part of other code. -/
theorem carries_last (hf : code f 0 = p ++ code e d) (hd : p.length = d) :
    Course.Carries (e.course k) (f.course k) (Thread.move d 0) (fun t => t.address ≤ e.codeSize) where
  keep _ := address_le_of_next
  next {t} ht := by
    refine next_codeCourse_move ?_
    rcases Nat.lt_or_eq_of_le ht with hlt | heq
    · exact getElem?_code_inside (q := []) (by rw [hf, List.append_nil]) hd hlt
    · rw [hf, List.getElem?_eq_none (by rw [List.length_append, length_code]; omega),
        List.getElem?_eq_none (by rw [length_code]; omega)]
      rfl
  goal {t} _ := by
    have hsize : f.codeSize = e.codeSize + d := by
      rw [← length_code f 0, hf, List.length_append, length_code, hd, Nat.add_comm]
    rw [goal_course, goal_course, hsize]
    exact and_congr_left fun _ => Nat.add_right_cancel_iff
  place _ _ := Thread.place_move_iff

/-- What moved code prefers. -/
theorem prefers_of_carries {c : Course}
    (h : Course.Carries (e.course k) c (Thread.move d 0) (fun t => t.address ≤ e.codeSize)) :
    c.Prefers ∅ (threadAt d x) w ↔ ∃ y, e.Chooses k x y ∧ w = threadAt (e.codeSize + d) y := by
  have hp := h.prefers_empty_iff (t := threadAt 0 x) (Nat.zero_le _) w
  rw [Thread.move_threadAt, Nat.zero_add, Marks.move_zero] at hp
  rw [hp]
  constructor
  · rintro ⟨v, hv, rfl⟩
    obtain ⟨y, hy, rfl⟩ := prefers_course_iff.1 hv
    exact ⟨y, hy, by rw [Thread.move_threadAt, Marks.move_zero]⟩
  · rintro ⟨y, hy, rfl⟩
    exact ⟨_, hy, by rw [Thread.move_threadAt, Marks.move_zero]⟩

/-- What moved code can do. -/
theorem reaches_of_carries {c : Course}
    (h : Course.Carries (e.course k) c (Thread.move d 0) (fun t => t.address ≤ e.codeSize)) :
    c.Reaches ∅ (threadAt d x) ↔ e.Can k x.1 := by
  have hr := h.reaches_empty_iff (t := threadAt 0 x) (Nat.zero_le _)
  rw [Thread.move_threadAt, Nat.zero_add, Marks.move_zero] at hr
  exact hr.trans can_iff

end Inside

theorem threadAt_inj {i : Nat} : threadAt i x = threadAt i y ↔ x = y := by
  simp only [threadAt, Thread.mk.injEq, true_and, Prod.ext_iff]

/-! ## One after the other -/

section Sequence

theorem code_seq : code (seq a b) 0 = code a 0 ++ code b a.codeSize := by
  simp only [code, Nat.zero_add, length_code]

theorem carries_second : Course.Carries (b.course k) ((seq a b).course k) (Thread.move a.codeSize 0)
    (fun t => t.address ≤ b.codeSize) :=
  carries_last code_seq (length_code a 0)

/-- A thread that has left the first part of a sequence does not come back to it. -/
theorem parts_seq (a b : Expr) (k : Spot → Prop) : ((seq a b).course k).Parts {i | i < a.codeSize}
    fun d _ => ∀ x ∈ d, x.1 ∈ {i | i < a.codeSize} := by
  refine Course.parts_of_no_return (fun {t} ht hgoal => ?_) fun {t u} ht hu => ?_
  · have hlt : t.address < a.codeSize := ht
    have haddress := (goal_course.1 hgoal).1
    rw [codeSize] at haddress
    omega
  · have hle : a.codeSize ≤ t.address := Nat.le_of_not_lt ht
    obtain ⟨i, hi, hu⟩ := mem_next_codeCourse.1 hu
    rw [code_seq, List.getElem?_append_right (by rwa [length_code])] at hi
    obtain ⟨hlt, -⟩ := List.getElem?_eq_some_iff.1 hi
    rw [length_code, length_code] at hlt
    have hstays := stays_of_mem_code b (List.mem_of_getElem? hi)
    exact Nat.not_lt.2 (hstays.next_address ⟨hle, by omega⟩ hu).1

/-- The first part of a sequence goes on to where the second part can. -/
theorem carries_first :
    Course.Carries (a.course (b.Can k)) (((seq a b).course k).within {i | i < a.codeSize}
      (Course.Parts.live ((seq a b).course k) ∅)) (Thread.move 0 0)
      (fun t => t.address ≤ a.codeSize) := by
  have hk : b.Can k = fun s => Course.Parts.live ((seq a b).course k) ∅ (a.codeSize + 0, s) :=
    funext fun s => propext (reaches_of_carries carries_second (x := (s, []))).symm
  rw [hk]
  exact carries_within (p := []) code_seq rfl fun i _ => Iff.rfl

end Sequence

/-- **A sequence can go on where its first part can, to where its second part can.** -/
theorem can_seq : (seq a b).Can k s ↔ a.Can (b.Can k) s := by
  have hparts := (parts_seq a b k).reaches_iff (v := ∅) (d := ∅) (t := threadAt 0 (s, []))
    (fun _ h => absurd h (Set.notMem_empty _)) fun _ h => absurd h (Set.notMem_empty _)
  rw [Set.union_empty] at hparts
  exact hparts.trans (reaches_of_carries carries_first)

/-- **A sequence chooses for its first part a way on which its second part can go on.** -/
theorem chooses_seq :
    (seq a b).Chooses k x y ↔ ∃ z, a.Chooses (b.Can k) x z ∧ b.Chooses k z y := by
  have hparts := (parts_seq a b k).prefers_iff (v := ∅) (d := ∅) (t := threadAt 0 x)
    (w := threadAt (seq a b).codeSize y)
    (fun _ h => absurd h (Set.notMem_empty _)) fun _ h => absurd h (Set.notMem_empty _)
  rw [Set.union_empty] at hparts
  have hsecond : ∀ z, ((seq a b).course k).Prefers ∅ (threadAt a.codeSize z)
      (threadAt (seq a b).codeSize y) ↔ b.Chooses k z y := fun z => by
    rw [prefers_of_carries carries_second, codeSize, Nat.add_comm]
    simp only [threadAt_inj, exists_eq_right']
  refine hparts.trans ⟨?_, ?_⟩
  · rintro ⟨w, hw, hy⟩
    obtain ⟨z, hz, rfl⟩ := (prefers_of_carries carries_first).1 hw
    exact ⟨z, hz, (hsecond z).1 hy⟩
  · rintro ⟨z, hz, hy⟩
    exact ⟨_, (prefers_of_carries carries_first).2 ⟨z, hz, rfl⟩, (hsecond z).2 hy⟩

/-! ## One or the other -/

section Alternative

theorem code_alt : code (alt a b) 0 = [Inst.fork 1 (a.codeSize + 2)] ++
    (code a 1 ++ .jump (a.codeSize + 2 + b.codeSize) :: code b (a.codeSize + 2)) := by
  simp only [code, Nat.zero_add, length_code, List.singleton_append]

theorem carries_right : Course.Carries (b.course k) ((alt a b).course k)
    (Thread.move (a.codeSize + 2) 0) (fun t => t.address ≤ b.codeSize) := by
  refine carries_last (p := .fork 1 (a.codeSize + 2) ::
    (code a 1 ++ [.jump (a.codeSize + 2 + b.codeSize)])) ?_ ?_
  · rw [code_alt]
    simp
  · simp [length_code]

/-- What stands behind the fork of an alternative does not lead back to it. -/
theorem pos_of_next (ht : 1 ≤ t.address) (hu : u ∈ ((alt a b).course k).next t) : 1 ≤ u.address := by
  obtain ⟨i, hi, hu⟩ := mem_next_codeCourse.1 hu
  obtain ⟨hlt, -⟩ := List.getElem?_eq_some_iff.1 hi
  rw [code_alt, List.getElem?_append_right ht] at hi
  have hmem := List.mem_of_getElem? hi
  have hstays : i.Stays 1 (code (alt a b) 0).length := by
    rw [length_code, codeSize]
    rcases List.mem_append.1 hmem with hmem | hmem
    · exact (stays_of_mem_code a hmem).mono (Nat.le_refl _) (by omega)
    rcases List.mem_cons.1 hmem with rfl | hmem
    · exact ⟨by omega, by omega⟩
    · exact (stays_of_mem_code b hmem).mono (by omega) (by omega)
  exact (hstays.next_address ⟨ht, hlt⟩ hu).1

theorem clear_alt {s : Spot} (ht : 1 ≤ t.address) : ((alt a b).course k).Clear {(0, s)} t :=
  fun n u hu hmem => by
    have hpos : 1 ≤ u.address := hu.keep (p := fun u : Thread => 1 ≤ u.address) pos_of_next ht
    have hzero : u.address = 0 := congrArg Prod.fst (Set.mem_singleton_iff.1 hmem)
    omega

/-- A thread that has left the first branch does not come back to it. -/
theorem parts_alt (a b : Expr) (k : Spot → Prop) :
    ((alt a b).course k).Parts {i | i < a.codeSize + 1}
      fun d _ => ∀ x ∈ d, x.1 ∈ {i | i < a.codeSize + 1} := by
  refine Course.parts_of_no_return (fun {t} ht hgoal => ?_) fun {t u} ht hu => ?_
  · have hlt : t.address < a.codeSize + 1 := ht
    have haddress := (goal_course.1 hgoal).1
    rw [codeSize] at haddress
    omega
  · have hle : a.codeSize + 1 ≤ t.address := Nat.le_of_not_lt ht
    obtain ⟨i, hi, hu⟩ := mem_next_codeCourse.1 hu
    obtain ⟨hlt, -⟩ := List.getElem?_eq_some_iff.1 hi
    rw [code_alt, List.getElem?_append_right (by simp; omega),
      List.getElem?_append_right (by rw [length_code, List.length_singleton]; omega)] at hi
    have hstays : i.Stays (a.codeSize + 1) (code (alt a b) 0).length := by
      rw [length_code, codeSize]
      rcases List.mem_cons.1 (List.mem_of_getElem? hi) with rfl | hmem
      · exact ⟨by omega, by omega⟩
      · exact (stays_of_mem_code b hmem).mono (by omega) (by omega)
    exact Nat.not_lt.2 (hstays.next_address ⟨hle, hlt⟩ hu).1

theorem next_alt : ((alt a b).course k).next (threadAt 0 x) =
    [threadAt 1 x, threadAt (a.codeSize + 2) x] :=
  next_codeCourse (i := .fork 1 (a.codeSize + 2)) (by rw [code_alt]; rfl)

/-- The first branch is left for the end. -/
theorem next_left : ((alt a b).course k).next (threadAt (a.codeSize + 1) x) =
    [threadAt (alt a b).codeSize x] := by
  have hsize : (alt a b).codeSize = a.codeSize + 2 + b.codeSize := by rw [codeSize]; omega
  rw [hsize]
  refine next_codeCourse (i := .jump (a.codeSize + 2 + b.codeSize)) ?_
  rw [code_alt, address_threadAt, List.getElem?_append_right (by simp),
    List.getElem?_append_right (by rw [length_code, List.length_singleton]; omega)]
  simp [length_code]

theorem reaches_left :
    ((alt a b).course k).Reaches ∅ (threadAt (a.codeSize + 1) x) ↔ k x.1 :=
  (Course.reaches_of_next next_left).trans reaches_end

theorem prefers_left : ((alt a b).course k).Prefers ∅ (threadAt (a.codeSize + 1) x) w ↔
    k x.1 ∧ w = threadAt (alt a b).codeSize x := by
  refine (Course.prefers_of_next next_left (clear_end ?_)).trans prefers_end
  rw [address_threadAt, codeSize]
  omega

theorem carries_left : Course.Carries (a.course k)
    (((alt a b).course k).within {i | i < a.codeSize + 1}
      (Course.Parts.live ((alt a b).course k) ∅)) (Thread.move 1 0)
    (fun t => t.address ≤ a.codeSize) := by
  have hk : k = fun s => Course.Parts.live ((alt a b).course k) ∅ (a.codeSize + 1, s) :=
    funext fun s => propext (reaches_left (x := (s, []))).symm
  have h := carries_within (e := a) (f := alt a b) (K := k) (b := {i | i < a.codeSize + 1})
    (l := Course.Parts.live ((alt a b).course k) ∅) code_alt rfl
    fun i _ => Nat.add_lt_add_iff_right
  rwa [← hk] at h

/-- What the first branch can do behind the fork. -/
theorem reaches_first_branch :
    ((alt a b).course k).Reaches ∅ (threadAt 1 x) ↔ a.Can k x.1 := by
  have hparts := (parts_alt a b k).reaches_iff (v := ∅) (d := ∅) (t := threadAt 1 x)
    (fun _ h => absurd h (Set.notMem_empty _)) fun _ h => absurd h (Set.notMem_empty _)
  rw [Set.union_empty] at hparts
  exact hparts.trans (reaches_of_carries carries_left)

/-- What the first branch prefers behind the fork. -/
theorem prefers_first_branch :
    ((alt a b).course k).Prefers ∅ (threadAt 1 x) (threadAt (alt a b).codeSize y) ↔
      a.Chooses k x y := by
  have hparts := (parts_alt a b k).prefers_iff (v := ∅) (d := ∅) (t := threadAt 1 x)
    (w := threadAt (alt a b).codeSize y)
    (fun _ h => absurd h (Set.notMem_empty _)) fun _ h => absurd h (Set.notMem_empty _)
  rw [Set.union_empty] at hparts
  refine hparts.trans ⟨?_, fun h => ?_⟩
  · rintro ⟨w, hw, hy⟩
    obtain ⟨z, hz, rfl⟩ := (prefers_of_carries carries_left).1 hw
    rw [threadAt_inj.1 (prefers_left.1 hy).2]
    exact hz
  · exact ⟨_, (prefers_of_carries carries_left).2 ⟨y, h, rfl⟩, prefers_left.2 ⟨h.holds, rfl⟩⟩

end Alternative

/-- **Alternatives can go on where either branch can.** -/
theorem can_alt : (alt a b).Can k s ↔ a.Can k s ∨ b.Can k s :=
  (Course.reaches_of_next_pair next_alt).trans
    (or_congr reaches_first_branch (reaches_of_carries carries_right))

/-- **The second branch is chosen only where the first one cannot be.** -/
theorem chooses_alt :
    (alt a b).Chooses k x y ↔ a.Chooses k x y ∨ ¬a.Can k x.1 ∧ b.Chooses k x y := by
  have hsecond : ((alt a b).course k).Prefers ∅ (threadAt (a.codeSize + 2) x)
      (threadAt (alt a b).codeSize y) ↔ b.Chooses k x y := by
    rw [prefers_of_carries carries_right,
      show (alt a b).codeSize = b.codeSize + (a.codeSize + 2) by rw [codeSize]; omega]
    simp only [threadAt_inj, exists_eq_right']
  refine (Course.prefers_of_next_pair next_alt (clear_alt (Nat.le_refl 1))
    (clear_alt (by rw [address_threadAt]; omega))).trans ?_
  rw [prefers_first_branch, reaches_first_branch, hsecond]

/-! ## Runs -/

/-- Whether a spot counts as an end makes no difference to the steps. -/
theorem next_course : (e.course k).next t = (Program.ofExpr e).course.next t := by
  unfold course codeCourse Program.course Program.ofExpr
  dsimp only
  rw [List.getElem?_toArray, List.getElem?_append]
  split
  · rfl
  · rename_i hlt
    rw [List.getElem?_eq_none (Nat.le_of_not_lt hlt)]
    cases h : t.address - (code e 0).length with
    | zero => rfl
    | succ n => rfl

theorem step_course : (e.course k).Step = (Program.ofExpr e).Step :=
  funext fun t => funext fun u => propext (by
    rw [← Program.step_course, Course.Step, Course.Step, next_course])

/-- **What a program prefers is what its expression chooses among all ends.** -/
theorem prefers_ofExpr_iff {h : Hit} : (Program.ofExpr e).Prefers s h ↔
    ∃ y, e.Chooses (fun _ => True) (s, []) y ∧ h = ⟨⟨s.offset, y.1.offset⟩, y.2⟩ := by
  have hcarries : Course.Carries (e.course fun _ => True) (Program.ofExpr e).course id
      fun _ => True :=
    { keep := fun _ _ => trivial
      next := fun {t} _ => by rw [List.map_id]; exact next_course.symm
      goal := fun {t} _ => by
        rw [goal_course, and_true]
        exact Program.getElem?_ofExpr_eq_accept
      place := fun _ _ => Iff.rfl }
  have hprefers := hcarries.prefers_empty_iff (t := threadAt 0 (s, [])) trivial
  constructor
  · rintro ⟨w, hw, rfl⟩
    obtain ⟨w, hw, rfl⟩ := (hprefers w).1 hw
    obtain ⟨y, hy, rfl⟩ := prefers_course_iff.1 hw
    exact ⟨y, hy, rfl⟩
  · rintro ⟨y, hy, rfl⟩
    exact ⟨_, (hprefers _).2 ⟨_, hy, rfl⟩, rfl⟩

section Ordered

variable (he : e.Ordered)

include he

/-- Steps from the start of the code to its end are a run. -/
theorem runs_of_repeats {n : Nat} (h : Repeats (e.course k).Step n (threadAt 0 x) t)
    (ht : t.address = e.codeSize) : e.Runs x (t.spot, t.marks) := by
  rw [step_course] at h
  obtain ⟨y, hy, rfl⟩ := (Program.accepts_iff_runs he).1
    ⟨⟨n, h⟩, by rw [ht]; exact Program.getElem?_ofExpr_eq_accept.2 rfl⟩
  exact hy

theorem Chooses.runs (h : e.Chooses k x y) : e.Runs x y := by
  obtain ⟨n, hn⟩ := Course.Prefers.repeats h
  exact runs_of_repeats he hn rfl

/-- An expression can go on to where it matches. -/
theorem can_iff_matches : e.Can k s ↔ ∃ s', e.Matches s s' ∧ k s' := by
  rw [Can, Course.reaches_empty_iff]
  constructor
  · rintro ⟨n, u, hn, hgoal⟩
    obtain ⟨ha, hk⟩ := goal_course.1 hgoal
    exact ⟨u.spot, (runs_of_repeats he hn ha).matches, hk⟩
  · rintro ⟨s', hm, hk⟩
    obtain ⟨ms, hruns⟩ := exists_runs_of_matches hm []
    obtain ⟨⟨n, hn⟩, -⟩ := (Program.accepts_iff_runs he).2 ⟨_, hruns, rfl⟩
    refine ⟨n, threadAt e.codeSize (s', ms), ?_, goal_course.2 ⟨rfl, hk⟩⟩
    rwa [step_course]

/-- Only the spots that an expression matches up to matter. -/
theorem chooses_congr (h : ∀ s', e.Matches x.1 s' → (k s' ↔ K s')) :
    e.Chooses k x y ↔ e.Chooses K x y := by
  have hcarries : Course.Carries (e.course K) (e.course k) id
      fun t => ∃ n, Repeats (e.course K).Step n (threadAt 0 x) t :=
    { keep := fun {t u} ⟨n, hn⟩ hu => ⟨n + 1, hn.append (Repeats.one.2 hu)⟩
      next := fun {t} _ => by rw [List.map_id]; exact next_course.trans next_course.symm
      goal := fun {t} ⟨n, hn⟩ => by
        rw [id, goal_course, goal_course]
        exact and_congr_right fun ha => h _ (runs_of_repeats he hn ha).matches
      place := fun _ _ => Iff.rfl }
  have hprefers := hcarries.prefers_empty_iff (t := threadAt 0 x) ⟨0, rfl⟩
    (threadAt e.codeSize y)
  refine hprefers.trans ⟨?_, fun h => ⟨_, h, rfl⟩⟩
  rintro ⟨w, hw, rfl⟩
  exact hw

end Ordered

/-! ## Other numbers -/

theorem carries_renumber (e : Expr) (k : Spot → Prop) (m : Nat) :
    Course.Carries (e.course k) ((e.renumber m).course k) (Thread.move 0 (2 * m)) fun _ => True where
  keep _ _ := trivial
  next {t} _ := by
    refine next_codeCourse_move ?_
    have hmove := code_move e 0 m 0
    rw [Nat.add_zero] at hmove
    rw [Nat.add_zero, hmove, List.getElem?_map]
  goal {t} _ := by
    rw [goal_course, goal_course, codeSize_renumber]
    exact Iff.rfl
  place _ _ := Thread.place_move_iff

/-- An expression with other numbers can go on to the same spots. -/
theorem can_renumber {m : Nat} : (e.renumber m).Can k s ↔ e.Can k s :=
  (carries_renumber e k m).reaches_empty_iff (t := threadAt 0 (s, [])) trivial

/-- **An expression with other numbers chooses the same way, and marks it with the other numbers.** -/
theorem chooses_renumber {m : Nat} : (e.renumber m).Chooses k (s, []) y ↔
    ∃ z, e.Chooses k (s, []) z ∧ y = (z.1, z.2.move (2 * m)) := by
  have hprefers := (carries_renumber e k m).prefers_empty_iff (t := threadAt 0 (s, [])) trivial
    (threadAt (e.renumber m).codeSize y)
  refine hprefers.trans ⟨?_, ?_⟩
  · rintro ⟨w, hw, hy⟩
    obtain ⟨z, hz, rfl⟩ := prefers_course_iff.1 hw
    rw [codeSize_renumber, Thread.move_threadAt, Nat.add_zero, threadAt_inj] at hy
    exact ⟨z, hz, hy⟩
  · rintro ⟨z, hz, rfl⟩
    exact ⟨_, hz, by rw [codeSize_renumber, Thread.move_threadAt, Nat.add_zero]⟩

end Expr
end Regex
end TextScan
