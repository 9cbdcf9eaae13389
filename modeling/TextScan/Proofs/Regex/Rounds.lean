/-
# An expression any number of times

The code of an expression that is repeated any number of times has a head before the code of the
expression, where it is entered or left, and a tail behind it, which leads back to the head or
stands for it.  A way from the head through the expression to the tail is a round.

If the expression reads something, a round ends with less to read than it started with.  So a thread
that has left the code of the expression comes to no place again that it passed there
(`parts_anyTimes`), and every round is chosen as if it was the only one: a greedy repetition chooses
what the expression chooses and then what it chooses from there on, and stops where the expression
cannot go on (`chooses_anyTimes_greedy`).  A lazy one stops at once (`chooses_anyTimes_lazy`).
-/

import TextScan.Proofs.Regex.Advancing
import TextScan.Proofs.Regex.Choosing

namespace TextScan
namespace Regex

/-- A step of an instruction does not add to what is left of the text. -/
theorem Inst.rest_le_of_mem_next {i : Inst} {t u : Thread} (h : u ∈ i.next t) :
    u.spot.rest.length ≤ t.spot.rest.length := by
  cases i with
  | char c =>
    unfold Inst.next at h
    cases hrest : t.spot.rest with
    | nil => simp [hrest] at h
    | cons d r =>
      simp only [hrest] at h
      split at h
      · obtain rfl := List.mem_singleton.1 h
        exact Nat.le_succ r.length
      · simp at h
  | oneOf s =>
    unfold Inst.next at h
    cases hrest : t.spot.rest with
    | nil => simp [hrest] at h
    | cons d r =>
      simp only [hrest] at h
      split at h
      · obtain rfl := List.mem_singleton.1 h
        exact Nat.le_succ r.length
      · simp at h
  | anchor a =>
    unfold Inst.next at h
    dsimp only at h
    split at h
    · obtain rfl := List.mem_singleton.1 h
      exact Nat.le_refl _
    · simp at h
  | mark slot =>
    obtain rfl := List.mem_singleton.1 h
    exact Nat.le_refl _
  | jump target =>
    obtain rfl := List.mem_singleton.1 h
    exact Nat.le_refl _
  | fork first second =>
    simp only [Inst.next, List.mem_cons, List.not_mem_nil, or_false] at h
    rcases h with rfl | rfl
    · exact Nat.le_refl _
    · exact Nat.le_refl _
  | accept => exact absurd h List.not_mem_nil

namespace Expr

/-- An expression any number of times: as often as possible, or as rarely. -/
def anyTimes (greedy : Bool) (e : Expr) : Expr := times 0 none greedy e

variable {e : Expr} {g : Bool} {x y z : Trail} {s : Spot} {t u v w : Thread} {i n : Nat}

/-! ## The code -/

/-- The addresses of an expression that is repeated. -/
def body (e : Expr) : Set Nat := {i | 1 ≤ i ∧ i ≤ e.codeSize}

theorem zero_not_mem_body : 0 ∉ body e := fun hmem => Nat.not_succ_le_zero 0 hmem.1

theorem not_mem_body_of_lt (h : e.codeSize < i) : i ∉ body e := fun hmem => Nat.not_le.2 h hmem.2

/-- The course of a repetition; it may end anywhere. -/
def loop (g : Bool) (e : Expr) : Course := (anyTimes g e).course fun _ => True

/-- The course of a repetition as long as it stays in the expression. -/
noncomputable def round (g : Bool) (e : Expr) : Course := (loop g e).within (body e) fun _ => True

/-- The head of a repetition. -/
def head (g : Bool) (e : Expr) : Inst := .choose g 1 (e.codeSize + 2)

/-- The tail of a repetition. -/
def tail (g : Bool) (e : Expr) : Inst :=
  if e.minSize.all (· == 0) then head g e else .jump 0

theorem codeSize_anyTimes : (anyTimes g e).codeSize = e.codeSize + 2 := rfl

theorem code_anyTimes : code (anyTimes g e) 0 = [head g e] ++ (code e 1 ++ [tail g e]) := by
  simp only [anyTimes, code, repeatedCode, star, length_code, Nat.zero_add, head, tail,
    List.singleton_append]

/-- Where the head leads to. -/
def ways (g : Bool) (e : Expr) (x : Trail) : List Thread :=
  if g then [threadAt 1 x, threadAt (e.codeSize + 2) x]
  else [threadAt (e.codeSize + 2) x, threadAt 1 x]

theorem next_head (i : Nat) (x : Trail) : (head g e).next (threadAt i x) = ways g e x := by
  cases g with
  | true => rfl
  | false => rfl

theorem next_start : (loop g e).next (threadAt 0 x) = ways g e x := by
  have hi : (code (anyTimes g e) 0)[(threadAt 0 x).address]? = some (head g e) := by
    rw [code_anyTimes]
    rfl
  exact (next_codeCourse (k := fun _ => True) hi).trans (next_head 0 x)

theorem next_last : (loop g e).next (threadAt (e.codeSize + 1) x) = ways g e x ∨
    (loop g e).next (threadAt (e.codeSize + 1) x) = [threadAt 0 x] := by
  have hi : (code (anyTimes g e) 0)[(threadAt (e.codeSize + 1) x).address]? = some (tail g e) := by
    rw [code_anyTimes, address_threadAt, List.getElem?_append_right (by simp),
      List.getElem?_append_right (by rw [length_code, List.length_singleton]; omega)]
    simp [length_code]
  have hnext : (loop g e).next (threadAt (e.codeSize + 1) x) =
      (tail g e).next (threadAt (e.codeSize + 1) x) := next_codeCourse (k := fun _ => True) hi
  rw [hnext, tail]
  split
  · exact Or.inl (next_head _ x)
  · exact Or.inr rfl

theorem mem_ways (hu : u ∈ ways g e x) : u = threadAt 1 x ∨ u = threadAt (e.codeSize + 2) x := by
  cases g with
  | true =>
    rcases List.mem_cons.1 hu with rfl | hu
    · exact Or.inl rfl
    · exact Or.inr (List.mem_singleton.1 hu)
  | false =>
    rcases List.mem_cons.1 hu with rfl | hu
    · exact Or.inr rfl
    · exact Or.inl (List.mem_singleton.1 hu)

/-- Outside of the expression nothing is read, and no place of it but the first one is entered. -/
theorem next_outside (ht : t.address ∉ body e) (hu : u ∈ (loop g e).next t) :
    u.spot = t.spot ∧ (u.address = 1 ∨ u.address ∉ body e) := by
  have hat : ∀ {i}, t.address = i → t = threadAt i (t.spot, t.marks) := by
    rintro i rfl
    rfl
  have hways : u ∈ ways g e (t.spot, t.marks) →
      u.spot = t.spot ∧ (u.address = 1 ∨ u.address ∉ body e) := by
    intro hu
    rcases mem_ways hu with rfl | rfl
    · exact ⟨rfl, Or.inl rfl⟩
    · exact ⟨rfl, Or.inr (not_mem_body_of_lt (Nat.lt_add_of_pos_right Nat.two_pos))⟩
  have hlt : t.address < e.codeSize + 2 := by
    obtain ⟨i, hi, -⟩ := (mem_next_codeCourse (k := fun _ => True)).1 hu
    obtain ⟨hlt, -⟩ := List.getElem?_eq_some_iff.1 hi
    rwa [length_code, codeSize_anyTimes] at hlt
  have hno : ¬(1 ≤ t.address ∧ t.address ≤ e.codeSize) := ht
  rcases Nat.eq_zero_or_pos t.address with hstart | hpos
  · rw [hat hstart, next_start] at hu
    exact hways hu
  · have hlast : t.address = e.codeSize + 1 := by omega
    rw [hat hlast] at hu
    rcases next_last (g := g) (e := e) (x := (t.spot, t.marks)) with hnext | hnext
    · rw [hnext] at hu
      exact hways hu
    · rw [hnext] at hu
      obtain rfl := List.mem_singleton.1 hu
      exact ⟨rfl, Or.inr zero_not_mem_body⟩

/-! ## Rounds -/

/-- What is left of the text does not get more. -/
theorem rest_le_of_next (hu : u ∈ (loop g e).next t) :
    u.spot.rest.length ≤ t.spot.rest.length := by
  obtain ⟨i, -, hu⟩ := (mem_next_codeCourse (k := fun _ => True)).1 hu
  exact Inst.rest_le_of_mem_next hu

theorem next_round (ht : t.address ∈ body e) : (round g e).next t = (loop g e).next t :=
  Course.next_within ht

/-- A step of a round is a step of the loop. -/
theorem step_loop_of_round (h : (round g e).Step t u) : (loop g e).Step t u := by
  have hmem : t.address ∈ body e := by
    by_contra hno
    have hnil : (round g e).next t = [] := if_neg hno
    rw [Course.Step, hnil] at h
    exact absurd h List.not_mem_nil
  rwa [Course.Step, next_round hmem] at h

theorem rest_le_of_round (h : Repeats (round g e).Step n t u) :
    u.spot.rest.length ≤ t.spot.rest.length := by
  refine h.keep (p := fun u => u.spot.rest.length ≤ t.spot.rest.length) ?_ (Nat.le_refl _)
  intro v w hv hw
  exact (rest_le_of_next (step_loop_of_round hw)).trans hv

/-- The code of the expression does in a repetition what it does by itself. -/
theorem carries_body (l : Nat × Spot → Prop) :
    Course.Carries (e.course fun s => l (e.codeSize + 1, s)) ((loop g e).within (body e) l)
      (Thread.move 1 0) (fun t => t.address ≤ e.codeSize) := by
  refine carries_within code_anyTimes rfl fun i hi => ?_
  constructor
  · intro hmem
    exact hmem.2
  · intro hlt
    exact ⟨Nat.le_add_left 1 i, hlt⟩

section Advances

variable (he : e.Ordered) (hadv : e.Advances)

include he

/-- A whole round is a match. -/
theorem matches_of_round (h : Repeats (round g e).Step n (threadAt 1 x) t)
    (ht : t.address ∉ body e) : e.Matches x.1 t.spot := by
  have hstart : threadAt 1 x = (threadAt 0 x).move 1 0 := by
    rw [Thread.move_threadAt, Marks.move_zero]
  rw [hstart] at h
  obtain ⟨u, hu, hsteps, rfl⟩ := (carries_body fun _ => True).exists_of_repeats (Nat.zero_le _) h
  have haddress : u.address = e.codeSize := by
    by_contra hne
    exact ht ⟨Nat.le_add_left 1 _, Nat.lt_of_le_of_ne hu hne⟩
  exact (runs_of_repeats he hsteps haddress).matches

include hadv

/-- A thread in a round goes on with it, or has read something. -/
theorem less_or_round_of_next (h : Repeats (round g e).Step n (threadAt 1 x) t)
    (hu : u ∈ (loop g e).next t) : u.spot.rest.length < x.1.rest.length ∨
      Repeats (round g e).Step (n + 1) (threadAt 1 x) u := by
  by_cases hmem : t.address ∈ body e
  · have hstep : (round g e).Step t u := by
      rw [Course.Step, next_round hmem]
      exact hu
    exact Or.inr (h.append (Repeats.one.2 hstep))
  · have hlt := hadv _ _ (matches_of_round he h hmem)
    exact Or.inl ((rest_le_of_next hu).trans_lt hlt)

/-- A thread that has entered the expression is still in its first round, or has read something. -/
theorem less_or_round (h : Repeats (loop g e).Step n (threadAt 1 x) u) :
    u.spot.rest.length < x.1.rest.length ∨ ∃ m, Repeats (round g e).Step m (threadAt 1 x) u := by
  refine h.keep (p := fun u => u.spot.rest.length < x.1.rest.length ∨
    ∃ m, Repeats (round g e).Step m (threadAt 1 x) u) ?_ (Or.inr ⟨0, rfl⟩)
  rintro v w (hlt | ⟨m, hm⟩) hw
  · exact Or.inl ((rest_le_of_next hw).trans_lt hlt)
  · exact (less_or_round_of_next he hadv hm hw).imp_right fun hround => ⟨m + 1, hround⟩

/-- A thread that has entered the expression does not come back to where it was before. -/
theorem clear_enter (hi : i ∉ body e) : (loop g e).Clear {(i, x.1)} (threadAt 1 x) := by
  intro n u hu hmem
  obtain ⟨haddress, hspot⟩ := Prod.mk.inj (Set.mem_singleton_iff.1 hmem)
  have hlt : u.spot.rest.length < x.1.rest.length := by
    rcases less_or_round he hadv hu with hlt | ⟨m, hm⟩
    · exact hlt
    · exact hadv _ _ (matches_of_round he hm (haddress ▸ hi))
  rw [hspot] at hlt
  exact Nat.lt_irrefl _ hlt

/-- A thread that has left the expression does not come back to a place that it passed there: it
would have read nothing since, and so it could go a whole round without reading anything. -/
theorem clear_leave {d : Set (Nat × Spot)} (hd : ∀ p ∈ d, p.1 ∈ body e ∧
    ∃ n v, v.place = p ∧ Repeats (round g e).Step n v t) (ht : t.address ∉ body e) :
    (loop g e).Clear d t := by
  intro n u hu hmem
  obtain ⟨hin, m, v, hv, hround⟩ := hd _ hmem
  -- what a thread can have done since: read something, stayed outside, or entered once more
  have hsince : u.spot.rest.length < t.spot.rest.length ∨ u.spot = t.spot ∧ u.address ∉ body e ∨
      ∃ ms k, Repeats (round g e).Step k (threadAt 1 (t.spot, ms)) u := by
    refine hu.keep (p := fun u => u.spot.rest.length < t.spot.rest.length ∨
      u.spot = t.spot ∧ u.address ∉ body e ∨
      ∃ ms k, Repeats (round g e).Step k (threadAt 1 (t.spot, ms)) u) ?_ (Or.inr (Or.inl ⟨rfl, ht⟩))
    rintro w w' (hlt | ⟨hspot, hout⟩ | ⟨ms, k, hk⟩) hw'
    · exact Or.inl ((rest_le_of_next hw').trans_lt hlt)
    · obtain ⟨hspot', haddress⟩ := next_outside hout hw'
      rcases haddress with hone | hout'
      · refine Or.inr (Or.inr ⟨w'.marks, 0, ?_⟩)
        rw [← hspot, ← hspot', ← hone]
        rfl
      · exact Or.inr (Or.inl ⟨hspot'.trans hspot, hout'⟩)
    · exact (less_or_round_of_next he hadv hk hw').imp_right fun hround =>
        Or.inr ⟨ms, k + 1, hround⟩
  have hplace : v.place = u.place := hv
  have hspot : v.spot = u.spot := congrArg Prod.snd hplace
  rcases hsince with hlt | ⟨-, hout⟩ | ⟨ms, k, hk⟩
  · have hle := rest_le_of_round hround
    rw [hspot] at hle
    omega
  · exact hout hin
  · obtain ⟨t', ht', hplace'⟩ := Course.exists_repeats_of_place hround hplace
    have haddress : t'.address = t.address := congrArg Prod.fst hplace'
    have hspot' : t'.spot = t.spot := congrArg Prod.snd hplace'
    have hm := matches_of_round he (hk.append ht') (haddress ▸ ht)
    rw [hspot'] at hm
    exact Nat.lt_irrefl _ (hadv _ _ hm)

/-- **A thread that has left the expression does not come back** to what it passed there. -/
theorem parts_anyTimes : (loop g e).Parts (body e) fun d t => ∀ p ∈ d, p.1 ∈ body e ∧
    ∃ n v, v.place = p ∧ Repeats (round g e).Step n v t where
  goal {t} ht hgoal := by
    have haddress := (goal_course.1 hgoal).1
    rw [codeSize_anyTimes] at haddress
    exact not_mem_body_of_lt (by omega) ht
  subset hsub hd p hp := hd p (hsub hp)
  step {d t u} hd ht hu p hp := by
    have hstep : (round g e).Step t u := by
      rw [Course.Step, next_round ht]
      exact hu
    rcases hp with rfl | hp
    · exact ⟨ht, 1, t, rfl, Repeats.one.2 hstep⟩
    · obtain ⟨hin, n, v, hv, hn⟩ := hd p hp
      exact ⟨hin, n + 1, v, hv, hn.append (Repeats.one.2 hstep)⟩
  leave hd ht := clear_leave he hadv hd ht

end Advances

/-! ## Choices -/

theorem reaches_stop : (loop g e).Reaches ∅ (threadAt (e.codeSize + 2) x) :=
  (reaches_end (e := anyTimes g e) (k := fun _ => True)).2 trivial

theorem prefers_stop : (loop g e).Prefers ∅ (threadAt (e.codeSize + 2) x) w ↔
    w = threadAt (e.codeSize + 2) x :=
  (prefers_end (e := anyTimes g e) (k := fun _ => True)).trans (and_iff_right trivial)

theorem clear_stop (hi : i ≠ e.codeSize + 2) :
    (loop g e).Clear {(i, s)} (threadAt (e.codeSize + 2) x) :=
  clear_end (e := anyTimes g e) (k := fun _ => True) hi

/-- From the head and from the tail the end can be reached. -/
theorem reaches_of_ways (h : (loop g e).next t = ways g e x) : (loop g e).Reaches ∅ t := by
  have hmem : threadAt (e.codeSize + 2) x ∈ (loop g e).next t := by
    rw [h]
    cases g with
    | true => exact List.mem_cons_of_mem _ List.mem_cons_self
    | false => exact List.mem_cons_self
  exact .step (Set.notMem_empty _) hmem reaches_stop

theorem reaches_last : (loop g e).Reaches ∅ (threadAt (e.codeSize + 1) x) := by
  rcases next_last (g := g) (e := e) (x := x) with hnext | hnext
  · exact reaches_of_ways hnext
  · exact (Course.reaches_of_next hnext).2 (reaches_of_ways next_start)

/-- The expression may be left anywhere. -/
theorem carries_round : Course.Carries (e.course fun _ => True)
    ((loop g e).within (body e) (Course.Parts.live (loop g e) ∅)) (Thread.move 1 0)
    (fun t => t.address ≤ e.codeSize) := by
  have hlive : (fun s => Course.Parts.live (loop g e) ∅ (e.codeSize + 1, s)) = fun _ => True :=
    funext fun s => eq_true (reaches_last (x := (s, [])))
  have hcarries := carries_body (g := g) (e := e) (Course.Parts.live (loop g e) ∅)
  rwa [hlive] at hcarries

section Advances

variable (he : e.Ordered) (hadv : e.Advances)

include he hadv

/-- From its first address the repetition can go on, whatever the expression can do. -/
theorem reaches_enter : (loop g e).Reaches ∅ (threadAt 1 x) ↔ e.Can (fun _ => True) x.1 := by
  have hparts := (parts_anyTimes (g := g) he hadv).reaches_iff (v := ∅) (d := ∅) (t := threadAt 1 x)
    (fun _ h => absurd h (Set.notMem_empty _)) fun _ h => absurd h (Set.notMem_empty _)
  rw [Set.union_empty] at hparts
  exact hparts.trans (reaches_of_carries carries_round)

/-- A round is chosen as if it was the only one. -/
theorem prefers_enter : (loop g e).Prefers ∅ (threadAt 1 x) w ↔
    ∃ z, e.Chooses (fun _ => True) x z ∧
      (loop g e).Prefers ∅ (threadAt (e.codeSize + 1) z) w := by
  have hparts := (parts_anyTimes (g := g) he hadv).prefers_iff (v := ∅) (d := ∅) (t := threadAt 1 x)
    (w := w) (fun _ h => absurd h (Set.notMem_empty _)) fun _ h => absurd h (Set.notMem_empty _)
  rw [Set.union_empty] at hparts
  refine hparts.trans ⟨?_, ?_⟩
  · rintro ⟨u, hu, hw⟩
    obtain ⟨z, hz, rfl⟩ := (prefers_of_carries carries_round).1 hu
    exact ⟨z, hz, hw⟩
  · rintro ⟨z, hz, hw⟩
    exact ⟨_, (prefers_of_carries carries_round).2 ⟨z, hz, rfl⟩, hw⟩

/-- Where a greedy head leads: into the expression or, should that fail, to the end. -/
theorem prefers_greedy (hi : i ∉ body e) (hstop : i ≠ e.codeSize + 2)
    (hnext : (loop true e).next (threadAt i x) = ways true e x) :
    (loop true e).Prefers ∅ (threadAt i x) w ↔ (loop true e).Prefers ∅ (threadAt 1 x) w ∨
      ¬e.Can (fun _ => True) x.1 ∧ w = threadAt (e.codeSize + 2) x := by
  refine (Course.prefers_of_next_pair hnext (clear_enter he hadv hi) (clear_stop hstop)).trans ?_
  rw [reaches_enter he hadv, prefers_stop]

/-- The tail leads where the head does. -/
theorem prefers_last : (loop true e).Prefers ∅ (threadAt (e.codeSize + 1) x) w ↔
    (loop true e).Prefers ∅ (threadAt 0 x) w := by
  have hout : e.codeSize + 1 ∉ body e := not_mem_body_of_lt (Nat.lt_succ_self _)
  have hstop : e.codeSize + 1 ≠ e.codeSize + 2 := by omega
  rcases next_last (g := true) (e := e) (x := x) with hnext | hnext
  · rw [prefers_greedy he hadv hout hstop hnext,
      prefers_greedy he hadv zero_not_mem_body (by omega) next_start]
  · refine Course.prefers_of_next hnext (Course.clear_of_next ?_ fun u hu => ?_)
    · intro hmem
      have haddress : 0 = e.codeSize + 1 := congrArg Prod.fst (Set.mem_singleton_iff.1 hmem)
      omega
    · rw [next_start] at hu
      rcases mem_ways hu with rfl | rfl
      · exact clear_enter he hadv hout
      · exact clear_stop hstop

/-- **A greedy repetition goes one round after the other.**  It chooses what the expression chooses,
and then what it chooses from there on; where the expression cannot go on, it stops. -/
theorem chooses_anyTimes_greedy : (anyTimes true e).Chooses (fun _ => True) x y ↔
    (∃ z, e.Chooses (fun _ => True) x z ∧ (anyTimes true e).Chooses (fun _ => True) z y) ∨
      ¬e.Can (fun _ => True) x.1 ∧ y = x := by
  have hhead := prefers_greedy (w := threadAt (e.codeSize + 2) y) he hadv zero_not_mem_body
    (by omega) (next_start (x := x))
  refine hhead.trans ?_
  rw [prefers_enter he hadv, threadAt_inj]
  simp only [prefers_last he hadv]
  rfl

/-- **A lazy repetition stops at once.** -/
theorem chooses_anyTimes_lazy : (anyTimes false e).Chooses (fun _ => True) x y ↔ y = x := by
  have hstop : 0 ≠ e.codeSize + 2 := (Nat.succ_ne_zero _).symm
  have hhead : (loop false e).Prefers ∅ (threadAt 0 x) (threadAt (e.codeSize + 2) y) ↔ _ :=
    Course.prefers_of_next_pair next_start (clear_stop hstop)
      (clear_enter he hadv zero_not_mem_body)
  refine hhead.trans ?_
  rw [prefers_stop, threadAt_inj]
  refine or_iff_left fun hno => ?_
  exact hno.1 reaches_stop

end Advances

end Expr
end Regex
end TextScan
