/-
# A course in two stages

Some addresses of a course are a stage if a thread that has left them never comes back to a place
that it passed there (`Course.Parts`).  What a thread on the stage prefers can then be had in two
steps: what it prefers on the stage alone, where the ends are the places behind it from which an end
can be reached, and what is preferred from there on, as if nothing had been passed
(`Course.Parts.prefers_iff`).

Places that a thread cannot come back to may be closed (`Course.Clear`): that is why the second step
knows nothing of the first.
-/

import TextScan.Proofs.Regex.PreferredHits

namespace TextScan
namespace Regex
namespace Course

variable {c : Course} {v d : Set (Nat × Spot)} {t u w : Thread}

/-- A thread passes no place of a set, wherever it goes. -/
def Clear (c : Course) (d : Set (Nat × Spot)) (t : Thread) : Prop :=
  ∀ n u, Repeats c.Step n t u → u.place ∉ d

theorem Clear.not_mem (h : c.Clear d t) : t.place ∉ d := h 0 t rfl

theorem Clear.next (h : c.Clear d t) (hu : u ∈ c.next t) : c.Clear d u :=
  fun n w hw => h (n + 1) w ⟨u, hu, hw⟩

theorem clear_of_next (ht : t.place ∉ d) (hnext : ∀ u ∈ c.next t, c.Clear d u) : c.Clear d t := by
  intro n w hw
  cases n with
  | zero =>
    obtain rfl : w = t := hw
    exact ht
  | succ n =>
    obtain ⟨u, hu, hw⟩ := hw
    exact hnext u hu n w hw

theorem Clear.reaches_iff (h : c.Clear d t) : c.Reaches (v ∪ d) t ↔ c.Reaches v t := by
  refine ⟨fun hr => hr.mono Set.subset_union_left, fun hr => ?_⟩
  induction hr with
  | here hopen hgoal => exact .here (fun hx => hx.elim hopen h.not_mem) hgoal
  | step hopen hnext _ ih => exact .step (fun hx => hx.elim hopen h.not_mem) hnext (ih (h.next hnext))

/-- Closing places that a thread does not pass makes no difference to it. -/
theorem Clear.prefers_iff (h : c.Clear d t) : c.Prefers (v ∪ d) t w ↔ c.Prefers v t w := by
  constructor
  · intro hp
    generalize hvd : v ∪ d = vd at hp
    induction hp generalizing v with
    | here hopen hgoal =>
      subst hvd
      exact .here (fun hx => hopen (Or.inl hx)) hgoal
    | @step _ t u w before after hopen hnext hbefore _ ih =>
      subst hvd
      refine .step (fun hx => hopen (Or.inl hx)) hnext (fun x hx hr => hbefore x hx ?_)
        (ih (h.next (by simp [hnext])) Set.insert_union)
      rw [← Set.insert_union]
      exact (h.next (by simp [hnext, hx])).reaches_iff.2 hr
  · intro hp
    induction hp with
    | here hopen hgoal => exact .here (fun hx => hx.elim hopen h.not_mem) hgoal
    | @step v t u w before after hopen hnext hbefore _ ih =>
      refine .step (fun hx => hx.elim hopen h.not_mem) hnext (fun x hx hr => ?_) ?_
      · rw [← Set.insert_union] at hr
        exact hbefore x hx ((h.next (by simp [hnext, hx])).reaches_iff.1 hr)
      · rw [← Set.insert_union]
        exact ih (h.next (by simp [hnext]))

section Ways

variable {u' : Thread}

theorem reaches_of_next (hnext : c.next t = [u]) : c.Reaches ∅ t ↔ c.Reaches ∅ u := by
  refine ⟨fun h => ?_, fun h => .step (Set.notMem_empty _) (by simp [hnext]) h⟩
  obtain ⟨w, hw, hr⟩ := h.exists_next fun hgoal => by simp [c.next_of_goal hgoal] at hnext
  rw [hnext] at hw
  obtain rfl := List.mem_singleton.1 hw
  exact hr.mono (Set.empty_subset _)

/-- A step to a thread that does not come back. -/
theorem prefers_of_next (hnext : c.next t = [u]) (hu : c.Clear {t.place} u) :
    c.Prefers ∅ t w ↔ c.Prefers ∅ u w := by
  have hclear : c.Prefers (insert t.place ∅) u w ↔ c.Prefers ∅ u w := by
    rw [insert_empty_eq, ← Set.empty_union {t.place}, hu.prefers_iff]
  have hsplit : c.next t = [] ++ u :: [] := hnext
  refine ⟨fun h => ?_, fun h => .step (Set.notMem_empty _) hsplit
    (fun _ hx => absurd hx List.not_mem_nil) (hclear.2 h)⟩
  cases h with
  | here _ hgoal => simp [c.next_of_goal hgoal] at hnext
  | step _ hnext' _ hrest =>
    rw [hnext] at hnext'
    obtain ⟨rfl, h⟩ | ⟨_, _, h⟩ := List.cons_eq_append_iff.1 hnext'
    · obtain ⟨rfl, -⟩ := List.cons.inj h
      exact hclear.1 hrest
    · simp at h

theorem reaches_of_next_pair (hnext : c.next t = [u, u']) :
    c.Reaches ∅ t ↔ c.Reaches ∅ u ∨ c.Reaches ∅ u' := by
  constructor
  · intro h
    obtain ⟨w, hw, hr⟩ := h.exists_next fun hgoal => by simp [c.next_of_goal hgoal] at hnext
    rw [hnext] at hw
    rcases List.mem_cons.1 hw with rfl | hw
    · exact Or.inl (hr.mono (Set.empty_subset _))
    · obtain rfl := List.mem_singleton.1 hw
      exact Or.inr (hr.mono (Set.empty_subset _))
  · rintro (h | h)
    · exact .step (Set.notMem_empty _) (by simp [hnext]) h
    · exact .step (Set.notMem_empty _) (by simp [hnext]) h

/-- Of two threads that do not come back the second one is preferred only where the first one leads to
no end. -/
theorem prefers_of_next_pair (hnext : c.next t = [u, u']) (hu : c.Clear {t.place} u)
    (hu' : c.Clear {t.place} u') :
    c.Prefers ∅ t w ↔ c.Prefers ∅ u w ∨ ¬c.Reaches ∅ u ∧ c.Prefers ∅ u' w := by
  have hplace : insert t.place (∅ : Set (Nat × Spot)) = ∅ ∪ {t.place} := by
    rw [insert_empty_eq, Set.empty_union]
  constructor
  · intro h
    cases h with
    | here _ hgoal => simp [c.next_of_goal hgoal] at hnext
    | step _ hnext' hbefore hrest =>
      rw [hplace] at hbefore hrest
      rw [hnext] at hnext'
      obtain ⟨rfl, h⟩ | ⟨before, rfl, h⟩ := List.cons_eq_append_iff.1 hnext'
      · obtain ⟨rfl, -⟩ := List.cons.inj h
        exact Or.inl (hu.prefers_iff.1 hrest)
      · have hno := hbefore u List.mem_cons_self
        rw [hu.reaches_iff] at hno
        obtain ⟨rfl, h⟩ | ⟨_, _, h⟩ := List.cons_eq_append_iff.1 h
        · obtain ⟨rfl, -⟩ := List.cons.inj h
          exact Or.inr ⟨hno, hu'.prefers_iff.1 hrest⟩
        · simp at h
  · rintro (h | ⟨hno, h⟩)
    · have hsplit : c.next t = [] ++ u :: [u'] := hnext
      refine .step (Set.notMem_empty _) hsplit (fun _ hx => absurd hx List.not_mem_nil) ?_
      rw [hplace]
      exact hu.prefers_iff.2 h
    · have hsplit : c.next t = [u] ++ u' :: [] := hnext
      refine .step (Set.notMem_empty _) hsplit (fun x hx => ?_) ?_
      · obtain rfl := List.mem_singleton.1 hx
        rwa [hplace, hu.reaches_iff]
      · rw [hplace]
        exact hu'.prefers_iff.2 h

end Ways

/-- A course at some of its addresses: its ends are the places behind these that have a property. -/
noncomputable def within (c : Course) (b : Set Nat) (k : Nat × Spot → Prop) : Course where
  next t := open Classical in if t.address ∈ b then c.next t else []
  goal t := t.address ∉ b ∧ k t.place
  map_place_next {t u} h := by
    rw [show t.address = u.address from congrArg Prod.fst h]
    split
    · exact c.map_place_next h
    · rfl
  goal_iff {t u} h := by rw [show t.address = u.address from congrArg Prod.fst h, h]
  next_of_goal h := if_neg h.1

theorem next_within {b : Set Nat} {k : Nat × Spot → Prop} (ht : t.address ∈ b) :
    (c.within b k).next t = c.next t := if_pos ht

/-- The addresses `b` of a course have no end among them, and a thread that leaves them does not come
back to the places that it has passed; what can have been passed on the way to a thread is kept track
of by `passed`. -/
structure Parts (c : Course) (b : Set Nat) (passed : Set (Nat × Spot) → Thread → Prop) : Prop where
  goal : ∀ {t : Thread}, t.address ∈ b → ¬c.goal t
  subset : ∀ {d d' : Set (Nat × Spot)} {t : Thread}, d ⊆ d' → passed d' t → passed d t
  step : ∀ {d : Set (Nat × Spot)} {t u : Thread}, passed d t → t.address ∈ b → u ∈ c.next t →
    passed (insert t.place d) u
  leave : ∀ {d : Set (Nat × Spot)} {t : Thread}, passed d t → t.address ∉ b → c.Clear d t

namespace Parts

variable {b : Set Nat} {passed : Set (Nat × Spot) → Thread → Prop}

/-- The places from which an end can be reached. -/
def live (c : Course) (v : Set (Nat × Spot)) (x : Nat × Spot) : Prop := c.Reaches v ⟨x.1, x.2, []⟩

theorem live_place : live c v t.place ↔ c.Reaches v t :=
  ⟨fun h => h.of_place rfl, fun h => h.of_place rfl⟩

variable (h : c.Parts b passed) (hv : ∀ x ∈ v, x.1 ∉ b)

include h hv

theorem reaches_iff (hd : passed d t) :
    c.Reaches (v ∪ d) t ↔ (c.within b (live c v)).Reaches d t := by
  constructor
  · intro hr
    induction hr with
    | here hopen hgoal =>
      exact .here (fun hx => hopen (Or.inr hx)) ⟨fun hb => h.goal hb hgoal,
        live_place.2 (.here (fun hx => hopen (Or.inl hx)) hgoal)⟩
    | @step t u hopen hnext hrest ih =>
      have hd' : t.place ∉ d := fun hx => hopen (Or.inr hx)
      by_cases hb : t.address ∈ b
      · refine .step hd' (by rwa [next_within hb]) (ih ?_)
        exact h.subset (Set.subset_insert _ _) (h.step hd hb hnext)
      · exact .here hd' ⟨hb, live_place.2 (.step (fun hx => hopen (Or.inl hx)) hnext
          (hrest.mono Set.subset_union_left))⟩
  · intro hr
    induction hr with
    | here hopen hgoal => exact (h.leave hd hgoal.1).reaches_iff.2 (live_place.1 hgoal.2)
    | @step t u hopen hnext _ ih =>
      by_cases hb : t.address ∈ b
      · rw [next_within hb] at hnext
        exact .step (fun hx => hx.elim (fun hx => hv _ hx hb) hopen) hnext
          (ih (h.subset (Set.subset_insert _ _) (h.step hd hb hnext)))
      · rw [show (c.within b (live c v)).next t = [] from if_neg hb] at hnext
        exact absurd hnext List.not_mem_nil

/-- **What is preferred in two stages.** -/
theorem prefers_iff (hd : passed d t) :
    c.Prefers (v ∪ d) t w ↔ ∃ y, (c.within b (live c v)).Prefers d t y ∧ c.Prefers v y w := by
  constructor
  · intro hp
    generalize hvd : v ∪ d = vd at hp
    induction hp generalizing d with
    | @here _ t hopen hgoal =>
      subst hvd
      have hv' : t.place ∉ v := fun hx => hopen (Or.inl hx)
      exact ⟨t, .here (fun hx => hopen (Or.inr hx)) ⟨fun hb => h.goal hb hgoal,
        live_place.2 (.here hv' hgoal)⟩, .here hv' hgoal⟩
    | @step _ t u w before after hopen hnext hbefore hrest ih =>
      subst hvd
      have hd' : t.place ∉ d := fun hx => hopen (Or.inr hx)
      by_cases hb : t.address ∈ b
      · have hpassed : ∀ x ∈ before ++ u :: after, passed (insert t.place d) x := fun x hx =>
          h.step hd hb (hnext ▸ hx)
        obtain ⟨y, hy, hw⟩ := ih (d := insert t.place d) (hpassed u (by simp)) Set.union_insert
        refine ⟨y, .step hd' ((next_within hb).trans hnext) (fun x hx hr => hbefore x hx ?_) hy, hw⟩
        rw [← Set.union_insert]
        exact (h.reaches_iff hv (hpassed x (by simp [hx]))).2 hr
      · have hp := (h.leave hd hb).prefers_iff.1 (.step hopen hnext hbefore hrest)
        exact ⟨t, .here hd' ⟨hb, live_place.2 hp.reaches⟩, hp⟩
  · rintro ⟨y, hy, hw⟩
    induction hy with
    | here hopen hgoal => exact (h.leave hd hgoal.1).prefers_iff.2 hw
    | @step d t u y before after hopen hnext hbefore _ ih =>
      by_cases hb : t.address ∈ b
      · rw [next_within hb] at hnext
        have hpassed : ∀ x ∈ before ++ u :: after, passed (insert t.place d) x := fun x hx =>
          h.step hd hb (hnext ▸ hx)
        refine .step (fun hx => hx.elim (fun hx => hv _ hx hb) hopen) hnext (fun x hx hr => ?_) ?_
        · rw [← Set.union_insert] at hr
          exact hbefore x hx ((h.reaches_iff hv (hpassed x (by simp [hx]))).1 hr)
        · rw [← Set.union_insert]
          exact ih (hpassed u (by simp)) hw
      · rw [show (c.within b (live c v)).next t = [] from if_neg hb] at hnext
        exact absurd hnext (by simp)

end Parts

/-- Addresses that are never come back to are a stage. -/
theorem parts_of_no_return {b : Set Nat} (hgoal : ∀ {t : Thread}, t.address ∈ b → ¬c.goal t)
    (hback : ∀ {t u : Thread}, t.address ∉ b → u ∈ c.next t → u.address ∉ b) :
    c.Parts b fun d _ => ∀ x ∈ d, x.1 ∈ b where
  goal := hgoal
  subset hvd hd x hx := hd x (hvd hx)
  step hd ht _ x hx := hx.elim (fun hx => hx ▸ ht) (hd x)
  leave {d t} hd ht n u hu hmem := by
    have hout : u.address ∉ b :=
      hu.keep (p := fun u => u.address ∉ b) (fun hx hstep => hback hx hstep) ht
    exact hout (hd _ hmem)

end Course
end Regex
end TextScan
