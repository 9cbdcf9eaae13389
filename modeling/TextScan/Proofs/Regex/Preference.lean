/-
# What a search prefers

Threads that may go on in several ways try the first way first, and give it up where it only leads
back to a place that was passed before.  `Course.Prefers v t w` says which end `w` a thread `t` comes
to in this way, if the places in `v` are closed to it: every thread on the way is the first in its
list from which an end can still be reached (`Course.Reaches`).

The definition speaks of the places on the way and of no others.  That those visited in vain are
closed as well makes no difference: an end cannot be reached from them (`Dead`,
`prefers_union_dead`).  So an exploration comes to the preferred end of the first of its threads that
has one (`prefers_of_explore`).

Nothing depends on how the places are called.  A map between two courses that keeps the ways on,
the ends and the places apart carries preferences over (`Carries.prefers_iff`).
-/

import TextScan.Proofs.Regex.Exploration

namespace TextScan
namespace Regex

/-- Where a thread goes on, preferred first, and where it comes to an end.  Both depend on the place
of the thread alone. -/
structure Course where
  next : Thread → List Thread
  goal : Thread → Prop
  map_place_next : ∀ {t u : Thread}, t.place = u.place →
    (next t).map Thread.place = (next u).map Thread.place
  goal_iff : ∀ {t u : Thread}, t.place = u.place → (goal t ↔ goal u)
  next_of_goal : ∀ {t : Thread}, goal t → next t = []

namespace Course

variable {c c' : Course} {v d : Set (Nat × Spot)} {t u w w' : Thread}

/-- A thread goes on as another one. -/
def Step (c : Course) (t u : Thread) : Prop := u ∈ c.next t

/-- A thread can reach an end past none of the places in a set. -/
inductive Reaches (c : Course) (v : Set (Nat × Spot)) : Thread → Prop where
  | here {t : Thread} (hopen : t.place ∉ v) (hgoal : c.goal t) : Reaches c v t
  | step {t u : Thread} (hopen : t.place ∉ v) (hnext : u ∈ c.next t) (hrest : Reaches c v u) :
      Reaches c v t

/-- The end that a thread comes to if it always takes the first way from which an end can still be
reached, past none of the places in a set and none that it passed before. -/
inductive Prefers (c : Course) : Set (Nat × Spot) → Thread → Thread → Prop where
  | here {v : Set (Nat × Spot)} {t : Thread} (hopen : t.place ∉ v) (hgoal : c.goal t) :
      Prefers c v t t
  | step {v : Set (Nat × Spot)} {t u w : Thread} {before after : List Thread}
      (hopen : t.place ∉ v) (hnext : c.next t = before ++ u :: after)
      (hbefore : ∀ x ∈ before, ¬Reaches c (insert t.place v) x)
      (hrest : Prefers c (insert t.place v) u w) : Prefers c v t w

/-! ## Ways to an end -/

theorem Reaches.not_mem (h : c.Reaches v t) : t.place ∉ v := by
  cases h with
  | here hopen _ => exact hopen
  | step hopen _ _ => exact hopen

/-- With fewer places closed an end can still be reached. -/
theorem Reaches.mono (h : c.Reaches d t) (hvd : v ⊆ d) : c.Reaches v t := by
  induction h with
  | here hopen hgoal => exact .here (fun hv => hopen (hvd hv)) hgoal
  | step hopen hnext _ ih => exact .step (fun hv => hopen (hvd hv)) hnext ih

/-- A way to an end either leaves a place out, or goes on from it the last time it is there. -/
theorem Reaches.leave (h : c.Reaches v t) (x : Nat × Spot) :
    c.Reaches (insert x v) t ∨ ∃ u, u.place = x ∧
      (c.goal u ∨ ∃ w ∈ c.next u, c.Reaches (insert x v) w) := by
  induction h with
  | @here t hopen hgoal =>
    by_cases hx : t.place = x
    · exact Or.inr ⟨t, hx, Or.inl hgoal⟩
    · exact Or.inl (.here (by simp [hx, hopen]) hgoal)
  | @step t u hopen hnext _ ih =>
    rcases ih with hu | hlast
    · by_cases hx : t.place = x
      · exact Or.inr ⟨t, hx, Or.inr ⟨u, hnext, hu⟩⟩
      · exact Or.inl (.step (by simp [hx, hopen]) hnext hu)
    · exact Or.inr hlast

/-- Whether an end can be reached depends on the place alone. -/
theorem Reaches.of_place (h : c.Reaches v t) (hp : t.place = u.place) : c.Reaches v u := by
  induction h generalizing u with
  | here hopen hgoal => exact .here (hp ▸ hopen) ((c.goal_iff hp).1 hgoal)
  | @step t w hopen hnext _ ih =>
    have hmem := List.mem_map_of_mem (f := Thread.place) hnext
    rw [c.map_place_next hp] at hmem
    obtain ⟨w', hw', hww⟩ := List.mem_map.1 hmem
    exact .step (hp ▸ hopen) hw' (ih hww.symm)

/-- A way to an end need not come back to the place where it starts. -/
theorem Reaches.exists_next (h : c.Reaches v t) (hgoal : ¬c.goal t) :
    ∃ u ∈ c.next t, c.Reaches (insert t.place v) u := by
  rcases h.leave t.place with hself | ⟨u, hu, hend | ⟨w, hw, hreach⟩⟩
  · exact absurd (Set.mem_insert _ _) hself.not_mem
  · exact absurd ((c.goal_iff hu).1 hend) hgoal
  · have hmem := List.mem_map_of_mem (f := Thread.place) hw
    rw [c.map_place_next hu] at hmem
    obtain ⟨w', hw', hww⟩ := List.mem_map.1 hmem
    exact ⟨w', hw', hreach.of_place hww.symm⟩

/-- From one place the same steps lead to one place. -/
theorem exists_repeats_of_place {n : Nat} (h : Repeats c.Step n t w) (hp : t.place = u.place) :
    ∃ w', Repeats c.Step n u w' ∧ w'.place = w.place := by
  induction n generalizing t u with
  | zero =>
    obtain rfl : w = t := h
    exact ⟨u, rfl, hp.symm⟩
  | succ n ih =>
    obtain ⟨t', ht', h⟩ := h
    have hmem := List.mem_map_of_mem (f := Thread.place) ht'
    rw [c.map_place_next hp] at hmem
    obtain ⟨u', hu', hplace⟩ := List.mem_map.1 hmem
    obtain ⟨w', hw', hw⟩ := ih h hplace.symm
    exact ⟨w', ⟨u', hu', hw'⟩, hw⟩

/-! ## The preferred way -/

theorem Prefers.reaches (h : c.Prefers v t w) : c.Reaches v t := by
  induction h with
  | here hopen hgoal => exact .here hopen hgoal
  | step hopen hnext _ _ ih =>
    exact .step hopen (by simp [hnext]) (ih.mono (Set.subset_insert _ _))

/-- The preferred end is come to in steps. -/
theorem Prefers.repeats (h : c.Prefers v t w) : ∃ n, Repeats c.Step n t w := by
  induction h with
  | here => exact ⟨0, rfl⟩
  | step _ hnext _ _ ih =>
    obtain ⟨n, hn⟩ := ih
    exact ⟨n + 1, _, by simp [Step, hnext], hn⟩

theorem Prefers.goal (h : c.Prefers v t w) : c.goal w := by
  induction h with
  | here _ hgoal => exact hgoal
  | step _ _ _ _ ih => exact ih

/-- The first of two lists that have one first member with a property. -/
theorem append_cons_unique {α : Type} {p : α → Prop} {a a' b b' : List α} {x x' : α}
    (h : a ++ x :: b = a' ++ x' :: b') (hx : p x) (hx' : p x') (ha : ∀ y ∈ a, ¬p y)
    (ha' : ∀ y ∈ a', ¬p y) : a = a' ∧ x = x' := by
  induction a generalizing a' with
  | nil =>
    cases a' with
    | nil => exact ⟨rfl, (List.cons.inj h).1⟩
    | cons y a' => exact absurd ((List.cons.inj h).1 ▸ hx) (ha' y List.mem_cons_self)
  | cons y a ih =>
    cases a' with
    | nil => exact absurd ((List.cons.inj h).1 ▸ hx') (ha y List.mem_cons_self)
    | cons z a' =>
      obtain ⟨rfl, hrest⟩ := List.cons.inj h
      obtain ⟨rfl, rfl⟩ := ih hrest (fun z hz => ha z (List.mem_cons_of_mem _ hz))
        fun z hz => ha' z (List.mem_cons_of_mem _ hz)
      exact ⟨rfl, rfl⟩

/-- A thread prefers one end. -/
theorem Prefers.unique (h : c.Prefers v t w) (h' : c.Prefers v t w') : w = w' := by
  induction h with
  | here _ hgoal =>
    cases h' with
    | here _ _ => rfl
    | step _ hnext _ _ => simp [c.next_of_goal hgoal] at hnext
  | step _ hnext hbefore hrest ih =>
    cases h' with
    | here _ hgoal => simp [c.next_of_goal hgoal] at hnext
    | step _ hnext' hbefore' hrest' =>
      obtain ⟨-, rfl⟩ := append_cons_unique (hnext.symm.trans hnext') hrest.reaches hrest'.reaches
        hbefore hbefore'
      exact ih hrest'

/-! ## Places from which no end can be reached -/

/-- No end can be reached from any place of a set. -/
def Dead (c : Course) (v d : Set (Nat × Spot)) : Prop := ∀ t : Thread, t.place ∈ d → ¬c.Reaches v t

theorem Dead.mono (h : c.Dead v d) {v' : Set (Nat × Spot)} (hv : v ⊆ v') : c.Dead v' d :=
  fun t ht hreach => h t ht (hreach.mono hv)

/-- Closing dead places does not close a way to an end. -/
theorem reaches_union_dead (h : c.Dead v d) : c.Reaches (v ∪ d) t ↔ c.Reaches v t := by
  refine ⟨fun hreach => hreach.mono Set.subset_union_left, fun hreach => ?_⟩
  induction hreach with
  | here hopen hgoal => exact .here (fun hv => hv.elim hopen fun hd => h _ hd (.here hopen hgoal)) hgoal
  | step hopen hnext hrest ih =>
    exact .step (fun hv => hv.elim hopen fun hd => h _ hd (.step hopen hnext hrest)) hnext ih

/-- **Closing dead places does not change what is preferred.** -/
theorem prefers_union_dead (h : c.Dead v d) : c.Prefers (v ∪ d) t w ↔ c.Prefers v t w := by
  constructor
  · intro hp
    generalize hvd : v ∪ d = vd at hp
    induction hp generalizing v with
    | here hopen hgoal =>
      subst hvd
      exact .here (fun hv => hopen (Or.inl hv)) hgoal
    | @step _ t u w before after hopen hnext hbefore _ ih =>
      subst hvd
      have hdead := h.mono (Set.subset_insert t.place v)
      refine .step (fun hv => hopen (Or.inl hv)) hnext (fun x hx hreach => hbefore x hx ?_)
        (ih hdead (Set.insert_union ..))
      rw [← Set.insert_union]
      exact (reaches_union_dead hdead).2 hreach
  · intro hp
    induction hp with
    | here hopen hgoal =>
      exact .here (fun hv => hv.elim hopen fun hd => h _ hd (.here hopen hgoal)) hgoal
    | @step v t u w before after hopen hnext hbefore hrest ih =>
      have hdead := h.mono (Set.subset_insert t.place v)
      have hreach := (Prefers.step hopen hnext hbefore hrest).reaches
      refine .step (fun hv => hv.elim hopen fun hd => h _ hd hreach) hnext ?_ ?_
      · intro x hx hreach
        rw [← Set.insert_union] at hreach
        exact hbefore x hx ((reaches_union_dead hdead).1 hreach)
      · rw [← Set.insert_union]
        exact ih hdead

/-- A place from which no end can be reached may be closed. -/
theorem dead_singleton (h : ¬c.Reaches v t) : c.Dead v {t.place} := fun _ hu hreach =>
  h (hreach.of_place (Set.mem_singleton_iff.1 hu))

/-- Whether a place is dead is seen by the ways on from it. -/
theorem not_reaches_of_next (hgoal : ¬c.goal t)
    (h : ∀ u ∈ c.next t, ¬c.Reaches (insert t.place v) u) : ¬c.Reaches v t := fun hreach => by
  obtain ⟨u, hu, hreach⟩ := hreach.exists_next hgoal
  exact h u hu hreach

/-! ## One course carried to another -/

/-- A map from the threads of one course to those of another keeps the ways on, the ends and the
places of all threads with a property apart, and a thread with the property goes on with it. -/
structure Carries (c c' : Course) (f : Thread → Thread) (inv : Thread → Prop) : Prop where
  keep : ∀ {t u : Thread}, inv t → u ∈ c.next t → inv u
  next : ∀ {t : Thread}, inv t → c'.next (f t) = (c.next t).map f
  goal : ∀ {t : Thread}, inv t → (c'.goal (f t) ↔ c.goal t)
  place : ∀ {t u : Thread}, inv t → inv u → ((f t).place = (f u).place ↔ t.place = u.place)

namespace Carries

variable {f : Thread → Thread} {inv : Thread → Prop} {v' : Set (Nat × Spot)}

/-- What is closed to threads with a property is closed to their images. -/
def Matched (f : Thread → Thread) (inv : Thread → Prop) (v v' : Set (Nat × Spot)) : Prop :=
  ∀ {t : Thread}, inv t → ((f t).place ∈ v' ↔ t.place ∈ v)

theorem Matched.insert (h : Carries c c' f inv) (hv : Matched f inv v v') (ht : inv t) :
    Matched f inv (insert t.place v) (insert (f t).place v') := fun {u} hu => by
  rw [Set.mem_insert_iff, Set.mem_insert_iff, h.place hu ht, hv hu]

/-- Steps from an image are images of steps. -/
theorem exists_of_repeats (h : Carries c c' f inv) (ht : inv t) {n : Nat}
    (hw : Repeats c'.Step n (f t) w') : ∃ w, inv w ∧ Repeats c.Step n t w ∧ w' = f w := by
  induction n generalizing t with
  | zero => exact ⟨t, ht, rfl, hw⟩
  | succ n ih =>
    obtain ⟨u', hu', hw⟩ := hw
    rw [Step, h.next ht] at hu'
    obtain ⟨u, hu, rfl⟩ := List.mem_map.1 hu'
    obtain ⟨w, hinv, hrest, rfl⟩ := ih (h.keep ht hu) hw
    exact ⟨w, hinv, ⟨u, hu, hrest⟩, rfl⟩

theorem reaches_iff (h : Carries c c' f inv) (hv : Matched f inv v v') (ht : inv t) :
    c'.Reaches v' (f t) ↔ c.Reaches v t := by
  constructor
  · intro hreach
    generalize hft : f t = ft at hreach
    induction hreach generalizing t with
    | here hopen hgoal =>
      subst hft
      exact .here (fun hc => hopen ((hv ht).2 hc)) ((h.goal ht).1 hgoal)
    | @step _ u hopen hnext _ ih =>
      subst hft
      rw [h.next ht] at hnext
      obtain ⟨u, hu, rfl⟩ := List.mem_map.1 hnext
      exact .step (fun hc => hopen ((hv ht).2 hc)) hu (ih (h.keep ht hu) rfl)
  · intro hreach
    induction hreach with
    | here hopen hgoal => exact .here (fun hc => hopen ((hv ht).1 hc)) ((h.goal ht).2 hgoal)
    | @step t u hopen hnext _ ih =>
      refine .step (fun hc => hopen ((hv ht).1 hc)) ?_ (ih (h.keep ht hnext))
      rw [h.next ht]
      exact List.mem_map_of_mem hnext

/-- **Preferences are carried over.** -/
theorem prefers_iff (h : Carries c c' f inv) (hv : Matched f inv v v') (ht : inv t) :
    c'.Prefers v' (f t) w' ↔ ∃ w, c.Prefers v t w ∧ w' = f w := by
  constructor
  · intro hp
    generalize hft : f t = ft at hp
    induction hp generalizing t v with
    | here hopen hgoal =>
      subst hft
      exact ⟨t, .here (fun hc => hopen ((hv ht).2 hc)) ((h.goal ht).1 hgoal), rfl⟩
    | @step _ _ u w' before after hopen hnext hbefore _ ih =>
      subst hft
      rw [h.next ht] at hnext
      obtain ⟨before, rest, hsplit, rfl, hrest⟩ := List.map_eq_append_iff.1 hnext
      obtain ⟨u, after, rfl, rfl, rfl⟩ := List.map_eq_cons_iff.1 hrest
      have hinv : ∀ x ∈ before ++ u :: after, inv x := fun x hx => h.keep ht (hsplit ▸ hx)
      have hu : inv u := hinv u (by simp)
      obtain ⟨w, hw, rfl⟩ := ih (Matched.insert h hv ht) hu rfl
      refine ⟨w, .step (fun hc => hopen ((hv ht).2 hc)) hsplit (fun x hx hreach => ?_) hw, rfl⟩
      refine hbefore (f x) (List.mem_map_of_mem hx) ?_
      exact (h.reaches_iff (Matched.insert h hv ht) (hinv x (List.mem_append_left _ hx))).2 hreach
  · rintro ⟨w, hp, rfl⟩
    induction hp generalizing v' with
    | here hopen hgoal => exact .here (fun hc => hopen ((hv ht).1 hc)) ((h.goal ht).2 hgoal)
    | @step v t u w before after hopen hnext hbefore _ ih =>
      have hinv : ∀ x ∈ before ++ u :: after, inv x := fun x hx => h.keep ht (hnext ▸ hx)
      have hsplit : c'.next (f t) = before.map f ++ f u :: after.map f := by
        rw [h.next ht, hnext, List.map_append, List.map_cons]
      refine .step (fun hc => hopen ((hv ht).1 hc)) hsplit (fun y hy hreach => ?_)
        (ih (Matched.insert h hv ht) (hinv u (by simp)))
      obtain ⟨x, hx, rfl⟩ := List.mem_map.1 hy
      refine hbefore x hx ?_
      exact (h.reaches_iff (Matched.insert h hv ht) (hinv x (List.mem_append_left _ hx))).1 hreach

/-- Where nothing is closed on either side, the same can be reached. -/
theorem reaches_empty_iff (h : Carries c c' f inv) (ht : inv t) :
    c'.Reaches ∅ (f t) ↔ c.Reaches ∅ t := h.reaches_iff (fun _ => Iff.rfl) ht

/-- Where nothing is closed on either side, the same is preferred. -/
theorem prefers_empty_iff (h : Carries c c' f inv) (ht : inv t) (w' : Thread) :
    c'.Prefers ∅ (f t) w' ↔ ∃ w, c.Prefers ∅ t w ∧ w' = f w := h.prefers_iff (fun _ => Iff.rfl) ht

end Carries
end Course
end Regex
end TextScan
