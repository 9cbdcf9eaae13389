/-
# What an exploration finds

`explore` drops a thread at a place that another one has visited.  Nothing is lost by that, because
where a thread can go does not depend on what it remembers (`map_place_next`), and the places
visited stay closed: wherever a thread goes from a visited place is visited, or waits in the list of
threads (`Closed`).  So an exploration that fails has visited everything that can be reached, and no
accepting address among it (`Closed.not_accepts`).  One that succeeds has got there step by step
(`reaches_of_explore`).

The fuel is enough if it covers the threads in the list and two steps for every place that is not
visited yet: each new visit puts at most two threads into the list (`closed_of_explore`).
-/

import TextScan.Proofs.Regex.Layout
import TextScan.Proofs.Regex.Visited

namespace TextScan
namespace Regex

/-- Where a thread is, without what it remembers. -/
def Thread.place (t : Thread) : Nat × Spot := (t.address, t.spot)

/-- Where an instruction leads to does not depend on what is remembered. -/
theorem map_place_next (i : Inst) {t u : Thread} (h : t.place = u.place) :
    (i.next t).map Thread.place = (i.next u).map Thread.place := by
  obtain ⟨ha, hs⟩ := Prod.mk.inj h
  cases i with
  | char c =>
    simp only [Inst.next, ha, hs]
    cases u.spot.rest with
    | nil => rfl
    | cons d r => by_cases hd : c = d <;> simp [hd, Thread.place]
  | oneOf s =>
    simp only [Inst.next, ha, hs]
    cases u.spot.rest with
    | nil => rfl
    | cons d r => by_cases hd : s.contains d = true <;> simp [hd, Thread.place]
  | anchor a =>
    simp only [Inst.next, ha, hs]
    by_cases hk : a.holds u.spot = true <;> simp [hk, Thread.place]
  | mark slot => simp [Inst.next, Thread.place, ha, hs]
  | jump target => simp [Inst.next, Thread.place, hs]
  | fork first second => simp [Inst.next, Thread.place, hs]
  | accept => rfl

theorem length_next_le (i : Inst) (t : Thread) : (i.next t).length ≤ 2 := by
  unfold Inst.next
  split
  · split
    · simp
    · split <;> simp
  · split
    · simp
    · split <;> simp
  · split <;> simp
  all_goals simp

/-- Threads go from spot to spot of a text. -/
theorem isIn_of_mem_next {i : Inst} {t u : Thread} {input : Text} (ht : t.spot.IsIn input)
    (h : u ∈ i.next t) : u.spot.IsIn input := by
  cases i with
  | char c =>
    unfold Inst.next at h
    cases hrest : t.spot.rest with
    | nil => simp [hrest] at h
    | cons d r =>
      simp only [hrest] at h
      split at h
      · obtain rfl := List.mem_singleton.1 h
        exact ht.past hrest
      · simp at h
  | oneOf s =>
    unfold Inst.next at h
    cases hrest : t.spot.rest with
    | nil => simp [hrest] at h
    | cons d r =>
      simp only [hrest] at h
      split at h
      · obtain rfl := List.mem_singleton.1 h
        exact ht.past hrest
      · simp at h
  | anchor a =>
    unfold Inst.next at h
    dsimp only at h
    split at h
    · obtain rfl := List.mem_singleton.1 h
      exact ht
    · simp at h
  | mark slot =>
    obtain rfl := List.mem_singleton.1 h
    exact ht
  | jump target =>
    obtain rfl := List.mem_singleton.1 h
    exact ht
  | fork first second =>
    simp only [Inst.next, List.mem_cons, List.not_mem_nil, or_false] at h
    rcases h with rfl | rfl
    · exact ht
    · exact ht
  | accept => exact absurd h List.not_mem_nil

variable {p : Program} {input : Text} {ts : List Thread} {v v' : Visited} {fuel : Nat}

/-- What an exploration finds can be reached from one of its threads, and accepts. -/
theorem reaches_of_explore {t : Thread} (h : explore p fuel ts v = .ok t) :
    p[t.address]? = some .accept ∧ ∃ u ∈ ts, ∃ n, Repeats p.Step n u t := by
  induction fuel generalizing ts v with
  | zero => simp [explore] at h
  | succ fuel ih =>
    cases ts with
    | nil => simp [explore] at h
    | cons w ts =>
      have hlater : ∀ {v}, explore p fuel ts v = .ok t → p[t.address]? = some .accept ∧
          ∃ u ∈ w :: ts, ∃ n, Repeats p.Step n u t := fun h => by
        obtain ⟨ha, u, hu, hn⟩ := ih h
        exact ⟨ha, u, List.mem_cons_of_mem w hu, hn⟩
      rw [explore] at h
      split at h
      · exact hlater h
      · split at h
        · exact hlater h
        · rename_i hacc
          obtain rfl := Except.ok.inj h
          exact ⟨hacc, w, List.mem_cons_self, 0, rfl⟩
        · rename_i i _ hi
          obtain ⟨ha, u, hu, n, hn⟩ := ih h
          refine ⟨ha, ?_⟩
          rcases List.mem_append.1 hu with hu | hu
          · exact ⟨w, List.mem_cons_self, n + 1, u, ⟨i, hi, hu⟩, hn⟩
          · exact ⟨u, List.mem_cons_of_mem w hu, n, hn⟩

/-- A place is taken care of: it is no address of the program, or visited, or that of a thread that
waits. -/
def Seen (p : Program) (v : Visited) (ts : List Thread) (x : Nat × Spot) : Prop :=
  p[x.1]? = none ∨ v.has x.1 x.2.offset = true ∨ ∃ w ∈ ts, w.place = x

/-- Every way on from a visited place is taken care of, and no visited place accepts. -/
structure Closed (p : Program) (input : Text) (v : Visited) (ts : List Thread) : Prop where
  next : ∀ {t u : Thread}, t.spot.IsIn input → v.has t.address t.spot.offset = true →
    p.Step t u → Seen p v ts u.place
  rejects : ∀ {t : Thread}, t.spot.IsIn input → v.has t.address t.spot.offset = true →
    p[t.address]? ≠ some .accept

theorem closed_none (p : Program) (input : Text) (n : Nat) :
    Closed p input (Visited.none p n) [] := by
  refine ⟨fun {t u} _ h _ => ?_, fun {t} _ h => ?_⟩
  · rw [Visited.has_none] at h
    exact absurd h Bool.false_ne_true
  · rw [Visited.has_none] at h
    exact absurd h Bool.false_ne_true

/-- A thread whose place is taken care of without it can be dropped. -/
theorem Seen.drop {t : Thread} {x : Nat × Spot} (ht : Seen p v ts t.place)
    (h : Seen p v (t :: ts) x) : Seen p v ts x := by
  rcases h with h | h | ⟨w, hw, rfl⟩
  · exact Or.inl h
  · exact Or.inr (Or.inl h)
  · rcases List.mem_cons.1 hw with rfl | hw
    · exact ht
    · exact Or.inr (Or.inr ⟨w, hw, rfl⟩)

theorem Closed.drop {t : Thread} (ht : Seen p v ts t.place) (h : Closed p input v (t :: ts)) :
    Closed p input v ts :=
  ⟨fun hin hv hs => Seen.drop ht (h.next hin hv hs), h.rejects⟩

section Visit

variable {t : Thread} {i : Inst}

/-- A visit takes care of all that was taken care of before. -/
theorem Seen.visit (hfits : v.Fits p (Text.size input)) (ht : t.spot.IsIn input)
    (hi : p[t.address]? = some i) {x : Nat × Spot} (h : Seen p v (t :: ts) x) :
    Seen p (v.add t.address t.spot.offset) (i.next t ++ ts) x := by
  have hadd := hfits.has_add (Array.getElem?_eq_some_iff.1 hi).1 ht.offset_le
  rcases h with h | h | ⟨w, hw, rfl⟩
  · exact Or.inl h
  · exact Or.inr (Or.inl (by rw [hadd, h, Bool.true_or]))
  · rcases List.mem_cons.1 hw with rfl | hw
    · exact Or.inr (Or.inl (by rw [Thread.place, hadd]; simp))
    · exact Or.inr (Or.inr ⟨w, List.mem_append_right _ hw, rfl⟩)

/-- A visit to a place that does not accept keeps the visited places closed. -/
theorem Closed.visit (hfits : v.Fits p (Text.size input)) (ht : t.spot.IsIn input)
    (hi : p[t.address]? = some i) (hacc : i ≠ .accept) (h : Closed p input v (t :: ts)) :
    Closed p input (v.add t.address t.spot.offset) (i.next t ++ ts) := by
  have hadd := hfits.has_add (Array.getElem?_eq_some_iff.1 hi).1 ht.offset_le
  have hplace : ∀ {u : Thread}, u.spot.IsIn input →
      (v.add t.address t.spot.offset).has u.address u.spot.offset = true →
      v.has u.address u.spot.offset = true ∨ u.place = t.place := fun {u} hu hv => by
    rw [hadd, Bool.or_eq_true, decide_eq_true_iff] at hv
    rcases hv with hv | ⟨ha, ho⟩
    · exact Or.inl hv
    · exact Or.inr (by rw [Thread.place, Thread.place, ha, hu.eq_of_offset ht ho])
  refine ⟨fun {u w} hu hv hs => ?_, fun {u} hu hv => ?_⟩
  · rcases hplace hu hv with hv | hut
    · exact (h.next hu hv hs).visit hfits ht hi
    · obtain ⟨j, hj, hw⟩ := hs
      rw [show u.address = t.address from congrArg Prod.fst hut, hi] at hj
      obtain rfl := Option.some.inj hj
      have hmem := List.mem_map_of_mem (f := Thread.place) hw
      rw [map_place_next i hut] at hmem
      obtain ⟨w', hw', hww⟩ := List.mem_map.1 hmem
      exact Or.inr (Or.inr ⟨w', List.mem_append_left _ hw', hww⟩)
  · rcases hplace hu hv with hv | hut
    · exact h.rejects hu hv
    · rw [show u.address = t.address from congrArg Prod.fst hut, hi]
      exact fun hacc' => hacc (Option.some.inj hacc')

end Visit

/-- **An exploration that fails has seen everything.**  With enough fuel, what it visited is closed
by itself and has taken care of all threads. -/
theorem closed_of_explore (hfuel : 2 * (Visited.unvisited p input v).card + ts.length ≤ fuel)
    (hfits : v.Fits p (Text.size input)) (hts : ∀ t ∈ ts, t.spot.IsIn input)
    (hclosed : Closed p input v ts) (h : explore p fuel ts v = .error v') :
    v'.Fits p (Text.size input) ∧ Closed p input v' [] ∧
      ∀ {x}, Seen p v ts x → Seen p v' [] x := by
  induction fuel generalizing ts v with
  | zero =>
    obtain rfl := Except.error.inj h
    obtain rfl : ts = [] := List.eq_nil_of_length_eq_zero (by omega)
    exact ⟨hfits, hclosed, id⟩
  | succ fuel ih =>
    cases ts with
    | nil =>
      obtain rfl := Except.error.inj h
      exact ⟨hfits, hclosed, id⟩
    | cons t ts =>
      have htin := hts t List.mem_cons_self
      have hrest : ∀ u ∈ ts, u.spot.IsIn input := fun u hu => hts u (List.mem_cons_of_mem t hu)
      rw [List.length_cons] at hfuel
      -- A thread that is dropped costs one step, as long as its place is taken care of.
      have hdrop : Seen p v ts t.place → explore p fuel ts v = .error v' →
          v'.Fits p (Text.size input) ∧ Closed p input v' [] ∧
            ∀ {x}, Seen p v (t :: ts) x → Seen p v' [] x := fun ht h => by
        obtain ⟨hf, hc, hs⟩ := ih (by omega) hfits hrest (hclosed.drop ht) h
        exact ⟨hf, hc, fun hx => hs (Seen.drop ht hx)⟩
      rw [explore] at h
      split at h
      · rename_i hv
        exact hdrop (Or.inr (Or.inl hv)) h
      · rename_i hv
        split at h
        · rename_i hi
          exact hdrop (Or.inl hi) h
        · exact absurd h (by simp)
        · rename_i i hacc hi
          have ha := (Array.getElem?_eq_some_iff.1 hi).1
          have hlt := hfits.unvisited_add_lt htin ha (Bool.eq_false_iff.2 hv)
          have hlen := length_next_le i t
          obtain ⟨hf, hc, hs⟩ := ih (by rw [List.length_append]; omega) (hfits.add _ _)
            (fun u hu => (List.mem_append.1 hu).elim (isIn_of_mem_next htin) (hrest u))
            (hclosed.visit hfits htin hi hacc) h
          exact ⟨hf, hc, fun hx => hs (hx.visit hfits htin hi)⟩

/-- Nothing that can be reached from what is taken care of accepts. -/
theorem Closed.not_accepts (h : Closed p input v []) {t u : Thread} {n : Nat}
    (ht : t.spot.IsIn input) (hseen : Seen p v [] t.place) (hreach : Repeats p.Step n t u) :
    p[u.address]? ≠ some .accept := by
  have hvisited : ∀ {w : Thread} {i : Inst}, Seen p v [] w.place → p[w.address]? = some i →
      v.has w.address w.spot.offset = true := by
    rintro w i (hw | hw | ⟨_, hw, -⟩) hi
    · rw [show p[w.address]? = none from hw] at hi
      exact absurd hi (by simp)
    · exact hw
    · exact absurd hw List.not_mem_nil
  have hkeep : u.spot.IsIn input ∧ Seen p v [] u.place := by
    refine hreach.keep (p := fun w : Thread => w.spot.IsIn input ∧ Seen p v [] w.place) ?_
      ⟨ht, hseen⟩
    rintro w w' ⟨hw, hs⟩ hstep
    obtain ⟨i, hi, hmem⟩ := hstep
    exact ⟨isIn_of_mem_next hw hmem, h.next hw (hvisited hs hi) ⟨i, hi, hmem⟩⟩
  exact fun hacc => h.rejects hkeep.1 (hvisited hkeep.2 hacc) hacc

end Regex
end TextScan
