/-
# The hit that a search prefers

The threads of a program follow a course (`Program.course`), and a program prefers a hit at a spot if
its first thread comes to it there (`Program.Prefers`).  An exploration comes to the preferred end of
the first of its threads from which one can be reached (`prefers_of_explore`).

So the anchored search finds the preferred hit at the start of the text, and the other search the
preferred hit at the first spot that has one (`hit?_anchored_eq_some_iff`,
`hit?_leftmost_eq_some_iff`): what was visited from earlier spots is dead, and makes no difference.
-/

import TextScan.Proofs.Regex.Hits
import TextScan.Proofs.Regex.Preference

namespace TextScan
namespace Regex

/-- Where the threads of a program go on, and where they accept. -/
def Program.course (p : Program) : Course where
  next t := (p[t.address]?).elim [] fun i => i.next t
  goal t := p[t.address]? = some .accept
  map_place_next {t u} h := by
    rw [show t.address = u.address from congrArg Prod.fst h]
    cases p[u.address]? with
    | none => rfl
    | some i => exact map_place_next i h
  goal_iff {t u} h := by rw [show t.address = u.address from congrArg Prod.fst h]
  next_of_goal h := by rw [h]; rfl

variable {p : Program} {input : Text} {fuel : Nat} {v v' : Visited} {s : Spot} {h : Hit}
  {t u w : Thread} {ts : List Thread}

theorem Program.next_course {i : Inst} (hi : p[t.address]? = some i) :
    p.course.next t = i.next t := by
  rw [Program.course]
  dsimp only
  rw [hi]
  rfl

theorem Program.step_course : p.course.Step t u ↔ p.Step t u := by
  unfold Course.Step Program.Step Program.course
  dsimp only
  cases p[t.address]? with
  | none => simp
  | some i => simp

/-- An end can be reached past any place exactly if steps lead to one. -/
theorem Course.reaches_empty_iff {c : Course} :
    c.Reaches ∅ t ↔ ∃ n u, Repeats c.Step n t u ∧ c.goal u := by
  constructor
  · intro h
    induction h with
    | here _ hgoal => exact ⟨0, _, rfl, hgoal⟩
    | step _ hnext _ ih =>
      obtain ⟨n, u, hn, hgoal⟩ := ih
      exact ⟨n + 1, u, ⟨_, hnext, hn⟩, hgoal⟩
  · rintro ⟨n, u, hn, hgoal⟩
    induction n generalizing t with
    | zero =>
      obtain rfl : u = t := hn
      exact .here (Set.notMem_empty _) hgoal
    | succ n ih =>
      obtain ⟨t', hstep, hn⟩ := hn
      exact .step (Set.notMem_empty _) hstep (ih hn)

theorem Program.reaches_empty_iff :
    p.course.Reaches ∅ t ↔ ∃ n u, Repeats p.Step n t u ∧ p[u.address]? = some .accept := by
  rw [Course.reaches_empty_iff]
  have hstep : p.course.Step = p.Step := funext fun _ => funext fun _ => propext step_course
  rw [hstep]
  rfl

/-! ## Explorations -/

/-- The visited places of a text. -/
def Visited.places (v : Visited) (input : Text) : Set (Nat × Spot) :=
  {x | x.2.IsIn input ∧ v.has x.1 x.2.offset = true}

theorem Visited.mem_places (ht : t.spot.IsIn input) :
    t.place ∈ v.places input ↔ v.has t.address t.spot.offset = true :=
  ⟨fun h => h.2, fun h => ⟨ht, h⟩⟩

/-- One more visit is one more visited place. -/
theorem Visited.Fits.places_add (hfits : v.Fits p (Text.size input)) (ht : t.spot.IsIn input)
    (ha : t.address < p.size) :
    (v.add t.address t.spot.offset).places input = insert t.place (v.places input) := by
  refine Set.ext fun x => ?_
  obtain ⟨a, s⟩ := x
  rw [Set.mem_insert_iff]
  simp only [Visited.places, Set.mem_ofPred_eq, hfits.has_add ha ht.offset_le, Bool.or_eq_true,
    decide_eq_true_iff, Thread.place, Prod.mk.injEq]
  constructor
  · rintro ⟨hs, hhas | ⟨rfl, ho⟩⟩
    · exact Or.inr ⟨hs, hhas⟩
    · exact Or.inl ⟨rfl, hs.eq_of_offset ht ho⟩
  · rintro (⟨rfl, rfl⟩ | ⟨hs, hhas⟩)
    · exact ⟨ht, Or.inr ⟨rfl, rfl⟩⟩
    · exact ⟨hs, Or.inl hhas⟩

/-- A visit from which no end can be reached makes no difference. -/
theorem Course.union_place (c : Course) (v : Set (Nat × Spot)) (h : ¬c.Reaches v t) :
    (∀ u, c.Reaches (insert t.place v) u ↔ c.Reaches v u) ∧
      ∀ u w, c.Prefers (insert t.place v) u w ↔ c.Prefers v u w := by
  rw [Set.insert_eq, Set.union_comm]
  exact ⟨fun u => reaches_union_dead (dead_singleton h), fun u w => prefers_union_dead (dead_singleton h)⟩

/-- **An exploration comes to the preferred end of the first of its threads that has one.** -/
theorem prefers_of_explore (hfits : v.Fits p (Text.size input))
    (hts : ∀ t ∈ ts, t.spot.IsIn input) (h : explore p fuel ts v = .ok w) :
    ∃ before t after, ts = before ++ t :: after ∧
      (∀ x ∈ before, ¬p.course.Reaches (v.places input) x) ∧
      p.course.Prefers (v.places input) t w := by
  induction fuel generalizing ts v with
  | zero => simp [explore] at h
  | succ fuel ih =>
    cases ts with
    | nil => simp [explore] at h
    | cons t ts =>
      have htin := hts t List.mem_cons_self
      have hrest : ∀ u ∈ ts, u.spot.IsIn input := fun u hu => hts u (List.mem_cons_of_mem t hu)
      -- A thread without a way to an end can be dropped.
      have hdrop : explore p fuel ts v = .ok w → ¬p.course.Reaches (v.places input) t →
          ∃ before u after, t :: ts = before ++ u :: after ∧
            (∀ x ∈ before, ¬p.course.Reaches (v.places input) x) ∧
            p.course.Prefers (v.places input) u w := fun h hno => by
        obtain ⟨before, u, after, rfl, hbefore, hp⟩ := ih hfits hrest h
        exact ⟨t :: before, u, after, rfl, List.forall_mem_cons.2 ⟨hno, hbefore⟩, hp⟩
      rw [explore] at h
      split at h
      · rename_i hv
        exact hdrop h fun hreach => hreach.not_mem ((Visited.mem_places htin).2 hv)
      · rename_i hv
        have hopen : t.place ∉ v.places input := fun hmem => hv ((Visited.mem_places htin).1 hmem)
        split at h
        · rename_i hi
          have hend : ¬p.course.goal t := fun hgoal => by
            have hgoal' : p[t.address]? = some .accept := hgoal
            simp [hi] at hgoal'
          refine hdrop h (Course.not_reaches_of_next hend fun u hu => ?_)
          simp [Program.course, hi] at hu
        · rename_i hacc
          obtain rfl := Except.ok.inj h
          exact ⟨[], t, ts, rfl, fun _ hx => absurd hx List.not_mem_nil, .here hopen hacc⟩
        · rename_i i hacc hi
          have hplaces := hfits.places_add htin (Array.getElem?_eq_some_iff.1 hi).1
          have hnext : p.course.next t = i.next t := Program.next_course hi
          have hend : ¬p.course.goal t := fun hgoal =>
            hacc (Option.some.inj (hi.symm.trans hgoal))
          obtain ⟨before, u, after, hsplit, hbefore, hp⟩ := ih (hfits.add _ _)
            (fun u hu => (List.mem_append.1 hu).elim (isIn_of_mem_next htin) (hrest u)) h
          rw [hplaces] at hbefore hp
          rcases List.append_eq_append_iff.1 hsplit with ⟨before', hb, hafter⟩ | ⟨rest, hn, hrest⟩
          · -- The end is one of a later thread, and there is none from this one.
            have hno : ¬p.course.Reaches (v.places input) t :=
              Course.not_reaches_of_next hend fun u hu => by
                rw [hnext] at hu
                exact hbefore u (hb ▸ List.mem_append_left _ hu)
            obtain ⟨hreaches, hprefers⟩ := p.course.union_place (v.places input) hno
            refine ⟨t :: before', u, after, by rw [hafter]; rfl,
              List.forall_mem_cons.2 ⟨hno, fun x hx => ?_⟩, (hprefers u w).1 hp⟩
            rw [← hreaches]
            exact hbefore x (hb ▸ List.mem_append_right _ hx)
          · cases rest with
            | nil =>
              have hno : ¬p.course.Reaches (v.places input) t :=
                Course.not_reaches_of_next hend fun u hu => by
                  rw [hnext, hn, List.append_nil] at hu
                  exact hbefore u hu
              obtain ⟨-, hprefers⟩ := p.course.union_place (v.places input) hno
              refine ⟨[t], u, after, by rw [List.nil_append] at hrest; rw [← hrest]; rfl,
                fun x hx => ?_, (hprefers u w).1 hp⟩
              obtain rfl := List.mem_singleton.1 hx
              exact hno
            | cons u' rest =>
              obtain ⟨rfl, rfl⟩ := List.cons.inj hrest
              exact ⟨[], t, ts, rfl, fun _ hx => absurd hx List.not_mem_nil,
                .step hopen (hnext.trans hn) hbefore hp⟩

/-- From a closed set of visited places no end can be reached. -/
theorem Closed.dead (hclosed : Closed p input v []) : p.course.Dead ∅ (v.places input) :=
  fun t ht hreach => by
    obtain ⟨n, u, hn, hacc⟩ := Program.reaches_empty_iff.1 hreach
    exact hclosed.not_accepts ht.1 (Or.inr (Or.inl ht.2)) hn hacc

/-! ## Searches -/

namespace Program

/-- The hit that a program prefers at a spot. -/
def Prefers (p : Program) (s : Spot) (h : Hit) : Prop :=
  ∃ w, p.course.Prefers ∅ (threadAt 0 (s, [])) w ∧ h = ⟨⟨s.offset, w.spot.offset⟩, w.marks⟩

theorem Prefers.unique {h' : Hit} (hp : p.Prefers s h) (hp' : p.Prefers s h') : h = h' := by
  obtain ⟨w, hw, rfl⟩ := hp
  obtain ⟨w', hw', rfl⟩ := hp'
  rw [hw.unique hw']

/-- A preferred hit starts at its spot. -/
theorem Prefers.start (hp : p.Prefers s h) : h.span.start = s.offset := by
  obtain ⟨w, -, rfl⟩ := hp
  rfl

/-- What a program prefers at a spot can be found there, if not with the same marks. -/
theorem Prefers.exists_finds (hp : p.Prefers s h) : ∃ h', p.Finds s h' := by
  obtain ⟨w, hw, -⟩ := hp
  obtain ⟨n, u, hn, hacc⟩ := reaches_empty_iff.1 hw.reaches
  exact ⟨_, u, ⟨⟨n, hn⟩, hacc⟩, rfl⟩

end Program

/-- A search from one spot finds the preferred hit, whatever was visited in vain. -/
theorem prefers_of_hitAt (hfits : v.Fits p (Text.size input)) (hclosed : Closed p input v [])
    (hs : s.IsIn input) (hh : hitAt p fuel v s = .ok h) : p.Prefers s h := by
  unfold hitAt at hh
  cases he : explore p fuel [⟨0, s, []⟩] v with
  | error v' => simp [he, Except.map] at hh
  | ok w =>
    rw [he] at hh
    obtain rfl := Except.ok.inj hh
    obtain ⟨before, t, after, hsplit, -, hp⟩ := prefers_of_explore hfits
      (fun t ht => by obtain rfl := List.mem_singleton.1 ht; exact hs) he
    have hmem : t ∈ [(⟨0, s, []⟩ : Thread)] := hsplit ▸ by simp
    obtain rfl := List.mem_singleton.1 hmem
    rw [← Set.empty_union (v.places input), Course.prefers_union_dead hclosed.dead] at hp
    exact ⟨w, hp, rfl⟩

/-- The search that goes from spot to spot finds a hit that is preferred at its spot. -/
theorem prefers_of_hitFrom? {text : Text} {before : Option Char} {offset : Nat}
    (hfuel : searchFuel p input ≤ fuel) (hfits : v.Fits p (Text.size input))
    (hclosed : Closed p input v []) (hs : Spot.IsIn input ⟨before, text, offset⟩)
    (hh : hitFrom? p fuel v before offset text = some h) :
    ∃ s : Spot, s.IsIn input ∧ p.Prefers s h := by
  induction text generalizing v before offset with
  | nil =>
    rw [hitFrom?] at hh
    cases hat : hitAt p fuel v ⟨before, [], offset⟩ with
    | ok h' =>
      rw [hat] at hh
      obtain rfl := Option.some.inj hh
      exact ⟨_, hs, prefers_of_hitAt hfits hclosed hs hat⟩
    | error v' =>
      rw [hat] at hh
      exact absurd hh (by simp [Except.toOption])
  | cons c text ih =>
    rw [hitFrom?] at hh
    cases hat : hitAt p fuel v ⟨before, c :: text, offset⟩ with
    | ok h' =>
      rw [hat] at hh
      obtain rfl := Option.some.inj hh
      exact ⟨_, hs, prefers_of_hitAt hfits hclosed hs hat⟩
    | error v' =>
      rw [hat] at hh
      obtain ⟨hf, hc, -⟩ := closed_of_hitAt hfuel hfits hclosed hs hat
      exact ih hf hc (hs.past rfl) hh

namespace Program

/-- **The anchored search finds the preferred hit at the start.** -/
theorem hit?_anchored_eq_some_iff :
    p.hit? .anchored input = some h ↔ p.Prefers (Spot.start input) h := by
  have hfits := Visited.fits_none p (Text.size input)
  have hclosed := closed_none p input (Text.size input)
  have hs := Spot.isIn_start input
  unfold hit?
  dsimp only
  cases hat : hitAt p (searchFuel p input) (Visited.none p (Text.size input)) (Spot.start input) with
  | ok h' =>
    have hp := prefers_of_hitAt hfits hclosed hs hat
    constructor
    · intro hh
      obtain rfl := Option.some.inj hh
      exact hp
    · exact fun hp' => congrArg some (hp.unique hp')
  | error v' =>
    constructor
    · exact fun hh => absurd hh (by simp [Except.toOption])
    · intro hp
      obtain ⟨h', hf⟩ := hp.exists_finds
      exact absurd hf ((closed_of_hitAt (Nat.le_refl _) hfits hclosed hs hat).2.2 h')

/-- **The search for the first hit finds the preferred one at the first spot that has any.** -/
theorem hit?_leftmost_eq_some_iff :
    p.hit? .leftmost input = some h ↔ ∃ s : Spot, s.IsIn input ∧ p.Prefers s h ∧
      ∀ s' : Spot, s'.IsIn input → s'.offset < s.offset → ∀ h', ¬p.Prefers s' h' := by
  have hfits := Visited.fits_none p (Text.size input)
  have hclosed := closed_none p input (Text.size input)
  have hspec := hitFrom?_spec (Nat.le_refl (searchFuel p input)) hfits hclosed
    (Spot.isIn_start input)
  have hfirst : ∀ {h : Hit}, p.hit? .leftmost input = some h → ∃ s : Spot, s.IsIn input ∧
      p.Prefers s h ∧ ∀ s' : Spot, s'.IsIn input → s'.offset < s.offset → ∀ h', ¬p.Prefers s' h' :=
    fun {h} hh => by
      obtain ⟨s, hs, hp⟩ := prefers_of_hitFrom? (Nat.le_refl _) hfits hclosed
        (Spot.isIn_start input) hh
      rw [show hitFrom? p (searchFuel p input) _ none 0 input = some h from hh] at hspec
      obtain ⟨s', hs', ⟨_, -, rfl⟩, hleast⟩ := hspec
      obtain rfl := hs.eq_of_offset hs' hp.start.symm
      refine ⟨s, hs, hp, fun r hr hlt h' hp' => ?_⟩
      obtain ⟨h'', hf⟩ := hp'.exists_finds
      exact hleast r hr (Nat.zero_le _) hlt h'' hf
  refine ⟨hfirst, ?_⟩
  rintro ⟨s, hs, hp, hleast⟩
  cases hh : p.hit? .leftmost input with
  | none =>
    rw [show hitFrom? p (searchFuel p input) _ none 0 input = none from hh] at hspec
    obtain ⟨h', hf⟩ := hp.exists_finds
    exact absurd hf (hspec s hs (Nat.zero_le _) h')
  | some h' =>
    obtain ⟨s', hs', hp', hleast'⟩ := hfirst hh
    have ho : s.offset = s'.offset := by
      rcases Nat.lt_trichotomy s.offset s'.offset with hlt | heq | hgt
      · exact absurd hp (hleast' s hs hlt h)
      · exact heq
      · exact absurd hp' (hleast s' hs' hgt h')
    obtain rfl := hs.eq_of_offset hs' ho
    exact congrArg some (hp'.unique hp)

end Program
end Regex
end TextScan
