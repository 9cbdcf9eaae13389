/-
# Expressions that choose alike

Two expressions are alike if they can go on to the same spots and choose the same ways
(`Expr.Alike`).  Sequences and alternatives of parts that are alike are alike, and alternatives may
be grouped as one likes (`Alike.alt_assoc`).  Expressions that read one character are alike if they
read the same ones (`Takes.alike`), so alternatives of characters, or of sets, are alike to one set
(`anyOf_alike`).
-/

import TextScan.Proofs.Regex.Bounds
import TextScan.Proofs.Regex.Choosing
import TextScan.Proofs.Regex.Groups

namespace TextScan
namespace Regex
namespace Expr

variable {e f g a b a' b' : Expr} {es fs : List Expr} {k : Spot → Prop} {x y : Trail} {s : Spot}

/-- Two expressions go on to the same spots, and choose the same ways. -/
structure Alike (e f : Expr) : Prop where
  can : ∀ {k : Spot → Prop} {s : Spot}, e.Can k s ↔ f.Can k s
  chooses : ∀ {k : Spot → Prop} {x y : Trail}, e.Chooses k x y ↔ f.Chooses k x y

namespace Alike

theorem refl (e : Expr) : e.Alike e := ⟨Iff.rfl, Iff.rfl⟩

theorem symm (h : e.Alike f) : f.Alike e := ⟨h.can.symm, h.chooses.symm⟩

theorem trans (h : e.Alike f) (h' : f.Alike g) : e.Alike g :=
  ⟨h.can.trans h'.can, h.chooses.trans h'.chooses⟩

/-- Expressions with the same code are alike. -/
theorem of_code (h : code e 0 = code f 0) : e.Alike f := by
  have hsize : e.codeSize = f.codeSize := by rw [← length_code e 0, h, length_code]
  have hcourse : ∀ k, e.course k = f.course k := fun k => by rw [course, h, ← course]
  refine ⟨fun {k s} => ?_, fun {k x y} => ?_⟩
  · rw [Can, Can, hcourse]
  · rw [Chooses, Chooses, hcourse, hsize]

theorem seq (h : a.Alike a') (h' : b.Alike b') : (Expr.seq a b).Alike (.seq a' b') := by
  have hcan : ∀ k, b.Can k = b'.Can k := fun k => funext fun s => propext h'.can
  refine ⟨fun {k s} => ?_, fun {k x y} => ?_⟩
  · rw [can_seq, can_seq, hcan, h.can]
  · simp only [chooses_seq, hcan, h.chooses, h'.chooses]

theorem alt (h : a.Alike a') (h' : b.Alike b') : (Expr.alt a b).Alike (.alt a' b') := by
  refine ⟨fun {k s} => ?_, fun {k x y} => ?_⟩
  · rw [can_alt, can_alt, h.can, h'.can]
  · rw [chooses_alt, chooses_alt, h.can, h.chooses, h'.chooses]

theorem alt_assoc (a b c : Expr) : (Expr.alt (.alt a b) c).Alike (.alt a (.alt b c)) := by
  refine ⟨fun {k s} => ?_, fun {k x y} => ?_⟩
  · simp only [can_alt, or_assoc]
  · simp only [chooses_alt, can_alt, not_or, or_assoc, and_assoc, and_or_left]

end Alike

/-! ## Sequences -/

/-- The code of expressions one after the other. -/
def codeAll : List Expr → Nat → List Inst
  | [], _ => []
  | e :: es, pc => code e pc ++ codeAll es (pc + e.codeSize)

theorem codeAll_append (es fs : List Expr) (pc : Nat) :
    codeAll (es ++ fs) pc = codeAll es pc ++ codeAll fs (pc + (codeAll es pc).length) := by
  induction es generalizing pc with
  | nil => rfl
  | cons e es ih =>
    simp only [List.cons_append, codeAll, ih, List.append_assoc, List.length_append, length_code,
      Nat.add_assoc]

theorem code_ofParts (es : List Expr) (pc : Nat) : code (ofParts es) pc = codeAll es pc := by
  fun_induction ofParts es generalizing pc with
  | case1 => rfl
  | case2 e => exact (List.append_nil _).symm
  | case3 e es _ ih => simp only [code, length_code, ih, codeAll]

theorem codeAll_parts (e : Expr) (pc : Nat) : codeAll e.parts pc = code e pc := by
  induction e generalizing pc with
  | empty => rfl
  | seq a b iha ihb => rw [parts, codeAll_append, iha, ihb, code]
  | _ => exact List.append_nil _

theorem codeAll_flatMap_parts (es : List Expr) (pc : Nat) :
    codeAll (es.flatMap parts) pc = codeAll es pc := by
  induction es generalizing pc with
  | nil => rfl
  | cons e es ih => rw [List.flatMap_cons, codeAll_append, codeAll_parts, length_code, ih, codeAll]

theorem codeAll_joinTexts (es : List Expr) (pc : Nat) : codeAll (joinTexts es) pc = codeAll es pc := by
  fun_induction joinTexts es generalizing pc with
  | case1 => rfl
  | case2 es t u rest hjoin ih =>
    rw [hjoin] at ih
    simp only [codeAll, code, codeSize, ← ih, List.map_append, List.append_assoc, List.length_append,
      Nat.add_assoc]
  | case3 es t _ ih => simp only [codeAll, ih]
  | case4 e es _ ih => simp only [codeAll, ih]

/-- The code of a sequence is that of its parts, one after the other. -/
theorem code_sequence (es : List Expr) (pc : Nat) : code (sequence es) pc = codeAll es pc := by
  rw [sequence, code_ofParts, codeAll_joinTexts, codeAll_flatMap_parts]

theorem sequence_append_alike (es fs : List Expr) :
    (sequence (es ++ fs)).Alike (seq (sequence es) (sequence fs)) := by
  refine .of_code ?_
  rw [code_seq, code_sequence, code_sequence, code_sequence, codeAll_append, Nat.zero_add,
    ← length_code (sequence es) 0, code_sequence]

theorem sequence_singleton_alike (e : Expr) : (sequence [e]).Alike e :=
  .of_code (by rw [code_sequence, codeAll, codeAll, List.append_nil])

theorem sequence_parts_alike (e : Expr) : (sequence e.parts).Alike e :=
  .of_code (by rw [code_sequence, codeAll_parts])

/-! ## Alternatives -/

theorem ofBranches_cons (h : es ≠ []) : ofBranches (e :: es) = alt e (ofBranches es) := by
  cases es with
  | nil => exact absurd rfl h
  | cons f es => rfl

theorem ofBranches_append_alike (h : es ≠ []) (h' : fs ≠ []) :
    (ofBranches (es ++ fs)).Alike (alt (ofBranches es) (ofBranches fs)) := by
  induction es with
  | nil => exact absurd rfl h
  | cons e es ih =>
    rw [List.cons_append]
    by_cases hes : es = []
    · subst hes
      rw [List.nil_append, ofBranches_cons h', ofBranches]
      exact .refl _
    · rw [ofBranches_cons (List.append_ne_nil_of_left_ne_nil hes fs), ofBranches_cons hes]
      exact (Alike.alt (.refl e) (ih hes)).trans (Alike.alt_assoc _ _ _).symm

theorem branches_ne_nil (e : Expr) : e.branches ≠ [] := by
  induction e with
  | alt a b iha _ => exact List.append_ne_nil_of_left_ne_nil iha _
  | _ => exact List.cons_ne_nil _ _

theorem ofBranches_branches_alike (e : Expr) : (ofBranches e.branches).Alike e := by
  induction e with
  | alt a b iha ihb =>
    exact (ofBranches_append_alike a.branches_ne_nil b.branches_ne_nil).trans (Alike.alt iha ihb)
  | _ => exact .refl _

theorem flatMap_branches_ne_nil (h : es ≠ []) : es.flatMap branches ≠ [] := by
  obtain ⟨e, es, rfl⟩ := List.exists_cons_of_ne_nil h
  exact List.append_ne_nil_of_left_ne_nil e.branches_ne_nil _

/-- Alternatives of alternatives are alternatives. -/
theorem ofBranches_flatMap_branches_alike (es : List Expr) :
    (ofBranches (es.flatMap branches)).Alike (ofBranches es) := by
  induction es with
  | nil => exact .refl _
  | cons e es ih =>
    by_cases hes : es = []
    · subst hes
      rw [List.flatMap_singleton]
      exact ofBranches_branches_alike e
    · rw [List.flatMap_cons, ofBranches_cons hes]
      exact (ofBranches_append_alike e.branches_ne_nil (flatMap_branches_ne_nil hes)).trans
        (Alike.alt (ofBranches_branches_alike e) ih)

/-! ## One character -/

/-- An expression reads one character with a property, and does nothing else. -/
structure Takes (e : Expr) (p : Char → Prop) : Prop where
  can : ∀ {k : Spot → Prop} {s : Spot}, e.Can k s ↔ ∃ c r, s.rest = c :: r ∧ p c ∧ k (s.past c r)
  chooses : ∀ {k : Spot → Prop} {x y : Trail}, e.Chooses k x y ↔
    ∃ c r, x.1.rest = c :: r ∧ p c ∧ k (x.1.past c r) ∧ y = (x.1.past c r, x.2)

section Characters

variable {p q : Char → Prop}

/-- Expressions that read the same characters are alike. -/
theorem Takes.alike (h : e.Takes p) (h' : f.Takes q) (hpq : ∀ c, p c ↔ q c) : e.Alike f := by
  obtain rfl : p = q := funext fun c => propext (hpq c)
  exact ⟨h.can.trans h'.can.symm, h.chooses.trans h'.chooses.symm⟩

/-- One instruction that goes on behind each character with a property reads one such character. -/
theorem takes_of_next {i : Inst} (hcode : code e 0 = [i])
    (hread : ∀ {x : Trail} {c : Char} {r : Text}, x.1.rest = c :: r → p c →
      i.next (threadAt 0 x) = [threadAt 1 (x.1.past c r, x.2)])
    (hstop : ∀ {x : Trail}, (∀ c r, x.1.rest = c :: r → ¬p c) → i.next (threadAt 0 x) = []) :
    e.Takes p := by
  have hsize : e.codeSize = 1 := by rw [← length_code e 0, hcode, List.length_singleton]
  have hnext : ∀ {k x}, (e.course k).next (threadAt 0 x) = i.next (threadAt 0 x) := fun {k x} =>
    next_codeCourse (by rw [hcode]; rfl)
  have hend : ∀ {k x}, ¬(e.course k).goal (threadAt 0 x) := fun {k x} hgoal => by
    have ha := (goal_course.1 hgoal).1
    rw [address_threadAt] at ha
    omega
  -- with no such character there is no way on
  have hnone : ∀ {k : Spot → Prop} {x : Trail}, (∀ c r, x.1.rest = c :: r → ¬p c) → ¬e.Can k x.1 :=
    fun {k x} hx hcan => by
      obtain ⟨u, hu, -⟩ := (can_iff.2 hcan).exists_next hend
      rw [hnext, hstop hx] at hu
      exact absurd hu List.not_mem_nil
  -- and with one the only way on leads behind it
  have hway : ∀ {k : Spot → Prop} {x : Trail} {c r}, x.1.rest = c :: r → p c →
      (e.course k).next (threadAt 0 x) = [threadAt e.codeSize (x.1.past c r, x.2)] :=
    fun {k x c r} hr hp => by rw [hnext, hread hr hp, hsize]
  have hclear : ∀ {k : Spot → Prop} {x y : Trail},
      (e.course k).Clear {(threadAt 0 x).place} (threadAt e.codeSize y) := fun {k x y} =>
    clear_end (by rw [address_threadAt]; omega)
  refine ⟨fun {k s} => ⟨fun h => ?_, ?_⟩, fun {k x y} => ⟨fun h => ?_, ?_⟩⟩
  · by_cases hs : ∃ c r, s.rest = c :: r ∧ p c
    · obtain ⟨c, r, hr, hp⟩ := hs
      exact ⟨c, r, hr, hp, reaches_end.1 ((Course.reaches_of_next (hway (x := (s, [])) hr hp)).1 h)⟩
    · exact absurd h (hnone (x := (s, [])) fun c r hr hp => hs ⟨c, r, hr, hp⟩)
  · rintro ⟨c, r, hr, hp, hk⟩
    exact (Course.reaches_of_next (hway (x := (s, [])) hr hp)).2 (reaches_end.2 hk)
  · by_cases hx : ∃ c r, x.1.rest = c :: r ∧ p c
    · obtain ⟨c, r, hr, hp⟩ := hx
      obtain ⟨hk, hy⟩ := prefers_end.1 ((Course.prefers_of_next (hway hr hp) hclear).1 h)
      exact ⟨c, r, hr, hp, hk, threadAt_inj.1 hy⟩
    · exact absurd h.can (hnone fun c r hr hp => hx ⟨c, r, hr, hp⟩)
  · rintro ⟨c, r, hr, hp, hk, rfl⟩
    exact (Course.prefers_of_next (hway hr hp) hclear).2 (prefers_end.2 ⟨hk, rfl⟩)

theorem takes_oneOf (bytes : Bool) (set : CharSet) :
    (oneOf bytes set).Takes fun c => set.contains c = true := by
  refine takes_of_next rfl (fun {x c r} hr hc => ?_) fun {x} hx => ?_
  · simp [Inst.next, threadAt, hr, hc]
  · unfold Inst.next threadAt
    dsimp only
    cases hrest : x.1.rest with
    | nil => rfl
    | cons c r => exact if_neg (hx c r hrest)

theorem takes_char (c : Char) : (text [c]).Takes (· = c) := by
  refine takes_of_next rfl (fun {x d r} hr hd => ?_) fun {x} hx => ?_
  · simp [Inst.next, threadAt, hr, hd]
  · unfold Inst.next threadAt
    dsimp only
    cases hrest : x.1.rest with
    | nil => rfl
    | cons d r => exact if_neg fun hd => hx d r hrest hd.symm

theorem takes_oneOfSet (bytes : Bool) (set : CharSet) :
    (oneOfSet bytes set).Takes fun c => set.contains c = true := by
  unfold oneOfSet
  split
  · rename_i hempty
    have hset : set = CharSet.empty := by
      cases set
      exact congrArg CharSet.mk (List.isEmpty_iff.1 hempty)
    rw [hset]
    exact takes_oneOf true CharSet.empty
  · split
    · rename_i c hc
      have hmember : (fun d => set.contains d = true) = (· = c) := funext fun d => by
        rw [CharSet.contains_of_single? hc, decide_eq_true_iff]
      rw [hmember]
      exact takes_char c
    · exact takes_oneOf bytes set

theorem Takes.alt (h : a.Takes p) (h' : b.Takes q) : (Expr.alt a b).Takes fun c => p c ∨ q c := by
  refine ⟨fun {k s} => ?_, fun {k x y} => ?_⟩
  · rw [can_alt, h.can, h'.can]
    constructor
    · rintro (⟨c, r, hr, hp, hk⟩ | ⟨c, r, hr, hq, hk⟩)
      · exact ⟨c, r, hr, Or.inl hp, hk⟩
      · exact ⟨c, r, hr, Or.inr hq, hk⟩
    · rintro ⟨c, r, hr, hp | hq, hk⟩
      · exact Or.inl ⟨c, r, hr, hp, hk⟩
      · exact Or.inr ⟨c, r, hr, hq, hk⟩
  · rw [chooses_alt, h.can, h.chooses, h'.chooses]
    constructor
    · rintro (⟨c, r, hr, hp, hy⟩ | ⟨-, c, r, hr, hq, hy⟩)
      · exact ⟨c, r, hr, Or.inl hp, hy⟩
      · exact ⟨c, r, hr, Or.inr hq, hy⟩
    · rintro ⟨c, r, hr, hpq, hk, hy⟩
      by_cases hp : p c
      · exact Or.inl ⟨c, r, hr, hp, hk, hy⟩
      · refine Or.inr ⟨?_, c, r, hr, hpq.resolve_left hp, hk, hy⟩
        rintro ⟨d, r', hr', hd, -⟩
        obtain ⟨rfl, -⟩ := List.cons.inj (hr.symm.trans hr')
        exact hp hd

/-- Alternatives that read one character each read what one of them reads. -/
theorem takes_ofBranches {α : Type} {l : List α} {f : α → Expr} {p : α → Char → Prop}
    (h : ∀ i ∈ l, (f i).Takes (p i)) : (ofBranches (l.map f)).Takes fun c => ∃ i ∈ l, p i c := by
  induction l with
  | nil =>
    have hnone : (fun c : Char => ∃ i ∈ ([] : List α), p i c) = fun c =>
        CharSet.empty.contains c = true := funext fun c => by simp
    rw [hnone]
    exact takes_oneOf true CharSet.empty
  | cons i l ih =>
    obtain ⟨hi, hl⟩ := List.forall_mem_cons.1 h
    simp only [List.exists_mem_cons_iff]
    by_cases hnil : l = []
    · subst hnil
      simpa [ofBranches] using hi
    · rw [List.map_cons, ofBranches_cons (by simpa using hnil)]
      exact hi.alt (ih hl)

/-- What a list is taken to, where no member fails. -/
theorem mem_of_mapM {α β : Type} {f : α → Option β} {as : List α} {bs : List β}
    (h : as.mapM f = some bs) (c : β) : c ∈ bs ↔ ∃ a ∈ as, f a = some c := by
  induction as generalizing bs with
  | nil =>
    obtain rfl := Option.some.inj h
    simp
  | cons a as ih =>
    rw [List.mapM_cons] at h
    obtain ⟨b, hb, h⟩ := Option.bind_eq_some_iff.1 h
    obtain ⟨bs, hbs, h⟩ := Option.bind_eq_some_iff.1 h
    obtain rfl := Option.some.inj h
    rw [List.mem_cons, ih hbs, List.exists_mem_cons_iff, hb, Option.some.injEq, eq_comm]

theorem contains_foldl_union {α : Type} (f : α → CharSet) (l : List α) (s : CharSet) (c : Char) :
    (l.foldl (fun s i => s.union (f i)) s).contains c = true ↔
      s.contains c = true ∨ ∃ i ∈ l, (f i).contains c = true := by
  induction l generalizing s with
  | nil => simp
  | cons i l ih =>
    rw [List.foldl_cons, ih, CharSet.contains_union, Bool.or_eq_true, List.exists_mem_cons_iff,
      or_assoc]

/-- One set for all branches reads what they read. -/
theorem takes_of_unionOf? {set : CharSet} (h : unionOf? es = some set) :
    (ofBranches es).Takes fun c => set.contains c = true := by
  unfold unionOf? at h
  split at h
  · rename_i cs hcs
    obtain rfl := Option.some.inj h
    have htakes := takes_ofBranches (l := es) (f := id) (p := fun e c => e.char? = some c)
      fun e he => by
        obtain ⟨c, hc⟩ := exists_of_mapM hcs e he
        unfold char? at hc
        split at hc
        · rename_i d
          simpa [char?, eq_comm] using takes_char d
        · exact absurd hc (by simp)
    rw [List.map_id] at htakes
    have hmember : (fun c => ∃ e ∈ es, e.char? = some c) = fun c =>
        (cs.foldl (fun s c => s.union (CharSet.single c)) CharSet.empty).contains c = true :=
      funext fun c => by
        rw [contains_foldl_union, ← mem_of_mapM hcs c]
        simp
    rwa [hmember] at htakes
  · obtain ⟨ss, hss, rfl⟩ := Option.map_eq_some_iff.1 h
    have htakes := takes_ofBranches (l := es) (f := id)
      (p := fun e c => ∃ s, e.set? = some s ∧ s.contains c = true) fun e he => by
        obtain ⟨s, hs⟩ := exists_of_mapM hss e he
        unfold set? at hs
        split at hs
        · rename_i bytes t
          simpa [set?] using takes_oneOf bytes t
        · exact absurd hs (by simp)
    rw [List.map_id] at htakes
    have hmember : (fun c => ∃ e ∈ es, ∃ s, e.set? = some s ∧ s.contains c = true) = fun c =>
        (ss.foldl CharSet.union CharSet.empty).contains c = true :=
      funext fun c => by
        rw [show CharSet.union = fun s t => s.union (id t) from rfl, contains_foldl_union]
        simp only [CharSet.contains_empty, Bool.false_eq_true, false_or, id, mem_of_mapM hss]
        exact propext ⟨fun ⟨e, he, s, hs, hc⟩ => ⟨s, ⟨e, he, hs⟩, hc⟩,
          fun ⟨s, ⟨e, he, hs⟩, hc⟩ => ⟨e, he, s, hs, hc⟩⟩
    rwa [hmember] at htakes

/-- Any of some branches is one branch or another, the earlier one if possible. -/
theorem anyOf_alike (es : List Expr) : (anyOf es).Alike (ofBranches es) := by
  unfold anyOf
  split
  · exact .refl _
  · split
    · rename_i set hset
      exact (takes_oneOfSet false set).alike (takes_of_unionOf? hset) fun c => Iff.rfl
    · exact .refl _

end Characters

end Expr
end Regex
end TextScan
