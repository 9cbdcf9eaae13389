/-
# What alternatives have in common

`alternatives` takes out of its branches what all of them start with (`commonLead`).  Then nothing is
left that they all start with, neither here nor in the expression of any tree
(`Tree.factored_of_meaning`).

After that the choice between the branches comes behind the choice of a way through the common start,
and no more before it: `a*a|a*b` prefers `aa` at the start of `aab`, and `a*(a|b)` prefers `aab`.
This makes no difference to what can be matched.  It makes none to what is chosen where one branch at
most can go on, or where there is one way at most through the common start
(`chooses_alternatives`).
-/

import TextScan.Proofs.Regex.Alike

namespace TextScan
namespace Regex
namespace Expr

variable {e q : Expr} {es fs : List Expr}

/-! ## The common start of branches -/

theorem head?_commonStart (h : es.head? = some q) (h' : fs.head? = some q) :
    (commonStart es fs).head? = some q := by
  obtain ⟨es, rfl⟩ := List.head?_eq_some_iff.1 h
  obtain ⟨fs, rfl⟩ := List.head?_eq_some_iff.1 h'
  rw [commonStart, if_pos rfl, List.head?_cons]

theorem head?_foldl_commonStart (h : es.head? = some q) (hfs : ∀ f ∈ fs, f.parts.head? = some q) :
    (fs.foldl (fun p b => commonStart p b.parts) es).head? = some q := by
  induction fs generalizing es with
  | nil => exact h
  | cons f fs ih =>
    obtain ⟨hf, hfs⟩ := List.forall_mem_cons.1 hfs
    exact ih (head?_commonStart h hf) hfs

/-- A common start is taken from several branches that have several parts each. -/
theorem sharedStart_ne_nil (h : sharedStart es ≠ []) :
    2 ≤ es.length ∧ ∀ e ∈ es, 2 ≤ e.parts.length := by
  unfold sharedStart at h
  split at h
  · split at h
    · rename_i hall
      exact ⟨by simp, fun e he => of_decide_eq_true (List.all_eq_true.1 hall e he)⟩
    · exact absurd rfl h
  · exact absurd rfl h

/-- What branches start with, some of them start with. -/
theorem sharedStart_ne_nil_of_subset (hsub : es ⊆ fs) (hes : 2 ≤ es.length)
    (h : sharedStart fs ≠ []) : sharedStart es ≠ [] := by
  obtain ⟨-, hparts⟩ := sharedStart_ne_nil h
  obtain ⟨q, rest, hq⟩ := List.exists_cons_of_ne_nil h
  have hhead : ∀ e ∈ es, e.parts.head? = some q := fun e he => by
    obtain ⟨r, hr⟩ := sharedStart_prefix_parts e (hsub he)
    rw [← hr, hq]
    rfl
  match es, hes with
  | e :: f :: es, _ =>
    have hall : ((e :: f :: es).all fun b => decide (2 ≤ b.parts.length)) = true :=
      List.all_eq_true.2 fun b hb => decide_eq_true (hparts b (hsub hb))
    obtain ⟨he, hfs⟩ := List.forall_mem_cons.1 hhead
    have hstart := head?_foldl_commonStart he hfs
    rw [sharedStart, if_pos hall]
    exact fun hnil => by simp [hnil] at hstart

/-! ## Factored expressions -/

/-- The branches of an expression do not start alike, and an expression with one part is that
part. -/
structure Factored (e : Expr) : Prop where
  start : sharedStart e.branches = []
  part : ∀ q, e.parts = [q] → q = e

theorem factored_of_eq (hparts : e.parts = [e]) (hbranches : e.branches = [e]) : e.Factored :=
  ⟨by rw [hbranches]; rfl, fun q hq => (List.cons.inj (hq.symm.trans hparts)).1⟩

theorem factored_empty : Factored .empty := ⟨rfl, fun _ h => absurd h (by simp [parts])⟩

theorem factored_oneOfSet (bytes : Bool) (set : CharSet) : (oneOfSet bytes set).Factored := by
  unfold oneOfSet
  split
  · exact factored_of_eq rfl rfl
  · split <;> exact factored_of_eq rfl rfl

theorem parts_of_mem_parts (h : q ∈ e.parts) : q.parts = [q] := by
  induction e with
  | empty => exact absurd h List.not_mem_nil
  | seq a b iha ihb => exact (List.mem_append.1 h).elim iha ihb
  | _ =>
    obtain rfl := List.mem_singleton.1 h
    rfl

theorem branches_of_mem_branches (h : q ∈ e.branches) : q.branches = [q] := by
  induction e with
  | alt a b iha ihb => exact (List.mem_append.1 h).elim iha ihb
  | _ =>
    obtain rfl := List.mem_singleton.1 h
    rfl

/-- An expression with one branch is that branch. -/
theorem eq_of_branches (h : e.branches = [q]) : q = e := by
  cases e with
  | alt a b =>
    have hlength := congrArg List.length h
    rw [branches, List.length_append, List.length_singleton] at hlength
    have ha := List.length_pos_iff.2 a.branches_ne_nil
    have hb := List.length_pos_iff.2 b.branches_ne_nil
    omega
  | _ => exact (List.cons.inj h).1.symm

/-! ### Sequences -/

theorem parts_of_mem_joinTexts (h : ∀ q ∈ es, q.parts = [q]) : ∀ q ∈ joinTexts es, q.parts = [q] := by
  fun_induction joinTexts es with
  | case1 => exact h
  | case2 es t u rest hjoin ih =>
    have hrest := ih (List.forall_mem_cons.1 h).2
    rw [hjoin] at hrest
    exact List.forall_mem_cons.2 ⟨rfl, (List.forall_mem_cons.1 hrest).2⟩
  | case3 es t _ ih => exact List.forall_mem_cons.2 ⟨rfl, ih (List.forall_mem_cons.1 h).2⟩
  | case4 e es _ ih =>
    obtain ⟨he, hes⟩ := List.forall_mem_cons.1 h
    exact List.forall_mem_cons.2 ⟨he, ih hes⟩

theorem joinTexts_ne_nil (h : es ≠ []) : joinTexts es ≠ [] := by
  fun_cases joinTexts es with
  | case1 => exact absurd rfl h
  | case2 es t u rest hjoin => exact List.cons_ne_nil _ _
  | case3 es t _ => exact List.cons_ne_nil _ _
  | case4 e es _ => exact List.cons_ne_nil _ _

/-- One part is left where there was one, or where texts were joined. -/
theorem eq_of_joinTexts (h : joinTexts es = [q]) : es = [q] ∨ ∃ t, q = .text t := by
  fun_induction joinTexts es with
  | case1 => exact absurd h (by simp)
  | case2 es t u rest hjoin _ => exact Or.inr ⟨_, (List.cons.inj h).1.symm⟩
  | case3 es t _ _ => exact Or.inr ⟨_, (List.cons.inj h).1.symm⟩
  | case4 e es _ _ =>
    obtain ⟨rfl, hnil⟩ := List.cons.inj h
    rw [not_imp_not.1 joinTexts_ne_nil hnil]
    exact Or.inl rfl

theorem parts_ofParts (h : ∀ q ∈ es, q.parts = [q]) : (ofParts es).parts = es := by
  fun_induction ofParts es with
  | case1 => rfl
  | case2 e => exact h e List.mem_cons_self
  | case3 e es _ ih =>
    obtain ⟨he, hes⟩ := List.forall_mem_cons.1 h
    rw [parts, he, ih hes]
    rfl

theorem factored_ofParts (h : ∀ q ∈ es, q.parts = [q]) (hone : ∀ q, es = [q] → q.Factored) :
    (ofParts es).Factored := by
  match es with
  | [] => exact factored_empty
  | [q] => exact hone q rfl
  | q :: r :: es =>
    refine ⟨rfl, fun q' hq' => ?_⟩
    rw [parts_ofParts h] at hq'
    exact absurd hq' (by simp)

/-- Where lists in a row make up one item, one of them is all of it. -/
theorem exists_of_flatMap_eq_singleton {g : Expr → List Expr} (h : es.flatMap g = [q]) :
    ∃ e ∈ es, g e = [q] := by
  obtain ⟨e, he, hmem⟩ := List.mem_flatMap.1 (h ▸ List.mem_singleton_self q)
  have hsub : (g e).Sublist [q] := h ▸ List.sublist_flatten_of_mem (List.mem_map_of_mem he)
  exact ⟨e, he, hsub.eq_of_length_le (List.length_pos_of_mem hmem)⟩

/-- A sequence is factored if it has several parts, or one that is factored. -/
theorem factored_sequence_of_part (h : ∀ q, es.flatMap parts = [q] → q.Factored) :
    (sequence es).Factored := by
  have hparts : ∀ q ∈ es.flatMap parts, q.parts = [q] := fun q hq => by
    obtain ⟨e, -, hq⟩ := List.mem_flatMap.1 hq
    exact parts_of_mem_parts hq
  refine factored_ofParts (parts_of_mem_joinTexts hparts) fun q hq => ?_
  rcases eq_of_joinTexts hq with hq | ⟨t, rfl⟩
  · exact h q hq
  · exact factored_of_eq rfl rfl

theorem factored_sequence (h : ∀ e ∈ es, e.Factored) : (sequence es).Factored :=
  factored_sequence_of_part fun q hq => by
    obtain ⟨e, he, heq⟩ := exists_of_flatMap_eq_singleton hq
    exact (h e he).part q heq ▸ h e he

/-! ### Alternatives -/

theorem branches_ofBranches (hne : es ≠ []) (h : ∀ q ∈ es, q.branches = [q]) :
    (ofBranches es).branches = es := by
  fun_induction ofBranches es with
  | case1 => exact absurd rfl hne
  | case2 e => exact h e List.mem_cons_self
  | case3 e es hes ih =>
    obtain ⟨he, h⟩ := List.forall_mem_cons.1 h
    rw [branches, he, ih hes h]
    rfl

theorem factored_anyOf (h : ∀ e ∈ es, e.branches = [e]) (hone : ∀ e, es = [e] → e.Factored)
    (hstart : sharedStart es = []) : (anyOf es).Factored := by
  match es with
  | [e] => exact hone e rfl
  | [] => exact factored_oneOfSet _ _
  | e :: f :: es =>
    unfold anyOf
    dsimp only
    split
    · exact factored_oneOfSet _ _
    · refine ⟨?_, fun q hq => (List.cons.inj hq).1.symm⟩
      rwa [branches_ofBranches (List.cons_ne_nil _ _) h]

/-- Any of several branches is one part. -/
theorem parts_anyOf_ne_nil (h : 2 ≤ es.length) : (anyOf es).parts ≠ [] := by
  match es, h with
  | e :: f :: es, _ =>
    unfold anyOf
    dsimp only
    split
    · unfold oneOfSet
      split
      · exact List.cons_ne_nil _ _
      · split <;> exact List.cons_ne_nil _ _
    · exact List.cons_ne_nil _ _

theorem length_le_flatMap_branches (es : List Expr) : es.length ≤ (es.flatMap branches).length := by
  induction es with
  | nil => exact Nat.le_refl _
  | cons e es ih =>
    have he := List.length_pos_iff.2 e.branches_ne_nil
    rw [List.flatMap_cons, List.length_append, List.length_cons]
    omega

theorem factored_alternatives (h : ∀ e ∈ es, e.Factored) : (alternatives es).Factored := by
  have hbranches : ∀ b ∈ es.flatMap branches, b.branches = [b] := fun b hb => by
    obtain ⟨e, -, hb⟩ := List.mem_flatMap.1 hb
    exact branches_of_mem_branches hb
  have hone : ∀ b, es.flatMap branches = [b] → b.Factored := fun b hb => by
    obtain ⟨e, he, heq⟩ := exists_of_flatMap_eq_singleton hb
    exact eq_of_branches heq ▸ h e he
  unfold alternatives
  dsimp only
  generalize es.flatMap branches = bs at hbranches hone
  split
  · rename_i hnil
    exact factored_anyOf hbranches hone (List.isEmpty_iff.1 hnil)
  · -- the common start and the choice behind it are two parts at least
    rename_i hne
    have hne : sharedStart bs ≠ [] := fun hnil => hne (by rw [hnil]; rfl)
    have hlength := (sharedStart_ne_nil hne).1
    have hchoice := length_le_flatMap_branches
      (bs.map fun b => sequence (b.parts.drop (sharedStart bs).length))
    rw [List.length_map] at hchoice
    have hlast := List.length_pos_iff.2 (parts_anyOf_ne_nil (hlength.trans hchoice))
    have hfirst : 0 < ((sharedStart bs).flatMap parts).length := by
      obtain ⟨p, rest, hp⟩ := List.exists_cons_of_ne_nil hne
      obtain ⟨b, hb⟩ := List.exists_mem_of_length_pos (Nat.lt_of_lt_of_le Nat.two_pos hlength)
      have hmem := (sharedStart_prefix_parts b hb).subset (hp ▸ List.mem_cons_self)
      rw [hp, List.flatMap_cons, parts_of_mem_parts hmem]
      exact Nat.succ_pos _
    refine factored_sequence_of_part fun q hq => absurd (congrArg List.length hq) ?_
    rw [List.flatMap_append, List.flatMap_singleton, List.length_append, List.length_singleton]
    omega

theorem factored_repeated (least : Nat) (most : Option Nat) (greedy : Bool) (h : e.Factored) :
    (repeated least most greedy e).Factored := by
  have hbuild : ∀ l m, (if l = 0 ∧ m = some 0 then Expr.empty else if l = 1 ∧ m = some 1 then e
      else times l m greedy e).Factored := fun l m => by
    split
    · exact factored_empty
    · split
      · exact h
      · exact factored_of_eq rfl rfl
  exact hbuild _ _

end Expr

/-! ## The expressions of trees -/

theorem Atom.factored_of_meaning {f : Flags} {a : Atom} {e : Expr} (h : a.meaning f = .ok e) :
    e.Factored := by
  cases a with
  | literal l =>
    obtain ⟨c, -, rfl⟩ := map_eq_ok.1 h
    unfold charExpr
    dsimp only
    split
    · exact Expr.factored_of_eq rfl rfl
    · exact Expr.factored_oneOfSet _ _
  | dot x =>
    unfold Atom.meaning at h
    dsimp only at h
    split at h
    · obtain rfl := Except.ok.inj h
      exact Expr.factored_of_eq rfl rfl
    · exact absurd h (by simp [fail])
  | assertion x k =>
    obtain rfl := Except.ok.inj h
    exact Expr.factored_of_eq rfl rfl
  | shorthand x k n =>
    obtain ⟨s, -, rfl⟩ := map_eq_ok.1 h
    exact Expr.factored_oneOfSet _ s
  | property x n neg =>
    obtain ⟨s, -, rfl⟩ := map_eq_ok.1 h
    exact Expr.factored_oneOfSet _ s

mutual

/-- **The expression of a tree is factored.** -/
theorem Tree.factored_of_meaning : ∀ (t : Tree) {f f' : Flags} {e : Expr},
    t.meaning f = .ok (e, f') → e.Factored
  | .empty, _, _, _, h => by
    obtain ⟨rfl, -⟩ := Prod.mk.inj (Except.ok.inj h)
    exact Expr.factored_empty
  | .flags change, _, _, _, h => by
    obtain ⟨rfl, -⟩ := Prod.mk.inj (Except.ok.inj h)
    exact Expr.factored_empty
  | .atom a, _, _, _, h => by
    obtain ⟨e, he, hpair⟩ := map_eq_ok.1 h
    obtain ⟨rfl, -⟩ := Prod.mk.inj hpair
    exact Atom.factored_of_meaning he
  | .bracket s, _, _, _, h => by
    obtain ⟨m, -, hpair⟩ := map_eq_ok.1 h
    obtain ⟨rfl, -⟩ := Prod.mk.inj hpair
    exact Expr.factored_oneOfSet _ m
  | .repetition _ b greedy t, _, _, _, h => by
    obtain ⟨⟨e, f⟩, he, hpair⟩ := bind_eq_ok.1 h
    obtain ⟨rfl, -⟩ := Prod.mk.inj (Except.ok.inj hpair)
    exact Expr.factored_repeated _ _ _ (Tree.factored_of_meaning t he)
  | .group _ (.capture index name) t, _, _, _, h => by
    obtain ⟨⟨e, f⟩, -, hpair⟩ := bind_eq_ok.1 h
    obtain ⟨rfl, -⟩ := Prod.mk.inj (Except.ok.inj hpair)
    exact Expr.factored_of_eq rfl rfl
  | .group _ (.plain change) t, _, _, _, h => by
    obtain ⟨⟨e, f⟩, he, hpair⟩ := bind_eq_ok.1 h
    obtain ⟨rfl, -⟩ := Prod.mk.inj (Except.ok.inj hpair)
    exact Tree.factored_of_meaning t he
  | .alternation _ ts, _, _, _, h => by
    obtain ⟨⟨es, f⟩, hes, hpair⟩ := bind_eq_ok.1 h
    obtain ⟨rfl, -⟩ := Prod.mk.inj (Except.ok.inj hpair)
    exact Expr.factored_alternatives (Tree.factored_of_allMeanings ts hes)
  | .sequence _ ts, _, _, _, h => by
    obtain ⟨⟨es, f⟩, hes, hpair⟩ := bind_eq_ok.1 h
    obtain ⟨rfl, -⟩ := Prod.mk.inj (Except.ok.inj hpair)
    exact Expr.factored_sequence (Tree.factored_of_allMeanings ts hes)

/-- The same for the trees of a list. -/
theorem Tree.factored_of_allMeanings : ∀ (ts : List Tree) {f f' : Flags} {es : List Expr},
    Tree.allMeanings f ts = .ok (es, f') → ∀ e ∈ es, e.Factored
  | [], _, _, _, h => by
    obtain ⟨rfl, -⟩ := Prod.mk.inj (Except.ok.inj h)
    exact fun e he => absurd he List.not_mem_nil
  | t :: ts, _, _, _, h => by
    obtain ⟨⟨e, f⟩, he, h⟩ := bind_eq_ok.1 h
    obtain ⟨⟨es, f'⟩, hes, hpair⟩ := bind_eq_ok.1 h
    obtain ⟨rfl, -⟩ := Prod.mk.inj (Except.ok.inj hpair)
    exact List.forall_mem_cons.2 ⟨Tree.factored_of_meaning t he, Tree.factored_of_allMeanings ts hes⟩

end

theorem Expr.factored_of_ofSource {source : Text} {e : Expr} (h : Expr.ofSource source = .ok e) :
    e.Factored := by
  obtain ⟨t, -, h⟩ := bind_eq_ok.1 h
  obtain ⟨⟨e', f⟩, he, h⟩ := bind_eq_ok.1 h
  obtain rfl := Except.ok.inj h
  exact Tree.factored_of_meaning t he

/-! ## What is chosen -/

namespace Expr

variable {e f a b : Expr} {es fs : List Expr} {k : Spot → Prop} {x y : Trail} {s : Spot}

/-- From a spot an expression matches up to one spot at most. -/
def OneWay (e : Expr) (s : Spot) : Prop := ∀ s₁ s₂ : Spot, e.Matches s s₁ → e.Matches s s₂ → s₁ = s₂

theorem oneWay_text (t : Text) (s : Spot) : (text t).OneWay s := by
  rintro _ _ ⟨r, hr, rfl⟩ ⟨r', hr', rfl⟩
  rw [List.append_cancel_left (hr.symm.trans hr')]

theorem can_alt_seq (ho : e.Ordered) :
    (alt (seq e a) (seq e b)).Can k s ↔ (seq e (alt a b)).Can k s := by
  have hcan : (alt a b).Can k = fun s => a.Can k s ∨ b.Can k s :=
    funext fun s => propext can_alt
  rw [can_alt, can_seq, can_seq, can_seq, hcan]
  simp only [can_iff_matches ho, and_or_left, exists_or]

/-- What two branches start with may be taken out of them, if one of them at most can go on or there
is one way at most in which they can start. -/
theorem chooses_alt_seq (ho : e.Ordered)
    (h : (seq e a).Can k x.1 → (seq e b).Can k x.1 → e.OneWay x.1) :
    (alt (seq e a) (seq e b)).Chooses k x y ↔ (seq e (alt a b)).Chooses k x y := by
  have hcan : (alt a b).Can k = fun s => a.Can k s ∨ b.Can k s :=
    funext fun s => propext can_alt
  rw [can_seq, can_seq] at h
  rw [chooses_alt, can_seq, chooses_seq, chooses_seq, chooses_seq, hcan]
  simp only [chooses_alt]
  by_cases hfirst : e.Can (a.Can k) x.1
  · -- wherever the second branch goes on, the first one does
    obtain ⟨s, hs, hk⟩ := (can_iff_matches ho).1 hfirst
    have hall : ∀ s', e.Matches x.1 s' → b.Can k s' → a.Can k s' := fun s' hs' hk' =>
      h hfirst ((can_iff_matches ho).2 ⟨s', hs', hk'⟩) s s' hs hs' ▸ hk
    have hiff : ∀ z, e.Chooses (a.Can k) x z ↔ e.Chooses (fun s => a.Can k s ∨ b.Can k s) x z :=
      fun z => chooses_congr ho fun s' hs' => ⟨Or.inl, fun hk' => hk'.elim id (hall s' hs')⟩
    simp only [hfirst, not_true_eq_false, false_and, or_false, ← hiff]
    exact exists_congr fun z => and_congr_right fun hz => by simp [hz.holds]
  · -- the first branch goes on from no spot that the start matches up to
    have hall : ∀ s', e.Matches x.1 s' → ¬a.Can k s' := fun s' hs' hk =>
      hfirst ((can_iff_matches ho).2 ⟨s', hs', hk⟩)
    have hiff : ∀ z, e.Chooses (b.Can k) x z ↔ e.Chooses (fun s => a.Can k s ∨ b.Can k s) x z :=
      fun z => chooses_congr ho fun s' hs' => by simp [hall s' hs']
    have hno : ¬∃ z, e.Chooses (a.Can k) x z ∧ a.Chooses k z y := fun ⟨z, hz, _⟩ => hfirst hz.can
    simp only [hfirst, not_false_eq_true, true_and, hno, false_or, hiff]
    refine exists_congr fun z => and_congr_right fun hz => ?_
    have hz' := hall z.1 (hz.runs ho).matches
    simp only [hz', not_false_eq_true, true_and]
    exact ⟨Or.inr, fun h => h.resolve_left fun ha => hz' ha.can⟩

/-- What alternatives have in common at their start, and what is taken out of them. -/
def commonLead (es : List Expr) : Expr := sequence (sharedStart (es.flatMap branches))

theorem ordered_commonLead (h : ∀ e ∈ es, e.Ordered) : (commonLead es).Ordered := by
  refine ordered_sequence (ordered_of_mem_sharedStart fun b hb => ?_)
  obtain ⟨e, he, hb⟩ := List.mem_flatMap.1 hb
  exact ordered_of_mem_branches (h e he) b hb

/-- The branches of a factored expression start alike with others only if there is one. -/
theorem Factored.branches_eq (he : e.Factored) (hsub : e.branches ⊆ fs) (h : sharedStart fs ≠ []) :
    e.branches = [e] := by
  have hlength : ¬2 ≤ e.branches.length := fun hle =>
    sharedStart_ne_nil_of_subset hsub hle h he.start
  obtain ⟨q, hq⟩ : ∃ q, e.branches = [q] := by
    have hpos := List.length_pos_iff.2 e.branches_ne_nil
    exact List.length_eq_one_iff.1 (by omega)
  rw [hq, eq_of_branches hq]

/-- Two factored expressions are alternatives as they are, or both are what they have in common and
a rest. -/
theorem alternatives_pair (he : e.Factored) (hf : f.Factored) :
    (alternatives [e, f]).Alike (alt e f) ∨
      ∃ a b, (seq (commonLead [e, f]) a).Alike e ∧ (seq (commonLead [e, f]) b).Alike f ∧
        (alternatives [e, f]).Alike (seq (commonLead [e, f]) (alt a b)) := by
  by_cases hnil : sharedStart ([e, f].flatMap branches) = []
  · refine Or.inl ?_
    unfold alternatives
    dsimp only
    rw [hnil]
    exact (anyOf_alike _).trans (ofBranches_flatMap_branches_alike [e, f])
  · -- neither is an alternative itself, for its own branches do not start alike
    have hpair : [e, f].flatMap branches = [e, f] := by
      have he' := he.branches_eq (List.subset_append_left _ _) hnil
      have hf' := hf.branches_eq
        (fun x hx => List.mem_append_right _ (List.mem_append_left _ hx)) hnil
      rw [List.flatMap_cons, List.flatMap_singleton, he', hf']
      rfl
    refine Or.inr ?_
    unfold commonLead alternatives
    dsimp only
    rw [hpair] at hnil ⊢
    have hsplit : ∀ g ∈ [e, f], (seq (sequence (sharedStart [e, f]))
        (sequence (g.parts.drop (sharedStart [e, f]).length))).Alike g := fun g hg => by
      obtain ⟨rest, hrest⟩ := sharedStart_prefix_parts g hg
      refine (sequence_append_alike _ _).symm.trans ?_
      rw [← hrest, List.drop_left, hrest]
      exact sequence_parts_alike g
    refine ⟨_, _, hsplit e (by simp), hsplit f (by simp), ?_⟩
    rw [if_neg fun hempty => hnil (List.isEmpty_iff.1 hempty)]
    exact (sequence_append_alike _ _).trans (Alike.seq (.refl _) ((sequence_singleton_alike _).trans
      ((anyOf_alike _).trans (ofBranches_flatMap_branches_alike _))))

section Two

variable (he : e.Factored) (hf : f.Factored) (hoe : e.Ordered) (hof : f.Ordered)

include he hf hoe hof

/-- **Alternatives can go on where one of them can.** -/
theorem can_alternatives : (alternatives [e, f]).Can k s ↔ e.Can k s ∨ f.Can k s := by
  have ho : (commonLead [e, f]).Ordered := ordered_commonLead (by simp [hoe, hof])
  rcases alternatives_pair he hf with h | ⟨a, b, ha, hb, h⟩
  · rw [h.can, can_alt]
  · rw [h.can, ← can_alt_seq ho, can_alt, ha.can, hb.can]

/-- **Alternatives choose the first that can go on**, if one at most can, or if there is one way at
most through what both start with. -/
theorem chooses_alternatives (h : e.Can k x.1 → f.Can k x.1 → (commonLead [e, f]).OneWay x.1) :
    (alternatives [e, f]).Chooses k x y ↔ e.Chooses k x y ∨ ¬e.Can k x.1 ∧ f.Chooses k x y := by
  have ho : (commonLead [e, f]).Ordered := ordered_commonLead (by simp [hoe, hof])
  rcases alternatives_pair he hf with h' | ⟨a, b, ha, hb, h'⟩
  · rw [h'.chooses, chooses_alt]
  · have hway := chooses_alt_seq (k := k) (x := x) (y := y) (a := a) (b := b) ho
      fun ha' hb' => h (ha.can.1 ha') (hb.can.1 hb')
    rw [h'.chooses, ← hway, chooses_alt, ha.can, ha.chooses, hb.chooses]

end Two

end Expr
end Regex
end TextScan
