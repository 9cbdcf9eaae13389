/-
# The groups of an expression

The simple forms of expressions keep the groups of what they are built from (`groups_sequence`,
`mem_groups_alternatives`), but for a repetition of zero times, which has none (`groups_repeated`).
So the expression of a tree has the groups that the tree keeps (`Tree.mem_groups_of_meaning`).

The names of the groups are listed by number, up to the greatest number of a group
(`isLeast_length_groupNames`, `groupNames_getElem?_eq_some_iff`).  A run marks the ends of groups
that the expression has and of no others (`Expr.Runs.marks_of_groups`), so it has no place for other
groups (`Expr.Runs.group?_eq_none`).
-/

import Mathlib.Order.Bounds.Basic
import TextScan.Proofs.Regex.Captures
import TextScan.Proofs.Regex.Marks

namespace TextScan
namespace Regex
namespace Expr

variable {e : Expr} {es : List Expr} {g : Nat × Option Text}

/-! ## Simple forms -/

theorem groups_parts (e : Expr) : e.parts.flatMap groups = e.groups := by
  induction e with
  | empty => rfl
  | seq a b iha ihb => rw [parts, List.flatMap_append, iha, ihb, groups]
  | _ => exact List.append_nil _

theorem groups_branches (e : Expr) : e.branches.flatMap groups = e.groups := by
  induction e with
  | alt a b iha ihb => rw [branches, List.flatMap_append, iha, ihb, groups]
  | _ => exact List.append_nil _

theorem groups_joinTexts (es : List Expr) : (joinTexts es).flatMap groups = es.flatMap groups := by
  fun_induction joinTexts es with
  | case1 => rfl
  | case2 es t u rest hjoin ih =>
    rw [hjoin] at ih
    simpa only [List.flatMap_cons, groups, List.nil_append] using ih
  | case3 es t _ ih => simpa only [List.flatMap_cons, groups, List.nil_append] using ih
  | case4 e es _ ih => rw [List.flatMap_cons, List.flatMap_cons, ih]

theorem groups_ofParts (es : List Expr) : (ofParts es).groups = es.flatMap groups := by
  fun_induction ofParts es with
  | case1 => rfl
  | case2 e => exact (List.append_nil _).symm
  | case3 e es _ ih => rw [groups, ih, List.flatMap_cons]

theorem groups_ofBranches (es : List Expr) : (ofBranches es).groups = es.flatMap groups := by
  fun_induction ofBranches es with
  | case1 => rfl
  | case2 e => exact (List.append_nil _).symm
  | case3 e es _ ih => rw [groups, ih, List.flatMap_cons]

theorem flatMap_groups_flatMap {f : Expr → List Expr} (hf : ∀ e, (f e).flatMap groups = e.groups)
    (es : List Expr) : (es.flatMap f).flatMap groups = es.flatMap groups := by
  rw [List.flatMap_assoc]
  exact congrArg (es.flatMap ·) (funext hf)

theorem groups_sequence (es : List Expr) : (sequence es).groups = es.flatMap groups := by
  rw [sequence, groups_ofParts, groups_joinTexts, flatMap_groups_flatMap groups_parts]

theorem groups_oneOfSet (bytes : Bool) (s : CharSet) : (oneOfSet bytes s).groups = [] := by
  unfold oneOfSet
  split
  · rfl
  · split <;> rfl

/-- Where a list is gone through without a failure, no item of it fails. -/
theorem exists_of_mapM {α β : Type} {f : α → Option β} {as : List α} {bs : List β}
    (h : as.mapM f = some bs) : ∀ a ∈ as, ∃ b, f a = some b := by
  induction as generalizing bs with
  | nil => exact fun _ ha => absurd ha List.not_mem_nil
  | cons a as ih =>
    rw [List.mapM_cons] at h
    obtain ⟨b, hb, h⟩ := Option.bind_eq_some_iff.1 h
    obtain ⟨bs, hbs, -⟩ := Option.bind_eq_some_iff.1 h
    exact List.forall_mem_cons.2 ⟨⟨b, hb⟩, ih hbs⟩

/-- Characters and sets have no groups. -/
theorem groups_of_unionOf? {s : CharSet} (h : unionOf? es = some s) : es.flatMap groups = [] := by
  rw [List.flatMap_eq_nil_iff]
  intro e he
  unfold unionOf? at h
  split at h
  · rename_i cs hcs
    obtain ⟨c, hc⟩ := exists_of_mapM hcs e he
    unfold char? at hc
    split at hc
    · rfl
    · exact absurd hc (by simp)
  · obtain ⟨ss, hss, -⟩ := Option.map_eq_some_iff.1 h
    obtain ⟨s', hs'⟩ := exists_of_mapM hss e he
    unfold set? at hs'
    split at hs'
    · rfl
    · exact absurd hs' (by simp)

theorem groups_anyOf (es : List Expr) : (anyOf es).groups = es.flatMap groups := by
  unfold anyOf
  split
  · exact (List.append_nil _).symm
  · split
    · rename_i s h
      rw [groups_of_unionOf? h, groups_oneOfSet]
    · exact groups_ofBranches es

theorem commonStart_prefixes (es fs : List Expr) :
    commonStart es fs <+: es ∧ commonStart es fs <+: fs := by
  fun_induction commonStart es fs with
  | case1 e es fs ih =>
    exact ⟨List.cons_prefix_cons.2 ⟨rfl, ih.1⟩, List.cons_prefix_cons.2 ⟨rfl, ih.2⟩⟩
  | case2 => exact ⟨List.nil_prefix, List.nil_prefix⟩
  | case3 => exact ⟨List.nil_prefix, List.nil_prefix⟩

theorem foldl_commonStart_prefixes (es : List Expr) (fs : List Expr) :
    fs.foldl (fun p b => commonStart p b.parts) es <+: es ∧
      ∀ f ∈ fs, fs.foldl (fun p b => commonStart p b.parts) es <+: f.parts := by
  induction fs generalizing es with
  | nil => exact ⟨List.prefix_refl es, fun _ hf => absurd hf List.not_mem_nil⟩
  | cons f fs ih =>
    obtain ⟨hes, hfs⟩ := ih (commonStart es f.parts)
    obtain ⟨h, h'⟩ := commonStart_prefixes es f.parts
    exact ⟨hes.trans h, List.forall_mem_cons.2 ⟨hes.trans h', hfs⟩⟩

/-- Every branch starts with what all branches start with. -/
theorem sharedStart_prefix_parts : ∀ e ∈ es, sharedStart es <+: e.parts := by
  unfold sharedStart
  split
  · rename_i e f es
    split
    · obtain ⟨h, h'⟩ := foldl_commonStart_prefixes e.parts (f :: es)
      exact List.forall_mem_cons.2 ⟨h, h'⟩
    · exact fun _ _ => List.nil_prefix
  · exact fun _ _ => List.nil_prefix

theorem mem_groups_alternatives :
    g ∈ (alternatives es).groups ↔ g ∈ es.flatMap groups := by
  rw [← flatMap_groups_flatMap groups_branches es]
  unfold alternatives
  dsimp only
  generalize hbs : es.flatMap branches = bs
  split
  · rw [groups_anyOf]
  · rename_i hshared
    have hparts : ∀ b ∈ bs, b.groups = (sharedStart bs).flatMap groups ++
        (b.parts.drop (sharedStart bs).length).flatMap groups := by
      intro b hb
      obtain ⟨rest, hrest⟩ := sharedStart_prefix_parts b hb
      rw [← groups_parts b, ← hrest, List.drop_left, List.flatMap_append]
    have hne : bs ≠ [] := by
      rintro rfl
      exact hshared rfl
    rw [groups_sequence, List.flatMap_append, List.flatMap_singleton, groups_anyOf,
      flatMap_groups_flatMap groups_branches, List.flatMap_map, List.mem_append]
    simp only [groups_sequence]
    constructor
    · rintro (h | h)
      · obtain ⟨b, hb⟩ := List.exists_mem_of_ne_nil bs hne
        exact List.mem_flatMap.2 ⟨b, hb, by rw [hparts b hb]; exact List.mem_append_left _ h⟩
      · obtain ⟨b, hb, h⟩ := List.mem_flatMap.1 h
        exact List.mem_flatMap.2 ⟨b, hb, by rw [hparts b hb]; exact List.mem_append_right _ h⟩
    · intro h
      obtain ⟨b, hb, h⟩ := List.mem_flatMap.1 h
      rw [hparts b hb] at h
      exact (List.mem_append.1 h).imp_right fun h => List.mem_flatMap.2 ⟨b, hb, h⟩

/-- Only a repetition of zero times has not the groups of its body. -/
theorem groups_repeated (least : Nat) (most : Option Nat) (greedy : Bool) (e : Expr) :
    (repeated least most greedy e).groups = if least = 0 ∧ most = some 0 then [] else e.groups := by
  have hbuild : ∀ l m, (l = 0 ∧ m = some 0 ↔ least = 0 ∧ most = some 0) →
      (if l = 0 ∧ m = some 0 then Expr.empty else if l = 1 ∧ m = some 1 then e
        else times l m greedy e).groups = if least = 0 ∧ most = some 0 then [] else e.groups := by
    intro l m hlm
    simp only [hlm]
    split
    · rfl
    · split <;> rfl
  unfold repeated
  refine hbuild _ _ ?_
  split
  · cases most with
    | none => simp
    | some m =>
      simp only [Option.elim_some, Option.some.injEq]
      omega
  · exact Iff.rfl

end Expr

/-! ## The meaning of a tree -/

theorem groups_charExpr (f : Flags) (c : Char) : (charExpr f c).groups = [] := by
  unfold charExpr
  dsimp only
  split
  · rfl
  · exact Expr.groups_oneOfSet _ _

theorem Atom.groups_of_meaning {a : Atom} {f : Flags} {e : Expr} (h : a.meaning f = .ok e) :
    e.groups = [] := by
  cases a with
  | literal l =>
    obtain ⟨c, -, rfl⟩ := map_eq_ok.1 h
    exact groups_charExpr f c
  | dot x =>
    unfold Atom.meaning at h
    dsimp only at h
    split at h
    · obtain rfl := Except.ok.inj h
      rfl
    · exact absurd h (by simp [fail])
  | assertion x k =>
    obtain rfl := Except.ok.inj h
    rfl
  | shorthand x k n =>
    obtain ⟨s, -, rfl⟩ := map_eq_ok.1 h
    exact Expr.groups_oneOfSet _ s
  | property x n neg =>
    obtain ⟨s, -, rfl⟩ := map_eq_ok.1 h
    exact Expr.groups_oneOfSet _ s

mutual

/-- **The expression of a tree has the groups that the tree keeps.** -/
theorem Tree.mem_groups_of_meaning : ∀ (t : Tree) {f f' : Flags} {e : Expr} {g : Nat × Option Text},
    t.meaning f = .ok (e, f') → (g ∈ e.groups ↔ g ∈ t.kept)
  | .empty, _, _, _, _, h => by
    obtain ⟨rfl, -⟩ := Prod.mk.inj (Except.ok.inj h)
    exact Iff.rfl
  | .flags change, _, _, _, _, h => by
    obtain ⟨rfl, -⟩ := Prod.mk.inj (Except.ok.inj h)
    exact Iff.rfl
  | .atom a, _, _, _, _, h => by
    obtain ⟨e, he, hpair⟩ := map_eq_ok.1 h
    obtain ⟨rfl, -⟩ := Prod.mk.inj hpair
    rw [Atom.groups_of_meaning he]
    exact Iff.rfl
  | .bracket s, _, _, _, _, h => by
    obtain ⟨m, -, hpair⟩ := map_eq_ok.1 h
    obtain ⟨rfl, -⟩ := Prod.mk.inj hpair
    rw [Expr.groups_oneOfSet]
    exact Iff.rfl
  | .repetition _ b greedy t, _, _, _, g, h => by
    obtain ⟨⟨e, f⟩, he, hpair⟩ := bind_eq_ok.1 h
    obtain ⟨rfl, -⟩ := Prod.mk.inj (Except.ok.inj hpair)
    have hbody := Tree.mem_groups_of_meaning t (g := g) he
    rw [Expr.groups_repeated, Tree.kept, Tree.capturesIf]
    by_cases hb : b.IsZero
    · rw [if_pos (show b.least = 0 ∧ b.most = some 0 from hb), if_neg (by simp [hb])]
    · rw [if_neg (show ¬(b.least = 0 ∧ b.most = some 0) from hb), if_pos (by simp [hb])]
      exact hbody
  | .group _ (.capture index name) t, _, _, _, g, h => by
    obtain ⟨⟨e, f⟩, he, hpair⟩ := bind_eq_ok.1 h
    obtain ⟨rfl, -⟩ := Prod.mk.inj (Except.ok.inj hpair)
    have hbody := Tree.mem_groups_of_meaning t (g := g) he
    exact List.mem_cons.trans ((or_congr_right hbody).trans List.mem_cons.symm)
  | .group _ (.plain change) t, _, _, _, _, h => by
    obtain ⟨⟨e, f⟩, he, hpair⟩ := bind_eq_ok.1 h
    obtain ⟨rfl, -⟩ := Prod.mk.inj (Except.ok.inj hpair)
    exact Tree.mem_groups_of_meaning t he
  | .alternation _ ts, _, _, _, _, h => by
    obtain ⟨⟨es, f⟩, hes, hpair⟩ := bind_eq_ok.1 h
    obtain ⟨rfl, -⟩ := Prod.mk.inj (Except.ok.inj hpair)
    exact Expr.mem_groups_alternatives.trans (Tree.mem_groups_of_allMeanings ts hes)
  | .sequence _ ts, _, _, _, _, h => by
    obtain ⟨⟨es, f⟩, hes, hpair⟩ := bind_eq_ok.1 h
    obtain ⟨rfl, -⟩ := Prod.mk.inj (Except.ok.inj hpair)
    rw [Expr.groups_sequence]
    exact Tree.mem_groups_of_allMeanings ts hes

/-- The same for trees in a row. -/
theorem Tree.mem_groups_of_allMeanings : ∀ (ts : List Tree) {f f' : Flags} {es : List Expr}
    {g : Nat × Option Text}, Tree.allMeanings f ts = .ok (es, f') →
      (g ∈ es.flatMap Expr.groups ↔ g ∈ Tree.allCapturesIf (fun b => !decide b.IsZero) ts)
  | [], _, _, _, _, h => by
    obtain ⟨rfl, -⟩ := Prod.mk.inj (Except.ok.inj h)
    exact Iff.rfl
  | t :: ts, _, _, _, g, h => by
    obtain ⟨⟨e, f⟩, he, h⟩ := bind_eq_ok.1 h
    obtain ⟨⟨es, f'⟩, hes, hpair⟩ := bind_eq_ok.1 h
    obtain ⟨rfl, -⟩ := Prod.mk.inj (Except.ok.inj hpair)
    have hhead := Tree.mem_groups_of_meaning t (g := g) he
    rw [List.flatMap_cons, List.mem_append, Tree.allCapturesIf, List.mem_append]
    exact or_congr hhead (Tree.mem_groups_of_allMeanings ts hes)

end

/-! ## Numbers and names -/

namespace Expr

variable {e : Expr}

theorem le_foldl_max {gs : List (Nat × Option Text)} {n : Nat} :
    n ≤ gs.foldl (fun n g => max n g.1) n ∧
      ∀ g ∈ gs, g.1 ≤ gs.foldl (fun n g => max n g.1) n := by
  induction gs generalizing n with
  | nil => exact ⟨Nat.le_refl n, fun _ h => absurd h List.not_mem_nil⟩
  | cons g gs ih =>
    obtain ⟨hn, hgs⟩ := ih (n := max n g.1)
    exact ⟨Nat.le_trans (Nat.le_max_left _ _) hn,
      List.forall_mem_cons.2 ⟨Nat.le_trans (Nat.le_max_right _ _) hn, hgs⟩⟩

theorem foldl_max_le {gs : List (Nat × Option Text)} {n m : Nat} (hn : n ≤ m)
    (hgs : ∀ g ∈ gs, g.1 ≤ m) : gs.foldl (fun n g => max n g.1) n ≤ m := by
  induction gs generalizing n with
  | nil => exact hn
  | cons g gs ih =>
    exact ih (Nat.max_le.2 ⟨hn, hgs g List.mem_cons_self⟩)
      fun g' hg' => hgs g' (List.mem_cons_of_mem g hg')

theorem length_groupNames (e : Expr) :
    e.groupNames.length = e.groups.foldl (fun n g => max n g.1) 0 := by
  simp only [groupNames, List.length_map, List.length_range]

/-- There are as many names as the greatest number of a group says. -/
theorem isLeast_length_groupNames (e : Expr) :
    IsLeast {n | ∀ g ∈ e.groups, g.1 ≤ n} e.groupNames.length := by
  rw [length_groupNames]
  exact ⟨le_foldl_max.2, fun n hn => foldl_max_le (Nat.zero_le n) hn⟩

/-- The name of a group stands at its number, where no two groups have one number. -/
theorem groupNames_getElem?_eq_some_iff (hnumbers : ∀ g ∈ e.groups, ∀ g' ∈ e.groups,
    g.1 = g'.1 → g = g') {i : Nat} {name : Text} :
    e.groupNames[i]? = some (some name) ↔ (i + 1, some name) ∈ e.groups := by
  simp only [groupNames, List.getElem?_map, Option.map_eq_some_iff]
  constructor
  · rintro ⟨j, hj, h⟩
    obtain ⟨hlt, rfl⟩ := List.getElem?_eq_some_iff.1 hj
    obtain ⟨⟨k, n⟩, hg, rfl⟩ := Option.bind_eq_some_iff.1 h
    have hk := List.find?_some hg
    simp only [List.getElem_range, beq_iff_eq] at hk
    exact hk ▸ List.mem_of_find?_eq_some hg
  · intro hmem
    have hle : i + 1 ≤ _ := (le_foldl_max (n := 0)).2 _ hmem
    refine ⟨i, List.getElem?_range (by omega), ?_⟩
    cases hg : e.groups.find? (·.1 == i + 1) with
    | none => exact absurd (List.find?_eq_none.1 hg _ hmem) (by simp)
    | some g =>
      have hi : g.1 = i + 1 := by simpa using List.find?_some hg
      rw [hnumbers g (List.mem_of_find?_eq_some hg) _ hmem hi]
      rfl

/-- A run marks the ends of groups that the expression has. -/
theorem Runs.marks_of_groups {x y : Trail} (h : e.Runs x y) :
    ∃ new, y.2 = new ++ x.2 ∧
      ∀ k o, (k, o) ∈ new → ∃ g ∈ e.groups, k = 2 * g.1 ∨ k = 2 * g.1 + 1 := by
  induction e generalizing x y with
  | empty =>
    obtain rfl : y = x := h
    exact ⟨[], rfl, fun _ _ h => absurd h List.not_mem_nil⟩
  | text u =>
    obtain ⟨r, -, rfl⟩ := h
    exact ⟨[], rfl, fun _ _ h => absurd h List.not_mem_nil⟩
  | oneOf _ set =>
    obtain ⟨c, r, -, -, rfl⟩ := h
    exact ⟨[], rfl, fun _ _ h => absurd h List.not_mem_nil⟩
  | anchor a =>
    obtain ⟨-, rfl⟩ := h
    exact ⟨[], rfl, fun _ _ h => absurd h List.not_mem_nil⟩
  | group i name e ih =>
    obtain ⟨z, hz, rfl⟩ := h
    obtain ⟨new, hnew, hmarks⟩ := ih hz
    refine ⟨(2 * i + 1, z.1.offset) :: (new ++ [(2 * i, x.1.offset)]), by simp [hnew], ?_⟩
    intro k o hk
    rcases List.mem_cons.1 hk with hk | hk
    · exact ⟨(i, name), List.mem_cons_self, Or.inr (Prod.mk.inj hk).1⟩
    rcases List.mem_append.1 hk with hk | hk
    · obtain ⟨g, hg, hkg⟩ := hmarks k o hk
      exact ⟨g, List.mem_cons_of_mem _ hg, hkg⟩
    · exact ⟨(i, name), List.mem_cons_self, Or.inl (Prod.mk.inj (List.mem_singleton.1 hk)).1⟩
  | times least most _ e ih =>
    obtain ⟨n, -, h⟩ := h
    induction n generalizing x with
    | zero =>
      obtain rfl : y = x := h
      exact ⟨[], rfl, fun _ _ h => absurd h List.not_mem_nil⟩
    | succ n ihn =>
      obtain ⟨z, hz, h⟩ := h
      obtain ⟨new₁, h₁, hm₁⟩ := ih hz
      obtain ⟨new₂, h₂, hm₂⟩ := ihn h
      exact ⟨new₂ ++ new₁, by rw [h₂, h₁, List.append_assoc],
        fun k o hk => (List.mem_append.1 hk).elim (hm₂ k o) (hm₁ k o)⟩
  | seq a b iha ihb =>
    obtain ⟨z, ha, hb⟩ := h
    obtain ⟨new₁, h₁, hm₁⟩ := iha ha
    obtain ⟨new₂, h₂, hm₂⟩ := ihb hb
    refine ⟨new₂ ++ new₁, by rw [h₂, h₁, List.append_assoc], fun k o hk => ?_⟩
    rcases List.mem_append.1 hk with hk | hk
    · obtain ⟨g, hg, hkg⟩ := hm₂ k o hk
      exact ⟨g, List.mem_append_right _ hg, hkg⟩
    · obtain ⟨g, hg, hkg⟩ := hm₁ k o hk
      exact ⟨g, List.mem_append_left _ hg, hkg⟩
  | alt a b iha ihb =>
    rcases h with h | h
    · obtain ⟨new, hnew, hm⟩ := iha h
      refine ⟨new, hnew, fun k o hk => ?_⟩
      obtain ⟨g, hg, hkg⟩ := hm k o hk
      exact ⟨g, List.mem_append_left _ hg, hkg⟩
    · obtain ⟨new, hnew, hm⟩ := ihb h
      refine ⟨new, hnew, fun k o hk => ?_⟩
      obtain ⟨g, hg, hkg⟩ := hm k o hk
      exact ⟨g, List.mem_append_right _ hg, hkg⟩

/-- A run has no place for a group that its expression does not have. -/
theorem Runs.group?_eq_none {s : Spot} {y : Trail} (h : e.Runs (s, []) y) {i : Nat}
    (hno : ∀ g ∈ e.groups, g.1 ≠ i) (sp : Span) : Hit.group? ⟨sp, y.2⟩ i = none := by
  obtain ⟨new, hnew, hmarks⟩ := h.marks_of_groups
  have hslot : y.2.get? (2 * i) = none := by
    by_contra hne
    obtain ⟨o, ho⟩ := Option.ne_none_iff_exists'.1 hne
    have hmem := Marks.mem_of_get? ho
    rw [hnew, List.append_nil] at hmem
    obtain ⟨g, hg, hk⟩ := hmarks _ _ hmem
    exact hno g hg (by omega)
  simp only [Hit.group?, hslot]

end Expr
end Regex
end TextScan
