/-
# Bounds in order

In the expression of a source no repetition has an upper bound below its lower one
(`ordered_of_ofSource`).  The reader refuses such a count, and no move of it changes the bounds in
the trees that it holds (`Reader.Ordered.move`).  Neither the meaning of a tree nor the simple forms
of expressions make new bounds that are not in order (`ordered_of_meaning`).
-/

import TextScan.Proofs.Regex.Matching
import TextScan.Proofs.Regex.Reading
import TextScan.Regex.Compile

namespace TextScan
namespace Regex

/-! ## Simple forms -/

namespace Expr

variable {e : Expr} {es : List Expr}

theorem ordered_of_mem_parts (h : e.Ordered) : ∀ x ∈ e.parts, x.Ordered := by
  induction e with
  | empty => simp [parts]
  | seq a b iha ihb =>
    intro x hx
    exact (List.mem_append.1 hx).elim (iha h.1 x) (ihb h.2 x)
  | text t => simpa [parts] using h
  | oneOf _ s => simpa [parts] using h
  | anchor a => simpa [parts] using h
  | group _ _ e _ => simpa [parts] using h
  | times _ _ _ e _ => simpa [parts] using h
  | alt a b _ _ => simpa [parts] using h

theorem ordered_of_mem_branches (h : e.Ordered) : ∀ x ∈ e.branches, x.Ordered := by
  induction e with
  | alt a b iha ihb =>
    intro x hx
    exact (List.mem_append.1 hx).elim (iha h.1 x) (ihb h.2 x)
  | empty => simpa [branches] using h
  | text t => simpa [branches] using h
  | oneOf _ s => simpa [branches] using h
  | anchor a => simpa [branches] using h
  | group _ _ e _ => simpa [branches] using h
  | times _ _ _ e _ => simpa [branches] using h
  | seq a b _ _ => simpa [branches] using h

theorem ordered_of_mem_joinTexts (h : ∀ x ∈ es, x.Ordered) : ∀ x ∈ joinTexts es, x.Ordered := by
  fun_induction joinTexts es with
  | case1 => exact h
  | case2 es t u rest hjoin ih =>
    have hrest := ih fun x hx => h x (List.mem_cons_of_mem _ hx)
    rw [hjoin] at hrest
    exact List.forall_mem_cons.2 ⟨trivial, fun x hx => hrest x (List.mem_cons_of_mem _ hx)⟩
  | case3 es t _ ih =>
    exact List.forall_mem_cons.2 ⟨trivial, ih fun x hx => h x (List.mem_cons_of_mem _ hx)⟩
  | case4 e es _ ih =>
    exact List.forall_mem_cons.2 ⟨h e List.mem_cons_self,
      ih fun x hx => h x (List.mem_cons_of_mem _ hx)⟩

theorem ordered_ofParts (h : ∀ x ∈ es, x.Ordered) : (ofParts es).Ordered := by
  fun_induction ofParts es with
  | case1 => trivial
  | case2 e => exact h e List.mem_cons_self
  | case3 e es _ ih =>
    exact ⟨h e List.mem_cons_self, ih fun x hx => h x (List.mem_cons_of_mem _ hx)⟩

theorem ordered_ofBranches (h : ∀ x ∈ es, x.Ordered) : (ofBranches es).Ordered := by
  fun_induction ofBranches es with
  | case1 => trivial
  | case2 e => exact h e List.mem_cons_self
  | case3 e es _ ih =>
    exact ⟨h e List.mem_cons_self, ih fun x hx => h x (List.mem_cons_of_mem _ hx)⟩

theorem ordered_sequence (h : ∀ x ∈ es, x.Ordered) : (sequence es).Ordered := by
  refine ordered_ofParts (ordered_of_mem_joinTexts fun x hx => ?_)
  obtain ⟨e, he, hx⟩ := List.mem_flatMap.1 hx
  exact ordered_of_mem_parts (h e he) x hx

theorem ordered_oneOfSet (bytes : Bool) (s : CharSet) : (oneOfSet bytes s).Ordered := by
  unfold oneOfSet
  split
  · trivial
  · split <;> trivial

theorem ordered_anyOf (h : ∀ x ∈ es, x.Ordered) : (anyOf es).Ordered := by
  unfold anyOf
  split
  · exact h _ List.mem_cons_self
  · split
    · exact ordered_oneOfSet false _
    · exact ordered_ofBranches h

theorem mem_of_mem_commonStart {es fs : List Expr} {x : Expr} (h : x ∈ commonStart es fs) :
    x ∈ es := by
  fun_induction commonStart es fs with
  | case1 e es fs ih =>
    exact (List.mem_cons.1 h).elim (fun h => h ▸ List.mem_cons_self)
      fun h => List.mem_cons_of_mem _ (ih h)
  | case2 => exact absurd h List.not_mem_nil
  | case3 => exact absurd h List.not_mem_nil

theorem mem_of_mem_foldl_commonStart {fs : List Expr} {x : Expr}
    (h : x ∈ fs.foldl (fun p b => commonStart p b.parts) es) : x ∈ es := by
  induction fs generalizing es with
  | nil => exact h
  | cons f fs ih => exact mem_of_mem_commonStart (ih h)

theorem ordered_of_mem_sharedStart (h : ∀ x ∈ es, x.Ordered) : ∀ x ∈ sharedStart es, x.Ordered := by
  intro x hx
  unfold sharedStart at hx
  split at hx
  · split at hx
    · exact ordered_of_mem_parts (h _ List.mem_cons_self) x (mem_of_mem_foldl_commonStart hx)
    · exact absurd hx List.not_mem_nil
  · exact absurd hx List.not_mem_nil

theorem ordered_alternatives (h : ∀ x ∈ es, x.Ordered) : (alternatives es).Ordered := by
  have hbranches : ∀ x ∈ es.flatMap branches, x.Ordered := fun x hx => by
    obtain ⟨e, he, hx⟩ := List.mem_flatMap.1 hx
    exact ordered_of_mem_branches (h e he) x hx
  unfold alternatives
  dsimp only
  split
  · exact ordered_anyOf hbranches
  · refine ordered_sequence fun x hx => ?_
    rcases List.mem_append.1 hx with hx | hx
    · exact ordered_of_mem_sharedStart hbranches x hx
    · obtain rfl := List.mem_singleton.1 hx
      refine ordered_anyOf fun x hx => ?_
      obtain ⟨r, hr, hx⟩ := List.mem_flatMap.1 hx
      obtain ⟨b, hb, rfl⟩ := List.mem_map.1 hr
      refine ordered_of_mem_branches (ordered_sequence fun y hy => ?_) x hx
      exact ordered_of_mem_parts (hbranches b hb) y (List.mem_of_mem_drop hy)

theorem ordered_repeated {least : Nat} {most : Option Nat} {greedy : Bool}
    (hb : ∀ m, most = some m → least ≤ m) (h : e.Ordered) :
    (repeated least most greedy e).Ordered := by
  have hbuild : ∀ l m, (∀ n, m = some n → l ≤ n) →
      (if l = 0 ∧ m = some 0 then Expr.empty else if l = 1 ∧ m = some 1 then e
        else times l m greedy e).Ordered := fun l m hlm => by
    split
    · trivial
    · split
      · exact h
      · exact ⟨hlm, h⟩
  unfold repeated
  refine hbuild _ _ fun n hn => ?_
  split at hn
  · rename_i hnothing
    rw [if_pos hnothing]
    obtain rfl := Option.some.inj hn
    cases most with
    | none => exact Nat.min_le_right _ _
    | some n =>
      have := hb n rfl
      simp only [Option.elim_some]
      omega
  · rename_i hnothing
    rw [if_neg hnothing]
    exact hb n hn

end Expr

/-! ## The meaning of a tree -/

mutual

/-- The bounds of every repetition in a tree are in order. -/
def Tree.Ordered : Tree → Prop
  | .empty => True
  | .flags _ => True
  | .atom _ => True
  | .bracket _ => True
  | .repetition _ b _ t => (∀ m, b.most = some m → b.least ≤ m) ∧ t.Ordered
  | .group _ _ t => t.Ordered
  | .alternation _ ts => Tree.AllOrdered ts
  | .sequence _ ts => Tree.AllOrdered ts

/-- The same for the trees of a list. -/
def Tree.AllOrdered : List Tree → Prop
  | [] => True
  | t :: ts => t.Ordered ∧ Tree.AllOrdered ts

end

theorem Tree.allOrdered_iff {ts : List Tree} : Tree.AllOrdered ts ↔ ∀ t ∈ ts, t.Ordered := by
  induction ts with
  | nil => simp [Tree.AllOrdered]
  | cons t ts ih => rw [Tree.AllOrdered, ih, List.forall_mem_cons]

theorem ordered_charExpr (f : Flags) (c : Char) : (charExpr f c).Ordered := by
  unfold charExpr
  dsimp only
  split
  · trivial
  · exact Expr.ordered_oneOfSet _ _

theorem Atom.ordered_of_meaning {a : Atom} {f : Flags} {e : Expr} (h : a.meaning f = .ok e) :
    e.Ordered := by
  cases a with
  | literal l =>
    obtain ⟨c, -, rfl⟩ := map_eq_ok.1 h
    exact ordered_charExpr f c
  | dot x =>
    unfold Atom.meaning at h
    dsimp only at h
    split at h
    · obtain rfl := Except.ok.inj h
      trivial
    · exact absurd h (by simp [fail])
  | assertion x k =>
    obtain rfl := Except.ok.inj h
    trivial
  | shorthand x k n =>
    obtain ⟨s, -, rfl⟩ := map_eq_ok.1 h
    exact Expr.ordered_oneOfSet _ s
  | property x n neg =>
    obtain ⟨s, -, rfl⟩ := map_eq_ok.1 h
    exact Expr.ordered_oneOfSet _ s

mutual

/-- The meaning of a tree with bounds in order has bounds in order. -/
theorem Tree.ordered_of_meaning : ∀ (t : Tree) {f f' : Flags} {e : Expr}, t.Ordered →
    t.meaning f = .ok (e, f') → e.Ordered
  | .empty, _, _, _, _, h => by
    obtain ⟨rfl, -⟩ := Prod.mk.inj (Except.ok.inj h)
    trivial
  | .flags change, _, _, _, _, h => by
    obtain ⟨rfl, -⟩ := Prod.mk.inj (Except.ok.inj h)
    trivial
  | .atom a, _, _, _, _, h => by
    obtain ⟨e, he, hpair⟩ := map_eq_ok.1 h
    obtain ⟨rfl, -⟩ := Prod.mk.inj hpair
    exact Atom.ordered_of_meaning he
  | .bracket s, _, _, _, _, h => by
    obtain ⟨m, -, hpair⟩ := map_eq_ok.1 h
    obtain ⟨rfl, -⟩ := Prod.mk.inj hpair
    exact Expr.ordered_oneOfSet _ m
  | .repetition _ b greedy t, _, _, _, ht, h => by
    obtain ⟨⟨e, f⟩, he, hpair⟩ := bind_eq_ok.1 h
    obtain ⟨rfl, -⟩ := Prod.mk.inj (Except.ok.inj hpair)
    exact Expr.ordered_repeated ht.1 (Tree.ordered_of_meaning t ht.2 he)
  | .group _ (.capture index name) t, _, _, _, ht, h => by
    obtain ⟨⟨e, f⟩, he, hpair⟩ := bind_eq_ok.1 h
    obtain ⟨rfl, -⟩ := Prod.mk.inj (Except.ok.inj hpair)
    have hbody := Tree.ordered_of_meaning t ht he
    exact hbody
  | .group _ (.plain change) t, _, _, _, ht, h => by
    obtain ⟨⟨e, f⟩, he, hpair⟩ := bind_eq_ok.1 h
    obtain ⟨rfl, -⟩ := Prod.mk.inj (Except.ok.inj hpair)
    exact Tree.ordered_of_meaning t ht he
  | .alternation _ ts, _, _, _, ht, h => by
    obtain ⟨⟨es, f⟩, hes, hpair⟩ := bind_eq_ok.1 h
    obtain ⟨rfl, -⟩ := Prod.mk.inj (Except.ok.inj hpair)
    exact Expr.ordered_alternatives (Tree.ordered_of_allMeanings ts ht hes)
  | .sequence _ ts, _, _, _, ht, h => by
    obtain ⟨⟨es, f⟩, hes, hpair⟩ := bind_eq_ok.1 h
    obtain ⟨rfl, -⟩ := Prod.mk.inj (Except.ok.inj hpair)
    exact Expr.ordered_sequence (Tree.ordered_of_allMeanings ts ht hes)

/-- The same for the trees of a list. -/
theorem Tree.ordered_of_allMeanings : ∀ (ts : List Tree) {f f' : Flags} {es : List Expr},
    Tree.AllOrdered ts → Tree.allMeanings f ts = .ok (es, f') → ∀ e ∈ es, e.Ordered
  | [], _, _, _, _, h => by
    obtain ⟨rfl, -⟩ := Prod.mk.inj (Except.ok.inj h)
    exact fun e he => absurd he List.not_mem_nil
  | t :: ts, _, _, _, ht, h => by
    obtain ⟨⟨e, f⟩, he, h⟩ := bind_eq_ok.1 h
    obtain ⟨⟨es, f'⟩, hes, hpair⟩ := bind_eq_ok.1 h
    obtain ⟨rfl, -⟩ := Prod.mk.inj (Except.ok.inj hpair)
    exact List.forall_mem_cons.2
      ⟨Tree.ordered_of_meaning t ht.1 he, Tree.ordered_of_allMeanings ts ht.2 hes⟩

end

/-! ## The reader -/

theorem Tree.ordered_ofItems {e : Extent} {ts : List Tree} (h : ∀ t ∈ ts, t.Ordered) :
    (Tree.ofItems e ts).Ordered := by
  unfold Tree.ofItems
  split
  · trivial
  · exact h _ List.mem_cons_self
  · exact Tree.allOrdered_iff.2 h

/-- What was read of a level has bounds in order. -/
def Level.Ordered (l : Level) : Prop :=
  (∀ t ∈ l.branches, t.Ordered) ∧ ∀ t ∈ l.items, t.Ordered

namespace Level

variable {l : Level}

theorem ordered_empty (n : Nat) : (Level.empty n).Ordered :=
  ⟨fun _ h => absurd h List.not_mem_nil, fun _ h => absurd h List.not_mem_nil⟩

theorem Ordered.push (h : l.Ordered) {t : Tree} (ht : t.Ordered) : (l.push t).Ordered :=
  ⟨h.1, List.forall_mem_cons.2 ⟨ht, h.2⟩⟩

theorem Ordered.branch (h : l.Ordered) (stop : Nat) : (l.branch stop).Ordered :=
  Tree.ordered_ofItems fun t ht => h.2 t (List.mem_reverse.1 ht)

theorem Ordered.bar (h : l.Ordered) (index : Nat) : (l.bar index).Ordered :=
  ⟨List.forall_mem_cons.2 ⟨h.branch index, h.1⟩, fun _ ht => absurd ht List.not_mem_nil⟩

theorem Ordered.close (h : l.Ordered) (stop : Nat) : (l.close stop).Ordered := by
  unfold Level.close
  split
  · exact h.branch stop
  · refine Tree.allOrdered_iff.2 fun t ht => ?_
    rcases List.mem_cons.1 (List.mem_reverse.1 ht) with rfl | ht
    · exact h.branch stop
    · exact h.1 t ht

end Level

/-- What was read so far has bounds in order. -/
def Reader.Ordered (r : Reader) : Prop := r.level.Ordered ∧ ∀ g ∈ r.groups, g.outer.Ordered

/-- Every move of a reader keeps the bounds in order. -/
theorem Reader.Ordered.move {r r' : Reader} (h : r.Ordered) (hr : r.Move r') : r'.Ordered := by
  cases hr with
  | leaf ht c =>
    refine ⟨h.1.push ?_, h.2⟩
    cases ht <;> trivial
  | bar index c => exact ⟨h.1.bar index, h.2⟩
  | plain => exact ⟨Level.ordered_empty _, List.forall_mem_cons.2 ⟨h.1, h.2⟩⟩
  | unnamed => exact ⟨Level.ordered_empty _, List.forall_mem_cons.2 ⟨h.1, h.2⟩⟩
  | named => exact ⟨Level.ordered_empty _, List.forall_mem_cons.2 ⟨h.1, h.2⟩⟩
  | @close g groups hg e stop c =>
    have houter := h.2
    rw [hg] at houter
    have hsub : (r.level.close stop).Ordered := h.1.close stop
    exact ⟨Level.Ordered.push (houter g List.mem_cons_self) hsub,
      fun g' hg' => houter g' (List.mem_cons_of_mem g hg')⟩
  | @repeated t items ht b hb e greedy c =>
    have hitems := h.1.2
    rw [ht] at hitems
    exact ⟨⟨h.1.1, List.forall_mem_cons.2 ⟨⟨hb, hitems t List.mem_cons_self⟩,
      fun u hu => hitems u (List.mem_cons_of_mem t hu)⟩⟩, h.2⟩

/-- **The expression of a source has bounds in order.** -/
theorem Expr.ordered_of_ofSource {source : Text} {e : Expr} (h : Expr.ofSource source = .ok e) :
    e.Ordered := by
  obtain ⟨t, ht, h⟩ := bind_eq_ok.1 h
  obtain ⟨⟨e', f⟩, he, h⟩ := bind_eq_ok.1 h
  obtain rfl := Except.ok.inj h
  have hstart : (Reader.ofSource source).Ordered :=
    ⟨Level.ordered_empty 0, fun _ h => absurd h List.not_mem_nil⟩
  obtain ⟨r, stop, hr, -, rfl⟩ := Tree.ofSource_keeps Reader.Ordered.move hstart ht
  exact Tree.ordered_of_meaning _ (hr.1.close stop) he

/-- A source that compiles has an expression, and its regular expression is that one. -/
theorem exists_expr_of_compile {source : Text} {r : Regex} (h : Regex.compile source = .ok r) :
    ∃ e, Expr.ofSource source = .ok e ∧ r = ofExpr e := by
  unfold Regex.compile at h
  split at h
  · exact absurd h (by simp)
  · rename_i e he
    split at h
    · exact absurd h (by simp)
    · exact ⟨e, he, (Except.ok.inj h).symm⟩

end Regex
end TextScan
