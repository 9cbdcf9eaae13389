/-
# The capturing groups of a source

`Tree.captures` lists the capturing groups of a tree in the order of their opening parentheses.  In
the tree of a source they are numbered from one on in this order, and no two of them have one name
(`Tree.numbered_of_ofSource`): this is kept by every move of the reader, for what it has read.

`Tree.kept` lists only those groups that are not inside a part that is repeated zero times.  The
expression of a tree has these groups and no others (`Tree.mem_groups_of_meaning`), for such a
part matches nothing and is left out.
-/

import Mathlib.Data.List.Nodup
import Mathlib.Data.List.Pairwise
import TextScan.Proofs.Regex.Bounds

namespace TextScan
namespace Regex

/-- The bounds of a repetition allow no time at all. -/
def Bounds.IsZero (b : Bounds) : Prop := b.least = 0 ∧ b.most = some 0

instance (b : Bounds) : Decidable b.IsZero := inferInstanceAs (Decidable (_ ∧ _))

/-- The group that parentheses make, if they make one. -/
def GroupKind.own : GroupKind → List (Nat × Option Text)
  | .capture i name => [(i, name)]
  | .plain _ => []

mutual

/-- The capturing groups of a tree in the order of their opening parentheses, with their names;
without those in a repetition whose bounds do not pass a test. -/
def Tree.capturesIf (test : Bounds → Bool) : Tree → List (Nat × Option Text)
  | .empty => []
  | .flags _ => []
  | .atom _ => []
  | .bracket _ => []
  | .repetition _ b _ t => if test b then t.capturesIf test else []
  | .group _ kind t => kind.own ++ t.capturesIf test
  | .alternation _ ts => Tree.allCapturesIf test ts
  | .sequence _ ts => Tree.allCapturesIf test ts

/-- The capturing groups of trees in a row. -/
def Tree.allCapturesIf (test : Bounds → Bool) : List Tree → List (Nat × Option Text)
  | [] => []
  | t :: ts => t.capturesIf test ++ Tree.allCapturesIf test ts

end

/-- The capturing groups of a tree in the order of their opening parentheses, with their names. -/
def Tree.captures (t : Tree) : List (Nat × Option Text) := t.capturesIf fun _ => true

/-- The capturing groups that are not inside a part that is repeated zero times. -/
def Tree.kept (t : Tree) : List (Nat × Option Text) := t.capturesIf fun b => !decide b.IsZero

variable {test : Bounds → Bool}

theorem Tree.allCapturesIf_eq (ts : List Tree) :
    Tree.allCapturesIf test ts = ts.flatMap (Tree.capturesIf test) := by
  induction ts with
  | nil => rfl
  | cons t ts ih => rw [Tree.allCapturesIf, ih, List.flatMap_cons]

theorem Tree.capturesIf_ofItems (e : Extent) (ts : List Tree) :
    (Tree.ofItems e ts).capturesIf test = ts.flatMap (Tree.capturesIf test) := by
  unfold Tree.ofItems
  split
  · rfl
  · exact (List.append_nil _).symm
  · exact Tree.allCapturesIf_eq _

theorem Tree.IsLeaf.captures {t : Tree} (h : t.IsLeaf) : t.captures = [] := by
  cases h <;> rfl

theorem Tree.captures_repetition (e : Extent) (b : Bounds) (greedy : Bool) (t : Tree) :
    (Tree.repetition e b greedy t).captures = t.captures := rfl

theorem Tree.captures_group (e : Extent) (kind : GroupKind) (t : Tree) :
    (Tree.group e kind t).captures = kind.own ++ t.captures := rfl

mutual

/-- A weaker test leaves no group out that a stronger one keeps. -/
theorem Tree.capturesIf_subset : ∀ t : Tree, t.capturesIf test ⊆ t.captures
  | .empty => List.Subset.refl _
  | .flags _ => List.Subset.refl _
  | .atom _ => List.Subset.refl _
  | .bracket _ => List.Subset.refl _
  | .repetition e b greedy t => by
    rw [Tree.captures_repetition, Tree.capturesIf]
    split
    · exact Tree.capturesIf_subset t
    · exact List.nil_subset _
  | .group e kind t => by
    rw [Tree.captures_group, Tree.capturesIf]
    exact List.append_subset.2 ⟨List.subset_append_left _ _,
      fun _ h => List.mem_append_right _ (Tree.capturesIf_subset t h)⟩
  | .alternation _ ts => Tree.allCapturesIf_subset ts
  | .sequence _ ts => Tree.allCapturesIf_subset ts

/-- The same for trees in a row. -/
theorem Tree.allCapturesIf_subset : ∀ ts : List Tree,
    Tree.allCapturesIf test ts ⊆ Tree.allCapturesIf (fun _ => true) ts
  | [] => List.Subset.refl _
  | t :: ts => List.append_subset.2
    ⟨fun _ h => List.mem_append_left _ (Tree.capturesIf_subset t h),
      fun _ h => List.mem_append_right _ (Tree.allCapturesIf_subset ts h)⟩

end

/-! ## Numbers and names -/

/-- The capturing groups of what was read of a level. -/
def Level.captures (l : Level) : List (Nat × Option Text) :=
  l.branches.reverse.flatMap Tree.captures ++ l.items.reverse.flatMap Tree.captures

theorem Level.captures_empty (n : Nat) : (Level.empty n).captures = [] := rfl

theorem Level.captures_push (l : Level) (t : Tree) :
    (l.push t).captures = l.captures ++ t.captures := by
  simp only [captures, push, List.reverse_cons, List.flatMap_append, List.flatMap_singleton,
    List.append_assoc]

theorem Level.captures_branch (l : Level) (stop : Nat) :
    (l.branch stop).captures = l.items.reverse.flatMap Tree.captures :=
  Tree.capturesIf_ofItems _ _

theorem Level.captures_bar (l : Level) (index : Nat) : (l.bar index).captures = l.captures := by
  simp only [captures, bar, List.reverse_cons, List.flatMap_append, List.flatMap_singleton,
    List.reverse_nil, List.flatMap_nil, List.append_nil, captures_branch]

theorem Level.captures_close (l : Level) (stop : Nat) : (l.close stop).captures = l.captures := by
  unfold Level.close captures
  split
  · rename_i h
    rw [h, captures_branch]
    rfl
  · rename_i bs h
    rw [Tree.captures, Tree.capturesIf, Tree.allCapturesIf_eq, List.reverse_cons,
      List.flatMap_append, List.flatMap_singleton]
    exact congrArg (_ ++ ·) (captures_branch l stop)

/-- The capturing groups that were opened so far, in order. -/
def Reader.opened (r : Reader) : List (Nat × Option Text) :=
  r.groups.reverse.flatMap (fun g => g.outer.captures ++ g.kind.own) ++ r.level.captures

/-- The groups of a reader are numbered in the order in which they were opened, and their names are
known and distinct. -/
structure Reader.Numbered (r : Reader) : Prop where
  numbers : r.opened.map (·.1) = List.range' 1 r.captures
  names : r.opened.filterMap (·.2) = (r.names.map (·.1)).reverse
  distinct : (r.names.map (·.1)).Nodup

namespace Reader

variable {r r' : Reader}

theorem opened_push (t : Tree) (c : Cursor) : (r.push t c).opened = r.opened ++ t.captures := by
  simp only [opened, push, Level.captures_push, List.append_assoc]

/-- Where a group is opened, it is the last one of those opened. -/
theorem opened_group (c : Cursor) (index paren captures : Nat) (kind : GroupKind) (verbose : Bool)
    (names : List (Text × Extent)) :
    opened ⟨c, Level.empty index, ⟨r.level, paren, kind, verbose⟩ :: r.groups, captures, names⟩ =
      r.opened ++ kind.own := by
  simp only [opened, List.reverse_cons, List.flatMap_append, List.flatMap_singleton,
    Level.captures_empty, List.append_nil, List.append_assoc]

theorem opened_close {g : OpenGroup} {groups : List OpenGroup} (hg : r.groups = g :: groups)
    (e : Extent) (stop : Nat) (c : Cursor) :
    opened { r with
      cursor := c, level := g.outer.push (.group e g.kind (r.level.close stop)), groups := groups } =
      r.opened := by
  simp only [opened, hg, List.reverse_cons, List.flatMap_append, List.flatMap_singleton,
    Level.captures_push, Tree.captures_group, Level.captures_close, List.append_assoc]

theorem opened_repeated {t : Tree} {items : List Tree} (ht : r.level.items = t :: items)
    (b : Bounds) (e : Extent) (greedy : Bool) (c : Cursor) :
    opened { r with
      cursor := c, level := { r.level with items := .repetition e b greedy t :: items } } =
      r.opened := by
  simp only [opened, Level.captures, ht, List.reverse_cons, List.flatMap_append,
    List.flatMap_singleton, Tree.captures_repetition]

/-- Every move keeps the groups in order. -/
theorem Numbered.move (h : r.Numbered) (hr : r.Move r') : r'.Numbered := by
  have hsame : ∀ {r'' : Reader}, r''.opened = r.opened → r''.captures = r.captures →
      r''.names = r.names → r''.Numbered := by
    intro r'' ho hc hn
    exact ⟨by rw [ho, hc, h.numbers], by rw [ho, hn, h.names], by rw [hn]; exact h.distinct⟩
  have hnext : (List.range' 1 r.captures) ++ [r.captures + 1] = List.range' 1 (r.captures + 1) := by
    rw [List.range'_1_concat, Nat.add_comm 1]
  cases hr with
  | leaf ht c => exact hsame (by rw [opened_push, ht.captures, List.append_nil]) rfl rfl
  | bar index c => exact hsame (by simp only [opened, Level.captures_bar]) rfl rfl
  | plain => exact hsame (by rw [opened_group]; exact List.append_nil _) rfl rfl
  | unnamed =>
    refine ⟨?_, ?_, h.distinct⟩
    · rw [opened_group, List.map_append, h.numbers]
      exact hnext
    · rw [opened_group, List.filterMap_append, h.names]
      exact List.append_nil _
  | @named name hnew e =>
    refine ⟨?_, ?_, ?_⟩
    · rw [opened_group, List.map_append, h.numbers]
      exact hnext
    · rw [opened_group, List.filterMap_append, h.names, List.map_cons, List.reverse_cons]
      rfl
    · refine List.nodup_cons.2 ⟨fun hmem => ?_, h.distinct⟩
      obtain ⟨p, hp, hname⟩ := List.mem_map.1 hmem
      exact absurd (List.find?_eq_none.1 hnew p hp) (by simpa using hname)
  | close hg e stop c => exact hsame (opened_close hg e stop c) rfl rfl
  | repeated ht hb e greedy c => exact hsame (opened_repeated ht _ e greedy c) rfl rfl

theorem opened_of_groups_nil (h : r.groups = []) (stop : Nat) :
    r.opened = (r.level.close stop).captures := by
  rw [Level.captures_close, opened, h]
  rfl

/-- The groups of a whole source are as many as were opened. -/
theorem Numbered.length_captures (h : r.Numbered) (hgroups : r.groups = []) (stop : Nat) :
    (r.level.close stop).captures.length = r.captures := by
  rw [← opened_of_groups_nil hgroups stop, ← List.length_map (f := (·.1)), h.numbers,
    List.length_range']

theorem numbered_ofSource (source : Text) : (ofSource source).Numbered :=
  ⟨rfl, rfl, List.nodup_nil⟩

end Reader

/-- **Groups are numbered by their opening parentheses**, and no two of them have one name. -/
theorem Tree.numbered_of_ofSource {source : Text} {t : Tree} (h : Tree.ofSource source = .ok t) :
    t.captures.map (·.1) = List.range' 1 t.captures.length ∧
      (t.captures.filterMap (·.2)).Nodup := by
  obtain ⟨r, stop, hr, hgroups, rfl⟩ :=
    Tree.ofSource_keeps Reader.Numbered.move (Reader.numbered_ofSource source) h
  have hlength := hr.length_captures hgroups stop
  obtain ⟨hnumbers, hnames, hdistinct⟩ := hr
  rw [Reader.opened_of_groups_nil hgroups stop] at hnumbers hnames
  exact ⟨by rw [hnumbers, hlength], by rw [hnames]; exact List.nodup_reverse.2 hdistinct⟩

section Numbered

variable {source : Text} {t : Tree} (h : Tree.ofSource source = .ok t)

include h

theorem Tree.number_pos {g : Nat × Option Text} (hg : g ∈ t.captures) : 1 ≤ g.1 := by
  have hmem : g.1 ∈ t.captures.map (·.1) := List.mem_map_of_mem hg
  rw [(Tree.numbered_of_ofSource h).1, List.mem_range'_1] at hmem
  exact hmem.1

/-- No two groups have one number. -/
theorem Tree.eq_of_number {g g' : Nat × Option Text} (hg : g ∈ t.captures) (hg' : g' ∈ t.captures)
    (heq : g.1 = g'.1) : g = g' := by
  have hnodup : (t.captures.map (·.1)).Nodup := by
    rw [(Tree.numbered_of_ofSource h).1]
    exact List.nodup_range'
  exact List.inj_on_of_nodup_map hnodup hg hg' heq

/-- No two groups have one name. -/
theorem Tree.eq_of_name {i j : Nat} {name : Text} (hi : (i, some name) ∈ t.captures)
    (hj : (j, some name) ∈ t.captures) : i = j := by
  by_contra hne
  have hpairwise := List.pairwise_filterMap.1 (Tree.numbered_of_ofSource h).2
  have hsymm : Std.Symm fun g g' : Nat × Option Text =>
      ∀ n, g.2 = some n → ∀ n', g'.2 = some n' → n ≠ n' :=
    ⟨fun _ _ hr n hn n' hn' heq => hr n' hn' n hn heq.symm⟩
  exact hpairwise.forall hi hj (fun heq => hne (Prod.mk.inj heq).1) name rfl name rfl rfl

end Numbered

end Regex
end TextScan
