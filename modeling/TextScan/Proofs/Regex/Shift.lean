/-
# Trees further on in a source

A part of a source that stands `d` characters further on, behind `k` groups, has the same tree but for
its extents and the numbers of its groups (`Tree.shift d k`).  Extents are used in faults alone, so
what such a tree means is what it meant, with the other numbers (`Tree.meaning_shift`): numbers make
no difference to the way in which expressions are built (`renumber_sequence`,
`renumber_alternatives`, `renumber_repeated`).
-/

import TextScan.Proofs.Regex.Bounds
import TextScan.Proofs.Regex.Relocation
import TextScan.Regex.Meaning

namespace TextScan
namespace Regex

/-! ## Extents moved -/

/-- An extent `d` characters further on. -/
def Extent.shift (d : Nat) (e : Extent) : Extent := ⟨e.first + d, e.stop + d⟩

def Literal.shift (d : Nat) (l : Literal) : Literal := { l with extent := l.extent.shift d }

def Atom.shift (d : Nat) : Atom → Atom
  | .literal l => .literal (l.shift d)
  | .dot e => .dot (e.shift d)
  | .assertion e k => .assertion (e.shift d) k
  | .shorthand e k n => .shorthand (e.shift d) k n
  | .property e p n => .property (e.shift d) p n

mutual

def SetTree.shift (d : Nat) : SetTree → SetTree
  | .empty e => .empty (e.shift d)
  | .literal l => .literal (l.shift d)
  | .range e low high => .range (e.shift d) (low.shift d) (high.shift d)
  | .posix e k n => .posix (e.shift d) k n
  | .shorthand e k n => .shorthand (e.shift d) k n
  | .property e p n => .property (e.shift d) p n
  | .bracket e n s => .bracket (e.shift d) n (s.shift d)
  | .union e ss => .union (e.shift d) (SetTree.allShift d ss)
  | .combine e op l r => .combine (e.shift d) op (l.shift d) (r.shift d)

def SetTree.allShift (d : Nat) : List SetTree → List SetTree
  | [] => []
  | s :: ss => s.shift d :: SetTree.allShift d ss

end

/-- A group behind `k` others. -/
def GroupKind.renumber (k : Nat) : GroupKind → GroupKind
  | .capture i name => .capture (i + k) name
  | .plain change => .plain change

mutual

/-- A tree `d` characters further on, behind `k` groups. -/
def Tree.shift (d k : Nat) : Tree → Tree
  | .empty => .empty
  | .flags change => .flags change
  | .atom a => .atom (a.shift d)
  | .bracket s => .bracket (s.shift d)
  | .repetition e b greedy t => .repetition (e.shift d) b greedy (t.shift d k)
  | .group e kind t => .group (e.shift d) (kind.renumber k) (t.shift d k)
  | .alternation e ts => .alternation (e.shift d) (Tree.allShift d k ts)
  | .sequence e ts => .sequence (e.shift d) (Tree.allShift d k ts)

def Tree.allShift (d k : Nat) : List Tree → List Tree
  | [] => []
  | t :: ts => t.shift d k :: Tree.allShift d k ts

end

section Shift

variable {d k : Nat}

theorem SetTree.allShift_eq_map (ss : List SetTree) :
    SetTree.allShift d ss = ss.map (SetTree.shift d) := by
  induction ss with
  | nil => rfl
  | cons s ss ih => rw [SetTree.allShift, ih, List.map_cons]

theorem Tree.allShift_eq_map (ts : List Tree) : Tree.allShift d k ts = ts.map (Tree.shift d k) := by
  induction ts with
  | nil => rfl
  | cons t ts ih => rw [Tree.allShift, ih, List.map_cons]

theorem Atom.extent_shift (a : Atom) : (a.shift d).extent = a.extent.shift d := by
  cases a <;> rfl

theorem SetTree.extent_shift (s : SetTree) : (s.shift d).extent = s.extent.shift d := by
  cases s with
  | literal l => rfl
  | _ => simp only [SetTree.shift, SetTree.extent]

/-- What was read somewhere stands further on now. -/
theorem Tree.extent_shift {t : Tree} (hempty : t ≠ .empty) (hflags : ∀ change, t ≠ .flags change) :
    (t.shift d k).extent = t.extent.shift d := by
  cases t with
  | empty => exact absurd rfl hempty
  | flags change => exact absurd rfl (hflags change)
  | atom a => exact a.extent_shift
  | bracket s => exact s.extent_shift
  | _ => simp only [Tree.shift, Tree.extent]

theorem Tree.shift_ne_empty {t : Tree} (h : t ≠ .empty) : t.shift d k ≠ .empty := by
  cases t with
  | empty => exact absurd rfl h
  | _ => simp [Tree.shift]

theorem Tree.shift_ne_flags {t : Tree} (h : ∀ change, t ≠ .flags change) (change : FlagChange) :
    t.shift d k ≠ .flags change := by
  cases t with
  | flags change => exact absurd rfl (h change)
  | _ => simp [Tree.shift]

theorem SetTree.ofItems_shift (e : Extent) (ss : List SetTree) :
    SetTree.ofItems (e.shift d) (ss.map (SetTree.shift d)) = (SetTree.ofItems e ss).shift d := by
  match ss with
  | [] => simp only [List.map_nil, SetTree.ofItems, SetTree.shift]
  | [s] => rfl
  | s :: s' :: ss => simp only [List.map_cons, SetTree.ofItems, SetTree.shift,
      SetTree.allShift_eq_map]

theorem Tree.ofItems_shift (e : Extent) (ts : List Tree) :
    Tree.ofItems (e.shift d) (ts.map (Tree.shift d k)) = (Tree.ofItems e ts).shift d k := by
  match ts with
  | [] => simp only [List.map_nil, Tree.ofItems, Tree.shift]
  | [t] => rfl
  | t :: t' :: ts => simp only [List.map_cons, Tree.ofItems, Tree.shift, Tree.allShift_eq_map]

end Shift

/-! ## Other numbers -/

namespace Expr

variable {k : Nat} {e : Expr} {es fs : List Expr}

theorem renumber_injective (k : Nat) : Function.Injective (renumber k) := by
  intro e f h
  induction e generalizing f with
  | empty => cases f <;> simp_all [renumber]
  | text t => cases f <;> simp_all [renumber]
  | oneOf b s => cases f <;> simp_all [renumber]
  | anchor a => cases f <;> simp_all [renumber]
  | group i name e ih =>
    cases f with
    | group j name' f =>
      simp only [renumber, group.injEq, Nat.add_right_cancel_iff] at h
      rw [h.1, h.2.1, ih h.2.2]
    | _ => simp [renumber] at h
  | times l m g e ih =>
    cases f with
    | times l' m' g' f =>
      simp only [renumber, times.injEq] at h
      rw [h.1, h.2.1, h.2.2.1, ih h.2.2.2]
    | _ => simp [renumber] at h
  | seq a b iha ihb =>
    cases f with
    | seq a' b' =>
      simp only [renumber, seq.injEq] at h
      rw [iha h.1, ihb h.2]
    | _ => simp [renumber] at h
  | alt a b iha ihb =>
    cases f with
    | alt a' b' =>
      simp only [renumber, alt.injEq] at h
      rw [iha h.1, ihb h.2]
    | _ => simp [renumber] at h

theorem parts_renumber (e : Expr) : (e.renumber k).parts = e.parts.map (renumber k) := by
  induction e with
  | seq a b iha ihb => rw [renumber, parts, parts, iha, ihb, List.map_append]
  | _ => rfl

theorem branches_renumber (e : Expr) : (e.renumber k).branches = e.branches.map (renumber k) := by
  induction e with
  | alt a b iha ihb => rw [renumber, branches, branches, iha, ihb, List.map_append]
  | _ => rfl

theorem ofParts_renumber (es : List Expr) :
    ofParts (es.map (renumber k)) = (ofParts es).renumber k := by
  fun_induction ofParts es with
  | case1 => rfl
  | case2 e => rfl
  | case3 e es hne ih =>
    obtain ⟨f, es, rfl⟩ := List.exists_cons_of_ne_nil hne
    rw [renumber, ← ih]
    rfl

theorem ofBranches_renumber (es : List Expr) :
    ofBranches (es.map (renumber k)) = (ofBranches es).renumber k := by
  fun_induction ofBranches es with
  | case1 => rfl
  | case2 e => rfl
  | case3 e es hne ih =>
    obtain ⟨f, es, rfl⟩ := List.exists_cons_of_ne_nil hne
    rw [renumber, ← ih]
    rfl

theorem joinTexts_renumber (es : List Expr) :
    joinTexts (es.map (renumber k)) = (joinTexts es).map (renumber k) := by
  induction es with
  | nil => rfl
  | cons e es ih =>
    cases e with
    | text t =>
      rw [List.map_cons, renumber, joinTexts, joinTexts, ih]
      generalize joinTexts es = js
      cases js with
      | nil => rfl
      | cons f fs => cases f <;> rfl
    | _ => exact congrArg (_ :: ·) ih

/-- Numbers make no difference to a sequence. -/
theorem renumber_sequence (es : List Expr) :
    sequence (es.map (renumber k)) = (sequence es).renumber k := by
  have hparts : (es.map (renumber k)).flatMap parts = (es.flatMap parts).map (renumber k) := by
    rw [List.flatMap_map, List.map_flatMap]
    exact congrArg (es.flatMap ·) (funext parts_renumber)
  rw [sequence, hparts, joinTexts_renumber, ofParts_renumber, sequence]

/-- Numbers make no difference to a set of branches. -/
theorem renumber_oneOfSet (bytes : Bool) (s : CharSet) :
    (oneOfSet bytes s).renumber k = oneOfSet bytes s := by
  unfold oneOfSet
  split
  · rfl
  · split <;> rfl

theorem char?_renumber (e : Expr) : (e.renumber k).char? = e.char? := by
  cases e <;> rfl

theorem set?_renumber (e : Expr) : (e.renumber k).set? = e.set? := by
  cases e <;> rfl

theorem unionOf?_renumber (es : List Expr) : unionOf? (es.map (renumber k)) = unionOf? es := by
  have hchars : (es.map (renumber k)).mapM char? = es.mapM char? := by
    rw [List.mapM_map]
    exact congrArg (es.mapM ·) (funext char?_renumber)
  have hsets : (es.map (renumber k)).mapM set? = es.mapM set? := by
    rw [List.mapM_map]
    exact congrArg (es.mapM ·) (funext set?_renumber)
  rw [unionOf?, hchars, hsets, unionOf?]

theorem renumber_anyOf (es : List Expr) : anyOf (es.map (renumber k)) = (anyOf es).renumber k := by
  by_cases hone : ∃ e, es = [e]
  · obtain ⟨e, rfl⟩ := hone
    rfl
  · have hanyOf : ∀ {fs : List Expr}, (¬∃ e, fs = [e]) → anyOf fs =
        (unionOf? fs).elim (ofBranches fs) (oneOfSet false) := fun {fs} hfs => by
      unfold anyOf
      split
      · exact absurd ⟨_, rfl⟩ hfs
      · cases unionOf? fs <;> rfl
    have hone' : ¬∃ f, es.map (renumber k) = [f] := fun ⟨f, hf⟩ => by
      obtain ⟨e, rfl, -⟩ := List.map_eq_singleton_iff.1 hf
      exact hone ⟨e, rfl⟩
    rw [hanyOf hone, hanyOf hone', unionOf?_renumber, ofBranches_renumber]
    cases unionOf? es with
    | none => rfl
    | some s => exact (renumber_oneOfSet false s).symm

theorem commonStart_renumber (es fs : List Expr) :
    commonStart (es.map (renumber k)) (fs.map (renumber k)) = (commonStart es fs).map (renumber k) := by
  fun_induction commonStart es fs with
  | case1 e es fs ih =>
    rw [List.map_cons, List.map_cons, commonStart, if_pos rfl, ih, List.map_cons]
  | case2 e es f fs hne =>
    rw [List.map_cons, List.map_cons, commonStart, if_neg fun h => hne (renumber_injective k h),
      List.map_nil]
  | case3 es fs h =>
    cases es with
    | nil => rfl
    | cons e es =>
      cases fs with
      | nil => rfl
      | cons f fs => exact absurd rfl (h e es f fs rfl)

theorem sharedStart_renumber (es : List Expr) :
    sharedStart (es.map (renumber k)) = (sharedStart es).map (renumber k) := by
  have hfold : ∀ (fs p : List Expr),
      (fs.map (renumber k)).foldl (fun p b => commonStart p b.parts) (p.map (renumber k)) =
        (fs.foldl (fun p b => commonStart p b.parts) p).map (renumber k) := by
    intro fs
    induction fs with
    | nil => exact fun p => rfl
    | cons f fs ih =>
      intro p
      rw [List.map_cons, List.foldl_cons, parts_renumber, commonStart_renumber, ih, List.foldl_cons]
  have hall : ∀ fs : List Expr, ((fs.map (renumber k)).all fun b => decide (2 ≤ b.parts.length)) =
      fs.all fun b => decide (2 ≤ b.parts.length) := fun fs => by
    simp only [List.all_map, Function.comp_def, parts_renumber, List.length_map]
  match es with
  | [] => rfl
  | [e] => rfl
  | e :: f :: es =>
    have h := hall (e :: f :: es)
    simp only [List.map_cons] at h
    rw [List.map_cons, List.map_cons, sharedStart, h, sharedStart]
    split
    · have hrest := hfold (f :: es) e.parts
      rwa [List.map_cons, ← parts_renumber] at hrest
    · rfl

/-- Numbers make no difference to alternatives. -/
theorem renumber_alternatives (es : List Expr) :
    alternatives (es.map (renumber k)) = (alternatives es).renumber k := by
  have hflat : ∀ fs : List Expr,
      (fs.map (renumber k)).flatMap branches = (fs.flatMap branches).map (renumber k) := fun fs => by
    rw [List.flatMap_map, List.map_flatMap]
    exact congrArg (fs.flatMap ·) (funext branches_renumber)
  unfold alternatives
  dsimp only
  rw [hflat]
  generalize es.flatMap branches = bs
  rw [sharedStart_renumber, List.isEmpty_map]
  split
  · exact renumber_anyOf bs
  · have hrests : (bs.map (renumber k)).map
        (fun b => sequence (b.parts.drop ((sharedStart bs).map (renumber k)).length)) =
        (bs.map fun b => sequence (b.parts.drop (sharedStart bs).length)).map (renumber k) := by
      rw [List.map_map, List.map_map]
      refine congrArg (bs.map ·) (funext fun b => ?_)
      simp only [Function.comp_apply, parts_renumber, List.length_map, ← List.map_drop,
        renumber_sequence]
    rw [hrests, hflat, renumber_anyOf, ← renumber_sequence, List.map_append, List.map_singleton]

@[simp] theorem ordered_renumber (e : Expr) (k : Nat) : (e.renumber k).Ordered ↔ e.Ordered := by
  induction e with
  | group i name e ih => exact ih
  | times least most greedy e ih => exact and_congr_right fun _ => ih
  | seq a b iha ihb => exact and_congr iha ihb
  | alt a b iha ihb => exact and_congr iha ihb
  | _ => exact Iff.rfl

theorem groups_renumber (e : Expr) (k : Nat) :
    (e.renumber k).groups = e.groups.map fun g => (g.1 + k, g.2) := by
  induction e with
  | group i name e ih => simp only [renumber, groups, ih, List.map_cons]
  | times least most greedy e ih => simp only [renumber, groups, ih]
  | seq a b iha ihb => simp only [renumber, groups, iha, ihb, List.map_append]
  | alt a b iha ihb => simp only [renumber, groups, iha, ihb, List.map_append]
  | _ => rfl

@[simp] theorem maxSize_renumber (e : Expr) (k : Nat) : (e.renumber k).maxSize = e.maxSize := by
  induction e with
  | group i name e ih => simp only [renumber, maxSize, ih]
  | times least most greedy e ih => simp only [renumber, maxSize, ih]
  | seq a b iha ihb => simp only [renumber, maxSize, iha, ihb]
  | alt a b iha ihb => simp only [renumber, maxSize, iha, ihb]
  | _ => rfl

/-- Numbers make no difference to a repetition. -/
theorem renumber_repeated (least : Nat) (most : Option Nat) (greedy : Bool) (e : Expr) :
    repeated least most greedy (e.renumber k) = (repeated least most greedy e).renumber k := by
  have hbuild : ∀ l m, (if l = 0 ∧ m = some 0 then Expr.empty else if l = 1 ∧ m = some 1 then
      e.renumber k else times l m greedy (e.renumber k)) =
      (if l = 0 ∧ m = some 0 then Expr.empty else if l = 1 ∧ m = some 1 then e
        else times l m greedy e).renumber k := by
    intro l m
    split
    · rfl
    · split <;> rfl
  unfold repeated
  rw [maxSize_renumber]
  exact hbuild _ _

end Expr

/-! ## The meaning of a tree further on -/

section Meaning

variable {d k : Nat} {f : Flags}

theorem checkedSet_shift {e : Extent} {s m : CharSet} (h : checkedSet f e s = .ok m) (e' : Extent) :
    checkedSet f e' s = .ok m := by
  unfold checkedSet at h ⊢
  split at h
  · rename_i hs
    rw [if_pos hs, h]
  · exact absurd h (by simp [fail])

theorem foldedSet_shift {e : Extent} {negated : Bool} {s m : CharSet}
    (h : foldedSet f e negated s = .ok m) (e' : Extent) : foldedSet f e' negated s = .ok m :=
  checkedSet_shift h e'

theorem shorthandSet_shift {e : Extent} {kind : Shorthand} {negated : Bool} {m : CharSet}
    (h : shorthandSet f e kind negated = .ok m) (e' : Extent) :
    shorthandSet f e' kind negated = .ok m :=
  checkedSet_shift h e'

theorem propertySet_shift {e : Extent} {p : PropertyName} {negated : Bool} {m : CharSet}
    (h : propertySet f e p negated = .ok m) (e' : Extent) : propertySet f e' p negated = .ok m := by
  unfold propertySet at h ⊢
  split at h
  · rename_i hf
    rw [if_pos hf]
    split at h
    · exact absurd h (by simp [fail])
    · exact absurd h (by simp [fail])
    · exact foldedSet_shift h e'
  · exact absurd h (by simp [fail])

theorem Literal.value_shift {l : Literal} {c : Char} (h : l.value f = .ok c) :
    (l.shift d).value f = .ok c := by
  unfold Literal.value at h ⊢
  split at h
  · exact absurd h (by simp [fail])
  · rename_i hf
    rw [show (l.shift d).isByte = l.isByte from rfl, show (l.shift d).char = l.char from rfl,
      if_neg hf, h]

theorem Literal.member_shift {l : Literal} {n : Nat} (h : l.member f = .ok n) :
    (l.shift d).member f = .ok n := by
  obtain ⟨c, hc, h⟩ := bind_eq_ok.1 h
  refine bind_eq_ok.2 ⟨c, Literal.value_shift hc, ?_⟩
  split at h
  · rename_i hf
    rw [if_pos hf, h]
  · exact absurd h (by simp [fail])

mutual

theorem SetTree.members_shift : ∀ (s : SetTree) {m : CharSet}, s.members f = .ok m →
    (s.shift d).members f = .ok m
  | .empty e, _, h => h
  | .literal l, _, h => by
    obtain ⟨n, hn, h⟩ := bind_eq_ok.1 h
    exact bind_eq_ok.2 ⟨n, Literal.member_shift hn, h⟩
  | .range e low high, _, h => by
    obtain ⟨a, ha, h⟩ := bind_eq_ok.1 h
    obtain ⟨b, hb, h⟩ := bind_eq_ok.1 h
    exact bind_eq_ok.2 ⟨a, Literal.member_shift ha, bind_eq_ok.2 ⟨b, Literal.member_shift hb, h⟩⟩
  | .posix e kind n, _, h => foldedSet_shift h _
  | .shorthand e kind n, _, h => shorthandSet_shift h _
  | .property e p n, _, h => propertySet_shift h _
  | .bracket e n s, _, h => by
    obtain ⟨m, hm, h⟩ := bind_eq_ok.1 h
    exact bind_eq_ok.2 ⟨m, SetTree.members_shift s hm, foldedSet_shift h _⟩
  | .union e ss, _, h => SetTree.allMembers_shift ss h
  | .combine e op l r, _, h => by
    obtain ⟨a, ha, h⟩ := bind_eq_ok.1 h
    obtain ⟨b, hb, h⟩ := bind_eq_ok.1 h
    exact bind_eq_ok.2 ⟨a, SetTree.members_shift l ha, bind_eq_ok.2 ⟨b, SetTree.members_shift r hb, h⟩⟩

theorem SetTree.allMembers_shift : ∀ (ss : List SetTree) {s m : CharSet},
    SetTree.allMembers f s ss = .ok m → SetTree.allMembers f s (SetTree.allShift d ss) = .ok m
  | [], _, _, h => h
  | t :: ts, _, _, h => by
    obtain ⟨m, hm, h⟩ := bind_eq_ok.1 h
    exact bind_eq_ok.2 ⟨m, SetTree.members_shift t hm, SetTree.allMembers_shift ts h⟩

end

theorem renumber_charExpr (f : Flags) (c : Char) : (charExpr f c).renumber k = charExpr f c := by
  unfold charExpr
  dsimp only
  split
  · rfl
  · exact Expr.renumber_oneOfSet _ _

/-- An atom means the same further on, and has no groups. -/
theorem Atom.meaning_shift {a : Atom} {e : Expr} (h : a.meaning f = .ok e) :
    (a.shift d).meaning f = .ok (e.renumber k) := by
  cases a with
  | literal l =>
    obtain ⟨c, hc, rfl⟩ := map_eq_ok.1 h
    rw [renumber_charExpr]
    exact map_eq_ok.2 ⟨c, Literal.value_shift hc, rfl⟩
  | dot x =>
    simp only [Atom.meaning, Atom.shift] at h ⊢
    split at h
    · rename_i hf
      obtain rfl := Except.ok.inj h
      rw [if_pos hf]
      rfl
    · exact absurd h (by simp [fail])
  | assertion x kind =>
    obtain rfl := Except.ok.inj h
    rfl
  | shorthand x kind n =>
    obtain ⟨s, hs, rfl⟩ := map_eq_ok.1 h
    rw [Expr.renumber_oneOfSet]
    exact map_eq_ok.2 ⟨s, shorthandSet_shift hs _, rfl⟩
  | property x p n =>
    obtain ⟨s, hs, rfl⟩ := map_eq_ok.1 h
    rw [Expr.renumber_oneOfSet]
    exact map_eq_ok.2 ⟨s, propertySet_shift hs _, rfl⟩

mutual

/-- **A tree further on means what it meant, with other numbers.** -/
theorem Tree.meaning_shift : ∀ (t : Tree) {f f' : Flags} {e : Expr}, t.meaning f = .ok (e, f') →
    (t.shift d k).meaning f = .ok (e.renumber k, f')
  | .empty, _, _, _, h => by
    obtain ⟨rfl, rfl⟩ := Prod.mk.inj (Except.ok.inj h)
    rfl
  | .flags change, _, _, _, h => by
    obtain ⟨rfl, rfl⟩ := Prod.mk.inj (Except.ok.inj h)
    rfl
  | .atom a, _, _, _, h => by
    obtain ⟨e, he, hpair⟩ := map_eq_ok.1 h
    obtain ⟨rfl, rfl⟩ := Prod.mk.inj hpair
    exact map_eq_ok.2 ⟨_, Atom.meaning_shift he, rfl⟩
  | .bracket s, _, _, _, h => by
    obtain ⟨m, hm, hpair⟩ := map_eq_ok.1 h
    obtain ⟨rfl, rfl⟩ := Prod.mk.inj hpair
    rw [Expr.renumber_oneOfSet]
    exact map_eq_ok.2 ⟨m, SetTree.members_shift s hm, rfl⟩
  | .repetition _ b greedy t, _, _, _, h => by
    obtain ⟨⟨e, f⟩, he, hpair⟩ := bind_eq_ok.1 h
    obtain ⟨rfl, rfl⟩ := Prod.mk.inj (Except.ok.inj hpair)
    rw [← Expr.renumber_repeated]
    exact bind_eq_ok.2 ⟨_, Tree.meaning_shift t he, rfl⟩
  | .group _ (.capture index name) t, _, _, _, h => by
    obtain ⟨⟨e, f⟩, he, hpair⟩ := bind_eq_ok.1 h
    obtain ⟨rfl, rfl⟩ := Prod.mk.inj (Except.ok.inj hpair)
    exact bind_eq_ok.2 ⟨_, Tree.meaning_shift t he, rfl⟩
  | .group _ (.plain change) t, _, _, _, h => by
    obtain ⟨⟨e, f⟩, he, hpair⟩ := bind_eq_ok.1 h
    obtain ⟨rfl, rfl⟩ := Prod.mk.inj (Except.ok.inj hpair)
    exact bind_eq_ok.2 ⟨_, Tree.meaning_shift t he, rfl⟩
  | .alternation _ ts, _, _, _, h => by
    obtain ⟨⟨es, f⟩, hes, hpair⟩ := bind_eq_ok.1 h
    obtain ⟨rfl, rfl⟩ := Prod.mk.inj (Except.ok.inj hpair)
    rw [← Expr.renumber_alternatives]
    exact bind_eq_ok.2 ⟨_, Tree.allMeanings_shift ts hes, rfl⟩
  | .sequence _ ts, _, _, _, h => by
    obtain ⟨⟨es, f⟩, hes, hpair⟩ := bind_eq_ok.1 h
    obtain ⟨rfl, rfl⟩ := Prod.mk.inj (Except.ok.inj hpair)
    rw [← Expr.renumber_sequence]
    exact bind_eq_ok.2 ⟨_, Tree.allMeanings_shift ts hes, rfl⟩

/-- The same for trees in a row. -/
theorem Tree.allMeanings_shift : ∀ (ts : List Tree) {f f' : Flags} {es : List Expr},
    Tree.allMeanings f ts = .ok (es, f') →
      Tree.allMeanings f (Tree.allShift d k ts) = .ok (es.map (Expr.renumber k), f')
  | [], _, _, _, h => by
    obtain ⟨rfl, rfl⟩ := Prod.mk.inj (Except.ok.inj h)
    rfl
  | t :: ts, _, _, _, h => by
    obtain ⟨⟨e, f⟩, he, h⟩ := bind_eq_ok.1 h
    obtain ⟨⟨es, f'⟩, hes, hpair⟩ := bind_eq_ok.1 h
    obtain ⟨rfl, rfl⟩ := Prod.mk.inj (Except.ok.inj hpair)
    exact bind_eq_ok.2 ⟨_, Tree.meaning_shift t he, bind_eq_ok.2 ⟨_, Tree.allMeanings_shift ts hes, rfl⟩⟩

end

end Meaning

end Regex
end TextScan
