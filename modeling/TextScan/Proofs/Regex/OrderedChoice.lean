/-
# One expression or another at the start of a text

The alternatives of two expressions, the second behind the `n` groups of the first, have a hit at the
start of a text where one of the two has one (`exists_hit?_alternatives`).  It is the hit of the first
where only that has one, and else, if only one way leads through what both start with
(`hit?_alternatives_left`).  Where the first has none it is the hit of the second, with its marks
further on (`hit?_alternatives_right`).
-/

import TextScan.Proofs.Regex.Factoring
import TextScan.Proofs.Regex.Shift

namespace TextScan
namespace Regex

/-! ## Moved marks -/

theorem Marks.get?_move (ms : Marks) (k j : Nat) : (ms.move k).get? (j + k) = ms.get? j := by
  induction ms with
  | nil => rfl
  | cons m ms ih =>
    obtain ⟨i, o⟩ := m
    have hmove : move k ((i, o) :: ms) = (i + k, o) :: move k ms := rfl
    rw [hmove, get?_cons, get?_cons, ih]
    simp only [Nat.add_right_cancel_iff]

/-- A group has its place under the number that it has. -/
theorem Hit.group?_move (sp : Span) (ms : Marks) (n i : Nat) :
    Hit.group? ⟨sp, ms.move (2 * n)⟩ (i + n) = Hit.group? ⟨sp, ms⟩ i := by
  have hfirst := Marks.get?_move ms (2 * n) (2 * i)
  have hstop := Marks.get?_move ms (2 * n) (2 * i + 1)
  rw [← Nat.mul_add] at hfirst
  rw [Nat.add_right_comm, ← Nat.mul_add] at hstop
  simp only [Hit.group?, hfirst, hstop]

namespace Expr

variable {e f : Expr} {n : Nat} {input : Text} {s : Spot} {h : Hit}

theorem Factored.renumber (he : e.Factored) (k : Nat) : (e.renumber k).Factored := by
  refine ⟨?_, fun q hq => ?_⟩
  · rw [branches_renumber, sharedStart_renumber, he.start, List.map_nil]
  · rw [parts_renumber] at hq
    obtain ⟨q', hq', rfl⟩ := List.map_eq_singleton_iff.1 hq
    rw [he.part q' hq']

/-! ## Hits at the start of a text -/

/-- The hit at the start of a text is what an expression chooses there. -/
theorem hit?_ofExpr_eq_some_iff : (Program.ofExpr e).hit? .anchored input = some h ↔
    ∃ y, e.Chooses (fun _ => True) (Spot.start input, []) y ∧ h = ⟨⟨0, y.1.offset⟩, y.2⟩ :=
  Program.hit?_anchored_eq_some_iff.trans prefers_ofExpr_iff

theorem exists_hit?_iff (he : e.Ordered) : (∃ h, (Program.ofExpr e).hit? .anchored input = some h) ↔
    e.Can (fun _ => True) (Spot.start input) := by
  constructor
  · rintro ⟨h, hh⟩
    obtain ⟨y, hy, -⟩ := hit?_ofExpr_eq_some_iff.1 hh
    exact hy.can
  · intro hcan
    obtain ⟨s', hm, -⟩ := (can_iff_matches he).1 hcan
    obtain ⟨ms, hrun⟩ := exists_runs_of_matches hm []
    have hspec := hit?_anchored he input
    cases hh : (Program.ofExpr e).hit? .anchored input with
    | some h => exact ⟨h, rfl⟩
    | none =>
      rw [hh] at hspec
      exact absurd ⟨_, hrun, rfl⟩ (hspec _)

/-- A hit has no place for a group that its expression does not have. -/
theorem group?_of_hit? (he : e.Ordered) (hh : (Program.ofExpr e).hit? .anchored input = some h)
    {i : Nat} (hno : ∀ g ∈ e.groups, g.1 ≠ i) : h.group? i = none := by
  obtain ⟨y, hy, rfl⟩ := hit?_ofExpr_eq_some_iff.1 hh
  exact (hy.runs he).group?_eq_none hno _

/-- Behind `n` groups, the places of the first `n` are empty. -/
theorem group?_move_of_hit? (hf : f.Ordered) (hpos : ∀ g ∈ f.groups, 1 ≤ g.1)
    (hh : (Program.ofExpr f).hit? .anchored input = some h) {i : Nat} (hi : i ≤ n) :
    Hit.group? ⟨h.span, h.marks.move (2 * n)⟩ i = none := by
  obtain ⟨y, hy, rfl⟩ := hit?_ofExpr_eq_some_iff.1 hh
  have hmoved := (chooses_renumber (m := n)).2 ⟨y, hy, rfl⟩
  refine (hmoved.runs ((ordered_renumber f n).2 hf)).group?_eq_none (fun g hg => ?_) _
  rw [groups_renumber] at hg
  obtain ⟨g', hg', rfl⟩ := List.mem_map.1 hg
  have hnumber := hpos g' hg'
  dsimp only
  omega

section Alternatives

variable (he : e.Factored) (hf : f.Factored) (hoe : e.Ordered) (hof : f.Ordered)

include he hf hoe hof

/-- **Alternatives have a hit where one of them has one.** -/
theorem exists_hit?_alternatives :
    (∃ h, (Program.ofExpr (alternatives [e, f.renumber n])).hit? .anchored input = some h) ↔
      (∃ h, (Program.ofExpr e).hit? .anchored input = some h) ∨
        ∃ h, (Program.ofExpr f).hit? .anchored input = some h := by
  have hof' := (ordered_renumber f n).2 hof
  rw [exists_hit?_iff (ordered_alternatives (by simp [hoe, hof])), exists_hit?_iff hoe,
    exists_hit?_iff hof, can_alternatives he (hf.renumber n) hoe hof', can_renumber]

/-- **The first alternative comes first**, if the second has no hit or both start in one way. -/
theorem hit?_alternatives_left (hh : (Program.ofExpr e).hit? .anchored input = some h)
    (hway : (∃ h, (Program.ofExpr f).hit? .anchored input = some h) →
      (commonLead [e, f.renumber n]).OneWay (Spot.start input)) :
    (Program.ofExpr (alternatives [e, f.renumber n])).hit? .anchored input = some h := by
  have hof' := (ordered_renumber f n).2 hof
  obtain ⟨y, hy, rfl⟩ := hit?_ofExpr_eq_some_iff.1 hh
  refine hit?_ofExpr_eq_some_iff.2 ⟨y, ?_, rfl⟩
  refine (chooses_alternatives he (hf.renumber n) hoe hof' fun _ hcan => hway ?_).2 (Or.inl hy)
  rw [exists_hit?_iff hof]
  exact can_renumber.1 hcan

/-- **The second alternative comes second**, with its groups behind those of the first. -/
theorem hit?_alternatives_right (hnone : (Program.ofExpr e).hit? .anchored input = none)
    (hh : (Program.ofExpr f).hit? .anchored input = some h) :
    (Program.ofExpr (alternatives [e, f.renumber n])).hit? .anchored input =
      some ⟨h.span, h.marks.move (2 * n)⟩ := by
  have hof' := (ordered_renumber f n).2 hof
  have hno : ¬e.Can (fun _ => True) (Spot.start input) := by
    rw [← exists_hit?_iff hoe, hnone]
    simp
  obtain ⟨y, hy, rfl⟩ := hit?_ofExpr_eq_some_iff.1 hh
  refine hit?_ofExpr_eq_some_iff.2 ⟨(y.1, y.2.move (2 * n)), ?_, rfl⟩
  refine (chooses_alternatives he (hf.renumber n) hoe hof' fun hcan => absurd hcan hno).2
    (Or.inr ⟨hno, chooses_renumber.2 ⟨y, hy, rfl⟩⟩)

end Alternatives

/-! ## The number of groups -/

theorem mem_upperBounds_alternatives {m : Nat} :
    (∀ g ∈ (alternatives [e, f.renumber n]).groups, g.1 ≤ m) ↔
      (∀ g ∈ e.groups, g.1 ≤ m) ∧ ∀ g ∈ f.groups, g.1 + n ≤ m := by
  simp only [mem_groups_alternatives, List.flatMap_cons, List.flatMap_nil, List.append_nil,
    groups_renumber, List.forall_mem_append, List.forall_mem_map]

/-- Alternatives count their groups up to the last of the second or, if that has none, to the last of
the first. -/
theorem length_groupNames_alternatives (he : ∀ g ∈ e.groups, g.1 ≤ n) (hf : ∀ g ∈ f.groups, 1 ≤ g.1) :
    (alternatives [e, f.renumber n]).groupNames.length =
      if f.groupNames.length = 0 then e.groupNames.length else n + f.groupNames.length := by
  have hleast := isLeast_length_groupNames (alternatives [e, f.renumber n])
  simp only [mem_upperBounds_alternatives] at hleast
  obtain ⟨hfirst, hfirst'⟩ := isLeast_length_groupNames e
  obtain ⟨hsecond, hsecond'⟩ := isLeast_length_groupNames f
  refine hleast.unique ?_
  split
  · rename_i hzero
    have hno : ∀ g, g ∉ f.groups := fun g hg => by
      have hpos := hf g hg
      have hle := hsecond g hg
      omega
    exact ⟨⟨hfirst, fun g hg => absurd hg (hno g)⟩, fun m hm => hfirst' hm.1⟩
  · rename_i hpos
    refine ⟨⟨fun g hg => (he g hg).trans (Nat.le_add_right _ _), fun g hg => ?_⟩, fun m hm => ?_⟩
    · have hle := hsecond g hg
      omega
    · have hle := hsecond' (a := m - n) fun g hg => Nat.le_sub_of_add_le (hm.2 g hg)
      omega

end Expr
end Regex
end TextScan
