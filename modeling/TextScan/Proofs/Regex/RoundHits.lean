/-
# The hits of a repetition

The hit of a greedy repetition is made of rounds.  If the expression has a hit at the start of a
text, the repetition goes on behind it as if the text started there (`exists_hit?_anyTimes`), for it
knows nothing of what stands before, and nothing of what it remembers.  If it has none, the
repetition stops at the start (`hit?_anyTimes_stop`), and a lazy one always does
(`hit?_anyTimes_lazy`).
-/

import TextScan.Proofs.Regex.OrderedChoice
import TextScan.Proofs.Regex.Rounds

namespace TextScan
namespace Regex

/-! ## Marks from before -/

/-- A thread that remembers more from before. -/
def Thread.remember (ms : Marks) (t : Thread) : Thread := ⟨t.address, t.spot, t.marks ++ ms⟩

/-- What is remembered from before makes no difference to a step. -/
theorem Inst.next_remember (i : Inst) (ms : Marks) (t : Thread) :
    i.next (t.remember ms) = (i.next t).map (Thread.remember ms) := by
  have hspot : (t.remember ms).spot = t.spot := rfl
  cases i with
  | char c =>
    simp only [next, hspot]
    cases t.spot.rest with
    | nil => rfl
    | cons d r => by_cases hd : c = d <;> simp [hd, Thread.remember]
  | oneOf s =>
    simp only [next, hspot]
    cases t.spot.rest with
    | nil => rfl
    | cons d r => by_cases hd : s.contains d = true <;> simp [hd, Thread.remember]
  | anchor a =>
    simp only [next, hspot]
    by_cases ha : a.holds t.spot = true <;> simp [ha, Thread.remember]
  | mark slot => rfl
  | jump target => rfl
  | fork first second => rfl
  | accept => rfl

namespace Expr

variable {e : Expr} {k : Spot → Prop} {s : Spot} {y : Trail} {a r input : Text} {h h' : Hit}

theorem carries_remember (e : Expr) (k : Spot → Prop) (ms : Marks) :
    Course.Carries (e.course k) (e.course k) (Thread.remember ms) fun _ => True where
  keep _ _ := trivial
  next {t} _ := by
    unfold course codeCourse
    dsimp only
    rw [show (t.remember ms).address = t.address from rfl]
    cases (code e 0)[t.address]? with
    | none => rfl
    | some i => exact i.next_remember ms t
  goal _ := by
    rw [goal_course, goal_course]
    exact Iff.rfl
  place _ _ := Iff.rfl

/-- **What is remembered from before makes no difference to what is chosen.** -/
theorem chooses_remember {ms : Marks} : e.Chooses k (s, ms) y ↔
    ∃ z, e.Chooses k (s, []) z ∧ y = (z.1, z.2 ++ ms) := by
  have hprefers := (carries_remember e k ms).prefers_empty_iff (t := threadAt 0 (s, [])) trivial
    (threadAt e.codeSize y)
  refine hprefers.trans ⟨?_, ?_⟩
  · rintro ⟨w, hw, hy⟩
    obtain ⟨z, hz, rfl⟩ := prefers_course_iff.1 hw
    exact ⟨z, hz, threadAt_inj.1 hy⟩
  · rintro ⟨z, hz, rfl⟩
    exact ⟨_, hz, rfl⟩

/-! ## Hits -/

/-- The hit of an expression that reads something is not empty. -/
theorem ne_nil_of_hit? (he : e.Ordered) (hadv : e.Advances)
    (hh : (Program.ofExpr e).hit? .anchored (a ++ r) = some h) (hspan : h.span = ⟨0, Text.size a⟩) :
    a ≠ [] := by
  rintro rfl
  obtain ⟨y, hy, rfl⟩ := hit?_ofExpr_eq_some_iff.1 hh
  have hm := (hy.runs he).matches
  have hin := (hm.forward (Spot.isIn_start ([] ++ r))).1
  have hstart : y.1 = Spot.start ([] ++ r) :=
    hin.eq_of_offset (Spot.isIn_start _) (congrArg Span.stop hspan)
  rw [hstart] at hm
  exact absurd (hadv _ _ hm) (Nat.lt_irrefl _)

section Advances

variable (he : e.Ordered) (hadv : e.Advances)

include he hadv

/-- Where the expression has no hit, a repetition stops. -/
theorem hit?_anyTimes_stop (hnone : (Program.ofExpr e).hit? .anchored input = none) :
    (Program.ofExpr (anyTimes true e)).hit? .anchored input = some ⟨⟨0, 0⟩, []⟩ := by
  have hno : ¬e.Can (fun _ => True) (Spot.start input) := by
    rw [← exists_hit?_iff he, hnone]
    simp
  refine hit?_ofExpr_eq_some_iff.2 ⟨(Spot.start input, []), ?_, rfl⟩
  exact (chooses_anyTimes_greedy he hadv).2 (Or.inr ⟨hno, rfl⟩)

theorem hit?_anyTimes_lazy :
    (Program.ofExpr (anyTimes false e)).hit? .anchored input = some ⟨⟨0, 0⟩, []⟩ :=
  hit?_ofExpr_eq_some_iff.2
    ⟨(Spot.start input, []), (chooses_anyTimes_lazy he hadv).2 rfl, rfl⟩

/-- **Where the expression has a hit, a repetition goes on behind it** as if the text started
there. -/
theorem exists_hit?_anyTimes (ha : e.anchors = [])
    (hh : (Program.ofExpr e).hit? .anchored (a ++ r) = some h) (hspan : h.span = ⟨0, Text.size a⟩)
    (hrest : (Program.ofExpr (anyTimes true e)).hit? .anchored r = some h') :
    ∃ H, (Program.ofExpr (anyTimes true e)).hit? .anchored (a ++ r) = some H ∧
      H.span = ⟨0, Text.size a + h'.span.stop⟩ := by
  obtain ⟨z, hz, rfl⟩ := hit?_ofExpr_eq_some_iff.1 hh
  -- the first round ends where the text that is left starts
  have hin := ((hz.runs he).matches.forward (Spot.isIn_start (a ++ r))).1
  have hz1 : z.1 = Spot.between a r :=
    hin.eq_of_offset ⟨a, r, rfl, rfl⟩ (congrArg Span.stop hspan)
  have hprefers := (Program.prefers_between_iff (a := a)
    (Program.noAnchors_ofExpr (e := anyTimes true e) ha)).2 ⟨h', hrest, rfl⟩
  obtain ⟨y, hy, hshift⟩ := prefers_ofExpr_iff.1 hprefers
  have hstop : h'.span.stop + Text.size a = y.1.offset := congrArg (fun h => h.span.stop) hshift
  have hgo : (anyTimes true e).Chooses (fun _ => True) z (y.1, y.2 ++ z.2) := by
    have hz' : z = (Spot.between a r, z.2) := Prod.ext hz1 rfl
    rw [hz']
    exact chooses_remember.2 ⟨y, hy, rfl⟩
  have hall := (chooses_anyTimes_greedy he hadv).2 (Or.inl ⟨z, hz, hgo⟩)
  refine ⟨_, hit?_ofExpr_eq_some_iff.2 ⟨_, hall, rfl⟩, ?_⟩
  rw [Nat.add_comm, hstop]

end Advances

end Expr
end Regex
end TextScan
