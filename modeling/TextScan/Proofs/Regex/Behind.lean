/-
# Searches behind a text

A spot of a text is a spot of a longer one that has another text in front: what is left there is the
same, and only the offset and what stands before it are others.  An expression without anchors does
not look at what stands before a spot.  So its program goes on from the one spot as from the other
(`Program.carries_behind`), and prefers the same hit with all offsets moved
(`Program.prefers_behind`).

| what | behind `a` |
| --- | --- |
| a spot | `Spot.after a` |
| a thread | `Thread.behind a` |
| marks, a hit | `Marks.shift`, `Hit.shift` by the size of `a` |
-/

import TextScan.Proofs.Regex.PreferredHits

namespace TextScan
namespace Regex

/-! ## Expressions without anchors -/

/-- The anchors of an expression. -/
def Expr.anchors : Expr → List Anchor
  | .empty => []
  | .text _ => []
  | .oneOf _ _ => []
  | .anchor a => [a]
  | .group _ _ e => e.anchors
  | .times _ _ _ e => e.anchors
  | .seq a b => a.anchors ++ b.anchors
  | .alt a b => a.anchors ++ b.anchors

/-- An instruction leads on to addresses and does nothing else. -/
def Inst.IsWay (i : Inst) : Prop := (∃ a b, i = .fork a b) ∨ ∃ a, i = .jump a

theorem isWay_choose (greedy : Bool) (a b : Nat) : (Inst.choose greedy a b).IsWay := by
  cases greedy
  · exact Or.inl ⟨b, a, rfl⟩
  · exact Or.inl ⟨a, b, rfl⟩

section Repeated

variable {body : Nat → List Inst} {i : Inst}

theorem mem_copies {n pc : Nat} (h : i ∈ copies body n pc) : ∃ a, i ∈ body a := by
  induction n generalizing pc with
  | zero => simp [copies] at h
  | succ n ih =>
    rw [copies] at h
    exact (List.mem_append.1 h).elim (fun h => ⟨pc, h⟩) ih

theorem mem_optionalCopies {greedy : Bool} {stop n pc : Nat}
    (h : i ∈ optionalCopies greedy body stop n pc) : (∃ a, i ∈ body a) ∨ i.IsWay := by
  induction n generalizing pc with
  | zero => simp [optionalCopies] at h
  | succ n ih =>
    rw [optionalCopies] at h
    rcases List.mem_cons.1 h with rfl | h
    · exact Or.inr (isWay_choose greedy _ _)
    · exact (List.mem_append.1 h).elim (fun h => Or.inl ⟨_, h⟩) ih

/-- A repetition adds to the code of its body nothing but ways. -/
theorem mem_repeatedCode {least : Nat} {most : Option Nat} {greedy canBeEmpty : Bool}
    {size pc : Nat} (h : i ∈ repeatedCode least most greedy canBeEmpty size body pc) :
    (∃ a, i ∈ body a) ∨ i.IsWay := by
  unfold repeatedCode at h
  split at h
  · rw [star] at h
    rcases List.mem_cons.1 h with rfl | h
    · exact Or.inr (isWay_choose greedy _ _)
    rcases List.mem_append.1 h with h | h
    · exact Or.inl ⟨_, h⟩
    · obtain rfl := List.mem_singleton.1 h
      split
      · exact Or.inr (isWay_choose greedy _ _)
      · exact Or.inr (Or.inr ⟨pc, rfl⟩)
  · rcases List.mem_append.1 h with h | h
    · exact Or.inl (mem_copies h)
    · rcases List.mem_append.1 h with h | h
      · exact Or.inl ⟨_, h⟩
      · obtain rfl := List.mem_singleton.1 h
        exact Or.inr (isWay_choose greedy _ _)
  · exact (List.mem_append.1 h).elim (fun h => Or.inl (mem_copies h)) mem_optionalCopies

end Repeated

/-- The anchors in the code of an expression are its own. -/
theorem mem_anchors_of_mem_code {e : Expr} {a : Anchor} {pc : Nat} (h : .anchor a ∈ code e pc) :
    a ∈ e.anchors := by
  induction e generalizing pc with
  | empty => simp [code] at h
  | text t => simp [code] at h
  | oneOf _ s => simp [code] at h
  | anchor b => simpa [code, Expr.anchors] using h
  | group i _ e ih =>
    simp only [code, List.mem_cons, List.mem_append, reduceCtorEq, false_or, List.not_mem_nil,
      or_false] at h
    exact ih h
  | times least most greedy e ih =>
    rcases mem_repeatedCode h with ⟨pc', h⟩ | ⟨x, y, h⟩ | ⟨x, h⟩
    · exact ih h
    · simp at h
    · simp at h
  | seq a b iha ihb =>
    rw [Expr.anchors, List.mem_append]
    rw [code] at h
    exact (List.mem_append.1 h).imp iha ihb
  | alt a b iha ihb =>
    rw [Expr.anchors, List.mem_append]
    simp only [code, List.mem_cons, List.mem_append, reduceCtorEq, false_or] at h
    exact h.imp iha ihb

/-- A program has no anchors. -/
def Program.NoAnchors (p : Program) : Prop := ∀ {k : Nat} {a : Anchor}, p[k]? ≠ some (.anchor a)

theorem Program.noAnchors_ofExpr {e : Expr} (h : e.anchors = []) : (ofExpr e).NoAnchors :=
  fun {k a} hk => by
    rw [ofExpr, List.getElem?_toArray] at hk
    rcases List.mem_append.1 (List.mem_of_getElem? hk) with hmem | hmem
    · have ha := mem_anchors_of_mem_code hmem
      rw [h] at ha
      exact absurd ha List.not_mem_nil
    · simp at hmem

/-! ## Spots, threads and hits behind a text -/

/-- A spot of a text, behind another text. -/
def Spot.following (a : Text) (s : Spot) : Spot :=
  ⟨s.before.or a.getLast?, s.rest, s.offset + Text.size a⟩

/-- Marks with their offsets moved. -/
def Marks.shift (n : Nat) (ms : Marks) : Marks := ms.map fun m => (m.1, m.2 + n)

/-- A hit with its offsets moved. -/
def Hit.shift (n : Nat) (h : Hit) : Hit := ⟨h.span.shift n, h.marks.shift n⟩

/-- A thread in a text, behind another text. -/
def Thread.behind (a : Text) (t : Thread) : Thread :=
  ⟨t.address, t.spot.following a, t.marks.shift (Text.size a)⟩

theorem Spot.following_past (a : Text) (s : Spot) (c : Char) (r : Text) :
    (s.past c r).following a = (s.following a).past c r := by
  simp only [following, past, Option.some_or, Spot.mk.injEq, true_and]
  omega

/-- The spots of a text are spots of the text with another one in front. -/
theorem Spot.IsIn.following {t : Text} {s : Spot} (h : s.IsIn t) (a : Text) :
    (s.following a).IsIn (a ++ t) := by
  obtain ⟨b, c, rfl, rfl⟩ := h
  refine ⟨a ++ b, c, (List.append_assoc a b c).symm, ?_⟩
  simp only [Spot.following, between, List.getLast?_append, Text.size_append, Spot.mk.injEq,
    true_and]
  exact Nat.add_comm _ _

theorem Marks.get?_shift (n : Nat) (ms : Marks) (k : Nat) :
    (ms.shift n).get? k = (ms.get? k).map (· + n) := by
  unfold Marks.get? Marks.shift
  rw [List.find?_map, Option.map_map, Option.map_map]
  rfl

theorem Hit.group?_shift (n : Nat) (h : Hit) (i : Nat) :
    (h.shift n).group? i = (h.group? i).map (Span.shift n) := by
  unfold Hit.group? Hit.shift
  dsimp only
  rw [Marks.get?_shift, Marks.get?_shift]
  cases h.marks.get? (2 * i) with
  | none => rfl
  | some a => cases h.marks.get? (2 * i + 1) <;> rfl

/-- An instruction that is no anchor does behind a text what it does without it. -/
theorem Inst.next_behind {i : Inst} (hi : ∀ k, i ≠ .anchor k) (a : Text) (t : Thread) :
    i.next (t.behind a) = (i.next t).map (Thread.behind a) := by
  have hpast : ∀ d r, (⟨(t.behind a).address + 1, (t.behind a).spot.past d r, (t.behind a).marks⟩ :
      Thread) = Thread.behind a ⟨t.address + 1, t.spot.past d r, t.marks⟩ := fun d r => by
    simp only [Thread.behind, Spot.following_past]
  cases i with
  | char c =>
    simp only [next]
    rw [show (t.behind a).spot.rest = t.spot.rest from rfl]
    cases t.spot.rest with
    | nil => rfl
    | cons d r =>
      by_cases hd : c = d
      · simp only [hd, if_true, List.map_cons, List.map_nil, hpast]
      · simp [hd]
  | oneOf s =>
    simp only [next]
    rw [show (t.behind a).spot.rest = t.spot.rest from rfl]
    cases t.spot.rest with
    | nil => rfl
    | cons d r =>
      by_cases hd : s.contains d = true
      · simp only [hd, if_true, List.map_cons, List.map_nil, hpast]
      · simp [hd]
  | anchor k => exact absurd rfl (hi k)
  | mark slot => rfl
  | jump target => rfl
  | fork first second => rfl
  | accept => rfl

namespace Program

variable {p : Program} {t : Text} {s : Spot} {h : Hit}

/-- A program without anchors goes on behind a text as it does without it. -/
theorem carries_behind (hp : p.NoAnchors) (a t : Text) :
    Course.Carries p.course p.course (Thread.behind a) (fun u => u.spot.IsIn t) where
  keep {u w} hu hw := by
    obtain ⟨i, -, hi⟩ := step_course.1 hw
    exact isIn_of_mem_next hu hi
  next {u} _ := by
    simp only [course]
    rw [show (u.behind a).address = u.address from rfl]
    cases hi : p[u.address]? with
    | none => rfl
    | some i => exact Inst.next_behind (fun k hk => hp (hk ▸ hi)) a u
  goal _ := Iff.rfl
  place {u w} hu hw := by
    simp only [Thread.place, Thread.behind, Prod.mk.injEq]
    refine and_congr_right fun _ => ⟨fun hs => hu.eq_of_offset hw ?_, fun hs => by rw [hs]⟩
    have ho := congrArg Spot.offset hs
    simpa only [Spot.following, Nat.add_right_cancel_iff] using ho

/-- **A program without anchors prefers the same hit behind a text.** -/
theorem prefers_behind (hp : p.NoAnchors) (a : Text) (hs : s.IsIn t) :
    p.Prefers (s.following a) h ↔ ∃ h', p.Prefers s h' ∧ h = h'.shift (Text.size a) := by
  have hstart : (threadAt 0 (s, [])).spot.IsIn t := hs
  have hiff := (carries_behind hp a t).prefers_empty_iff hstart
  constructor
  · rintro ⟨w, hw, rfl⟩
    obtain ⟨u, hu, rfl⟩ := (hiff w).1 hw
    exact ⟨_, ⟨u, hu, rfl⟩, rfl⟩
  · rintro ⟨_, ⟨u, hu, rfl⟩, rfl⟩
    exact ⟨_, (hiff _).2 ⟨u, hu, rfl⟩, rfl⟩

/-- A program without anchors prefers at a spot what the anchored search finds in the text from
there on. -/
theorem prefers_between_iff (hp : p.NoAnchors) {a r : Text} :
    p.Prefers (Spot.between a r) h ↔
      ∃ h', p.hit? .anchored r = some h' ∧ h = h'.shift (Text.size a) := by
  have hspot : Spot.between a r = (Spot.start r).following a := by
    simp [Spot.between, Spot.following, Spot.start]
  rw [hspot, prefers_behind hp a (Spot.isIn_start r)]
  simp only [hit?_anchored_eq_some_iff]

/-- **The search for the first hit tries one place after the other.**  Without anchors it finds what
the anchored search finds in the text from the first place on where that finds anything. -/
theorem hit?_leftmost_iff_anchored (hp : p.NoAnchors) :
    p.hit? .leftmost t = some h ↔ ∃ a r h', t = a ++ r ∧ p.hit? .anchored r = some h' ∧
      h = h'.shift (Text.size a) ∧
      ∀ b c, t = b ++ c → Text.size b < Text.size a → p.hit? .anchored c = none := by
  rw [hit?_leftmost_eq_some_iff]
  constructor
  · rintro ⟨_, ⟨a, r, rfl, rfl⟩, hh, hleast⟩
    obtain ⟨h', hh', rfl⟩ := (prefers_between_iff hp).1 hh
    refine ⟨a, r, h', rfl, hh', rfl, fun b c hbc hlt => ?_⟩
    by_contra hne
    obtain ⟨h'', hc⟩ := Option.ne_none_iff_exists'.1 hne
    exact hleast (Spot.between b c) ⟨b, c, hbc, rfl⟩ hlt _
      ((prefers_between_iff hp).2 ⟨h'', hc, rfl⟩)
  · rintro ⟨a, r, h', rfl, hh', rfl, hleast⟩
    refine ⟨Spot.between a r, ⟨a, r, rfl, rfl⟩, (prefers_between_iff hp).2 ⟨h', hh', rfl⟩, ?_⟩
    rintro _ ⟨b, c, hbc, rfl⟩ hlt h'' hp'
    obtain ⟨h₀, hc, -⟩ := (prefers_between_iff hp).1 hp'
    exact absurd hc (by rw [hleast b c hbc hlt]; simp)

end Program
end Regex
end TextScan
