/-
# Where a match lies

A span lies in a text if its ends are in order and are boundaries of the text; such spans, and no
others, mark a part of it (`Span.liesIn_iff`).  The span of a match that is found from an offset on
lies in the text, and so do the spans of its groups (`Pattern.liesIn_of_findAt`): the ends are spots
that a run of the expression passes.  As the run passes the spots of the groups on its way, no group
reaches outside the match (`Pattern.group_of_findAt`).  The match does not start before the offset,
and a match that is looked for at the offset starts there (`Pattern.le_start_of_findAt`).
-/

import TextScan.Proofs.Regex.Bounds
import TextScan.Proofs.Regex.Hits
import TextScan.Proofs.Regex.Marks
import TextScan.Proofs.Scanner.Attempts

namespace TextScan

open Regex (Expr Spot)

/-- A span has its ends in order and on boundaries of a text. -/
structure Span.LiesIn (s : Span) (t : Text) : Prop where
  ordered : s.start ≤ s.stop
  start : Text.isBoundary t s.start = true
  stop : Text.isBoundary t s.stop = true

namespace Span

variable {s : Span} {t : Text}

/-- The spans that lie in a text are those that mark a part of it. -/
theorem liesIn_iff : s.LiesIn t ↔ (Text.slice? t s).isSome = true := by
  rw [Text.isSome_slice?_iff]
  exact ⟨fun h => ⟨h.ordered, h.start, h.stop⟩, fun h => ⟨h.1, h.2.1, h.2.2⟩⟩

theorem LiesIn.exists_slice (h : s.LiesIn t) : ∃ u, Text.slice? t s = some u :=
  Option.isSome_iff_exists.1 (liesIn_iff.1 h)

theorem LiesIn.stop_le (h : s.LiesIn t) : s.stop ≤ Text.size t :=
  Text.le_size_of_isBoundary h.stop

/-- A span of a last part lies in the whole text. -/
theorem LiesIn.shift (h : s.LiesIn t) (a : Text) : (s.shift (Text.size a)).LiesIn (a ++ t) :=
  ⟨Nat.add_le_add_right h.ordered _, Text.isBoundary_append_right a h.start,
    Text.isBoundary_append_right a h.stop⟩

end Span

/-- A span does not reach outside another one. -/
structure Span.Within (g s : Span) : Prop where
  start : s.start ≤ g.start
  stop : g.stop ≤ s.stop

theorem Span.Within.shift {g s : Span} (h : g.Within s) (base : Nat) :
    (g.shift base).Within (s.shift base) :=
  ⟨Nat.add_le_add_right h.start _, Nat.add_le_add_right h.stop _⟩

/-- The text of a span within another one is a part of the text of that. -/
theorem Span.Within.exists_append {g s : Span} {t u : Text} (h : g.Within s) (hg : g.LiesIn t)
    (hu : Text.slice? t s = some u) : ∃ x v y, u = x ++ v ++ y ∧ Text.slice? t g = some v ∧
      s.start + Text.size x = g.start := by
  obtain ⟨v, hv⟩ := hg.exists_slice
  have hs : s.LiesIn t := Span.liesIn_iff.2 (by rw [hu]; rfl)
  obtain ⟨x, hx⟩ := (⟨h.start, hs.start, hg.start⟩ : Span.LiesIn ⟨s.start, g.start⟩ t).exists_slice
  obtain ⟨y, hy⟩ := (⟨h.stop, hg.stop, hs.stop⟩ : Span.LiesIn ⟨g.stop, s.stop⟩ t).exists_slice
  have hparts := Text.slice?_append_slice (Text.slice?_append_slice hx hv) hy
  obtain ⟨a, b, -, hstart, hstop⟩ := Text.slice?_eq_some_iff.1 hx
  exact ⟨x, v, y, Option.some.inj (hu.symm.trans hparts), hv, by omega⟩

/-- The span of a match and those of its groups lie in a text. -/
structure Found.LiesIn (f : Found) (t : Text) : Prop where
  span : f.span.LiesIn t
  groups : ∀ g ∈ f.groups, ∀ s, g.2 = some s → s.LiesIn t

namespace Found

variable {f : Found} {s : Span} {t : Text} {i : Nat} {name : Text}

/-- A number stands for the whole match or for one of its groups. -/
theorem eq_or_mem_of_group? (h : f.group? i = some s) :
    s = f.span ∨ ∃ g ∈ f.groups, g.2 = some s := by
  cases i with
  | zero => exact Or.inl (Option.some.inj h).symm
  | succ i =>
    obtain ⟨g, hg, hs⟩ := Option.bind_eq_some_iff.1 h
    exact Or.inr ⟨g, List.mem_of_getElem? hg, hs⟩

theorem exists_mem_of_groupNamed? (h : f.groupNamed? name = some s) :
    ∃ g ∈ f.groups, g.2 = some s := by
  obtain ⟨g, hg, hs⟩ := Option.bind_eq_some_iff.1 h
  exact ⟨g, List.mem_of_find?_eq_some hg, hs⟩

/-- A group that took part in a match lies in the text with it. -/
theorem LiesIn.group? (h : f.LiesIn t) (hs : f.group? i = some s) : s.LiesIn t := by
  rcases eq_or_mem_of_group? hs with rfl | ⟨g, hg, hgs⟩
  · exact h.span
  · exact h.groups g hg s hgs

end Found

namespace Regex

variable {e : Expr} {t : Text} {s : Spot} {h : Hit}

theorem Expr.Yields.liesIn (hy : e.Yields s h) (hs : s.IsIn t) : h.span.LiesIn t := by
  obtain ⟨y, hrun, rfl⟩ := hy
  obtain ⟨hin, hle⟩ := hrun.matches.forward hs
  exact ⟨hle, hs.isBoundary, hin.isBoundary⟩

/-- The span of a group that took part in a hit lies in the text and within the hit. -/
theorem Expr.Yields.within_of_group? (hy : e.Yields s h) (hs : s.IsIn t) {i : Nat} {g : Span}
    (hg : h.group? i = some g) : g.LiesIn t ∧ g.Within h.span := by
  obtain ⟨y, hrun, rfl⟩ := hy
  obtain ⟨new, hnew, hfilled⟩ := hrun.filled hs
  obtain rfl : y.2 = new := by rw [hnew, List.append_nil]
  unfold Hit.group? at hg
  split at hg
  · rename_i a b ha hb
    obtain rfl := Option.some.inj hg
    obtain ⟨hfirst, hab, hstop, hsa, hsb⟩ := hfilled.ends ha hb
    exact ⟨⟨hab, hsa, hsb⟩, hfirst, hstop⟩
  · exact absurd hg (by simp)

/-- A hit in a text is one at a spot of it, at the start if it was looked for there. -/
theorem yields_of_hit? (he : e.Ordered) {m : Mode} (hh : (ofExpr e).hit? m t = some h) :
    ∃ s : Spot, s.IsIn t ∧ e.Yields s h ∧ (m = .anchored → s = Spot.start t) := by
  cases m with
  | anchored =>
    have hspec := hit?_anchored he t
    rw [show (Program.ofExpr e).hit? .anchored t = some h from hh] at hspec
    exact ⟨Spot.start t, Spot.isIn_start t, hspec, fun _ => rfl⟩
  | leftmost =>
    have hspec := hit?_leftmost he t
    rw [show (Program.ofExpr e).hit? .leftmost t = some h from hh] at hspec
    obtain ⟨s, hs, hy, -⟩ := hspec
    exact ⟨s, hs, hy, fun hm => absurd hm (by simp)⟩

end Regex

namespace Pattern

variable {p : Pattern} {m : Regex.Mode} {t : Text} {n : Nat} {f : Found}

/-- A pattern has an expression, with bounds in order. -/
theorem exists_ofExpr (p : Pattern) :
    ∃ e, Expr.ofSource p.source = .ok e ∧ e.Ordered ∧ p.regex = Regex.ofExpr e := by
  obtain ⟨e, he, hr⟩ := Regex.exists_expr_of_compile p.compiled
  exact ⟨e, he, Expr.ordered_of_ofSource he, hr⟩

/-- A match is a hit of the expression in the text from the offset on. -/
theorem exists_yields_of_findAt (hf : p.findAt m t n = some f) :
    ∃ a region e s h, t = a ++ region ∧ n = Text.size a ∧ f = Found.ofHit n p.regex h ∧
      s.IsIn region ∧ Expr.Yields e s h ∧ (m = .anchored → s = Spot.start region) := by
  obtain ⟨region, h, hr, hh, rfl⟩ := findAt_eq_some_iff.1 hf
  obtain ⟨a, rfl, rfl⟩ := Text.drop?_eq_some_iff.1 hr
  obtain ⟨e, -, he, hp⟩ := p.exists_ofExpr
  obtain ⟨s, hs, hy, hstart⟩ := Regex.yields_of_hit? he (hp ▸ hh)
  exact ⟨a, region, e, s, h, rfl, rfl, rfl, hs, hy, hstart⟩

/-- A group of a match lies in the text and within the match, however often it was passed. -/
theorem group_of_findAt (hf : p.findAt m t n = some f) {g : Option Text × Option Span}
    (hg : g ∈ f.groups) {sp : Span} (hsp : g.2 = some sp) : sp.LiesIn t ∧ sp.Within f.span := by
  obtain ⟨a, region, e, s, h, rfl, rfl, rfl, hs, hy, -⟩ := exists_yields_of_findAt hf
  obtain ⟨g', hg', rfl⟩ := List.mem_map.1 hg
  obtain ⟨sp', hsp', rfl⟩ := Option.map_eq_some_iff.1 hsp
  obtain ⟨i, hi, rfl⟩ := List.mem_mapIdx.1 hg'
  obtain ⟨hlies, hwithin⟩ := hy.within_of_group? hs hsp'
  exact ⟨hlies.shift a, hwithin.shift _⟩

/-- **A match lies in the text**, with all its groups. -/
theorem liesIn_of_findAt (hf : p.findAt m t n = some f) : f.LiesIn t := by
  refine ⟨?_, fun g hg sp hsp => (group_of_findAt hf hg hsp).1⟩
  obtain ⟨a, region, e, s, h, rfl, rfl, rfl, hs, hy, -⟩ := exists_yields_of_findAt hf
  exact (hy.liesIn hs).shift a

/-- A match does not start before the offset; it starts there if it was looked for there. -/
theorem le_start_of_findAt (hf : p.findAt m t n = some f) :
    n ≤ f.span.start ∧ (m = .anchored → f.span.start = n) := by
  obtain ⟨a, region, e, s, h, rfl, rfl, rfl, hs, hy, hstart⟩ := exists_yields_of_findAt hf
  refine ⟨Nat.le_add_left _ _, fun hm => ?_⟩
  obtain rfl := hstart hm
  have hzero : h.span.start = 0 := (hy.matchesIn hs).1
  simp only [Found.ofHit, Span.shift, hzero, Nat.zero_add]

end Pattern
end TextScan
