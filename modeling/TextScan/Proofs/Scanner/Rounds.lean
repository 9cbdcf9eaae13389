/-
# A repetition and a loop

The pattern of a source any number of times skips what a loop skips that skips the source until that
fails.  The scanner starts each round of the loop with what is left of the text
(`Scanner.Skips`), and the search for the repetition is one search.  If the source reads something
and knows nothing of what stands around it, both make the same choices in each round, the ways that
are preferred to others and the parts that are lazy included.  So the loop ends, and the repetition
skips all that it skips (`Scanner.skip_anyTimes`).  A lazy repetition skips nothing.
-/

import Mathlib.Algebra.GroupWithZero.Nat
import TextScan.Proofs.Regex.Embedding.Repetition
import TextScan.Proofs.Regex.RoundHits
import TextScan.Proofs.Scanner.Progress
import TextScan.Proofs.Text.Boundaries

namespace TextScan

open Regex (Expr)

namespace Scanner

/-- The loop that skips a query until that fails: the numbers that it is told, and the scanner after
it. -/
inductive Skips (q : Query) : Scanner → List Nat → Scanner → Prop where
  /-- The loop ends where nothing can be skipped. -/
  | missed {s : Scanner} (hmiss : (s.answer (.skip q)).reply = .nothing) :
      Skips q s [] (s.answer (.skip q)).scanner
  /-- The loop goes on behind what was skipped. -/
  | skipped {s s' : Scanner} {n : Nat} {ns : List Nat}
      (hskip : (s.answer (.skip q)).reply = .number n)
      (hrest : Skips q (s.answer (.skip q)).scanner ns s') : Skips q s (n :: ns) s'

variable {s s' : Scanner} {q qa qc : Query} {p a c : Pattern} {e : Expr} {t r : Text} {n : Nat}
  {ns : List Nat}

/-- A skip takes the hit of its expression from what is left, or there is none. -/
theorem StandsBefore.skip (h : s.StandsBefore t r) (hq : q.compiled = .ok p)
    (he : Expr.ofSource p.source = .ok e) :
    ((Regex.Program.ofExpr e).hit? .anchored r = none ∧ (s.answer (.skip q)).reply = .nothing ∧
      (s.answer (.skip q)).scanner.cursor = s.cursor) ∨
    ∃ hit u r', (Regex.Program.ofExpr e).hit? .anchored r = some hit ∧ r = u ++ r' ∧
      hit.span = ⟨0, Text.size u⟩ ∧ (s.answer (.skip q)).reply = .number (Text.size u) ∧
      (s.answer (.skip q)).scanner.StandsBefore t r' ∧
      (s.answer (.skip q)).scanner.cursor = s.cursor + Text.size u := by
  have hanswer : s.answer (.skip q) =
    answerAttempt (s.attempt .anchored q) fun f => .number f.span.length := rfl
  have hhits : p.regex.hit? .anchored r = (Regex.Program.ofExpr e).hit? .anchored r := by
    rw [Pattern.regex_eq_ofExpr he]
    rfl
  rcases h.attempt hq .anchored with ⟨hno, hfails⟩ | ⟨f, u, v, r', hf, rfl, hu, hpasses⟩
  · refine Or.inl ⟨?_, ?_, hfails.cursor⟩
    · rw [← hhits, Option.eq_none_iff_forall_ne_some]
      intro hit hhit
      have hfind := Pattern.findAt_eq_some_iff.2 ⟨r, hit, h.rest, hhit, rfl⟩
      exact absurd (hno.symm.trans hfind) (by simp)
    · simp only [hanswer, answerAttempt, Reply.ofAttempt, hfails.result]
  · obtain rfl := hu rfl
    obtain ⟨region, hit, hr, hhit, rfl⟩ := Pattern.findAt_eq_some_iff.1 hf
    obtain rfl := Option.some.inj (h.rest.symm.trans hr)
    have hshift : hit.span.shift s.cursor = ⟨s.cursor, s.cursor + Text.size v⟩ := hpasses.span
    have hspan : hit.span = ⟨0, Text.size v⟩ := by
      have hstart : hit.span.start = 0 := Nat.add_eq_right.1 (congrArg Span.start hshift)
      have hstop : hit.span.stop = Text.size v :=
        Nat.add_right_cancel ((congrArg Span.stop hshift).trans (Nat.add_comm _ _))
      rw [← hstart, ← hstop]
    refine Or.inr ⟨hit, v, r', hhits ▸ hhit, rfl, hspan, ?_, hpasses.scanner, ?_⟩
    · simp only [hanswer, answerAttempt, Reply.ofAttempt, hpasses.result, Found.ofHit, hshift,
        Span.length, Nat.add_sub_cancel_left]
    · rw [hanswer]
      exact hpasses.cursor.trans (congrArg Span.stop hshift)

section Loop

variable (ha : qa.compiled = .ok a) (he : Expr.ofSource a.source = .ok e) (hadv : e.Advances)

include ha he hadv

/-- **The loop ends** if the expression reads something, by induction on what is left. -/
theorem exists_skips (h : s.StandsBefore t r) : ∃ ns s', Skips qa s ns s' := by
  induction hn : r.length using Nat.strong_induction_on generalizing s r with
  | _ n ih =>
    rcases h.skip ha he with ⟨-, hmiss, -⟩ | ⟨hit, u, r', hhit, rfl, hspan, hskip, hbehind, -⟩
    · exact ⟨_, _, .missed hmiss⟩
    · have hpos := List.length_pos_of_ne_nil
        (Expr.ne_nil_of_hit? (Expr.ordered_of_ofSource he) hadv hhit hspan)
      rw [List.length_append] at hn
      obtain ⟨ns, s', hrest⟩ := ih r'.length (by omega) hbehind rfl
      exact ⟨_, s', .skipped hskip hrest⟩

/-- **A repetition takes all that the loop skips**, round by round. -/
theorem Skips.exists_hit? (hanchors : e.anchors = []) (h : Skips qa s ns s')
    (hs : s.StandsBefore t r) : ∃ hit,
      (Regex.Program.ofExpr (Expr.anyTimes true e)).hit? .anchored r = some hit ∧
      hit.span = ⟨0, ns.sum⟩ ∧ s'.cursor = s.cursor + ns.sum := by
  have hordered := Expr.ordered_of_ofSource he
  induction h generalizing r with
  | missed hmiss =>
    rcases hs.skip ha he with ⟨hnone, -, hcursor⟩ | ⟨_, _, _, -, -, -, hskip, -⟩
    · exact ⟨_, Expr.hit?_anyTimes_stop hordered hadv hnone, rfl, hcursor⟩
    · exact absurd (hmiss.symm.trans hskip) (by simp)
  | skipped hskip hrest ih =>
    rcases hs.skip ha he with
      ⟨-, hmiss, -⟩ | ⟨hit, u, r', hhit, rfl, hspan, hskip', hbehind, hcursor⟩
    · exact absurd (hmiss.symm.trans hskip) (by simp)
    · obtain rfl := Reply.number.inj (hskip.symm.trans hskip')
      obtain ⟨hit', hhit', hspan', hcursor'⟩ := ih hbehind
      obtain ⟨all, hall, hspans⟩ :=
        Expr.exists_hit?_anyTimes hordered hadv hanchors hhit hspan hhit'
      refine ⟨all, hall, ?_, ?_⟩
      · rw [hspans, hspan', List.sum_cons]
      · rw [hcursor', hcursor, List.sum_cons, Nat.add_assoc]

end Loop

/-- **A repetition skips what a loop skips.**  If a pattern has no anchors and does not match the
empty text, the loop that skips it ends, and its repetition skips as much as all rounds of the loop
together.  The lazy repetition is a pattern as well, and skips nothing. -/
theorem skip_anyTimes (s : Scanner) (ha : qa.compiled = .ok a) (hsharp : '#' ∉ a.source)
    (he : Expr.ofSource a.source = .ok e) (hanchors : e.anchors = [])
    (hempty : ¬e.MatchesIn [] 0 0) (hc : qc.compiled = .ok c)
    (hsource : c.source = Regex.anyTimes true a.source) (hi : s.input = some t)
    (hb : Text.isBoundary t s.cursor = true) :
    (∃ ns s', Skips qa s ns s') ∧
    (∀ ns s', Skips qa s ns s' → (s.answer (.skip qc)).reply = .number ns.sum ∧
      (s.answer (.skip qc)).scanner.cursor = s'.cursor) ∧
    ∃ l, Pattern.compile (Regex.anyTimes false a.source) = .ok l ∧
      ∀ ql : Query, ql.compiled = .ok l → (s.answer (.skip ql)).reply = .number 0 := by
  have hadv := Expr.advances_of_not_matchesIn hanchors hempty
  have hordered := Expr.ordered_of_ofSource he
  obtain ⟨r, hr⟩ := Option.isSome_iff_exists.1 ((Text.isSome_drop? t s.cursor).trans hb)
  have hs : s.StandsBefore t r := ⟨hi, hr⟩
  have hcompiled := hsource ▸ c.compiled
  obtain ⟨ec, hec, -⟩ := Regex.exists_expr_of_compile hcompiled
  have hall := Expr.ofSource_anyTimes hanchors hadv he hsharp hec
  refine ⟨exists_skips ha he hadv hs, fun ns s' h => ?_, ?_⟩
  · obtain ⟨hit, hhit, hspan, hcursor⟩ := h.exists_hit? ha he hadv hanchors hs
    rcases hs.skip hc (hsource ▸ hall true) with
      ⟨hnone, -⟩ | ⟨hit', u, r', hhit', -, hspan', hskip, -, hcursor'⟩
    · exact absurd (hnone.symm.trans hhit) (by simp)
    · obtain rfl := Option.some.inj (hhit.symm.trans hhit')
      have hsum : ns.sum = Text.size u := congrArg Span.stop (hspan.symm.trans hspan')
      exact ⟨by rw [hskip, hsum], by rw [hcursor', hcursor, hsum]⟩
  · have hlazy := Regex.compile_anyTimes hanchors hadv he hsharp hcompiled false
    refine ⟨⟨_, _, hlazy⟩, Pattern.compile_source ⟨_, _, hlazy⟩, fun ql hl => ?_⟩
    rcases hs.skip hl (hall false) with ⟨hnone, -⟩ | ⟨hit, u, r', hhit, -, hspan, hskip, -⟩
    · exact absurd (hnone.symm.trans (Expr.hit?_anyTimes_lazy hordered hadv)) (by simp)
    · obtain rfl := Option.some.inj ((Expr.hit?_anyTimes_lazy hordered hadv).symm.trans hhit)
      have hzero : 0 = Text.size u := congrArg Span.stop hspan
      rw [hskip, ← hzero]

/-- From the `é` of `-ébbcc` on, a loop skips `é`, `b` and `b`, for the way with `b` alone is
preferred to that with `bc` and the `c` behind it is lazy; and so does the repetition. -/
theorem skip_anyTimes_lazy_part :
    let qa := Query.source "(é|b|bc)c??".toList
    let qc := Query.source (Regex.anyTimes true "(é|b|bc)c??".toList)
    let ql := Query.source (Regex.anyTimes false "(é|b|bc)c??".toList)
    let s := (new (some "-ébbcc".toList)).moveTo 1
    ∃ s', Skips qa s [2, 1, 1] s' ∧ (s.answer (.skip qc)).reply = .number 4 ∧
      (s.answer (.skip qc)).scanner.cursor = s'.cursor ∧ s'.cursor = 5 ∧
      (s.answer (.skip ql)).reply = .number 0 := by
  intro qa qc ql s
  have ha : qa.compiled = .ok ⟨"(é|b|bc)c??".toList, _, rfl⟩ := rfl
  have hc : qc.compiled = .ok ⟨Regex.anyTimes true "(é|b|bc)c??".toList, _, rfl⟩ := rfl
  have hempty := Pattern.findAt_anchored (p := ⟨"(é|b|bc)c??".toList, _, rfl⟩) (t := []) (n := 0)
    rfl rfl
  obtain ⟨-, hloop, l, hl, hlazy⟩ :=
    skip_anyTimes s ha (by decide) rfl rfl (hempty 0) hc rfl rfl rfl
  have hskips : Skips qa s [2, 1, 1] _ :=
    .skipped (by decide) (.skipped (by decide) (.skipped (by decide) (.missed (by decide))))
  obtain ⟨hreply, hcursor⟩ := hloop _ _ hskips
  exact ⟨_, hskips, hreply, hcursor, by decide, hlazy ql hl⟩

end Scanner
end TextScan
