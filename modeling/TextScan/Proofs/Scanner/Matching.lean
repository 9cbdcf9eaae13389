/-
# A scan and the matches of its expression

The expression of a pattern is what its source reads as.  In the text from the cursor on, a scan
finds a match of the expression that starts at the cursor, and `scanUntil` one that starts as far to
the left as any (`answer_matches`).  If they find nothing, there is no such match.
-/

import TextScan.Proofs.Scanner.Readings
import TextScan.Proofs.Scanner.Spans

namespace TextScan

open Regex (Expr Spot)

namespace Pattern

variable {p : Pattern} {e : Expr} {t region : Text} {n : Nat}

theorem regex_eq_ofExpr (he : Expr.ofSource p.source = .ok e) : p.regex = Regex.ofExpr e := by
  obtain ⟨e', he', hr⟩ := Regex.exists_expr_of_compile p.compiled
  obtain rfl := Except.ok.inj (he.symm.trans he')
  exact hr

/-- At an offset a pattern finds a match of its expression that starts there, if there is one. -/
theorem findAt_anchored (hr : Text.drop? t n = some region)
    (he : Expr.ofSource p.source = .ok e) :
    match p.findAt .anchored t n with
    | some f => ∃ j, e.MatchesIn region 0 j ∧ f.span = ⟨n, n + j⟩
    | none => ∀ j, ¬e.MatchesIn region 0 j := by
  have hspec := Regex.hit?_anchored (Expr.ordered_of_ofSource he) region
  simp only [findAt, hr, Option.bind_some, regex_eq_ofExpr he, Regex.hit?, Regex.ofExpr]
  cases hh : (Regex.Program.ofExpr e).hit? .anchored region with
  | some h =>
    rw [hh] at hspec
    obtain ⟨hstart, hm⟩ := Expr.Yields.matchesIn hspec (Spot.isIn_start region)
    refine ⟨h.span.stop, hm, ?_⟩
    simp only [Found.ofHit, Span.shift, hstart, Spot.start, Nat.add_comm, Nat.add_zero]
  | none =>
    rw [hh] at hspec
    intro j hm
    obtain ⟨s, hs, ho, hit, hy⟩ := Expr.exists_yields_of_matchesIn hm
    obtain rfl := hs.eq_of_offset (Spot.isIn_start region) ho
    exact hspec hit hy

/-- Behind an offset a pattern finds a match of its expression that starts first. -/
theorem findAt_leftmost (hr : Text.drop? t n = some region)
    (he : Expr.ofSource p.source = .ok e) :
    match p.findAt .leftmost t n with
    | some f => ∃ i j, e.MatchesIn region i j ∧ (∀ i' j', e.MatchesIn region i' j' → i ≤ i') ∧
        f.span = ⟨n + i, n + j⟩
    | none => ∀ i j, ¬e.MatchesIn region i j := by
  have hspec := Regex.hit?_leftmost (Expr.ordered_of_ofSource he) region
  simp only [findAt, hr, Option.bind_some, regex_eq_ofExpr he, Regex.hit?, Regex.ofExpr]
  cases hh : (Regex.Program.ofExpr e).hit? .leftmost region with
  | some h =>
    rw [hh] at hspec
    obtain ⟨s, hs, hy, hleast⟩ := hspec
    obtain ⟨hstart, hm⟩ := Expr.Yields.matchesIn hy hs
    refine ⟨s.offset, h.span.stop, hm, fun i' j' hm' => ?_, ?_⟩
    · obtain ⟨s', hs', rfl, hit, hy'⟩ := Expr.exists_yields_of_matchesIn hm'
      by_contra hlt
      exact hleast s' hs' (Nat.lt_of_not_le hlt) hit hy'
    · simp only [Found.ofHit, Span.shift, hstart, Nat.add_comm]
  | none =>
    rw [hh] at hspec
    intro i j hm
    obtain ⟨s, hs, -, hit, hy⟩ := Expr.exists_yields_of_matchesIn hm
    exact hspec s hs hit hy

end Pattern

namespace Scanner

variable {s : Scanner} {t region : Text} {q : Query} {p : Pattern} {e : Expr}

/-- An answer reports a match between two offsets that count from the cursor: the last match spans
them, and the reply is the text between them. -/
def Reports (s : Scanner) (a : Answer) (i j : Nat) : Prop :=
  a.scanner.matchedSpan = some ⟨s.cursor + i, s.cursor + j⟩ ∧
    ∃ u, s.slice? ⟨s.cursor + i, s.cursor + j⟩ = some u ∧ a.reply = .text u

/-- An attempt that finds a match is answered with its text. -/
theorem answer_found {m : Regex.Mode} {f : Found} (hi : s.input = some t) (hq : q.compiled = .ok p)
    (hf : p.findAt m t s.cursor = some f) :
    (∃ u, s.slice? f.span = some u ∧
      (answerAttempt (s.attempt m q) s.sayText).reply = .text u) ∧
      (answerAttempt (s.attempt m q) s.sayText).scanner.matchedSpan = some f.span := by
  obtain ⟨c, es, -, hresult, hscanner, -⟩ := attempt_of_compiled (s := s) (m := m) hq
  obtain ⟨hok, hkept⟩ := attempt_found hi hf
  obtain ⟨u, hu⟩ := (Pattern.liesIn_of_findAt hf).span.exists_slice
  have hslice : s.slice? f.span = some u := by rw [slice?_eq hi, hu]
  refine ⟨⟨u, hslice, ?_⟩, ?_⟩
  · simp only [answerAttempt, Reply.ofAttempt, hresult, hok, sayText_eq hslice]
  · simp only [answerAttempt, hscanner, hkept, matchedSpan, Option.map_some]

/-- An attempt in vain is answered with nothing. -/
theorem answer_missed {m : Regex.Mode} (hi : s.input = some t) (hq : q.compiled = .ok p)
    (hf : p.findAt m t s.cursor = none) :
    (answerAttempt (s.attempt m q) s.sayText).reply = .nothing := by
  obtain ⟨c, es, -, hresult, -, -⟩ := attempt_of_compiled (s := s) (m := m) hq
  obtain ⟨hok, -⟩ := attempt_missed hi hf
  simp only [answerAttempt, Reply.ofAttempt, hresult, hok]

theorem Reports.reply_ne_nothing {a : Answer} {i j : Nat} (h : s.Reports a i j) :
    a.reply ≠ .nothing := by
  obtain ⟨-, u, -, hu⟩ := h
  simp [hu]

/-- A scan reports a match at the cursor, or there is none. -/
theorem answer_scan_cases (hi : s.input = some t) (hr : Text.drop? t s.cursor = some region)
    (hq : q.compiled = .ok p) (he : Expr.ofSource p.source = .ok e) :
    ((s.answer (.scan q)).reply = .nothing ∧ ∀ j, ¬e.MatchesIn region 0 j) ∨
      ∃ j, e.MatchesIn region 0 j ∧ s.Reports (s.answer (.scan q)) 0 j := by
  have hfind := Pattern.findAt_anchored hr he
  cases hf : p.findAt .anchored t s.cursor with
  | some f =>
    rw [hf] at hfind
    obtain ⟨j, hm, hspan⟩ := hfind
    obtain ⟨htext, hkept⟩ := answer_found hi hq hf
    rw [hspan] at htext hkept
    exact Or.inr ⟨j, hm, hkept, htext⟩
  | none =>
    rw [hf] at hfind
    exact Or.inl ⟨answer_missed hi hq hf, hfind⟩

/-- A scan for the first match reports one that no other starts before, or there is none. -/
theorem answer_scanUntil_cases (hi : s.input = some t)
    (hr : Text.drop? t s.cursor = some region) (hq : q.compiled = .ok p)
    (he : Expr.ofSource p.source = .ok e) :
    ((s.answer (.scanUntil q)).reply = .nothing ∧ ∀ i j, ¬e.MatchesIn region i j) ∨
      ∃ i j, e.MatchesIn region i j ∧ (∀ i' j', e.MatchesIn region i' j' → i ≤ i') ∧
        s.Reports (s.answer (.scanUntil q)) i j := by
  have hfind := Pattern.findAt_leftmost hr he
  cases hf : p.findAt .leftmost t s.cursor with
  | some f =>
    rw [hf] at hfind
    obtain ⟨i, j, hm, hleast, hspan⟩ := hfind
    obtain ⟨htext, hkept⟩ := answer_found hi hq hf
    rw [hspan] at htext hkept
    exact Or.inr ⟨i, j, hm, hleast, hkept, htext⟩
  | none =>
    rw [hf] at hfind
    exact Or.inl ⟨answer_missed hi hq hf, hfind⟩

/-- **A scan finds what the expression matches.**  A pattern has an expression `e`, and a scanner
has its cursor on a boundary, before the text `region`.  A scan finds nothing exactly if `e` matches
nothing at the start of the region; else it reports a match of `e` from there.  `scanUntil` finds
nothing exactly if `e` matches nothing in the region; else it reports a match of `e`, and no match
starts before it. -/
theorem answer_matches (hi : s.input = some t) (hr : Text.drop? t s.cursor = some region)
    (hq : q.compiled = .ok p) (he : Expr.ofSource p.source = .ok e) :
    ((s.answer (.scan q)).reply = .nothing ↔ ¬∃ j, e.MatchesIn region 0 j) ∧
      ((s.answer (.scan q)).reply ≠ .nothing →
        ∃ j, e.MatchesIn region 0 j ∧ s.Reports (s.answer (.scan q)) 0 j) ∧
      ((s.answer (.scanUntil q)).reply = .nothing ↔ ¬∃ i j, e.MatchesIn region i j) ∧
      ((s.answer (.scanUntil q)).reply ≠ .nothing →
        ∃ i j, e.MatchesIn region i j ∧ (∀ i' j', e.MatchesIn region i' j' → i ≤ i') ∧
          s.Reports (s.answer (.scanUntil q)) i j) := by
  rw [← and_assoc]
  constructor
  · rcases answer_scan_cases hi hr hq he with ⟨hnothing, hno⟩ | ⟨j, hm, hrep⟩
    · exact ⟨⟨fun _ => not_exists.2 hno, fun _ => hnothing⟩, fun h => absurd hnothing h⟩
    · exact ⟨⟨fun h => absurd h hrep.reply_ne_nothing, fun h => absurd ⟨j, hm⟩ h⟩,
        fun _ => ⟨j, hm, hrep⟩⟩
  · rcases answer_scanUntil_cases hi hr hq he with ⟨hnothing, hno⟩ | ⟨i, j, hm, hleast, hrep⟩
    · exact ⟨⟨fun _ ⟨i, j, hm⟩ => hno i j hm, fun _ => hnothing⟩, fun h => absurd hnothing h⟩
    · exact ⟨⟨fun h => absurd h hrep.reply_ne_nothing, fun h => absurd ⟨i, j, hm⟩ h⟩,
        fun _ => ⟨i, j, hm, hleast, hrep⟩⟩

/-- Behind the first character of `baab` both scans for `(a*)*b` find a match of its expression. -/
theorem answer_matches_star :
    let s := (new (some "baab".toList)).moveTo 1
    let q := Query.source "(a*)*b".toList
    let e : Expr :=
      .seq (.times 0 none true (.group 1 none (.times 0 none true (.text ['a'])))) (.text ['b'])
    (Text.drop? "baab".toList s.cursor = some "aab".toList ∧ (∃ p, q.compiled = .ok p) ∧
        Expr.ofSource "(a*)*b".toList = .ok e) ∧
      (∃ j, e.MatchesIn "aab".toList 0 j ∧ s.Reports (s.answer (.scan q)) 0 j) ∧
      ∃ i j, e.MatchesIn "aab".toList i j ∧ (∀ i' j', e.MatchesIn "aab".toList i' j' → i ≤ i') ∧
        s.Reports (s.answer (.scanUntil q)) i j := by
  intro s q e
  have h := answer_matches (s := s) (t := "baab".toList) (q := q) (p := ⟨_, _, rfl⟩) (e := e)
    rfl rfl rfl rfl
  exact ⟨⟨rfl, ⟨_, rfl⟩, rfl⟩, h.2.1 (by decide), h.2.2.2 (by decide)⟩

end Scanner
end TextScan
