/-
# The first match, one place after the other

What a pattern without anchors finds at an offset does not depend on where the search started.  So
the first match from an offset on is the match at the first offset that has one
(`Pattern.findAt_leftmost_iff`), and `scanUntil` can be had by scanning at one boundary after the
other: it finds nothing exactly if none of these scans does, and else it gives the answer of the
first one that finds something (`Scanner.scanUntil_is_first_scan`).

With an anchor this fails: `\bb` has no match in `ab`, and a scan between the two characters finds
one.
-/

import Mathlib.Order.Bounds.Basic
import Mathlib.Order.Lattice.Nat
import TextScan.Proofs.Regex.Behind
import TextScan.Proofs.Scanner.Locality
import TextScan.Proofs.Scanner.Matching
import TextScan.Proofs.Scanner.Modes

namespace TextScan

open Regex (Expr)

/-- The groups of a hit that is moved. -/
theorem Regex.groupsOf_shift (r : Regex) (k : Nat) (h : Regex.Hit) :
    r.groupsOf (h.shift k) = (r.groupsOf h).map fun g => (g.1, g.2.map (Span.shift k)) := by
  refine List.ext_getElem? fun i => ?_
  simp only [groupsOf, List.getElem?_map, List.getElem?_mapIdx, Option.map_map,
    Hit.group?_shift]
  rfl

/-- A match seen from an offset is the moved match seen from an earlier one. -/
theorem Found.ofHit_shift (n k : Nat) (r : Regex) (h : Regex.Hit) :
    ofHit n r (h.shift k) = ofHit (k + n) r h := by
  have hspan : (Span.shift n ∘ Span.shift k) = Span.shift (k + n) :=
    funext fun s => (Span.shift_add k n s).symm
  simp only [ofHit, Regex.groupsOf_shift, List.map_map, Found.mk.injEq]
  refine ⟨congrFun hspan h.span, List.map_congr_left fun g _ => ?_⟩
  simp only [Function.comp_apply, Option.map_map, hspan]

namespace Pattern

variable {p : Pattern} {e : Expr} {t : Text} {n : Nat} {f : Found}

/-- **The first match is the match at the first offset that has one**, if the expression has no
anchors. -/
theorem findAt_leftmost_iff (he : Expr.ofSource p.source = .ok e) (ha : e.anchors = [])
    (hb : Text.isBoundary t n = true) :
    p.findAt .leftmost t n = some f ↔ ∃ k, n ≤ k ∧ p.findAt .anchored t k = some f ∧
      ∀ j, n ≤ j → j < k → p.findAt .anchored t j = none := by
  obtain ⟨x, region, rfl, rfl⟩ := Text.isBoundary_iff.1 hb
  have hdrop : Text.drop? (x ++ region) (Text.size x) = some region :=
    Text.drop?_eq_some_iff.2 ⟨x, rfl, rfl⟩
  have hp : p.regex.program.NoAnchors := by
    rw [regex_eq_ofExpr he]
    exact Regex.Program.noAnchors_ofExpr ha
  -- the offsets ahead are those of the region, each with what is left behind it
  have hahead : ∀ {k r}, Text.size x ≤ k → Text.drop? (x ++ region) k = some r →
      ∃ a, region = a ++ r ∧ k = Text.size a + Text.size x := by
    intro k r hk hr
    obtain ⟨y, hy, rfl⟩ := Text.drop?_eq_some_iff.1 hr
    obtain ⟨a, rfl, ha⟩ := Text.exists_middle hy hk
    exact ⟨a, ha, by rw [Text.size_append, Nat.add_comm]⟩
  have hdrop' : ∀ {a r}, region = a ++ r →
      Text.drop? (x ++ region) (Text.size a + Text.size x) = some r := by
    rintro a r rfl
    rw [Text.drop?_append_right]
    exact Text.drop?_eq_some_iff.2 ⟨a, rfl, rfl⟩
  constructor
  · intro hf
    obtain ⟨_, h, hr, hh, rfl⟩ := findAt_eq_some_iff.1 hf
    obtain rfl := Option.some.inj (hdrop.symm.trans hr)
    obtain ⟨a, r, h', hreg, hh', rfl, hfirst⟩ := (Regex.Program.hit?_leftmost_iff_anchored hp).1 hh
    refine ⟨Text.size a + Text.size x, Nat.le_add_left _ _,
      findAt_eq_some_iff.2 ⟨r, h', hdrop' hreg, hh', Found.ofHit_shift ..⟩, fun j hj hlt => ?_⟩
    by_contra hne
    obtain ⟨g, hg⟩ := Option.ne_none_iff_exists'.1 hne
    obtain ⟨c, h'', hc, hh'', -⟩ := findAt_eq_some_iff.1 hg
    obtain ⟨b, hbc, rfl⟩ := hahead hj hc
    have hnone := hfirst b c hbc (by omega)
    rw [Regex.hit?, hnone] at hh''
    exact absurd hh'' (by simp)
  · rintro ⟨k, hk, hf, hfirst⟩
    obtain ⟨r, h', hr, hh', rfl⟩ := findAt_eq_some_iff.1 hf
    obtain ⟨a, hreg, rfl⟩ := hahead hk hr
    refine findAt_eq_some_iff.2 ⟨region, h'.shift (Text.size a), hdrop,
      (Regex.Program.hit?_leftmost_iff_anchored hp).2 ⟨a, r, h', hreg, hh', rfl, ?_⟩,
      (Found.ofHit_shift ..).symm⟩
    intro b c hbc hlt
    have hnone := hfirst (Text.size b + Text.size x) (Nat.le_add_left _ _) (by omega)
    rw [findAt, hdrop' hbc, Option.bind_some, Option.map_eq_none_iff] at hnone
    exact hnone

end Pattern

namespace Scanner

variable {s : Scanner} {t : Text} {q : Query} {p : Pattern} {e : Expr}

/-- The boundaries from the cursor on at which a scan finds something. -/
def scanning (s : Scanner) (q : Query) : Set Nat :=
  {n | s.cursor ≤ n ∧ (∃ t, s.input = some t ∧ Text.isBoundary t n = true) ∧
    (s.moveTo n).Succeeds (.scan q)}

/-- A pattern matches at the boundaries at which a scan finds something. -/
theorem mem_scanning_iff (hi : s.input = some t) (hq : q.compiled = .ok p) {n : Nat} :
    n ∈ s.scanning q ↔ s.cursor ≤ n ∧ ∃ f, p.findAt .anchored t n = some f := by
  constructor
  · rintro ⟨hn, -, h⟩
    obtain ⟨t', p', f, hi', hp', hf⟩ := (succeeds_iff rfl).1 h
    obtain rfl := Option.some.inj (hi.symm.trans hi')
    obtain rfl := Except.ok.inj (hq.symm.trans hp')
    exact ⟨hn, f, hf⟩
  · rintro ⟨hn, f, hf⟩
    obtain ⟨r, -, hr, -⟩ := Pattern.findAt_eq_some_iff.1 hf
    obtain ⟨a, ht, ha⟩ := Text.drop?_eq_some_iff.1 hr
    exact ⟨hn, ⟨t, hi, Text.isBoundary_iff.2 ⟨a, r, ht, ha⟩⟩,
      (succeeds_iff rfl).2 ⟨t, p, f, hi, hq, hf⟩⟩

/-- A search that starts at another offset and finds the same match is answered in the same way. -/
theorem answer_eq_of_findAt {f : Found} {n : Nat} (hi : s.input = some t) (hq : q.compiled = .ok p)
    (huntil : p.findAt .leftmost t s.cursor = some f) (hscan : p.findAt .anchored t n = some f) :
    (s.answer (.scanUntil q)).reply = ((s.moveTo n).answer (.scan q)).reply ∧
      (s.answer (.scanUntil q)).scanner = ((s.moveTo n).answer (.scan q)).scanner := by
  obtain ⟨c, es, hresolve, -⟩ := Query.resolve_of_compiled hq s.cache
  obtain ⟨r, h, hr, hh, hf⟩ := Pattern.findAt_eq_some_iff.1 huntil
  obtain ⟨r', h', hr', hh', hf'⟩ := Pattern.findAt_eq_some_iff.1 hscan
  simp only [answer, answerAttempt, Reply.ofAttempt, scanUntil, scan, attempt, moveTo, hresolve, hi,
    hr, hr', hh, hh', ← hf, ← hf', and_true]
  exact congrArg Reply.ofText? (by simp only [slice?, hi])

/-- A scan is answered with nothing exactly if it does not succeed. -/
theorem reply_eq_nothing_iff {r : Request} {m : Regex.Mode} (hr : r.search? = some (m, q))
    (hq : q.compiled = .ok p) : (s.answer r).reply = .nothing ↔ ¬s.Succeeds r := by
  constructor
  · exact fun h hs => hs.2.2 h
  · intro h
    cases search_outcome (s := s) hr with
    | fault e he _ => exact absurd (hq.symm.trans he) (by simp)
    | absent p c _ _ hreply _ => exact hreply
    | missed p c t _ _ _ hreply _ => exact hreply
    | found p c t f u hp hi hf _ _ _ => exact absurd ((succeeds_iff hr).2 ⟨t, p, f, hi, hp, hf⟩) h

/-- A search that has a pattern and does not succeed is answered with nothing and leaves no match. -/
theorem answer_of_not_succeeds {r : Request} {m : Regex.Mode} (hr : r.search? = some (m, q))
    (hq : q.compiled = .ok p) (hno : ¬s.Succeeds r) (habsent : s.input = none → s.found = none) :
    (s.answer r).reply = .nothing ∧ (s.answer r).scanner.found = none := by
  have hreply := (reply_eq_nothing_iff hr hq).2 hno
  have hd : s.Decides r := Or.inr (Or.inr ⟨by rw [hr]; rfl, by simp [hreply]⟩)
  exact ⟨hreply, found_answer_of_decides hd hno habsent⟩

/-- At the first boundary where a scan finds something lies the first match. -/
theorem exists_findAt_of_isLeast (hi : s.input = some t) (hb : Text.isBoundary t s.cursor = true)
    (hq : q.compiled = .ok p) (he : Expr.ofSource p.source = .ok e) (ha : e.anchors = []) {n : Nat}
    (hn : IsLeast (s.scanning q) n) :
    ∃ f, p.findAt .anchored t n = some f ∧ p.findAt .leftmost t s.cursor = some f := by
  obtain ⟨hle, f, hf⟩ := (mem_scanning_iff hi hq).1 hn.1
  refine ⟨f, hf, (Pattern.findAt_leftmost_iff he ha hb).2 ⟨n, hle, hf, fun j hj hlt => ?_⟩⟩
  by_contra hne
  obtain ⟨g, hg⟩ := Option.ne_none_iff_exists'.1 hne
  exact absurd (hn.2 ((mem_scanning_iff hi hq).2 ⟨hj, g, hg⟩)) (Nat.not_le.2 hlt)

/-- There is a first match exactly if a scan finds something somewhere. -/
theorem succeeds_scanUntil_iff (hi : s.input = some t) (hb : Text.isBoundary t s.cursor = true)
    (hq : q.compiled = .ok p) (he : Expr.ofSource p.source = .ok e) (ha : e.anchors = []) :
    s.Succeeds (.scanUntil q) ↔ (s.scanning q).Nonempty := by
  constructor
  · intro h
    obtain ⟨t', p', f, hi', hp', hf⟩ := (succeeds_iff rfl).1 h
    obtain rfl := Option.some.inj (hi.symm.trans hi')
    obtain rfl := Except.ok.inj (hq.symm.trans hp')
    obtain ⟨k, hk, hf', -⟩ := (Pattern.findAt_leftmost_iff he ha hb).1 hf
    exact ⟨k, (mem_scanning_iff hi hq).2 ⟨hk, f, hf'⟩⟩
  · intro hne
    have hleast : IsLeast (s.scanning q) (sInf (s.scanning q)) :=
      ⟨Nat.sInf_mem hne, fun _ hk => Nat.sInf_le hk⟩
    obtain ⟨f, -, hf⟩ := exists_findAt_of_isLeast hi hb hq he ha hleast
    exact (succeeds_iff rfl).2 ⟨t, p, f, hi, hq, hf⟩

/-- **A scan for the first match tries one place after the other.**  The expression of a pattern has
no anchors, and the cursor is on a boundary of a text.  Then `scanUntil` finds nothing exactly if a
scan finds nothing at any boundary from the cursor on.  Else it answers as a scan does at the first
boundary where that finds something: with the same text, and with the same cursor and the same match
behind it. -/
theorem scanUntil_is_first_scan (hi : s.input = some t) (hb : Text.isBoundary t s.cursor = true)
    (hq : q.compiled = .ok p) (he : Expr.ofSource p.source = .ok e) (ha : e.anchors = []) :
    ((s.answer (.scanUntil q)).reply = .nothing ↔ ∀ n, s.cursor ≤ n →
      Text.isBoundary t n = true → ((s.moveTo n).answer (.scan q)).reply = .nothing) ∧
    ((s.answer (.scanUntil q)).reply ≠ .nothing → ∃ n, IsLeast (s.scanning q) n) ∧
    ∀ n, IsLeast (s.scanning q) n →
      (s.answer (.scanUntil q)).reply = ((s.moveTo n).answer (.scan q)).reply ∧
      (s.answer (.scanUntil q)).scanner = ((s.moveTo n).answer (.scan q)).scanner ∧
      (s.answer (.scanUntil q)).scanner.SameMatch ((s.moveTo n).answer (.scan q)).scanner := by
  have hsome := succeeds_scanUntil_iff hi hb hq he ha
  refine ⟨?_, fun h => ?_, fun n hn => ?_⟩
  · rw [reply_eq_nothing_iff rfl hq, hsome]
    constructor
    · intro hno n hn hbn
      rw [reply_eq_nothing_iff rfl hq]
      exact fun h => hno ⟨n, hn, ⟨t, hi, hbn⟩, h⟩
    · rintro hall ⟨n, hn, ⟨t', hi', hbn⟩, h⟩
      obtain rfl := Option.some.inj (hi.symm.trans hi')
      exact h.2.2 (hall n hn hbn)
  · have hne : (s.scanning q).Nonempty := by
      rw [← hsome]
      by_contra hno
      exact h ((reply_eq_nothing_iff rfl hq).2 hno)
    exact ⟨sInf (s.scanning q), Nat.sInf_mem hne, fun _ hk => Nat.sInf_le hk⟩
  · obtain ⟨f, hf, hf'⟩ := exists_findAt_of_isLeast hi hb hq he ha hn
    obtain ⟨hreply, hscanner⟩ := answer_eq_of_findAt hi hq hf' hf
    exact ⟨hreply, hscanner, sameMatch_of_found (by rw [hscanner]) (by rw [hscanner])⟩

/-- From the second character of `é-aba` on, the first match is found by a scan one character
further on. -/
theorem scanUntil_is_first_scan_lazy :
    let t : Text := "é-aba".toList
    let q := Query.source "(a+?)(b)?".toList
    let s := (new (some t)).moveTo 2
    (Text.isBoundary t s.cursor = true ∧ (∃ p, q.compiled = .ok p) ∧
      ∃ e, Expr.ofSource "(a+?)(b)?".toList = .ok e ∧ e.anchors = []) ∧
    (s.answer (.scanUntil q)).reply = .text "ab".toList ∧
    ∃ n, IsLeast (s.scanning q) n ∧
      (s.answer (.scanUntil q)).reply = ((s.moveTo n).answer (.scan q)).reply ∧
      (s.answer (.scanUntil q)).scanner = ((s.moveTo n).answer (.scan q)).scanner := by
  intro t q s
  have hb : Text.isBoundary t s.cursor = true := by decide
  obtain ⟨-, hleast, hsame⟩ := scanUntil_is_first_scan (s := s) (t := t) (q := q)
    (p := ⟨_, _, rfl⟩) (e := .seq (.group 1 none (.times 1 none false (.text ['a'])))
      (.times 0 (some 1) true (.group 2 none (.text ['b'])))) rfl hb rfl rfl rfl
  have hreply : (s.answer (.scanUntil q)).reply = .text "ab".toList := by decide
  obtain ⟨n, hn⟩ := hleast (by rw [hreply]; simp)
  obtain ⟨hreplies, hscanners, -⟩ := hsame n hn
  exact ⟨⟨hb, ⟨_, rfl⟩, _, rfl, rfl⟩, hreply, n, hn, hreplies, hscanners⟩

end Scanner
end TextScan
