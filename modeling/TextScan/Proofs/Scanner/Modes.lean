/-
# The two modes of a search

A search that may start anywhere tries the start of the text first, with nothing visited yet, and
an anchored search tries nothing else.  Every later spot has a greater offset.  So the anchored
search finds a hit exactly if the other one finds it at the start, and it is the same hit, with the
same marks (`Program.hit?_anchored_iff`).

A scanner that finds a match in this way ends up the same in both modes
(`Scanner.attempt_modes`), and so a scan is answered as a scan for the first match is, where that
one finds a match at the cursor (`Scanner.scan_iff_scanUntil_at_cursor`).
-/

import TextScan.Proofs.Scanner.History

namespace TextScan
namespace Regex

variable {p : Program} {fuel : Nat} {v : Visited} {s : Spot} {t : Text} {h : Hit}

/-- A hit at a spot starts there. -/
theorem start_of_hitAt (hh : hitAt p fuel v s = .ok h) : h.span.start = s.offset := by
  obtain ⟨u, -, rfl⟩ := finds_of_hitAt hh
  rfl

/-- A hit at the first spot is the first hit. -/
theorem hitFrom?_of_hitAt {before : Option Char} {offset : Nat}
    (hh : hitAt p fuel v ⟨before, t, offset⟩ = .ok h) :
    hitFrom? p fuel v before offset t = some h := by
  cases t with
  | nil =>
    rw [hitFrom?, hh]
    rfl
  | cons c t => rw [hitFrom?, hh]

/-- The first hit from an offset on does not start before it. -/
theorem le_start_of_hitFrom? {before : Option Char} {offset : Nat}
    (hh : hitFrom? p fuel v before offset t = some h) : offset ≤ h.span.start := by
  induction t generalizing v before offset with
  | nil =>
    cases hat : hitAt p fuel v ⟨before, [], offset⟩ with
    | ok h' =>
      obtain rfl := Option.some.inj ((hitFrom?_of_hitAt hat).symm.trans hh)
      exact (start_of_hitAt hat).ge
    | error w =>
      rw [hitFrom?, hat] at hh
      exact absurd hh (by simp [Except.toOption])
  | cons c t ih =>
    cases hat : hitAt p fuel v ⟨before, c :: t, offset⟩ with
    | ok h' =>
      obtain rfl := Option.some.inj ((hitFrom?_of_hitAt hat).symm.trans hh)
      exact (start_of_hitAt hat).ge
    | error w =>
      rw [hitFrom?, hat] at hh
      exact Nat.le_of_add_right_le (ih hh)

/-- Where the first spot has no hit, the first hit starts behind it. -/
theorem lt_start_of_hitFrom? {before : Option Char} {offset : Nat} {w : Visited}
    (hat : hitAt p fuel v ⟨before, t, offset⟩ = .error w)
    (hh : hitFrom? p fuel v before offset t = some h) : offset < h.span.start := by
  cases t with
  | nil =>
    rw [hitFrom?, hat] at hh
    exact absurd hh (by simp [Except.toOption])
  | cons c t =>
    rw [hitFrom?, hat] at hh
    have hle := le_start_of_hitFrom? hh
    have hpos := c.utf8Size_pos
    omega

/-- **The anchored search finds what the other one finds at the start of the text.** -/
theorem Program.hit?_anchored_iff :
    p.hit? .anchored t = some h ↔ p.hit? .leftmost t = some h ∧ h.span.start = 0 := by
  simp only [Program.hit?]
  cases hat : hitAt p (searchFuel p t) (Visited.none p (Text.size t)) (Spot.start t) with
  | ok h' =>
    rw [hitFrom?_of_hitAt hat]
    constructor
    · intro hh
      obtain rfl : h' = h := Option.some.inj hh
      exact ⟨rfl, start_of_hitAt hat⟩
    · exact fun hh => hh.1
  | error w =>
    constructor
    · exact fun hh => absurd hh (by simp [Except.toOption])
    · rintro ⟨hh, hstart⟩
      exact absurd hstart (lt_start_of_hitFrom? hat hh).ne'

end Regex

/-- A pattern has a match at an offset exactly if its first match from there on starts there. -/
theorem Pattern.findAt_anchored_iff {p : Pattern} {t : Text} {n : Nat} {f : Found} :
    p.findAt .anchored t n = some f ↔ p.findAt .leftmost t n = some f ∧ f.span.start = n := by
  simp only [findAt_eq_some_iff, Regex.hit?, Regex.Program.hit?_anchored_iff]
  constructor
  · rintro ⟨region, h, hr, ⟨hh, hstart⟩, rfl⟩
    refine ⟨⟨region, h, hr, hh, rfl⟩, ?_⟩
    simp only [Found.ofHit, Span.shift, hstart, Nat.zero_add]
  · rintro ⟨⟨region, h, hr, hh, rfl⟩, hstart⟩
    refine ⟨region, h, hr, ⟨hh, ?_⟩, rfl⟩
    simpa only [Found.ofHit, Span.shift, Nat.add_eq_right] using hstart

namespace Scanner

variable {s : Scanner} {r : Request} {m : Regex.Mode} {q : Query} {p : Pattern} {t : Text}

/-- A search succeeds exactly if there are a text and a pattern with a match in it. -/
theorem succeeds_iff (hr : r.search? = some (m, q)) :
    s.Succeeds r ↔ ∃ t p f, s.input = some t ∧ q.compiled = .ok p ∧
      p.findAt m t s.cursor = some f := by
  constructor
  · intro h
    obtain ⟨m', q', t, p, f, hr', hi, hp, hf, -⟩ := h.exists_found
    obtain ⟨rfl, rfl⟩ := Prod.mk.inj (Option.some.inj (hr.symm.trans hr'))
    exact ⟨t, p, f, hi, hp, hf⟩
  · rintro ⟨t, p, f, hi, hp, hf⟩
    cases search_outcome (s := s) hr with
    | fault e hq _ => exact absurd (hp.symm.trans hq) (by simp)
    | absent p' c _ hi' _ _ => exact absurd (hi.symm.trans hi') (by simp)
    | missed p' c t' hp' hi' hf' _ _ =>
      obtain rfl := Except.ok.inj (hp.symm.trans hp')
      obtain rfl := Option.some.inj (hi.symm.trans hi')
      exact absurd (hf.symm.trans hf') (by simp)
    | found p' c t' f' u _ _ _ _ hreply _ =>
      obtain ⟨hne, hok⟩ := r.replyTo_ne s.cursor f'.span u
      exact ⟨by rw [hr]; rfl, by rwa [hreply], by rwa [hreply]⟩

/-- A search that does not succeed leaves the cursor where it is. -/
theorem cursor_answer_of_not_succeeds (hr : r.search? = some (m, q)) (h : ¬s.Succeeds r) :
    (s.answer r).scanner.cursor = s.cursor := by
  cases search_outcome (s := s) hr with
  | fault e _ hanswer => rw [hanswer]
  | absent p c _ _ _ hscanner => rw [hscanner]
  | missed p c t _ _ _ _ hscanner => rw [hscanner]
  | found p c t f u hp hi hf _ _ _ => exact absurd ((succeeds_iff hr).2 ⟨t, p, f, hi, hp, hf⟩) h

/-- A match at the cursor is the same in both modes, and so is the scanner after it. -/
theorem attempt_modes {f : Found} (hi : s.input = some t) (hp : q.compiled = .ok p)
    (hf : p.findAt .anchored t s.cursor = some f) :
    (s.attempt .anchored q).result = (s.attempt .leftmost q).result ∧
      (s.attempt .anchored q).scanner = (s.attempt .leftmost q).scanner := by
  obtain ⟨c, es, hq, -⟩ := Query.resolve_of_compiled hp s.cache
  obtain ⟨region, h, hr, hh, -⟩ := Pattern.findAt_eq_some_iff.1 hf
  have hh' : p.regex.hit? .leftmost region = some h := (Regex.Program.hit?_anchored_iff.1 hh).1
  simp only [attempt, hq, hi, hr, hh, hh', and_self]

/-- Where a scan succeeds, a scan for the first match gives the same answer. -/
theorem answer_modes (h : s.Succeeds (.scan q)) :
    (s.answer (.scan q)).reply = (s.answer (.scanUntil q)).reply ∧
      (s.answer (.scan q)).scanner = (s.answer (.scanUntil q)).scanner := by
  obtain ⟨t, p, f, hi, hp, hf⟩ := (succeeds_iff rfl).1 h
  obtain ⟨hresult, hscanner⟩ := attempt_modes hi hp hf
  refine ⟨?_, hscanner⟩
  simp only [answer, answerAttempt, Reply.ofAttempt, scan, scanUntil, hresult]

/-- A scan succeeds exactly if the scan for the first match finds one that starts at the cursor. -/
theorem succeeds_scan_iff : s.Succeeds (.scan q) ↔ s.Succeeds (.scanUntil q) ∧
    ∃ span, (s.answer (.scanUntil q)).scanner.matchedSpan = some span ∧ span.start = s.cursor := by
  constructor
  · intro h
    obtain ⟨t, p, f, hi, hp, hf⟩ := (succeeds_iff rfl).1 h
    obtain ⟨hfirst, hstart⟩ := Pattern.findAt_anchored_iff.1 hf
    have huntil : s.Succeeds (.scanUntil q) := (succeeds_iff rfl).2 ⟨t, p, f, hi, hp, hfirst⟩
    obtain ⟨m, q', t', p', f', hr, hi', hp', hf', hfound, -⟩ := huntil.exists_found
    obtain ⟨rfl, rfl⟩ := Prod.mk.inj (Option.some.inj hr)
    obtain rfl := Option.some.inj (hi.symm.trans hi')
    obtain rfl := Except.ok.inj (hp.symm.trans hp')
    obtain rfl := Option.some.inj (hfirst.symm.trans hf')
    exact ⟨huntil, f.span, by rw [matchedSpan, hfound, Option.map_some], hstart⟩
  · rintro ⟨h, span, hspan, hstart⟩
    obtain ⟨m, q', t, p, f, hr, hi, hp, hf, hfound, -⟩ := h.exists_found
    obtain ⟨rfl, rfl⟩ := Prod.mk.inj (Option.some.inj hr)
    rw [matchedSpan, hfound, Option.map_some] at hspan
    obtain rfl := Option.some.inj hspan
    exact (succeeds_iff rfl).2 ⟨t, p, f, hi, hp, Pattern.findAt_anchored_iff.2 ⟨hf, hstart⟩⟩

/-- **The two modes agree at the cursor.**  A scan succeeds exactly if the scan for the first match
succeeds with a match that starts at the cursor.  Then the replies are the same and the scanner is
the same after both: it has the same cursor, the same match with all its groups, and the same cache.
Where the scan for the first match fails, or finds a match that starts later, the scan fails. -/
theorem scan_iff_scanUntil_at_cursor (s : Scanner) (q : Query) :
    (s.Succeeds (.scan q) ↔ s.Succeeds (.scanUntil q) ∧ ∃ span,
      (s.answer (.scanUntil q)).scanner.matchedSpan = some span ∧ span.start = s.cursor) ∧
    (s.Succeeds (.scan q) →
      (s.answer (.scan q)).reply = (s.answer (.scanUntil q)).reply ∧
      (s.answer (.scan q)).scanner = (s.answer (.scanUntil q)).scanner ∧
      (s.answer (.scan q)).scanner.SameMatch (s.answer (.scanUntil q)).scanner) ∧
    (¬s.Succeeds (.scanUntil q) → ¬s.Succeeds (.scan q)) ∧
    ∀ span, s.Succeeds (.scanUntil q) →
      (s.answer (.scanUntil q)).scanner.matchedSpan = some span → s.cursor < span.start →
      ¬s.Succeeds (.scan q) := by
  refine ⟨succeeds_scan_iff, fun h => ?_, fun hno h => hno (succeeds_scan_iff.1 h).1, ?_⟩
  · obtain ⟨hreply, hscanner⟩ := answer_modes h
    exact ⟨hreply, hscanner, sameMatch_of_found (by rw [hscanner]) (by rw [hscanner])⟩
  · intro span _ hspan hlater h
    obtain ⟨-, span', hspan', hstart⟩ := succeeds_scan_iff.1 h
    obtain rfl := Option.some.inj (hspan.symm.trans hspan')
    omega

/-- Behind the first character of `ébcbc` both modes find the match that the first branch and the
lazy option prefer; one character further on there is a match, but not at the cursor. -/
theorem scan_iff_scanUntil_at_cursor_lazy :
    let q := Query.source "(b|bc)(c|bcb)??c".toList
    let s := (new (some "ébcbc".toList)).moveTo 2
    let s' := (new (some "ébcbc".toList)).moveTo 3
    (s.Succeeds (.scan q) ∧ (s.answer (.scan q)).reply = (s.answer (.scanUntil q)).reply ∧
      (s.answer (.scan q)).scanner = (s.answer (.scanUntil q)).scanner ∧
      (s.answer (.scan q)).scanner.captures = [some ['b'], none]) ∧
    s'.Succeeds (.scanUntil q) ∧ ¬s'.Succeeds (.scan q) := by
  intro q s s'
  have hreply : (s.answer (.scanUntil q)).reply = .text "bc".toList := by decide
  have hreply' : (s'.answer (.scanUntil q)).reply = .text "bc".toList := by decide
  have huntil : s.Succeeds (.scanUntil q) := ⟨rfl, by simp [hreply], by simp [hreply]⟩
  have huntil' : s'.Succeeds (.scanUntil q) := ⟨rfl, by simp [hreply'], by simp [hreply']⟩
  obtain ⟨hiff, hsame, -⟩ := scan_iff_scanUntil_at_cursor s q
  have hscan : s.Succeeds (.scan q) := hiff.2 ⟨huntil, ⟨2, 4⟩, by decide, rfl⟩
  obtain ⟨hreplies, hscanners, -⟩ := hsame hscan
  obtain ⟨-, -, -, hlater⟩ := scan_iff_scanUntil_at_cursor s' q
  exact ⟨⟨hscan, hreplies, hscanners, by decide⟩, huntil',
    hlater ⟨4, 6⟩ huntil' (by decide) (by decide)⟩

end Scanner
end TextScan
