/-
# How a scanner gets on

A scanner stands before a text `r` if its cursor is in its own text and `r` is what is left from
there (`Scanner.StandsBefore`).  A search finds nothing and leaves it there, or it passes over a
part of `r`, takes the next part, and leaves the scanner before what is left then
(`StandsBefore.attempt`).  Taking a character takes the first one of `r`, whatever it is, and fails
only where nothing is left (`StandsBefore.takeChar_cons`, `StandsBefore.takeChar_nil`).

So a loop over a scanner can be followed on the text that is left: what has got shorter has got on.
-/

import TextScan.Proofs.Scanner.Matching

namespace TextScan

open Regex (Expr Spot)

/-- The text from a later boundary on is the end of the text from an earlier one on. -/
theorem Text.exists_append_of_drop? {t r : Text} {i j : Nat} (hr : drop? t i = some r)
    (hj : isBoundary t j = true) (hij : i ≤ j) :
    ∃ u r', r = u ++ r' ∧ drop? t j = some r' ∧ j = i + size u := by
  obtain ⟨a, rfl, rfl⟩ := drop?_eq_some_iff.1 hr
  obtain ⟨c, d, h, rfl⟩ := isBoundary_iff.1 hj
  obtain ⟨u, rfl, rfl⟩ := exists_middle h hij
  exact ⟨u, d, rfl, drop?_eq_some_iff.2 ⟨a ++ u, by rw [List.append_assoc], rfl⟩, size_append a u⟩

/-- A scanner has its cursor in a text, before the rest `r` of it. -/
structure Scanner.StandsBefore (s : Scanner) (t r : Text) : Prop where
  input : s.input = some t
  rest : Text.drop? t s.cursor = some r

/-- An attempt of a scanner passes over `u`, takes `v` as the match `f`, and leaves the scanner
before `r`. -/
structure Attempt.Passes (a : Attempt) (s : Scanner) (t u v r : Text) (f : Found) : Prop where
  result : a.result = .ok (some f)
  span : f.span = ⟨s.cursor + Text.size u, s.cursor + Text.size u + Text.size v⟩
  text : Text.slice? t f.span = some v
  scanner : a.scanner.StandsBefore t r
  cursor : a.scanner.cursor = f.span.stop
  within : f.LiesIn t

/-- An attempt finds nothing and leaves the scanner where it stands, before `r`. -/
structure Attempt.Fails (a : Attempt) (s : Scanner) (t r : Text) : Prop where
  result : a.result = .ok none
  scanner : a.scanner.StandsBefore t r
  cursor : a.scanner.cursor = s.cursor

namespace Attempt.Passes

variable {a : Attempt} {s : Scanner} {t u v r : Text} {f : Found}

theorem le_start (h : a.Passes s t u v r f) : s.cursor ≤ f.span.start := by
  rw [h.span]
  exact Nat.le_add_right _ _

/-- An attempt that takes some text moves the cursor on. -/
theorem lt_cursor (h : a.Passes s t u v r f) (hv : v ≠ []) : s.cursor < a.scanner.cursor := by
  have hsize : Text.size v ≠ 0 := fun h => hv (Text.size_eq_zero.1 h)
  rw [h.cursor, h.span]
  dsimp only
  omega

/-- A match that takes a text is empty exactly if the text is. -/
theorem isEmpty_iff (h : a.Passes s t u v r f) : f.span.isEmpty = true ↔ v = [] := by
  rw [h.span, Span.isEmpty_iff_length, Span.length, ← Text.size_eq_zero]
  dsimp only
  omega

theorem ne_nil (h : a.Passes s t u v r f) (he : f.span.isEmpty = false) : v ≠ [] := fun hv => by
  simp [h.isEmpty_iff.2 hv] at he

end Attempt.Passes

/-- A set matches one of its characters at the start of a text, and nothing else. -/
theorem Regex.Expr.matchesIn_oneOf_iff {bytes : Bool} {set : CharSet} {t : Text} {j : Nat} :
    (Expr.oneOf bytes set).MatchesIn t 0 j ↔
      ∃ c r, t = c :: r ∧ set.contains c = true ∧ j = c.utf8Size := by
  have hstart : Spot.at? t 0 = some (Spot.start t) :=
    Spot.at?_eq_some_iff.2 ⟨Spot.isIn_start t, rfl⟩
  constructor
  · rintro ⟨s, s', hs, hs', c, r, hr, hc, rfl⟩
    obtain rfl := Option.some.inj (hstart.symm.trans hs)
    obtain ⟨-, ho⟩ := Spot.at?_eq_some_iff.1 hs'
    exact ⟨c, r, hr, hc, by rw [← ho]; exact Nat.zero_add _⟩
  · rintro ⟨c, r, rfl, hc, rfl⟩
    have hpast := (Spot.isIn_start (c :: r)).past rfl
    exact ⟨_, _, hstart, Spot.at?_eq_some_iff.2 ⟨hpast, Nat.zero_add _⟩, c, r, rfl, hc, rfl⟩

namespace Pattern

variable {p : Pattern} {t r : Text} {n : Nat} {c : Char}

/-- Any character is matched where one stands. -/
theorem findAt_anyCharacter_cons (hp : p.source = Scanner.anyCharacter)
    (hr : Text.drop? t n = some (c :: r)) :
    ∃ f, p.findAt .anchored t n = some f ∧ f.span = ⟨n, n + c.utf8Size⟩ := by
  have hfind := findAt_anchored hr (hp ▸ expr_anyCharacter)
  cases hf : p.findAt .anchored t n with
  | none =>
    rw [hf] at hfind
    exact absurd (Expr.matchesIn_oneOf_iff.2 ⟨c, r, rfl, CharSet.contains_all c, rfl⟩) (hfind _)
  | some f =>
    rw [hf] at hfind
    obtain ⟨j, hm, hspan⟩ := hfind
    obtain ⟨c', r', hc, -, rfl⟩ := Expr.matchesIn_oneOf_iff.1 hm
    obtain ⟨rfl, rfl⟩ := List.cons.inj hc
    exact ⟨f, rfl, hspan⟩

/-- No character is matched where none is left. -/
theorem findAt_anyCharacter_nil (hp : p.source = Scanner.anyCharacter)
    (hr : Text.drop? t n = some []) : p.findAt .anchored t n = none := by
  have hfind := findAt_anchored hr (hp ▸ expr_anyCharacter)
  cases hf : p.findAt .anchored t n with
  | none => rfl
  | some f =>
    rw [hf] at hfind
    obtain ⟨j, hm, -⟩ := hfind
    obtain ⟨c, r, hc, -⟩ := Expr.matchesIn_oneOf_iff.1 hm
    exact absurd hc (by simp)

end Pattern

namespace Scanner

variable {s : Scanner} {m : Regex.Mode} {q : Query} {p : Pattern} {t r : Text} {c : Char}

/-- A scanner at the start of its text stands before all of it. -/
theorem standsBefore_of_cursor (hi : s.input = some t) (hs : s.cursor = 0) : s.StandsBefore t t :=
  ⟨hi, by rw [hs, Text.drop?, Text.cut?_zero]; rfl⟩

namespace StandsBefore

/-- The text up to the cursor and the text that is left make up the text. -/
theorem slice_done (h : s.StandsBefore t r) :
    ∃ a, t = a ++ r ∧ Text.slice? t ⟨0, s.cursor⟩ = some a ∧ s.cursor = Text.size a := by
  obtain ⟨a, ht, ha⟩ := Text.drop?_eq_some_iff.1 h.rest
  refine ⟨a, ht, Text.slice?_eq_some_iff.2 ⟨[], r, ht, rfl, ?_⟩, ha.symm⟩
  rw [Text.size_nil, Nat.zero_add, ha]

/-- A scanner is at the end exactly if nothing is left. -/
theorem isAtEnd_iff (h : s.StandsBefore t r) : s.isAtEnd = true ↔ r = [] := by
  obtain ⟨a, rfl, -, hcursor⟩ := h.slice_done
  rw [isAtEnd, h.input, Option.all_some, decide_eq_true_iff, hcursor, Text.size_append,
    ← Text.size_eq_zero]
  omega

/-- **A search takes a part of what is left, or it fails and changes nothing about that.** -/
theorem attempt (h : s.StandsBefore t r) (hq : q.compiled = .ok p) (m : Regex.Mode) :
    (p.findAt m t s.cursor = none ∧ (s.attempt m q).Fails s t r) ∨
      ∃ f u v r', p.findAt m t s.cursor = some f ∧ r = u ++ v ++ r' ∧ (m = .anchored → u = []) ∧
        (s.attempt m q).Passes s t u v r' f := by
  rcases s.attempt_cases m q with ⟨e, he, -⟩ | ⟨p', c, hp', ⟨hi, -⟩ | ⟨t', hi, hcases⟩⟩
  · exact absurd (hq.symm.trans he) (by simp)
  · exact absurd (h.input.symm.trans hi) (by simp)
  obtain rfl := Except.ok.inj (hq.symm.trans hp')
  obtain rfl := Option.some.inj (h.input.symm.trans hi)
  rcases hcases with ⟨hf, hresult, hscanner⟩ | ⟨f, hf, hresult, hscanner⟩
  · refine Or.inl ⟨hf, hresult, ?_, by rw [hscanner]⟩
    rw [hscanner]
    exact ⟨hi, h.rest⟩
  · have hlies := Pattern.liesIn_of_findAt hf
    obtain ⟨hle, hstart⟩ := Pattern.le_start_of_findAt hf
    obtain ⟨u, r₁, rfl, hr₁, hu⟩ := Text.exists_append_of_drop? h.rest hlies.span.start hle
    obtain ⟨v, r', rfl, hr', hv⟩ :=
      Text.exists_append_of_drop? hr₁ hlies.span.stop hlies.span.ordered
    have hspan : f.span = ⟨s.cursor + Text.size u, s.cursor + Text.size u + Text.size v⟩ := by
      rw [← hu, ← hv]
    refine Or.inr ⟨f, u, v, r', hf, (List.append_assoc u v r').symm, fun hm => ?_, hresult, hspan,
      ?_, ?_, by rw [hscanner], hlies⟩
    · have := hstart hm
      exact Text.size_eq_zero.1 (by omega)
    · obtain ⟨a, rfl, ha⟩ := Text.drop?_eq_some_iff.1 hr₁
      exact Text.slice?_eq_some_iff.2 ⟨a, r', by rw [List.append_assoc], ha, by rw [ha, hv]⟩
    · rw [hscanner]
      exact ⟨hi, hr'⟩

/-- A search that finds a match has taken a part of what is left. -/
theorem passes_of_result {f : Found} (h : s.StandsBefore t r) (hq : q.compiled = .ok p)
    (hf : (s.attempt m q).result = .ok (some f)) :
    ∃ u v r', r = u ++ v ++ r' ∧ (m = .anchored → u = []) ∧
      (s.attempt m q).Passes s t u v r' f := by
  rcases h.attempt hq m with ⟨-, hfails⟩ | ⟨f', u, v, r', -, hr, hu, hpasses⟩
  · exact absurd (hf.symm.trans hfails.result) (by simp)
  · obtain rfl : f' = f := by simpa using hpasses.result.symm.trans hf
    exact ⟨u, v, r', hr, hu, hpasses⟩

/-- **Taking a character takes the one at the cursor.** -/
theorem takeChar_cons (h : s.StandsBefore t (c :: r)) :
    ∃ f, s.takeChar.Passes s t [] [c] r f := by
  obtain ⟨p, hp⟩ := compiled_anyCharacter
  obtain ⟨f, hf, hspan⟩ := Pattern.findAt_anyCharacter_cons (Pattern.source_of_compile hp) h.rest
  rcases h.attempt hp .anchored with ⟨hno, -⟩ | ⟨f', u, v, r', hf', hr, hu, hpasses⟩
  · exact absurd (hf.symm.trans hno) (by simp)
  · obtain rfl := Option.some.inj (hf.symm.trans hf')
    obtain rfl := hu rfl
    have hsize : Text.size [c] = Text.size v := by
      have hstop := congrArg Span.stop (hspan.symm.trans hpasses.span)
      simp only [Text.size_cons, Text.size_nil] at hstop ⊢
      omega
    obtain ⟨rfl, rfl⟩ := Text.eq_of_append_eq (show [c] ++ r = v ++ r' from hr) hsize
    exact ⟨f, hpasses⟩

/-- No character is taken at the end. -/
theorem takeChar_nil (h : s.StandsBefore t []) : s.takeChar.Fails s t [] := by
  obtain ⟨p, hp⟩ := compiled_anyCharacter
  have hf := Pattern.findAt_anyCharacter_nil (Pattern.source_of_compile hp) h.rest
  rcases h.attempt hp .anchored with ⟨-, hfails⟩ | ⟨f', u, v, r', hf', -⟩
  · exact hfails
  · exact absurd (hf.symm.trans hf') (by simp)

/-- A character that is taken is the one at the cursor. -/
theorem passes_takeChar {f : Found} (h : s.StandsBefore t r)
    (hf : s.takeChar.result = .ok (some f)) :
    ∃ c r', r = c :: r' ∧ s.takeChar.Passes s t [] [c] r' f := by
  cases r with
  | nil => exact absurd (hf.symm.trans h.takeChar_nil.result) (by simp)
  | cons c r' =>
    obtain ⟨g, hg⟩ := h.takeChar_cons
    obtain rfl : g = f := by simpa using hg.result.symm.trans hf
    exact ⟨c, r', rfl, hg⟩

end StandsBefore
end Scanner
end TextScan
