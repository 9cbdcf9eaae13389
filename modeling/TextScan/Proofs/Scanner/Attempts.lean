/-
# What an attempt does

An attempt needs the pattern that its query stands for (`Query.compiled`) and the match of that
pattern in the text from the cursor on (`Pattern.findAt`).  The cache has a part in neither: a source
is found in it, or compiled and put into it, and both times the pattern is the same
(`Query.resolve_of_compiled`).  So an attempt with a source is one with a pattern but for the cache
and the events that tell of it (`attempt_of_compiled`), and an attempt with a pattern has three
outcomes (`attempt_absent`, `attempt_missed`, `attempt_found`).
-/

import TextScan.Scanner.Basic

namespace TextScan

/-- The pattern that a query stands for, or why there is none. -/
def Query.compiled : Query → Except PatternFault Pattern
  | .source s => Pattern.compile s
  | .pattern p => .ok p

/-- Whether an event tells of the cache. -/
def Event.isCached : Event → Bool
  | .cached _ => true
  | _ => false

theorem Query.resolve_of_error {q : Query} {e : PatternFault} (h : q.compiled = .error e)
    (c : Cache) : q.resolve c = .error e := by
  cases q with
  | pattern p => exact absurd h (by simp [compiled])
  | source s =>
    unfold resolve
    dsimp only
    split
    · rename_i p hp
      rw [compiled, Cache.compile_of_find? hp] at h
      exact absurd h (by simp)
    · rw [show Pattern.compile s = .error e from h]

/-- A query comes to its pattern with every cache, and does nothing on the way that does not concern
the cache. -/
theorem Query.resolve_of_compiled {q : Query} {p : Pattern} (h : q.compiled = .ok p) (c : Cache) :
    ∃ c' es, q.resolve c = .ok (p, c', es) ∧ ∀ e ∈ es, e.isCached = true := by
  cases q with
  | pattern p' =>
    obtain rfl := Except.ok.inj h
    exact ⟨c, [], rfl, fun e he => absurd he List.not_mem_nil⟩
  | source s =>
    have hs : Pattern.compile s = .ok p := h
    cases hc : c.find? s with
    | some p' =>
      obtain rfl := Except.ok.inj ((Cache.compile_of_find? hc).symm.trans hs)
      refine ⟨c, [], ?_, fun e he => absurd he List.not_mem_nil⟩
      simp only [resolve, hc]
    | none =>
      refine ⟨c.insert p, [.cached p], ?_, fun e he => ?_⟩
      · simp only [resolve, hc, hs]
      · obtain rfl := List.mem_singleton.1 he
        rfl

/-- The match of a pattern in a text from a byte offset on, as if nothing stood before. -/
def Pattern.findAt (p : Pattern) (m : Regex.Mode) (t : Text) (n : Nat) : Option Found :=
  (Text.drop? t n).bind fun region => (p.regex.hit? m region).map (Found.ofHit n p.regex)

theorem Pattern.findAt_eq_some_iff {p : Pattern} {m : Regex.Mode} {t : Text} {n : Nat} {f : Found} :
    p.findAt m t n = some f ↔ ∃ region h, Text.drop? t n = some region ∧
      p.regex.hit? m region = some h ∧ f = Found.ofHit n p.regex h := by
  unfold findAt
  constructor
  · intro h
    obtain ⟨region, hr, h⟩ := Option.bind_eq_some_iff.1 h
    obtain ⟨hit, hh, rfl⟩ := Option.map_eq_some_iff.1 h
    exact ⟨region, hit, hr, hh, rfl⟩
  · rintro ⟨region, h, hr, hh, rfl⟩
    simp only [hr, hh, Option.bind_some, Option.map_some]

/-- The pattern that takes a character is a set, and every character is in it. -/
theorem Pattern.expr_anyCharacter :
    Regex.Expr.ofSource Scanner.anyCharacter = .ok (.oneOf false CharSet.all) := rfl

namespace Scanner

variable {s : Scanner} {m : Regex.Mode} {q : Query} {p : Pattern} {t : Text}

/-- The pattern that takes a character is there. -/
theorem compiled_anyCharacter : ∃ p, (Query.source anyCharacter).compiled = .ok p := by
  have hsize : (Regex.Expr.oneOf false CharSet.all).isTooLarge = false := by decide
  have hc := Regex.compile_of_expr Pattern.expr_anyCharacter hsize
  exact ⟨⟨anyCharacter, _, hc⟩, Pattern.compile_source ⟨anyCharacter, _, hc⟩⟩

theorem attempt_of_error {e : PatternFault} (h : q.compiled = .error e) :
    s.attempt m q = ⟨.error e, s, []⟩ := by
  simp only [attempt, Query.resolve_of_error h]

/-- **A query does what its pattern does.**  Only the cache and the events that tell of it are
others. -/
theorem attempt_of_compiled (h : q.compiled = .ok p) :
    ∃ c es, (∀ e ∈ es, e.isCached = true) ∧
      (s.attempt m q).result = (s.attempt m (.pattern p)).result ∧
      (s.attempt m q).scanner = { (s.attempt m (.pattern p)).scanner with cache := c } ∧
      (s.attempt m q).events = es ++ (s.attempt m (.pattern p)).events := by
  obtain ⟨c, es, hq, hes⟩ := Query.resolve_of_compiled h s.cache
  have hp : (Query.pattern p).resolve s.cache = .ok (p, s.cache, []) := rfl
  refine ⟨c, es, hes, ?_⟩
  simp only [attempt, hq, hp]
  cases s.input with
  | none => exact ⟨rfl, rfl, (List.append_nil es).symm⟩
  | some t =>
    dsimp only
    cases Text.drop? t s.cursor with
    | none => exact ⟨rfl, rfl, rfl⟩
    | some region =>
      dsimp only
      cases p.regex.hit? m region with
      | none => exact ⟨rfl, rfl, List.append_assoc ..⟩
      | some h => exact ⟨rfl, rfl, List.append_assoc ..⟩

/-- Nothing is found in a scanner without a text, and nothing is forgotten. -/
theorem attempt_absent (hi : s.input = none) : s.attempt m (.pattern p) = ⟨.ok none, s, []⟩ := by
  obtain ⟨input, cursor, found, cache⟩ := s
  obtain rfl : input = none := hi
  rfl

/-- An attempt in vain forgets the match. -/
theorem attempt_missed (hi : s.input = some t) (hf : p.findAt m t s.cursor = none) :
    (s.attempt m (.pattern p)).result = .ok none ∧
      (s.attempt m (.pattern p)).scanner = { s with found := none } := by
  cases hr : Text.drop? t s.cursor with
  | none => simp [attempt, Query.resolve, hi, hr]
  | some region =>
    cases hh : p.regex.hit? m region with
    | none => simp [attempt, Query.resolve, hi, hr, hh]
    | some h => simp [Pattern.findAt, hr, hh] at hf

/-- An attempt that finds a match keeps it and goes behind it. -/
theorem attempt_found {f : Found} (hi : s.input = some t) (hf : p.findAt m t s.cursor = some f) :
    (s.attempt m (.pattern p)).result = .ok (some f) ∧
      (s.attempt m (.pattern p)).scanner = { s with cursor := f.span.stop, found := some f } := by
  obtain ⟨region, h, hr, hh, rfl⟩ := Pattern.findAt_eq_some_iff.1 hf
  simp [attempt, Query.resolve, hi, hr, hh]

/-- **What can come of an attempt.**  It comes to a fault and changes nothing; or it has a pattern,
and then there is no text, or no match and the last one is forgotten, or a match. -/
theorem attempt_cases (s : Scanner) (m : Regex.Mode) (q : Query) :
    (∃ e, q.compiled = .error e ∧ (s.attempt m q).result = .error e ∧
      (s.attempt m q).scanner = s) ∨
    ∃ p c, q.compiled = .ok p ∧
      ((s.input = none ∧ (s.attempt m q).result = .ok none ∧
        (s.attempt m q).scanner = { s with cache := c }) ∨
      ∃ t, s.input = some t ∧
        ((p.findAt m t s.cursor = none ∧ (s.attempt m q).result = .ok none ∧
          (s.attempt m q).scanner = { s with found := none, cache := c }) ∨
        ∃ f, p.findAt m t s.cursor = some f ∧ (s.attempt m q).result = .ok (some f) ∧
          (s.attempt m q).scanner =
            { s with cursor := f.span.stop, found := some f, cache := c })) := by
  cases hq : q.compiled with
  | error e =>
    rw [attempt_of_error hq]
    exact Or.inl ⟨e, rfl, rfl, rfl⟩
  | ok p =>
    obtain ⟨c, es, -, hresult, hscanner, -⟩ := attempt_of_compiled (s := s) (m := m) hq
    refine Or.inr ⟨p, c, rfl, ?_⟩
    rw [hresult, hscanner]
    rcases Option.eq_none_or_eq_some s.input with hi | ⟨t, hi⟩
    · rw [attempt_absent hi]
      exact Or.inl ⟨hi, rfl, rfl⟩
    · refine Or.inr ⟨t, hi, ?_⟩
      cases hf : p.findAt m t s.cursor with
      | none =>
        obtain ⟨hok, hforgot⟩ := attempt_missed hi hf
        exact Or.inl ⟨rfl, hok, by rw [hforgot]⟩
      | some f =>
        obtain ⟨hok, hkept⟩ := attempt_found hi hf
        exact Or.inr ⟨f, rfl, hok, by rw [hkept]⟩

/-- Nothing is found without a text. -/
theorem result_of_absent (hq : q.compiled = .ok p) (hi : s.input = none) :
    (s.attempt m q).result = .ok none := by
  obtain ⟨c, es, -, hresult, -⟩ := attempt_of_compiled (s := s) (m := m) hq
  rw [hresult, attempt_absent hi]

/-- An attempt finds only what its pattern has in the text from the cursor on. -/
theorem findAt_of_result {f : Found} (hi : s.input = some t) (hq : q.compiled = .ok p)
    (hf : (s.attempt m q).result = .ok (some f)) : p.findAt m t s.cursor = some f := by
  rcases s.attempt_cases m q with ⟨e, he, -⟩ | ⟨p', c, hp', ⟨hi', -⟩ | ⟨t', hi', hcases⟩⟩
  · exact absurd (hq.symm.trans he) (by simp)
  · exact absurd (hi.symm.trans hi') (by simp)
  obtain rfl := Except.ok.inj (hq.symm.trans hp')
  obtain rfl := Option.some.inj (hi.symm.trans hi')
  rcases hcases with ⟨-, hresult, -⟩ | ⟨f', hf', hresult, -⟩
  · exact absurd (hf.symm.trans hresult) (by simp)
  · obtain rfl : f = f' := by simpa using hf.symm.trans hresult
    exact hf'

/-- A match that an attempt comes to is kept. -/
theorem found_of_result {f : Found} (hf : (s.attempt m q).result = .ok (some f)) :
    (s.attempt m q).scanner.found = some f := by
  rcases s.attempt_cases m q with ⟨e, -, h, -⟩ | ⟨p, c, -, ⟨-, h, -⟩ | ⟨t, -, h⟩⟩
  · exact absurd (hf.symm.trans h) (by simp)
  · exact absurd (hf.symm.trans h) (by simp)
  · rcases h with ⟨-, h, -⟩ | ⟨f', -, h, hscanner⟩
    · exact absurd (hf.symm.trans h) (by simp)
    · obtain rfl : f = f' := by simpa using hf.symm.trans h
      rw [hscanner]

/-- An attempt comes to a fault only if its query does. -/
theorem result_ne_error (hq : q.compiled = .ok p) (e : PatternFault) :
    (s.attempt m q).result ≠ .error e := by
  intro he
  rcases s.attempt_cases m q with ⟨e', he', -⟩ | ⟨p', c, -, ⟨-, h, -⟩ | ⟨t, -, h⟩⟩
  · exact absurd (hq.symm.trans he') (by simp)
  · exact absurd (he.symm.trans h) (by simp)
  · rcases h with ⟨-, h, -⟩ | ⟨f, -, h, -⟩
    · exact absurd (he.symm.trans h) (by simp)
    · exact absurd (he.symm.trans h) (by simp)

end Scanner
end TextScan
