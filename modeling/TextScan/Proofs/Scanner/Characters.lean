/-
# A text, character by character

Taking a character succeeds exactly where one starts at the cursor, that is where the rest is not
empty, and takes the first character of the rest (`takesChar_of_rest_cons`).  Else it leaves the
cursor where it is and forgets the match (`takesNone_of_rest_nil`).  So the characters that are taken
one after the other are those of the rest in their order (`replies_takeChar`); the source that
matches any character is never refused on the way (`takeChar_takes_one`).
-/

import TextScan.Proofs.Scanner.FirstMatch
import TextScan.Proofs.Scanner.Groups
import TextScan.Proofs.Scanner.Progress

namespace TextScan

/-- A match of the pattern that takes a character has no groups. -/
theorem Pattern.groups_of_anyCharacter {p : Pattern} {m : Regex.Mode} {t : Text} {n : Nat}
    {f : Found} (hp : p.source = Scanner.anyCharacter) (hf : p.findAt m t n = some f) :
    f.groups = [] := by
  rw [← List.length_eq_zero_iff, length_groups_of_findAt hf, groupCount,
    regex_eq_ofExpr (hp ▸ expr_anyCharacter)]
  rfl

namespace Scanner

/-- Taking a character takes `c`: that is the reply and the match, which has no groups, and the
cursor goes behind it. -/
structure TakesChar (s : Scanner) (c : Char) : Prop where
  reply : (s.answer .takeChar).reply = .text [c]
  cursor : (s.answer .takeChar).scanner.cursor = s.cursor + c.utf8Size
  matched : (s.answer .takeChar).scanner.matched = some [c]
  captures : (s.answer .takeChar).scanner.captures = []

/-- Taking a character takes none: the reply is nothing, the cursor stays, and no match is left. -/
structure TakesNone (s : Scanner) : Prop where
  reply : (s.answer .takeChar).reply = .nothing
  cursor : (s.answer .takeChar).scanner.cursor = s.cursor
  shows : (s.answer .takeChar).scanner.ShowsNone

variable {s : Scanner} {t r : Text} {c : Char}

/-! ## One character -/

theorem StandsBefore.rest_eq (h : s.StandsBefore t r) : s.rest = r := by
  rw [Scanner.rest, h.input, Option.bind_some, h.rest, Option.getD_some]

/-- Where something is left, the cursor is in the text and before it. -/
theorem exists_standsBefore_of_rest (h : s.rest = c :: r) : ∃ t, s.StandsBefore t (c :: r) := by
  rw [rest, Option.getD_eq_iff] at h
  rcases h with h | ⟨-, h⟩
  · obtain ⟨t, hi, hr⟩ := Option.bind_eq_some_iff.1 h
    exact ⟨t, hi, hr⟩
  · exact absurd h (by simp)

/-- **The character at the cursor is taken.** -/
theorem StandsBefore.takesChar (h : s.StandsBefore t (c :: r)) :
    s.TakesChar c ∧ (s.answer .takeChar).scanner.StandsBefore t r := by
  obtain ⟨f, hpass⟩ := h.takeChar_cons
  obtain ⟨p, hp⟩ := compiled_anyCharacter
  have hscanner : (s.answer .takeChar).scanner = s.takeChar.scanner := rfl
  have hfound : s.takeChar.scanner.found = some f := found_of_result hpass.result
  have hgroups := Pattern.groups_of_anyCharacter (Pattern.source_of_compile hp)
    (findAt_of_result h.input hp hpass.result)
  have hslice : s.slice? f.span = some [c] := (slice?_eq h.input _).trans hpass.text
  refine ⟨⟨?_, ?_, ?_, ?_⟩, hpass.scanner⟩
  · simp only [answer, answerAttempt, Reply.ofAttempt, hpass.result, sayText_eq hslice]
  · rw [hscanner, hpass.cursor, hpass.span]
    rfl
  · rw [hscanner, matched, hfound, Option.bind_some, slice?_eq hpass.scanner.input, hpass.text]
  · rw [hscanner, captures, hfound, Option.elim_some, hgroups, List.map_nil]

theorem takesChar_of_rest_cons (h : s.rest = c :: r) :
    s.TakesChar c ∧ (s.answer .takeChar).scanner.rest = r := by
  obtain ⟨t, ht⟩ := exists_standsBefore_of_rest h
  obtain ⟨htakes, hstands⟩ := ht.takesChar
  exact ⟨htakes, hstands.rest_eq⟩

/-- A character that is taken is the first of the rest. -/
theorem rest_ne_nil_of_succeeds (h : s.Succeeds .takeChar) : s.rest ≠ [] := by
  obtain ⟨p, hp⟩ := compiled_anyCharacter
  obtain ⟨t, p', f, hi, hp', hf⟩ := (succeeds_iff rfl).1 h
  obtain rfl := Except.ok.inj (hp.symm.trans hp')
  obtain ⟨region, -, hr, -⟩ := Pattern.findAt_eq_some_iff.1 hf
  rw [(StandsBefore.mk hi hr).rest_eq]
  rintro rfl
  rw [Pattern.findAt_anyCharacter_nil (Pattern.source_of_compile hp) hr] at hf
  exact absurd hf (by simp)

/-- **Where nothing is left, no character is taken.** -/
theorem takeChar_of_rest_nil (h : s.rest = []) :
    (s.answer .takeChar).reply = .nothing ∧ (s.answer .takeChar).scanner.cursor = s.cursor ∧
      (s.answer .takeChar).scanner.rest = [] := by
  obtain ⟨p, hp⟩ := compiled_anyCharacter
  have hno : ¬s.Succeeds .takeChar := fun hyes => rest_ne_nil_of_succeeds hyes h
  have hcursor : (s.answer .takeChar).scanner.cursor = s.cursor :=
    cursor_answer_of_not_succeeds rfl hno
  refine ⟨(reply_eq_nothing_iff rfl hp).2 hno, hcursor, ?_⟩
  rw [rest, input_answer, hcursor]
  exact h

theorem takesNone_of_rest_nil (h : s.rest = []) (habsent : s.input = none → s.found = none) :
    s.TakesNone := by
  obtain ⟨p, hp⟩ := compiled_anyCharacter
  have hno : ¬s.Succeeds .takeChar := fun hyes => rest_ne_nil_of_succeeds hyes h
  obtain ⟨hreply, hfound⟩ := answer_of_not_succeeds rfl hp hno habsent
  exact ⟨hreply, cursor_answer_of_not_succeeds rfl hno, showsNone_of_found hfound⟩

/-! ## One character after the other -/

/-- **The characters of the rest are taken in their order**, and then none. -/
theorem replies_takeChar (s : Scanner) (n : Nat) :
    (s.answers (List.replicate n .takeChar)).1.map (·.reply) =
      (s.rest.take n).map (fun c => .text [c]) ++
        List.replicate (n - s.rest.length) .nothing := by
  induction n generalizing s with
  | zero => simp [answers]
  | succ n ih =>
    have hcons : (s.answers (List.replicate (n + 1) .takeChar)).1 = s.answer .takeChar ::
        ((s.answer .takeChar).scanner.answers (List.replicate n .takeChar)).1 := rfl
    rw [hcons, List.map_cons, ih]
    cases hr : s.rest with
    | nil =>
      obtain ⟨hreply, -, hrest⟩ := takeChar_of_rest_nil hr
      rw [hreply, hrest]
      simp [List.replicate_succ]
    | cons c r =>
      obtain ⟨htakes, hrest⟩ := takesChar_of_rest_cons hr
      rw [htakes.reply, hrest, List.take_succ_cons, List.map_cons, List.cons_append,
        List.length_cons, Nat.add_sub_add_right]

/-- From the start on, all of the text is left. -/
theorem rest_of_cursor_eq_zero (h : s.cursor = 0) : s.rest = s.input.getD [] := by
  rw [rest, h]
  cases s.input with
  | none => rfl
  | some t => rw [Option.bind_some, Text.drop?, Text.cut?_zero]; rfl

/-- Something is left exactly if the cursor is on a boundary of the text before its end. -/
theorem exists_rest_iff : (∃ c r, s.rest = c :: r) ↔ ∃ t, s.input = some t ∧
    Text.isBoundary t s.cursor = true ∧ s.cursor < Text.size t := by
  constructor
  · rintro ⟨c, r, h⟩
    obtain ⟨t, hi, hr⟩ := exists_standsBefore_of_rest h
    obtain ⟨x, rfl, hx⟩ := Text.drop?_eq_some_iff.1 hr
    have := c.utf8Size_pos
    refine ⟨x ++ c :: r, hi, Text.isBoundary_iff.2 ⟨x, c :: r, rfl, hx⟩, ?_⟩
    rw [Text.size_append, Text.size_cons]
    omega
  · rintro ⟨t, hi, hb, hlt⟩
    obtain ⟨x, b, rfl, hx⟩ := Text.isBoundary_iff.1 hb
    have hrest := StandsBefore.rest_eq ⟨hi, Text.drop?_eq_some_iff.2 ⟨x, rfl, hx⟩⟩
    cases b with
    | nil =>
      rw [List.append_nil, hx] at hlt
      exact absurd hlt (Nat.lt_irrefl _)
    | cons c r => exact ⟨c, r, hrest⟩

/-- **Taking a character takes exactly one.**  A new scanner answers requests.  If its cursor is then
on a boundary of the text and before the end, taking a character takes the one that stands there,
and else it takes none.  The pattern for it compiles, and every cache comes to it, so there is no
fault.  From the start of the text, the characters that are taken one after the other are those of
the text in their order, and behind the last one none is taken any more. -/
theorem takeChar_takes_one (input : Option Text) (rs : List Request) :
    let s := (new input).after rs
    (∀ t, input = some t → Text.isBoundary t s.cursor = true → s.cursor < Text.size t →
      ∃ x c r, t = x ++ c :: r ∧ s.cursor = Text.size x ∧ s.TakesChar c) ∧
    ((¬∃ t, input = some t ∧ Text.isBoundary t s.cursor = true ∧ s.cursor < Text.size t) →
      s.TakesNone) ∧
    (∃ p, Pattern.compile anyCharacter = .ok p ∧
      ∀ c, ∃ c' es, (Query.source anyCharacter).resolve c = .ok (p, c', es)) ∧
    (∀ e, s.takeChar.result ≠ .error e) ∧
    (s.cursor = 0 → ∀ n, (s.answers (List.replicate n .takeChar)).1.map (·.reply) =
      ((input.getD []).take n).map (fun c => .text [c]) ++
        List.replicate (n - (input.getD []).length) .nothing) := by
  intro s
  have hinput : s.input = input := input_after (new input) rs
  obtain ⟨p, hp⟩ := compiled_anyCharacter
  refine ⟨fun t hi hb hlt => ?_, fun hno => ?_, ⟨p, hp, fun c => ?_⟩, result_ne_error hp,
    fun hc n => ?_⟩
  · obtain ⟨c, r, hrest⟩ := exists_rest_iff.2 ⟨t, hinput.trans hi, hb, hlt⟩
    obtain ⟨t', hi', hr⟩ := exists_standsBefore_of_rest hrest
    obtain rfl := Option.some.inj (hi'.symm.trans (hinput.trans hi))
    obtain ⟨x, ht, hx⟩ := Text.drop?_eq_some_iff.1 hr
    exact ⟨x, c, r, ht, hx.symm, (takesChar_of_rest_cons hrest).1⟩
  · have hrest : s.rest = [] := by
      by_contra hne
      obtain ⟨c, r, hrest⟩ := List.exists_cons_of_ne_nil hne
      exact hno (hinput ▸ exists_rest_iff.1 ⟨c, r, hrest⟩)
    exact takesNone_of_rest_nil hrest fun hi =>
      found_after_of_absent (hinput.symm.trans hi) rfl
  · obtain ⟨c', es, hresolve, -⟩ := Query.resolve_of_compiled hp c
    exact ⟨c', es, hresolve⟩
  · rw [replies_takeChar, rest_of_cursor_eq_zero hc, hinput]

/-- A line feed is a character like any other. -/
example : ((new (some "é\n".toList)).answers (List.replicate 4 .takeChar)).1.map (·.reply) =
    [.text ['é'], .text ['\n'], .nothing, .nothing] := by
  decide

end Scanner
end TextScan
