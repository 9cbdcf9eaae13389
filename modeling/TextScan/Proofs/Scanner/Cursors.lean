/-
# Cursors that were never moved, and cursors astray

The cursor of a scanner is valid if it is on a boundary of the text, or at offset zero without a
text.  A match ends on a boundary, so no request makes a valid cursor invalid but the one that puts
it anywhere (`CursorValid.answer`).

A scanner is astray if it has no text, or if its cursor is beyond the end or inside a character
(`Astray`).  There is nothing to search in then: a search finds nothing and goes nowhere, and the
scanner stays astray with the same cursor (`Astray.answer`) until the cursor is put somewhere else
(`cursor_valid_or_astray`).
-/

import TextScan.Proofs.Scanner.FirstMatch
import TextScan.Proofs.Text.Boundaries

namespace TextScan

/-- A request puts the cursor somewhere, whatever the text there is. -/
def Request.Relocates (r : Request) : Prop := r = .reset ∨ r = .terminate ∨ ∃ n, r = .moveTo n

namespace Scanner

/-- The cursor is on a boundary of the text, and at the start without a text. -/
structure CursorValid (s : Scanner) : Prop where
  boundary : ∀ t, s.input = some t →
    Text.isBoundary t s.cursor = true ∧ s.cursor ≤ Text.size t
  absent : s.input = none → s.cursor = 0

/-- There is no text from the cursor on: none at all, or the cursor is beyond the end of the text or
inside a character of it. -/
inductive Astray (s : Scanner) : Prop where
  | absent (input : s.input = none)
  | beyond (t : Text) (input : s.input = some t) (cursor : Text.size t < s.cursor)
  | inside (t : Text) (input : s.input = some t) (cursor : Text.Inside t s.cursor)

variable {s s' : Scanner} {r : Request} {rs : List Request} {m : Regex.Mode} {q : Query}
  {p : Pattern} {t : Text}

/-! ## Valid cursors -/

theorem cursorValid_new (input : Option Text) : (new input).CursorValid :=
  ⟨fun t _ => ⟨Text.isBoundary_zero t, Nat.zero_le _⟩, fun _ => rfl⟩

/-- The start and the end of a text are boundaries. -/
theorem cursorValid_reset (s : Scanner) : s.reset.CursorValid :=
  ⟨fun t _ => ⟨Text.isBoundary_zero t, Nat.zero_le _⟩, fun _ => rfl⟩

theorem cursorValid_terminate (s : Scanner) : s.terminate.CursorValid := by
  refine ⟨fun t hi => ?_, fun hi => ?_⟩
  · have hcursor : s.terminate.cursor = Text.size t := by
      rw [terminate, show s.input = some t from hi, Option.elim_some]
    rw [hcursor]
    exact ⟨Text.isBoundary_size t, Nat.le_refl _⟩
  · rw [terminate, show s.input = none from hi, Option.elim_none]

/-- Whether a cursor is valid is seen on the text and the cursor alone. -/
theorem CursorValid.congr (h : s.CursorValid) (hi : s'.input = s.input)
    (hc : s'.cursor = s.cursor) : s'.CursorValid := by
  refine ⟨fun t ht => ?_, fun hn => ?_⟩
  · rw [hc]
    exact h.boundary t (hi.symm.trans ht)
  · rw [hc]
    exact h.absent (hi.symm.trans hn)

/-- **A valid cursor stays valid** under every request but the one that puts it anywhere. -/
theorem CursorValid.answer (h : s.CursorValid) (hr : ∀ n, r ≠ .moveTo n) :
    (s.answer r).scanner.CursorValid := by
  have hi := input_answer s r
  cases hsearch : r.search? with
  | none =>
    rcases answer_no_search (s := s) hsearch with hs | rfl | rfl | ⟨n, rfl⟩
    · rw [hs]
      exact h
    · exact cursorValid_reset s
    · exact cursorValid_terminate s
    · exact absurd rfl (hr n)
  | some a =>
    cases search_outcome (s := s) (m := a.1) (q := a.2) hsearch with
    | fault e _ hanswer => exact h.congr hi (by rw [hanswer])
    | absent p c _ _ _ hscanner => exact h.congr hi (by rw [hscanner])
    | missed p c t _ _ _ _ hscanner => exact h.congr hi (by rw [hscanner])
    | found p c t f u _ ht hf _ _ hscanner =>
      have hcursor : (s.answer r).scanner.cursor = f.span.stop := by rw [hscanner]
      have hspan := (Pattern.liesIn_of_findAt hf).span
      refine ⟨fun t' ht' => ?_, fun hn => absurd (ht.symm.trans (hi.symm.trans hn)) (by simp)⟩
      obtain rfl := Option.some.inj (ht.symm.trans (hi.symm.trans ht'))
      rw [hcursor]
      exact ⟨hspan.stop, hspan.stop_le⟩

theorem CursorValid.after (h : s.CursorValid) (hrs : ∀ n, .moveTo n ∉ rs) :
    (s.after rs).CursorValid := by
  induction rs generalizing s with
  | nil => exact h
  | cons r rs ih =>
    have hr : ∀ n, r ≠ .moveTo n := fun n hn => hrs n (hn ▸ List.mem_cons_self)
    exact ih (h.answer hr) fun n hn => hrs n (List.mem_cons_of_mem r hn)

/-! ## Cursors astray -/

/-- A scanner is astray exactly if its cursor is not on a boundary of any text that it has. -/
theorem astray_iff : s.Astray ↔ ∀ t, s.input = some t → Text.isBoundary t s.cursor = false := by
  constructor
  · rintro (hi | ⟨t', hi, hc⟩ | ⟨t', hi, hc⟩) t ht
    · exact absurd (hi.symm.trans ht) (by simp)
    · obtain rfl := Option.some.inj (hi.symm.trans ht)
      exact Text.isBoundary_eq_false_iff.2 (Or.inl hc)
    · obtain rfl := Option.some.inj (hi.symm.trans ht)
      exact hc.not_isBoundary
  · intro h
    cases hi : s.input with
    | none => exact .absent hi
    | some t =>
      rcases Text.isBoundary_eq_false_iff.1 (h t hi) with hc | hc
      · exact .beyond t hi hc
      · exact .inside t hi hc

/-- In a scanner that has a text, to be astray is to have nothing to search. -/
theorem astray_iff_drop? (hi : s.input = some t) :
    s.Astray ↔ Text.drop? t s.cursor = none := by
  simp only [astray_iff, hi, Option.some.injEq, forall_eq', ← Text.isSome_drop?,
    Option.isSome_eq_false_iff, Option.isNone_iff_eq_none]

namespace Astray

theorem congr (h : s.Astray) (hi : s'.input = s.input) (hc : s'.cursor = s.cursor) :
    s'.Astray := by
  rw [astray_iff, hi, hc]
  exact astray_iff.1 h

/-- Nothing is left from a cursor that is astray on. -/
theorem rest_eq (h : s.Astray) : s.rest = [] := by
  cases hi : s.input with
  | none => rw [rest, hi, Option.bind_none, Option.getD_none]
  | some t => rw [rest, hi, Option.bind_some, (astray_iff_drop? hi).1 h, Option.getD_none]

theorem peek_eq (h : s.Astray) (n : Nat) : s.peek n = [] := by
  rw [peek, h.rest_eq]
  rfl

/-- A scanner that is astray is at the end, unless its cursor is inside a character. -/
theorem isAtEnd_iff (h : s.Astray) :
    s.isAtEnd = true ↔ ¬∃ t, s.input = some t ∧ Text.Inside t s.cursor := by
  rw [isAtEnd]
  cases h with
  | absent hi => simp [hi]
  | beyond t hi hc =>
    simp only [hi, Option.all_some, decide_eq_true_eq, Option.some.injEq, exists_eq_left']
    exact iff_of_true (Nat.le_of_lt hc) fun hin => absurd hin.lt_size (Nat.lt_asymm hc)
  | inside t hi hc =>
    simp only [hi, Option.all_some, decide_eq_true_eq, Option.some.injEq, exists_eq_left']
    exact iff_of_false (Nat.not_le.2 hc.lt_size) (not_not.2 hc)

/-- No search succeeds from a cursor that is astray. -/
theorem not_succeeds (h : s.Astray) : ¬s.Succeeds r := by
  intro hyes
  obtain ⟨m, q, t, p, f, -, hi, -, hf, -⟩ := hyes.exists_found
  rw [Pattern.findAt, (astray_iff_drop? hi).1 h, Option.bind_none] at hf
  exact absurd hf (by simp)

/-- **A scanner that is astray stays where it is**, unless its cursor is put somewhere else. -/
theorem answer (h : s.Astray) (hr : ¬r.Relocates) :
    (s.answer r).scanner.cursor = s.cursor ∧ (s.answer r).scanner.Astray := by
  have hcursor : (s.answer r).scanner.cursor = s.cursor := by
    cases hsearch : r.search? with
    | none =>
      rcases answer_no_search (s := s) hsearch with hs | hmove
      · rw [hs]
      · exact absurd hmove hr
    | some a => exact cursor_answer_of_not_succeeds (q := a.2) hsearch h.not_succeeds
  exact ⟨hcursor, h.congr (input_answer s r) hcursor⟩

theorem after (h : s.Astray) (hrs : ∀ r ∈ rs, ¬r.Relocates) :
    (s.after rs).cursor = s.cursor ∧ (s.after rs).Astray := by
  induction rs generalizing s with
  | nil => exact ⟨rfl, h⟩
  | cons r rs ih =>
    obtain ⟨hcursor, hr⟩ := h.answer (hrs r List.mem_cons_self)
    obtain ⟨hcursor', hrs'⟩ := ih hr fun r' hr' => hrs r' (List.mem_cons_of_mem r hr')
    exact ⟨hcursor'.trans hcursor, hrs'⟩

/-- A match that was forgotten does not come back. -/
theorem found_after (h : s.Astray) (hf : s.found = none) (hrs : ∀ r ∈ rs, ¬r.Relocates) :
    (s.after rs).found = none := by
  induction rs generalizing s with
  | nil => exact hf
  | cons r rs ih =>
    have hfound : (s.answer r).scanner.found = none := by
      by_cases hd : s.Decides r
      · exact found_answer_of_decides hd h.not_succeeds fun _ => hf
      · rw [(answer_of_not_decides hd).1, hf]
    exact ih (h.answer (hrs r List.mem_cons_self)).2 hfound fun r' hr' =>
      hrs r' (List.mem_cons_of_mem r hr')

/-- **A search from a cursor that is astray finds nothing**, whatever its pattern is, and nothing is
shown of a match until the cursor is put somewhere else. -/
theorem showsNone_after {pre post : List Request} (h : s.Astray)
    (habsent : s.input = none → s.found = none) (hrs : ∀ r' ∈ pre ++ r :: post, ¬r'.Relocates)
    (hr : r.search? = some (m, q)) (hq : q.compiled = .ok p) :
    ((s.after pre).answer r).reply = .nothing ∧ (s.after (pre ++ r :: post)).ShowsNone := by
  have hpre : ∀ r' ∈ pre, ¬r'.Relocates := fun r' hr' => hrs r' (by simp [hr'])
  have hpost : ∀ r' ∈ post, ¬r'.Relocates := fun r' hr' => hrs r' (by simp [hr'])
  have hbefore := (h.after hpre).2
  have hnone : (s.after pre).input = none → (s.after pre).found = none := fun hi =>
    have hi := (input_after s pre).symm.trans hi
    found_after_of_absent hi (habsent hi)
  obtain ⟨hreply, hfound⟩ := answer_of_not_succeeds hr hq hbefore.not_succeeds hnone
  have hbehind := (hbefore.answer (hrs r (by simp))).2
  refine ⟨hreply, showsNone_of_found ?_⟩
  rw [after_append, after_cons]
  exact hbehind.found_after hfound hpost

end Astray

/-- **A cursor is valid, or it is astray until it is put somewhere else.**  A new scanner answers
requests.  If the cursor was never put anywhere by its offset, it is valid.  If the scanner is
astray, then whatever it is asked for next that does not put the cursor somewhere, the cursor stays
as it is and nothing is left from there on; it is shown as the end, unless it is inside a character.
A search on the way that has a pattern replies nothing, and behind it nothing is shown of a match.
With the cursor at the start or at the end again, it is valid. -/
theorem cursor_valid_or_astray (input : Option Text) (rs : List Request) :
    let s := (new input).after rs
    ((∀ n, .moveTo n ∉ rs) → s.CursorValid) ∧
    (s.Astray → ∀ rs', (∀ r ∈ rs', ¬r.Relocates) →
      ((s.after rs').cursor = s.cursor ∧ (s.after rs').Astray) ∧
      ((s.after rs').rest = [] ∧ (s.after rs').restSize = 0 ∧ ∀ n, (s.after rs').peek n = []) ∧
      ((s.after rs').isAtEnd = true ↔ ¬∃ t, input = some t ∧ Text.Inside t s.cursor) ∧
      ∀ pre r post m q p, rs' = pre ++ r :: post → r.search? = some (m, q) →
        q.compiled = .ok p →
        ((s.after pre).answer r).reply = .nothing ∧ (s.after rs').ShowsNone) ∧
    (∀ r, s.Astray → (s.answer r).scanner.cursor ≠ s.cursor → r.Relocates) ∧
    (s.answer .reset).scanner.CursorValid ∧ (s.answer .terminate).scanner.CursorValid := by
  intro s
  have hinput : s.input = input := input_after (new input) rs
  have habsent : s.input = none → s.found = none := fun hi =>
    found_after_of_absent (hinput.symm.trans hi) rfl
  refine ⟨(cursorValid_new input).after, fun h rs' hrs' => ?_, fun r h hne => ?_,
    cursorValid_reset s, cursorValid_terminate s⟩
  · obtain ⟨hcursor, hastray⟩ := h.after hrs'
    have hsize : (s.after rs').restSize = 0 := by rw [restSize, hastray.rest_eq]; rfl
    refine ⟨⟨hcursor, hastray⟩, ⟨hastray.rest_eq, hsize, hastray.peek_eq⟩, ?_, ?_⟩
    · rw [hastray.isAtEnd_iff, input_after, hinput, hcursor]
    · rintro pre r post m q p rfl hr hq
      exact h.showsNone_after habsent hrs' hr hq
  · by_contra hr
    exact hne (h.answer hr).1

/-- Inside the `é` the empty text is not found, and no request but the last one moves the cursor. -/
example :
    let s := (new (some "é".toList)).after [.takeChar, .moveTo 1]
    let rs : List Request := [.scan (.source "b*".toList), .takeChar, .peek 2, .terminate]
    s.Astray ∧ s.isAtEnd = false ∧ (s.answers rs).1.map (·.scanner.cursor) = [1, 1, 1, 2] :=
  ⟨.inside _ rfl ⟨[], 'é', [], rfl, by decide, by decide⟩, by decide, by decide⟩

end Scanner
end TextScan
