/-
# No text is lost between matches

A search that finds a match passes over the text from the cursor up to the match, and over the
match; the cursor is then behind it (`takes_or_stays`).  A search that finds none passes over
nothing.  So over a series of searches the stretches that were passed lie one right behind the
other, from the first cursor to the last, and their texts make up the text between the two
(`passed_text`).
-/

import Mathlib.Data.List.Forall2
import TextScan.Proofs.Scanner.History

namespace TextScan

/-- Whether a search replies that it has found something. -/
def Reply.isMatch : Reply → Bool
  | .nothing | .fault _ => false
  | _ => true

theorem Request.isMatch_replyTo (r : Request) (cursor : Nat) (span : Span) (u : Text) :
    (r.replyTo cursor span u).isMatch = true := by
  cases r <;> rfl

namespace Scanner

/-- The stretches of the text that a search passes over: up to the match, and the match. -/
def stretches (s : Scanner) (r : Request) : List Span :=
  if (s.answer r).reply.isMatch then
    (s.answer r).scanner.matchedSpan.elim [] fun span => [⟨s.cursor, span.start⟩, span]
  else []

/-- The stretches that a series of searches passes over. -/
def passed (s : Scanner) : List Request → List Span
  | [] => []
  | r :: rs => s.stretches r ++ (s.answer r).scanner.passed rs

/-- A search takes a match with a span and a text: the span lies in the text and not before the
cursor, the cursor goes to its end, and the reply is what the request asks for. -/
structure Takes (s : Scanner) (r : Request) (t : Text) (span : Span) (u : Text) : Prop where
  found : (s.answer r).scanner.matchedSpan = some span
  behind : s.cursor ≤ span.start
  ordered : span.start ≤ span.stop
  within : span.stop ≤ Text.size t
  atCursor : ∀ q, r.search? = some (.anchored, q) → span.start = s.cursor
  cursor : (s.answer r).scanner.cursor = span.stop
  text : Text.slice? t span = some u
  reply : (s.answer r).reply = r.replyTo s.cursor span u

variable {s : Scanner} {r : Request} {t : Text} {m : Regex.Mode} {q : Query}

/-! ## One search -/

/-- **A search takes a match, or it leaves the cursor where it is.** -/
theorem takes_or_stays (hi : s.input = some t) (hr : r.search? = some (m, q)) :
    ((s.answer r).reply.isMatch = false ∧ (s.answer r).scanner.cursor = s.cursor) ∨
      ((s.answer r).reply.isMatch = true ∧ ∃ span u, s.Takes r t span u) := by
  cases search_outcome (s := s) hr with
  | fault e _ hanswer =>
    rw [hanswer]
    exact Or.inl ⟨rfl, rfl⟩
  | absent p c _ _ hreply hscanner =>
    rw [hreply, hscanner]
    exact Or.inl ⟨rfl, rfl⟩
  | missed p c t' _ _ _ hreply hscanner =>
    rw [hreply, hscanner]
    exact Or.inl ⟨rfl, rfl⟩
  | found p c t' f u _ hi' hf hu hreply hscanner =>
    obtain rfl : t = t' := Option.some.inj (hi.symm.trans hi')
    have hlies := (Pattern.liesIn_of_findAt hf).span
    obtain ⟨hle, hstart⟩ := Pattern.le_start_of_findAt hf
    refine Or.inr ⟨by rw [hreply, Request.isMatch_replyTo], f.span, u, ?_, hle, hlies.ordered,
      hlies.stop_le, fun q' hq' => ?_, by rw [hscanner], hu, hreply⟩
    · rw [hscanner]
      rfl
    · obtain ⟨rfl, -⟩ := Prod.mk.inj (Option.some.inj (hr.symm.trans hq'))
      exact hstart rfl

theorem Takes.stretches_eq {span : Span} {u : Text} (h : s.Takes r t span u) :
    s.stretches r = [⟨s.cursor, span.start⟩, span] := by
  have hmatch : (s.answer r).reply.isMatch = true := by rw [h.reply, Request.isMatch_replyTo]
  rw [stretches, if_pos hmatch, h.found, Option.elim_some]

theorem stretches_of_isMatch_eq_false (h : (s.answer r).reply.isMatch = false) :
    s.stretches r = [] := by
  rw [stretches, h]
  rfl

/-! ## Series of searches -/

/-- The texts that a series of searches passes over make up the text up to the last cursor. -/
theorem exists_texts_passed (hi : s.input = some t) (hb : Text.isBoundary t s.cursor = true)
    {rs : List Request} (hrs : ∀ r ∈ rs, r.search?.isSome = true) :
    ∃ us, List.Forall₂ (fun span u => Text.slice? t span = some u) (s.passed rs) us ∧
      Text.slice? t ⟨s.cursor, (s.after rs).cursor⟩ = some us.flatten := by
  induction rs generalizing s with
  | nil => exact ⟨[], .nil, Text.slice?_self hb⟩
  | cons r rs ih =>
    obtain ⟨⟨m, q⟩, hr⟩ := Option.isSome_iff_exists.1 (hrs r List.mem_cons_self)
    have hrs' : ∀ r' ∈ rs, r'.search?.isSome = true := fun r' hr' =>
      hrs r' (List.mem_cons_of_mem r hr')
    have hi' : (s.answer r).scanner.input = some t := (input_answer s r).trans hi
    rw [passed, after_cons]
    rcases takes_or_stays hi hr with ⟨hmiss, hcursor⟩ | ⟨-, span, u, htakes⟩
    · obtain ⟨us, hus, hslice⟩ := ih hi' (by rw [hcursor, hb]) hrs'
      rw [hcursor] at hslice
      rw [stretches_of_isMatch_eq_false hmiss]
      exact ⟨us, hus, hslice⟩
    · obtain ⟨-, hstart, hstop⟩ := Text.isSome_slice?_iff.1 (Option.isSome_of_eq_some htakes.text)
      obtain ⟨v, hv⟩ : ∃ v, Text.slice? t ⟨s.cursor, span.start⟩ = some v :=
        Option.isSome_iff_exists.1 (Text.isSome_slice?_iff.2 ⟨htakes.behind, hb, hstart⟩)
      obtain ⟨us, hus, hslice⟩ := ih hi' (by rw [htakes.cursor, hstop]) hrs'
      rw [htakes.cursor] at hslice
      rw [htakes.stretches_eq]
      refine ⟨v :: u :: us, .cons hv (.cons htakes.text hus), ?_⟩
      -- The skipped text, the match and what comes behind it follow each other.
      exact Text.slice?_append_slice hv (Text.slice?_append_slice htakes.text hslice)

/-- **No text is lost between matches.**  A scanner has its cursor on a boundary of its text and
makes any searches.  Then the texts that they pass over, for each match the text that is skipped
before it and its own, make up the text from the first cursor to the last.  Each search either takes
a match, with the cursor behind it, or leaves the cursor where it is; so the cursor never goes
back. -/
theorem passed_text (hi : s.input = some t) (hb : Text.isBoundary t s.cursor = true)
    {rs : List Request} (hrs : ∀ r ∈ rs, r.search?.isSome = true) :
    (∃ us, List.Forall₂ (fun span u => Text.slice? t span = some u) (s.passed rs) us ∧
      Text.slice? t ⟨s.cursor, (s.after rs).cursor⟩ = some us.flatten) ∧
    s.cursor ≤ (s.after rs).cursor ∧
    ∀ pre r post, rs = pre ++ r :: post →
      (((s.after pre).answer r).reply.isMatch = true →
        ∃ span u, (s.after pre).Takes r t span u) ∧
      (((s.after pre).answer r).reply.isMatch = false →
        ((s.after pre).answer r).scanner.cursor = (s.after pre).cursor) := by
  obtain ⟨us, hus, hslice⟩ := exists_texts_passed hi hb hrs
  refine ⟨⟨us, hus, hslice⟩,
    (Text.isSome_slice?_iff.1 (Option.isSome_of_eq_some hslice)).1, ?_⟩
  rintro pre r post rfl
  obtain ⟨⟨m, q⟩, hr⟩ := Option.isSome_iff_exists.1 (hrs r (by simp))
  rcases takes_or_stays ((input_after s pre).trans hi) hr with ⟨hmiss, hcursor⟩ | ⟨hmatch, htakes⟩
  · exact ⟨fun h => absurd (hmiss.symm.trans h) (by simp), fun _ => hcursor⟩
  · exact ⟨fun _ => htakes, fun h => absurd (hmatch.symm.trans h) (by simp)⟩

/-- Searches of all kinds behind the first character of `aé, bb`: two skip text, one comes to a
fault, one finds nothing, and one matches the empty text. -/
theorem passed_text_twoBytes :
    let t := "aé, bb".toList
    let s := (new (some t)).moveTo 1
    let rs : List Request :=
      [.skipUntil (.source ",".toList), .scan (.source "(".toList), .skip (.source "x".toList),
        .takeChar, .scan (.source "c*".toList), .scanUntil (.source "b$".toList)]
    (s.input = some t ∧ Text.isBoundary t s.cursor = true ∧ ∀ r ∈ rs, r.search?.isSome = true) ∧
      s.passed rs = [⟨1, 3⟩, ⟨3, 4⟩, ⟨4, 4⟩, ⟨4, 5⟩, ⟨5, 5⟩, ⟨5, 5⟩, ⟨5, 6⟩, ⟨6, 7⟩] ∧
      ∃ us, List.Forall₂ (fun span u => Text.slice? t span = some u) (s.passed rs) us ∧
        Text.slice? t ⟨s.cursor, (s.after rs).cursor⟩ = some us.flatten := by
  intro t s rs
  have hb : Text.isBoundary t s.cursor = true := rfl
  have hrs : ∀ r ∈ rs, r.search?.isSome = true := by decide
  exact ⟨⟨rfl, hb, hrs⟩, by decide, (passed_text rfl hb hrs).1⟩

end Scanner
end TextScan
