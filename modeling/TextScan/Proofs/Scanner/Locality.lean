/-
# What stands before the cursor

A search looks at the text from the cursor on and at nothing before it.  So a scanner does in the
middle of a text what it does at the start of what is left: with a text `u` put before its own, it
finds the same matches, each one `Text.size u` bytes further on (`attempt_behind`).  A request that
looks ahead gets the same reply (`answer_behind`), and so does a whole series of them
(`answers_behind`).

`Scanner.behind u` puts a text before that of a scanner, and moves with it the cursor, the spans of
the match and the offsets in the events.  The two scanners have the same cache.
-/

import Mathlib.Data.List.Forall2
import TextScan.Proofs.Scanner.History

namespace TextScan

/-- A match, seen from a text that starts `n` bytes earlier. -/
def Found.behind (n : Nat) (f : Found) : Found :=
  ⟨f.span.shift n, f.groups.map fun g => (g.1, g.2.map (·.shift n))⟩

/-- An event, told of a text that starts `n` bytes earlier; the span of a match counts from the
cursor and stays as it is. -/
def Event.behind (n : Nat) : Event → Event
  | .started m p cursor => .started m p (cursor + n)
  | e => e

/-- A scanner with a text put before its own. -/
def Scanner.behind (u : Text) (s : Scanner) : Scanner where
  input := s.input.map (u ++ ·)
  cursor := s.cursor + Text.size u
  found := s.found.map (Found.behind (Text.size u))
  cache := s.cache

/-- What comes of an attempt where a text is put before. -/
def Attempt.behind (u : Text) (a : Attempt) : Attempt where
  result := a.result.map (Option.map (Found.behind (Text.size u)))
  scanner := a.scanner.behind u
  events := a.events.map (Event.behind (Text.size u))

/-- The answer where a text is put before; the reply is the same. -/
def Answer.behind (u : Text) (a : Answer) : Answer where
  reply := a.reply
  scanner := a.scanner.behind u
  events := a.events.map (Event.behind (Text.size u))

/-- Whether a request asks for nothing before the cursor or the match, and for no offset. -/
def Request.looksAhead : Request → Bool
  | .moveTo _ | .reset | .beforeMatch | .lastMatch | .location _ | .cursorLocation | .input => false
  | _ => true

/-- The first scanner shows what the second one shows, `n` bytes further on. -/
structure Scanner.SameAhead (n : Nat) (s s' : Scanner) : Prop where
  cursor : s.cursor = s'.cursor + n
  span : s.matchedSpan = s'.matchedSpan.map (Span.shift n)
  atEnd : s.isAtEnd = s'.isAtEnd
  rest : s.rest = s'.rest
  restSize : s.restSize = s'.restSize
  peek : ∀ k, s.peek k = s'.peek k
  matched : s.matched = s'.matched
  size : s.matchedSize = s'.matchedSize
  captures : s.captures = s'.captures
  named : ∀ name, s.groupNamed name = s'.groupNamed name
  cached : s.cache.size = s'.cache.size

/-- Two answers with one reply, behind which the first scanner shows what the second one shows, `n`
bytes further on; and so do the events. -/
structure Answer.SameAhead (n : Nat) (a a' : Answer) : Prop where
  reply : a.reply = a'.reply
  scanner : a.scanner.SameAhead n a'.scanner
  events : a.events = a'.events.map (Event.behind n)

theorem Event.map_behind_of_isCached {n : Nat} {es : List Event} (h : ∀ e ∈ es, e.isCached = true) :
    es.map (behind n) = es := by
  have hsame : ∀ e ∈ es, e.behind n = id e := by
    intro e he
    have hcached := h e he
    cases e with
    | cached p => rfl
    | _ => simp [isCached] at hcached
  rw [List.map_congr_left hsame, List.map_id]

theorem Span.shift_add (n k : Nat) (s : Span) : s.shift (n + k) = (s.shift n).shift k := by
  simp only [shift, Nat.add_assoc]

/-- The match of a region, seen from further ahead. -/
theorem Found.ofHit_add (n k : Nat) (r : Regex) (h : Regex.Hit) :
    ofHit (n + k) r h = (ofHit n r h).behind k := by
  simp only [ofHit, behind, List.map_map, Span.shift_add, Found.mk.injEq, true_and]
  refine List.map_congr_left fun g _ => ?_
  simp only [Function.comp_apply, Option.map_map]
  rfl

theorem Found.groupNamed?_behind (n : Nat) (f : Found) (name : Text) :
    (f.behind n).groupNamed? name = (f.groupNamed? name).map (Span.shift n) := by
  have hname : ((fun g : Option Text × Option Span => g.1 == some name) ∘
      fun g : Option Text × Option Span => (g.1, g.2.map (Span.shift n))) =
      fun g => g.1 == some name := rfl
  rw [groupNamed?, groupNamed?, behind, List.find?_map, hname]
  cases f.groups.find? fun g => g.1 == some name with
  | none => rfl
  | some g => rfl

theorem Found.group?_behind (n : Nat) (f : Found) (i : Nat) :
    (f.behind n).group? i = (f.group? i).map (Span.shift n) := by
  cases i with
  | zero => rfl
  | succ i =>
    simp only [group?, behind, List.getElem?_map]
    cases f.groups[i]? with
    | none => rfl
    | some g => rfl

namespace Scanner

variable {s : Scanner} {m : Regex.Mode} {q : Query} {u w : Text}

/-! ## What is shown -/

@[simp] theorem slice?_behind (s : Scanner) (u : Text) (sp : Span) :
    (s.behind u).slice? (sp.shift (Text.size u)) = s.slice? sp := by
  obtain ⟨input, cursor, found, cache⟩ := s
  cases input with
  | none => rfl
  | some t => exact Text.slice?_append_right u t sp

theorem rest_behind (s : Scanner) (u : Text) : (s.behind u).rest = s.rest := by
  obtain ⟨input, cursor, found, cache⟩ := s
  cases input with
  | none => rfl
  | some t => simp only [rest, behind, Option.map_some, Option.bind_some, Text.drop?_append_right]

theorem isAtEnd_behind (s : Scanner) (u : Text) : (s.behind u).isAtEnd = s.isAtEnd := by
  obtain ⟨input, cursor, found, cache⟩ := s
  cases input with
  | none => rfl
  | some t =>
    have hle : Text.size u + Text.size t ≤ cursor + Text.size u ↔ Text.size t ≤ cursor := by omega
    simp only [isAtEnd, behind, Option.map_some, Option.all_some, Text.size_append, hle]

theorem captures_behind (s : Scanner) (u : Text) : (s.behind u).captures = s.captures := by
  obtain ⟨input, cursor, found, cache⟩ := s
  cases found with
  | none => rfl
  | some f =>
    simp only [captures, behind, Option.map_some, Option.elim_some, Found.behind, List.map_map]
    refine List.map_congr_left fun g _ => ?_
    cases hg : g.2 with
    | none => simp only [Function.comp_apply, hg, Option.map_none, Option.bind_none]
    | some sp =>
      simp only [Function.comp_apply, hg, Option.map_some, Option.bind_some]
      exact slice?_behind ⟨input, cursor, some f, cache⟩ u sp

theorem matched_behind (s : Scanner) (u : Text) : (s.behind u).matched = s.matched := by
  obtain ⟨input, cursor, found, cache⟩ := s
  cases found with
  | none => rfl
  | some f => exact slice?_behind ⟨input, cursor, some f, cache⟩ u f.span

theorem groupNamed_behind (s : Scanner) (u name : Text) :
    (s.behind u).groupNamed name = s.groupNamed name := by
  obtain ⟨input, cursor, found, cache⟩ := s
  cases found with
  | none => rfl
  | some f =>
    simp only [groupNamed, behind, Option.map_some, Option.bind_some, Found.groupNamed?_behind]
    cases f.groupNamed? name with
    | none => rfl
    | some sp => exact slice?_behind ⟨input, cursor, some f, cache⟩ u sp

theorem group_behind (s : Scanner) (u : Text) (i : Nat) : (s.behind u).group i = s.group i := by
  obtain ⟨input, cursor, found, cache⟩ := s
  cases found with
  | none => rfl
  | some f =>
    simp only [group, behind, Option.map_some, Option.bind_some, Found.group?_behind]
    cases f.group? i with
    | none => rfl
    | some sp => exact slice?_behind ⟨input, cursor, some f, cache⟩ u sp

theorem afterMatch_behind (s : Scanner) (u : Text) : (s.behind u).afterMatch = s.afterMatch := by
  obtain ⟨input, cursor, found, cache⟩ := s
  cases found with
  | none => rfl
  | some f =>
    cases input with
    | none => rfl
    | some t => exact Text.drop?_append_right u t f.span.stop

theorem matchedSpan_behind (s : Scanner) (u : Text) :
    (s.behind u).matchedSpan = s.matchedSpan.map (Span.shift (Text.size u)) := by
  obtain ⟨input, cursor, found, cache⟩ := s
  cases found <;> rfl

theorem matchedSize_behind (s : Scanner) (u : Text) : (s.behind u).matchedSize = s.matchedSize := by
  have hlength : (Span.length ∘ Span.shift (Text.size u)) = Span.length :=
    funext fun sp => Span.length_shift (Text.size u) sp
  rw [matchedSize, matchedSpan_behind, Option.map_map, matchedSize]
  exact congrArg (fun f => s.matchedSpan.map f) hlength

theorem sameAhead_behind (u : Text) (s : Scanner) : (s.behind u).SameAhead (Text.size u) s where
  cursor := rfl
  span := matchedSpan_behind s u
  atEnd := isAtEnd_behind s u
  rest := rest_behind s u
  restSize := by rw [restSize, rest_behind, restSize]
  peek k := by rw [peek, rest_behind, peek]
  matched := matched_behind s u
  size := matchedSize_behind s u
  captures := captures_behind s u
  named := groupNamed_behind s u
  cached := rfl

/-! ## One request -/

/-- **An attempt does not see what stands before the cursor.** -/
theorem attempt_behind (s : Scanner) (u : Text) (m : Regex.Mode) (q : Query) :
    (s.behind u).attempt m q = (s.attempt m q).behind u := by
  cases hq : q.compiled with
  | error e =>
    rw [attempt_of_error hq, attempt_of_error hq]
    rfl
  | ok p =>
    obtain ⟨c, es, hresolve, hes⟩ := Query.resolve_of_compiled hq s.cache
    have hes := Event.map_behind_of_isCached (n := Text.size u) hes
    obtain ⟨input, cursor, found, cache⟩ := s
    simp only [attempt, behind, hresolve]
    cases input with
    | none => simp only [Option.map_none, Attempt.behind, behind, hes]; rfl
    | some t =>
      simp only [Option.map_some, Text.drop?_append_right]
      cases Text.drop? t cursor with
      | none => simp only [Attempt.behind, behind, List.map_append, hes]; rfl
      | some region =>
        dsimp only
        cases p.regex.hit? m region with
        | none => simp only [Attempt.behind, behind, List.map_append, hes]; rfl
        | some h =>
          simp only [Attempt.behind, behind, List.map_append, hes, Found.ofHit_add]
          rfl

/-- What is said of an attempt does not change if what is said of a match does not. -/
theorem ofAttempt_behind (a : Attempt) {say say' : Found → Reply}
    (hsay : ∀ f, say' (f.behind (Text.size u)) = say f) :
    Reply.ofAttempt (a.behind u) say' = Reply.ofAttempt a say := by
  obtain ⟨result, scanner, events⟩ := a
  cases result with
  | error e => rfl
  | ok r =>
    cases r with
    | none => rfl
    | some f => exact hsay f

theorem answerAttempt_behind {say say' : Found → Reply}
    (hsay : ∀ f, say' (f.behind (Text.size u)) = say f) :
    answerAttempt ((s.behind u).attempt m q) say' =
      (answerAttempt (s.attempt m q) say).behind u := by
  rw [attempt_behind, answerAttempt, ofAttempt_behind _ hsay]
  rfl

theorem terminate_behind (hi : s.input = some w) :
    (s.behind u).terminate = s.terminate.behind u := by
  obtain ⟨input, cursor, found, cache⟩ := s
  obtain rfl : input = some w := hi
  simp only [terminate, behind, Option.map_some, Option.elim_some, Text.size_append,
    Option.map_none, Nat.add_comm]

/-- **A request that looks ahead gets the same reply**, and the scanner behind it is again the same
but for the text that is put before. -/
theorem answer_behind {r : Request} (hr : r.looksAhead = true) (hi : s.input = some w) :
    (s.behind u).answer r = (s.answer r).behind u := by
  have htext : ∀ f : Found, (s.behind u).sayText (f.behind (Text.size u)) = s.sayText f := by
    intro f
    rw [sayText, sayText]
    exact congrArg Reply.ofText? (slice?_behind s u f.span)
  cases r with
  | scan q => exact answerAttempt_behind htext
  | scanUntil q => exact answerAttempt_behind htext
  | takeChar => exact answerAttempt_behind htext
  | skip q =>
    exact answerAttempt_behind fun f => congrArg Reply.number (Span.length_shift _ f.span)
  | skipUntil q =>
    exact answerAttempt_behind fun f => congrArg Reply.number (Nat.add_sub_add_right ..)
  | terminate => simp only [answer, Answer.behind, terminate_behind hi]; rfl
  | peek n => simp only [answer, Answer.behind, peek, rest_behind]; rfl
  | rest => simp only [answer, Answer.behind, rest_behind]; rfl
  | restSize => simp only [answer, Answer.behind, restSize, rest_behind]; rfl
  | afterMatch => simp only [answer, Answer.behind, afterMatch_behind]; rfl
  | groupNamed name => simp only [answer, Answer.behind, groupNamed_behind]; rfl
  | group i => simp only [answer, Answer.behind, group_behind]; rfl
  | _ => exact absurd hr (by simp [Request.looksAhead])

/-! ## Series of requests -/

/-- A series of requests that look ahead gets the same replies. -/
theorem answers_behind {rs : List Request} (hrs : ∀ r ∈ rs, r.looksAhead = true)
    (hi : s.input = some w) :
    ((s.behind u).answers rs).1 = (s.answers rs).1.map (Answer.behind u) := by
  induction rs generalizing s with
  | nil => rfl
  | cons r rs ih =>
    have hr := answer_behind (u := u) (hrs r List.mem_cons_self) hi
    have hrs := ih (fun r' hr' => hrs r' (List.mem_cons_of_mem r hr')) ((input_answer s r).trans hi)
    simp only [answers, hr, List.map_cons]
    exact congrArg _ hrs

/-- **What stands before the cursor does not show.**  A scanner over `u ++ w` is put behind `u`, and
another one starts with `w`.  The two are asked for the same, with nothing that looks back.  Then
they give the same replies, faults included; and at first and behind every request they show the
same and have cached as much, where the cursor and the span of the match are just `Text.size u`
further on in the first. -/
theorem same_ahead (u w : Text) {rs : List Request} (hrs : ∀ r ∈ rs, r.looksAhead = true) :
    let s := (new (some (u ++ w))).moveTo (Text.size u)
    let s' := new (some w)
    s.SameAhead (Text.size u) s' ∧
      List.Forall₂ (Answer.SameAhead (Text.size u)) (s.answers rs).1 (s'.answers rs).1 := by
  intro s s'
  have hs : s = s'.behind u := by
    simp only [s, s', new, moveTo, behind, Option.map_some, Option.map_none, Nat.zero_add]
  rw [hs, answers_behind hrs rfl, List.forall₂_map_left_iff, List.forall₂_same]
  exact ⟨sameAhead_behind u s', fun a _ => ⟨rfl, sameAhead_behind u a.scanner, rfl⟩⟩

/-- Behind `é` and a line feed, with an anchor at the start, a word boundary and a fault. -/
theorem same_ahead_lineFeed :
    let rs : List Request :=
      [.scan (.source "^(?<x>b)".toList), .skipUntil (.source "\\b(?:c)?".toList),
        .scan (.source "(".toList), .groupNamed "x".toList, .takeChar, .terminate, .peek 1]
    let s := (new (some ("é\n".toList ++ "b c".toList))).moveTo (Text.size "é\n".toList)
    let s' := new (some "b c".toList)
    (∀ r ∈ rs, r.looksAhead = true) ∧ s.SameAhead 3 s' ∧
      List.Forall₂ (Answer.SameAhead 3) (s.answers rs).1 (s'.answers rs).1 := by
  intro rs s s'
  have hrs : ∀ r ∈ rs, r.looksAhead = true := by decide
  exact ⟨hrs, same_ahead "é\n".toList "b c".toList hrs⟩

end Scanner
end TextScan
