/-
# The cache does not show

Two scanners that differ in their caches at most are alike.  Asked for the same, they reply the same
and stay alike (`answer_alike`), where one may be given a source and the other one the pattern that
the source compiles to.  So two series of requests get the same answers (`answers_agree`): every
reply, faults included, every reading of the scanner (`Scanner.reading`), and every event that does
not tell of the cache.

No assumption is made on the caches.  That an entry is the pattern of its own source is a part of
what an entry is (`Cache.compile_of_find?`).
-/

import Mathlib.Data.List.Forall2
import TextScan.Proofs.Scanner.Attempts
import TextScan.Proofs.Scanner.Readings

namespace TextScan

/-- Two queries ask for one pattern: they are the same, or a source and what it compiles to. -/
inductive Query.Alike : Query → Query → Prop where
  | refl (q : Query) : Alike q q
  | precompiled {s : Text} {p : Pattern} (h : Pattern.compile s = .ok p) :
      Alike (.source s) (.pattern p)
  | uncompiled {s : Text} {p : Pattern} (h : Pattern.compile s = .ok p) :
      Alike (.pattern p) (.source s)

theorem Query.Alike.compiled_eq {q q' : Query} (h : q.Alike q') : q.compiled = q'.compiled := by
  cases h with
  | refl => rfl
  | precompiled h => exact h
  | uncompiled h => exact h.symm

/-- Two requests ask for the same. -/
inductive Request.Alike : Request → Request → Prop where
  | refl (r : Request) : Alike r r
  | scan {q q' : Query} (h : q.Alike q') : Alike (.scan q) (.scan q')
  | scanUntil {q q' : Query} (h : q.Alike q') : Alike (.scanUntil q) (.scanUntil q')
  | skip {q q' : Query} (h : q.Alike q') : Alike (.skip q) (.skip q')
  | skipUntil {q q' : Query} (h : q.Alike q') : Alike (.skipUntil q) (.skipUntil q')

/-- Two scanners differ in their caches at most. -/
structure Scanner.Alike (s s' : Scanner) : Prop where
  input : s.input = s'.input
  cursor : s.cursor = s'.cursor
  found : s.found = s'.found

/-- The events that do not tell of the cache. -/
def Event.visible (es : List Event) : List Event := es.filter fun e => !e.isCached

/-- Two answers with one reply, alike scanners, and the same events but for those of the cache. -/
structure Answer.Alike (a a' : Answer) : Prop where
  reply : a.reply = a'.reply
  scanner : a.scanner.Alike a'.scanner
  events : Event.visible a.events = Event.visible a'.events

/-- Two answers agree: in the reply, in what the scanner shows after it, and in the events. -/
structure Answer.Agree (a a' : Answer) : Prop where
  reply : a.reply = a'.reply
  reading : a.scanner.reading = a'.scanner.reading
  sameMatch : a.scanner.SameMatch a'.scanner
  events : Event.visible a.events = Event.visible a'.events

theorem Event.visible_append_of_isCached {es es' : List Event} (h : ∀ e ∈ es, e.isCached = true) :
    visible (es ++ es') = visible es' := by
  have hes : es.filter (fun e => !e.isCached) = [] := by
    rw [List.filter_eq_nil_iff]
    intro e he
    simp [h e he]
  rw [visible, List.filter_append, hes, List.nil_append, visible]

namespace Scanner

variable {s s' : Scanner} {q q' : Query} {m : Regex.Mode}

theorem Alike.exists_cache (h : s.Alike s') : ∃ c, s' = { s with cache := c } := by
  obtain ⟨input, cursor, found, cache⟩ := s
  obtain ⟨input', cursor', found', cache'⟩ := s'
  obtain ⟨rfl, rfl, rfl⟩ := h
  exact ⟨cache', rfl⟩

/-- An attempt with a pattern leaves the cache alone and does not look at it. -/
theorem attempt_pattern_cache (p : Pattern) (c : Cache) :
    ({ s with cache := c } : Scanner).attempt m (.pattern p) =
      { s.attempt m (.pattern p) with
        scanner := { (s.attempt m (.pattern p)).scanner with cache := c } } := by
  simp only [attempt, Query.resolve]
  cases s.input with
  | none => rfl
  | some t =>
    dsimp only
    cases Text.drop? t s.cursor with
    | none => rfl
    | some region =>
      dsimp only
      cases p.regex.hit? m region with
      | none => rfl
      | some h => rfl

/-- **Attempts with alike scanners and queries have the same result.** -/
theorem attempt_alike (hs : s.Alike s') (hq : q.Alike q') :
    (s.attempt m q).result = (s'.attempt m q').result ∧
      (s.attempt m q).scanner.Alike (s'.attempt m q').scanner ∧
      Event.visible (s.attempt m q).events = Event.visible (s'.attempt m q').events := by
  cases hc : q.compiled with
  | error e =>
    rw [attempt_of_error hc, attempt_of_error (hq.compiled_eq ▸ hc)]
    exact ⟨rfl, hs, rfl⟩
  | ok p =>
    obtain ⟨c₁, es₁, hes₁, hr₁, hs₁, hev₁⟩ := attempt_of_compiled (s := s) (m := m) hc
    obtain ⟨c₂, es₂, hes₂, hr₂, hs₂, hev₂⟩ :=
      attempt_of_compiled (s := s') (m := m) (hq.compiled_eq ▸ hc)
    obtain ⟨c, rfl⟩ := hs.exists_cache
    rw [attempt_pattern_cache] at hr₂ hs₂ hev₂
    rw [hr₁, hr₂, hs₁, hs₂, hev₁, hev₂, Event.visible_append_of_isCached hes₁,
      Event.visible_append_of_isCached hes₂]
    exact ⟨rfl, ⟨rfl, rfl, rfl⟩, rfl⟩

theorem answerAttempt_alike {say say' : Found → Reply} (hs : s.Alike s') (hq : q.Alike q')
    (hsay : say = say') :
    (answerAttempt (s.attempt m q) say).Alike (answerAttempt (s'.attempt m q') say') := by
  obtain ⟨hresult, hscanner, hevents⟩ := attempt_alike (m := m) hs hq
  refine ⟨?_, hscanner, hevents⟩
  simp only [answerAttempt, Reply.ofAttempt, hresult, hsay]

/-- **Alike scanners answer alike** where they are asked for the same. -/
theorem answer_alike {r r' : Request} (hs : s.Alike s') (hr : r.Alike r') :
    (s.answer r).Alike (s'.answer r') := by
  have htext : s.sayText = s'.sayText := by
    obtain ⟨c, rfl⟩ := hs.exists_cache
    rfl
  have hway : (fun f : Found => Reply.number (f.span.stop - s.cursor)) =
      fun f => .number (f.span.stop - s'.cursor) := by
    rw [hs.cursor]
  cases hr with
  | scan hq => exact answerAttempt_alike hs hq htext
  | scanUntil hq => exact answerAttempt_alike hs hq htext
  | skip hq => exact answerAttempt_alike hs hq rfl
  | skipUntil hq => exact answerAttempt_alike hs hq hway
  | refl r =>
    cases r with
    | scan q => exact answerAttempt_alike hs (.refl q) htext
    | scanUntil q => exact answerAttempt_alike hs (.refl q) htext
    | skip q => exact answerAttempt_alike hs (.refl q) rfl
    | skipUntil q => exact answerAttempt_alike hs (.refl q) hway
    | takeChar => exact answerAttempt_alike hs (.refl _) htext
    | _ =>
      -- The other requests neither read the cache nor write it.
      obtain ⟨c, rfl⟩ := hs.exists_cache
      exact ⟨rfl, ⟨rfl, rfl, rfl⟩, rfl⟩

/-- **The cache does not show.**  Two scanners with the same text, cursor and match, whatever their
caches hold, give answers that agree to two series of requests that ask for the same. -/
theorem answers_agree {rs rs' : List Request} (hs : s.Alike s')
    (hrs : List.Forall₂ Request.Alike rs rs') :
    List.Forall₂ Answer.Agree (s.answers rs).1 (s'.answers rs').1 := by
  induction hrs generalizing s s' with
  | nil => exact .nil
  | cons hr hrs ih =>
    have ha := answer_alike hs hr
    obtain ⟨hinput, hcursor, hfound⟩ := ha.scanner
    exact .cons ⟨ha.reply, reading_eq hinput hcursor hfound, sameMatch_of_found hinput hfound,
      ha.events⟩ (ih ha.scanner)

/-- A scanner that was used and then reset agrees with a new one, given a source or its pattern. -/
theorem answers_agree_reset :
    let fresh := new (some "aab".toList)
    let used := (fresh.answers [.scan (.source "a+".toList), .takeChar, .reset]).2
    ∃ p, Pattern.compile "a".toList = .ok p ∧ used.cache ≠ fresh.cache ∧ used.Alike fresh ∧
      List.Forall₂ Answer.Agree
        (used.answers [.skip (.source "a".toList), .takeChar, .scan (.source "(".toList)]).1
        (fresh.answers [.skip (.pattern p), .takeChar, .scan (.source "(".toList)]).1 := by
  intro fresh used
  have hcompile : Pattern.compile "a".toList = .ok ⟨"a".toList, _, rfl⟩ := rfl
  have halike : used.Alike fresh := ⟨rfl, rfl, rfl⟩
  exact ⟨_, hcompile, by decide, halike, answers_agree halike
    (.cons (.skip (.precompiled hcompile)) (.cons (.refl _) (.cons (.refl _) .nil)))⟩

end Scanner
end TextScan
