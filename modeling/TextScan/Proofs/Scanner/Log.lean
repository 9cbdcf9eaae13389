/-
# The log of a search

A search without a pattern tells nothing.  One with a pattern tells that the pattern came into the
cache, that the search started, and how it ended, in this order.  The first is told of a source that
was not in the cache, the second where there is a text, and the third where the cursor is on a
boundary of it (`log_of_search`).

In the log the span of a match counts from the cursor, for the search knows of nothing that stands
before it.  The span of the last match is the same one with the cursor added (`exists_ends`).
-/

import TextScan.Proofs.Scanner.Caching
import TextScan.Proofs.Scanner.Cursors

namespace TextScan

/-! ## Lines -/

namespace Event

theorem line_of_level_eq_trace {e : Event} (h : e.level = .trace) :
    e.line = "TRACE ".toList ++ e.message := by
  rw [line, h]
  rfl

variable (m : Regex.Mode) (p : Pattern)

theorem line_cached :
    (cached p).line = "DEBUG Caching pattern '".toList ++ p.display ++ "'".toList := rfl

theorem line_started (n : Nat) : (started m p n).line =
    "TRACE ".toList ++ modeName m ++ " scan for '".toList ++ p.display ++ "' at ".toList ++
      Text.ofNat n := by
  have hopen : " scan for '".toList = " scan for ".toList ++ ['\''] := rfl
  have hclose : "' at ".toList = ['\''] ++ " at ".toList := rfl
  rw [line_of_level_eq_trace rfl, hopen, hclose]
  unfold message shown
  simp only [List.append_assoc]

theorem line_matched (span : Span) : (matched m p span).line =
    "TRACE ".toList ++ modeName m ++ " match of '".toList ++ p.display ++ "' at Some(".toList ++
      Text.ofNat span.start ++ "..".toList ++ Text.ofNat span.stop ++ ")".toList := by
  have hopen : " match of '".toList = " match of ".toList ++ ['\''] := rfl
  have hclose : "' at Some(".toList = ['\''] ++ " at Some(".toList := rfl
  have hend : ")".toList = [')'] := rfl
  rw [line_of_level_eq_trace rfl, hopen, hclose, hend]
  unfold message shown Span.display
  simp only [List.append_assoc]

theorem line_missed : (missed m p).line =
    "TRACE ".toList ++ modeName m ++ " search for '".toList ++ p.display ++
      "' found no match".toList := by
  have hopen : " search for '".toList = " search for ".toList ++ ['\''] := rfl
  have hclose : "' found no match".toList = ['\''] ++ " found no match".toList := rfl
  rw [line_of_level_eq_trace rfl, hopen, hclose]
  unfold message shown
  simp only [List.append_assoc]

end Event

/-! ## The parts of the log -/

/-- A request asks for a source that is not in the cache. -/
def Request.AsksNew (r : Request) (c : Cache) : Prop :=
  ∃ source, r.source? = some source ∧ source ∉ c.sources

namespace Scanner

/-- What a search for `p` tells of the cache: that `p` came into it, if it did. -/
structure Caches (s : Scanner) (r : Request) (p : Pattern) (caching : List Event) : Prop where
  cached_iff : caching = [.cached p] ↔ r.AsksNew s.cache
  nothing_iff : caching = [] ↔ ¬r.AsksNew s.cache
  grows_iff : caching = [.cached p] ↔ (s.answer r).scanner.cache.size = s.cache.size + 1

/-- What a search for `p` tells at its start: the cursor, if there is a text. -/
structure Starts (s : Scanner) (m : Regex.Mode) (p : Pattern) (starting : List Event) : Prop where
  started_iff : starting = [.started m p s.cursor] ↔ s.input.isSome = true
  nothing_iff : starting = [] ↔ s.input = none

/-- What a search for `p` tells at its end: nothing if the scanner is astray, else that it found a
match, or that it found none. -/
structure Ends (s : Scanner) (r : Request) (m : Regex.Mode) (p : Pattern) (ending : List Event) :
    Prop where
  nothing_iff : ending = [] ↔ s.Astray
  matched_iff : (∃ span, ending = [.matched m p span]) ↔ s.Succeeds r
  missed_iff : ending = [.missed m p] ↔ ¬s.Astray ∧ ¬s.Succeeds r
  /-- The match that is told of is the last match, seen from the cursor. -/
  span : ∀ span, ending = [.matched m p span] →
    (s.answer r).scanner.matchedSpan = some (span.shift s.cursor)

/-- The log of a search for `p`. -/
structure Tells (s : Scanner) (r : Request) (m : Regex.Mode) (p : Pattern)
    (caching starting ending : List Event) : Prop where
  events : (s.answer r).events = caching ++ starting ++ ending
  caches : s.Caches r p caching
  starts : s.Starts m p starting
  ends : s.Ends r m p ending

variable {s : Scanner} {r : Request} {m : Regex.Mode} {q : Query} {p : Pattern} {t : Text}

/-! ## What is told of the cache -/

/-- An attempt tells of what its query adds to the cache, and then what its pattern tells. -/
theorem attempt_events (hq : q.compiled = .ok p) : (s.attempt m q).events =
    (q.adds? s.cache).toList.map .cached ++ (s.attempt m (.pattern p)).events := by
  obtain ⟨c, es, hes, -, -, hevents⟩ := attempt_of_compiled (s := s) (m := m) hq
  have hfilter := (attempt_adds s m q).2
  have hpattern : (s.attempt m (.pattern p)).events.filter Event.isCached = [] :=
    (attempt_adds s m (.pattern p)).2
  rw [hevents, List.filter_append, hpattern, List.append_nil, List.filter_eq_self.2 hes] at hfilter
  rw [hevents, hfilter]

/-- A search that asks for a new source adds its pattern. -/
theorem adds?_of_asksNew (hr : r.search? = some (m, q)) (hq : q.compiled = .ok p)
    (hnew : r.AsksNew s.cache) : s.adds? r = some p := by
  obtain ⟨source, hsource, hmem⟩ := hnew
  have hsource' : q.source? = some source := by simpa [Request.source?, hr] using hsource
  cases q with
  | pattern p' => exact absurd hsource' (by simp [Query.source?])
  | source source' =>
    obtain rfl : source' = source := Option.some.inj hsource'
    obtain rfl := Pattern.source_of_compile hq
    exact adds?_eq_some_iff.2 ⟨hsource, hmem⟩

theorem adds?_of_not_asksNew (hnew : ¬r.AsksNew s.cache) : s.adds? r = none :=
  Option.eq_none_iff_forall_ne_some.2 fun p hp => hnew ⟨p.source, adds?_eq_some_iff.1 hp⟩

/-- **What is told of the cache** is what is added to it. -/
theorem caches (hr : r.search? = some (m, q)) (hq : q.compiled = .ok p) :
    s.Caches r p ((s.adds? r).toList.map .cached) := by
  have hsize : (s.answer r).scanner.cache.size =
      (s.adds? r).toList.length + s.cache.size := by
    rw [Cache.size, (answer_adds s r).1, List.length_append, Cache.size]
  by_cases hnew : r.AsksNew s.cache
  · rw [adds?_of_asksNew hr hq hnew] at hsize ⊢
    constructor <;> simp [hnew, hsize, Nat.add_comm]
  · rw [adds?_of_not_asksNew hnew] at hsize ⊢
    constructor <;> simp [hnew, hsize]

/-! ## What is told of the search -/

theorem starts : s.Starts m p (s.input.toList.map fun _ => .started m p s.cursor) := by
  cases hi : s.input <;> constructor <;> simp [hi]

/-- Where there is no text from the cursor on, a search tells that it started, and no more. -/
theorem events_of_astray (hi : s.input = some t) (h : s.Astray) :
    (s.attempt m (.pattern p)).events = [.started m p s.cursor] := by
  simp [attempt, Query.resolve, hi, (astray_iff_drop? hi).1 h]

/-- A search in vain tells so. -/
theorem events_of_missed (hi : s.input = some t) (h : ¬s.Astray)
    (hf : p.findAt m t s.cursor = none) :
    (s.attempt m (.pattern p)).events = [.started m p s.cursor, .missed m p] := by
  cases hr : Text.drop? t s.cursor with
  | none => exact absurd ((astray_iff_drop? hi).2 hr) h
  | some region =>
    cases hh : p.regex.hit? m region with
    | none => simp [attempt, Query.resolve, hi, hr, hh]
    | some h => simp [Pattern.findAt, hr, hh] at hf

/-- A search that finds a match tells where it is from the cursor on. -/
theorem events_of_found {f : Found} (hi : s.input = some t)
    (hf : p.findAt m t s.cursor = some f) :
    ∃ span, f.span = span.shift s.cursor ∧ (s.attempt m (.pattern p)).events =
      [.started m p s.cursor, .matched m p span] := by
  obtain ⟨region, h, hr, hh, rfl⟩ := Pattern.findAt_eq_some_iff.1 hf
  exact ⟨h.span, rfl, by simp [attempt, Query.resolve, hi, hr, hh]⟩

/-- **What is told at the end of a search** fits what came of it. -/
theorem exists_ends (hr : r.search? = some (m, q)) (hq : q.compiled = .ok p) :
    ∃ ending, s.Ends r m p ending ∧ (s.attempt m (.pattern p)).events =
      (s.input.toList.map fun _ => .started m p s.cursor) ++ ending := by
  by_cases hastray : s.Astray
  · have hends : s.Ends r m p [] := by
      constructor <;> simp [hastray, hastray.not_succeeds]
    refine ⟨[], hends, ?_⟩
    cases hi : s.input with
    | none => rw [attempt_absent hi]; rfl
    | some t => rw [events_of_astray hi hastray]; rfl
  cases search_outcome (s := s) hr with
  | fault e he _ => exact absurd (hq.symm.trans he) (by simp)
  | absent p' c _ hi _ _ => exact absurd (.absent hi) hastray
  | missed p' c t hp' hi hf hreply _ =>
    obtain rfl := Except.ok.inj (hq.symm.trans hp')
    have hno : ¬s.Succeeds r := fun h => h.2.2 hreply
    refine ⟨[.missed m p], ?_, ?_⟩
    · constructor <;> simp [hastray, hno]
    · rw [events_of_missed hi hastray hf, hi]
      rfl
  | found p' c t f u hp' hi hf _ _ hscanner =>
    obtain rfl := Except.ok.inj (hq.symm.trans hp')
    have hyes : s.Succeeds r := (succeeds_iff hr).2 ⟨t, p, f, hi, hq, hf⟩
    obtain ⟨span, hspan, hevents⟩ := events_of_found hi hf
    refine ⟨[.matched m p span], ⟨?_, ?_, ?_, fun span' hspan' => ?_⟩, ?_⟩
    · simp [hastray]
    · simp [hyes]
    · simp [hyes]
    · obtain rfl : span = span' := by simpa using hspan'
      rw [hscanner, matchedSpan, Option.map_some, hspan]
    · rw [hevents, hi]
      rfl

/-! ## The log -/

theorem exists_tells (hr : r.search? = some (m, q)) (hq : q.compiled = .ok p) :
    ∃ caching starting ending, s.Tells r m p caching starting ending := by
  obtain ⟨ending, hends, hevents⟩ := exists_ends (s := s) hr hq
  obtain ⟨say, hanswer, -⟩ := exists_say (s := s) hr
  refine ⟨_, _, ending, ?_, caches hr hq, starts, hends⟩
  have hadds : s.adds? r = q.adds? s.cache := by rw [adds?, hr, Option.bind_some]
  rw [hanswer, hadds, List.append_assoc, ← hevents]
  exact attempt_events hq

/-- **The log of a search tells what it did.**  A search whose source does not compile tells nothing.
One that has a pattern tells first that the pattern came into the cache, if it is that of a source
that was not there; then that the search started at the cursor, if there is a text; and then how it
ended, unless the cursor is beyond the end or inside a character.  A match is told of if and only if
the search succeeds, with the span that the last match has after it, but counted from the cursor.
The lines name the pattern, and the mode: `Anchored` for a search that starts at the cursor, and
`Leftmost` for one that goes on behind it. -/
theorem log_of_search (s : Scanner) (hr : r.search? = some (m, q)) :
    (∀ e, q.compiled = .error e → (s.answer r).events = []) ∧
    (∀ p, q.compiled = .ok p →
      ∃ caching starting ending, s.Tells r m p caching starting ending) ∧
    ((∃ q, r = .scan q ∨ r = .skip q) ∨ r = .takeChar → modeName m = "Anchored".toList) ∧
    ((∃ q, r = .scanUntil q ∨ r = .skipUntil q) → modeName m = "Leftmost".toList) ∧
    ∀ p n span,
      (Event.cached p).line = "DEBUG Caching pattern '".toList ++ p.display ++ "'".toList ∧
      (Event.started m p n).line = "TRACE ".toList ++ modeName m ++ " scan for '".toList ++
        p.display ++ "' at ".toList ++ Text.ofNat n ∧
      (Event.matched m p span).line = "TRACE ".toList ++ modeName m ++ " match of '".toList ++
        p.display ++ "' at Some(".toList ++ Text.ofNat span.start ++ "..".toList ++
        Text.ofNat span.stop ++ ")".toList ∧
      (Event.missed m p).line = "TRACE ".toList ++ modeName m ++ " search for '".toList ++
        p.display ++ "' found no match".toList := by
  refine ⟨fun e he => ?_, fun p hq => exists_tells hr hq, ?_, ?_, fun p n span =>
    ⟨Event.line_cached p, Event.line_started m p n, Event.line_matched m p span,
      Event.line_missed m p⟩⟩
  · obtain ⟨say, hanswer, -⟩ := exists_say (s := s) hr
    rw [hanswer]
    exact congrArg Attempt.events (attempt_of_error he)
  · rintro (⟨q', rfl | rfl⟩ | rfl) <;>
      obtain ⟨rfl, -⟩ := Prod.mk.inj (Option.some.inj hr) <;> rfl
  · rintro ⟨q', rfl | rfl⟩ <;> obtain ⟨rfl, -⟩ := Prod.mk.inj (Option.some.inj hr) <;> rfl

/-- Behind the `é` the span of the match is told from there on. -/
theorem log_of_search_behind :
    let s := (new (some "éab".toList)).moveTo 2
    let r : Request := .scanUntil (.source "b".toList)
    r.search? = some (.leftmost, .source "b".toList) ∧
    (∃ p caching starting ending, s.Tells r .leftmost p caching starting ending) ∧
    (s.answer r).scanner.matchedSpan = some ⟨3, 4⟩ ∧
    (s.answer r).events.map Event.line = ["DEBUG Caching pattern 'b'".toList,
      "TRACE Leftmost scan for 'b' at 2".toList,
      "TRACE Leftmost match of 'b' at Some(1..2)".toList] := by
  intro s r
  have hr : r.search? = some (.leftmost, .source "b".toList) := rfl
  have hp : ∃ p, (Query.source "b".toList).compiled = .ok p := ⟨⟨"b".toList, _, rfl⟩, rfl⟩
  refine ⟨hr, ?_, by decide, by decide⟩
  obtain ⟨p, hp⟩ := hp
  exact ⟨p, (log_of_search s hr).2.1 p hp⟩

end Scanner
end TextScan
