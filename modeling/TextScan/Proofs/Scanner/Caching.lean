/-
# What the cache of a scanner holds

A request adds at most one pattern to the cache: that of a source that is not there and compiles
(`Scanner.adds?`).  With the pattern comes one event that tells of it, and nothing else happens to
the cache (`answer_adds`).  So the sources in the cache are those that the scanner was asked for and
that compile (`mem_sources_after`), each of them once (`nodup_sources_after`), and each is told of
once, where it is asked for first (`count_told`, `mem_answer_events_iff`).

A copy starts with the cache of the scanner that it is a copy of and goes on from there; in terms of
the records of a session this is `Session.caches_explained`.
-/

import Mathlib.Data.List.Dedup
import TextScan.Proofs.Scanner.Lineage

namespace TextScan

/-- Whether a source compiles. -/
def Pattern.compiles (source : Text) : Bool := (compile source).isOk

theorem Pattern.compiles_iff {source : Text} :
    compiles source = true ↔ ∃ p, compile source = .ok p := by
  rw [compiles]
  cases compile source with
  | error e => simp [Except.isOk, Except.toBool]
  | ok p => simp [Except.isOk, Except.toBool]

namespace Cache

variable {c : Cache} {source : Text} {p : Pattern}

/-- The sources of the patterns in a cache. -/
def sources (c : Cache) : List Text := c.patterns.map (·.source)

theorem mem_sources : source ∈ c.sources ↔ ∃ p ∈ c.patterns, p.source = source := List.mem_map

/-- A source that is in the cache is found, with the pattern that it compiles to. -/
theorem find?_eq_some_iff :
    c.find? source = some p ↔ source ∈ c.sources ∧ Pattern.compile source = .ok p := by
  constructor
  · intro h
    exact ⟨mem_sources.2 ⟨p, List.mem_of_find?_eq_some h, source_of_find? h⟩, compile_of_find? h⟩
  · rintro ⟨hmem, hp⟩
    obtain ⟨p', hp', hsource⟩ := mem_sources.1 hmem
    cases hfind : c.find? source with
    | none => exact absurd (List.find?_eq_none.1 hfind p' hp') (by simp [hsource])
    | some p'' => exact congrArg some (Except.ok.inj ((compile_of_find? hfind).symm.trans hp))

theorem find?_eq_none_iff : c.find? source = none ↔ source ∉ c.sources := by
  simp only [find?, List.find?_eq_none, mem_sources, beq_iff_eq, not_exists, not_and]

end Cache

/-! ## One request -/

/-- The source that is asked for, if it is one. -/
def Query.source? : Query → Option Text
  | .source s => some s
  | .pattern _ => none

/-- The source that a request asks for; a character is taken by the source that matches any. -/
def Request.source? (r : Request) : Option Text := r.search?.bind fun a => a.2.source?

/-- The sources that requests ask for. -/
def Request.asked (rs : List Request) : List Text := rs.filterMap Request.source?

@[simp] theorem Request.asked_nil : asked [] = [] := rfl

theorem Request.mem_asked_cons {r : Request} {rs : List Request} {source : Text} :
    source ∈ asked (r :: rs) ↔ r.source? = some source ∨ source ∈ asked rs := by
  simp [asked, List.mem_filterMap]

/-- The pattern that a query adds to a cache: that of a source that is not there and compiles. -/
def Query.adds? (q : Query) (c : Cache) : Option Pattern :=
  match q with
  | .pattern _ => none
  | .source s => if s ∈ c.sources then none else (Pattern.compile s).toOption

/-- The pattern that a request adds to the cache. -/
def Scanner.adds? (s : Scanner) (r : Request) : Option Pattern :=
  r.search?.bind fun a => a.2.adds? s.cache

theorem Query.adds?_eq_some_iff {q : Query} {c : Cache} {p : Pattern} :
    q.adds? c = some p ↔ q.source? = some p.source ∧ p.source ∉ c.sources := by
  cases q with
  | pattern p' => simp [adds?, source?]
  | source s =>
    rw [adds?, source?]
    constructor
    · intro h
      split at h
      · exact absurd h (by simp)
      · rename_i hs
        cases hp : Pattern.compile s with
        | error e => simp [hp, Except.toOption] at h
        | ok p' =>
          obtain rfl : p' = p := by simpa [hp, Except.toOption] using h
          rw [Pattern.source_of_compile hp]
          exact ⟨rfl, hs⟩
    · rintro ⟨hs, hnew⟩
      obtain rfl : s = p.source := Option.some.inj hs
      rw [if_neg hnew, Pattern.compile_source]
      rfl

/-- A query comes to its pattern with what it adds to the cache, and tells of that only. -/
theorem Query.resolve_adds (q : Query) (c : Cache) :
    (∃ e, q.resolve c = .error e ∧ q.adds? c = none) ∨
      ∃ p c', q.resolve c = .ok (p, c', (q.adds? c).toList.map Event.cached) ∧
        c'.patterns = (q.adds? c).toList ++ c.patterns := by
  cases q with
  | pattern p => exact Or.inr ⟨p, c, rfl, rfl⟩
  | source s =>
    rw [adds?, resolve]
    cases hfind : c.find? s with
    | some p =>
      rw [if_pos (Cache.find?_eq_some_iff.1 hfind).1]
      exact Or.inr ⟨p, c, rfl, rfl⟩
    | none =>
      rw [if_neg (Cache.find?_eq_none_iff.1 hfind)]
      cases Pattern.compile s with
      | error e => exact Or.inl ⟨e, rfl, rfl⟩
      | ok p => exact Or.inr ⟨p, c.insert p, rfl, rfl⟩

namespace Scanner

variable {s : Scanner} {r : Request} {p : Pattern} {source : Text}

theorem adds?_eq_some_iff :
    s.adds? r = some p ↔ r.source? = some p.source ∧ p.source ∉ s.cache.sources := by
  rw [adds?, Request.source?]
  cases r.search? with
  | none => simp
  | some a => exact Query.adds?_eq_some_iff

theorem attempt_adds (s : Scanner) (m : Regex.Mode) (q : Query) :
    (s.attempt m q).scanner.cache.patterns = (q.adds? s.cache).toList ++ s.cache.patterns ∧
      (s.attempt m q).events.filter Event.isCached =
        (q.adds? s.cache).toList.map Event.cached := by
  rcases q.resolve_adds s.cache with ⟨e, hresolve, hadds⟩ | ⟨p, c, hresolve, hc⟩
  · simp only [attempt, hresolve, hadds]
    exact ⟨rfl, rfl⟩
  · have hcached : ((q.adds? s.cache).toList.map Event.cached).filter Event.isCached =
        (q.adds? s.cache).toList.map Event.cached := by
      cases q.adds? s.cache <;> rfl
    simp only [attempt, hresolve]
    cases s.input with
    | none => exact ⟨hc, hcached⟩
    | some t =>
      dsimp only
      cases Text.drop? t s.cursor with
      | none => simp [hc, hcached, Event.isCached]
      | some region =>
        dsimp only
        cases p.regex.hit? m region with
        | none => simp [hc, hcached, Event.isCached]
        | some h => simp [hc, hcached, Event.isCached]

/-- **A request adds one pattern to the cache or none**, and tells of it. -/
theorem answer_adds (s : Scanner) (r : Request) :
    (s.answer r).scanner.cache.patterns = (s.adds? r).toList ++ s.cache.patterns ∧
      (s.answer r).events.filter Event.isCached = (s.adds? r).toList.map Event.cached := by
  cases hr : r.search? with
  | some a =>
    obtain ⟨m, q⟩ := a
    obtain ⟨say, hanswer, -⟩ := exists_say (s := s) hr
    rw [hanswer, adds?, hr]
    exact attempt_adds s m q
  | none =>
    rw [adds?, hr]
    cases r with
    | scan q => simp [Request.search?] at hr
    | scanUntil q => simp [Request.search?] at hr
    | skip q => simp [Request.search?] at hr
    | skipUntil q => simp [Request.search?] at hr
    | takeChar => simp [Request.search?] at hr
    | _ => exact ⟨rfl, rfl⟩

/-- The cache stays, or it gets the pattern of a source that was not there. -/
theorem cache_answer_cases (s : Scanner) (r : Request) :
    (s.answer r).scanner.cache = s.cache ∨
      ∃ p, r.source? = some p.source ∧ p.source ∉ s.cache.sources ∧
        (s.answer r).scanner.cache = s.cache.insert p := by
  have hpatterns := (answer_adds s r).1
  cases hadds : s.adds? r with
  | none =>
    rw [hadds] at hpatterns
    exact Or.inl (congrArg Cache.mk hpatterns)
  | some p =>
    rw [hadds] at hpatterns
    obtain ⟨hsource, hnew⟩ := adds?_eq_some_iff.1 hadds
    exact Or.inr ⟨p, hsource, hnew, congrArg Cache.mk hpatterns⟩

/-- A source comes into the cache where it is asked for and compiles. -/
theorem mem_sources_answer : source ∈ (s.answer r).scanner.cache.sources ↔
    source ∈ s.cache.sources ∨ r.source? = some source ∧ ∃ p, Pattern.compile source = .ok p := by
  rw [Cache.mem_sources, (answer_adds s r).1]
  constructor
  · rintro ⟨p, hp, rfl⟩
    rcases List.mem_append.1 hp with hp | hp
    · obtain ⟨hsource, -⟩ := adds?_eq_some_iff.1 (Option.mem_toList.1 hp)
      exact Or.inr ⟨hsource, p, Pattern.compile_source p⟩
    · exact Or.inl (Cache.mem_sources.2 ⟨p, hp, rfl⟩)
  · intro h
    by_cases hold : source ∈ s.cache.sources
    · obtain ⟨p, hp, rfl⟩ := Cache.mem_sources.1 hold
      exact ⟨p, List.mem_append_right _ hp, rfl⟩
    · obtain ⟨hsource, p, hp⟩ := h.resolve_left hold
      obtain rfl := Pattern.source_of_compile hp
      have hadds : s.adds? r = some p := adds?_eq_some_iff.2 ⟨hsource, hold⟩
      exact ⟨p, List.mem_append_left _ (Option.mem_toList.2 hadds), rfl⟩

theorem nodup_sources_answer (h : s.cache.sources.Nodup) :
    (s.answer r).scanner.cache.sources.Nodup := by
  rcases cache_answer_cases s r with hc | ⟨p, -, hnew, hc⟩
  · rw [hc]
    exact h
  · rw [hc]
    exact List.nodup_cons.2 ⟨hnew, h⟩

/-- A pattern is told of where it is added to the cache. -/
theorem mem_answer_events_iff : Event.cached p ∈ (s.answer r).events ↔
    r.source? = some p.source ∧ p.source ∉ s.cache.sources := by
  have hmem : Event.cached p ∈ (s.answer r).events ↔
      Event.cached p ∈ (s.answer r).events.filter Event.isCached := by
    simp [List.mem_filter, Event.isCached]
  rw [hmem, (answer_adds s r).2, ← adds?_eq_some_iff]
  simp

theorem count_answer_events : (s.answer r).events.count (.cached p) =
    if r.source? = some p.source ∧ p.source ∉ s.cache.sources then 1 else 0 := by
  have hcount : (s.answer r).events.count (.cached p) =
      ((s.answer r).events.filter Event.isCached).count (.cached p) :=
    (List.count_filter rfl).symm
  rw [hcount, (answer_adds s r).2]
  by_cases h : s.adds? r = some p
  · rw [if_pos (adds?_eq_some_iff.1 h), h]
    simp
  · rw [if_neg (mt adds?_eq_some_iff.2 h), List.count_eq_zero]
    simpa using h

/-! ## Series of requests -/

theorem mem_sources_after {rs : List Request} : source ∈ (s.after rs).cache.sources ↔
    source ∈ s.cache.sources ∨
      source ∈ Request.asked rs ∧ ∃ p, Pattern.compile source = .ok p := by
  induction rs generalizing s with
  | nil => simp [after, answers]
  | cons r rs ih =>
    rw [after_cons, ih, mem_sources_answer, Request.mem_asked_cons, or_and_right, or_assoc]

theorem nodup_sources_after (h : s.cache.sources.Nodup) (rs : List Request) :
    (s.after rs).cache.sources.Nodup := by
  induction rs generalizing s with
  | nil => exact h
  | cons r rs ih => exact ih (nodup_sources_answer h)

/-- Over a series of requests a pattern is told of once if it comes into the cache, and else not. -/
theorem count_told (s : Scanner) (rs : List Request) (p : Pattern) :
    ((s.told rs).flatMap (·.2)).count (.cached p) =
      if p.source ∉ s.cache.sources ∧ p.source ∈ Request.asked rs then 1 else 0 := by
  induction rs generalizing s with
  | nil => simp [told]
  | cons r rs ih =>
    have hp : ∃ p', Pattern.compile p.source = .ok p' := ⟨p, Pattern.compile_source p⟩
    rw [told, List.flatMap_cons, List.count_append, count_answer_events, ih]
    simp only [mem_sources_answer, Request.mem_asked_cons, hp, and_true]
    by_cases hold : p.source ∈ s.cache.sources
    · simp [hold]
    · by_cases hr : r.source? = some p.source
      · simp [hold, hr]
      · simp [hold, hr]

end Scanner

/-! ## Sessions -/

/-- A record explains the cache of a scanner. -/
structure Record.Explains (l : Record) (s : Scanner) : Prop where
  /-- The sources in the cache are those that were asked for and compile. -/
  keys : ∀ source, source ∈ s.cache.sources ↔
    source ∈ Request.asked l.requests ∧ ∃ p, Pattern.compile source = .ok p
  /-- The source that takes a character compiles. -/
  anyCharacter : .takeChar ∈ l.requests → Scanner.anyCharacter ∈ s.cache.sources
  /-- No source is there twice. -/
  distinct : s.cache.sources.Nodup
  size : s.cache.size = ((Request.asked l.requests).dedup.filter Pattern.compiles).length
  /-- Under a source there is the pattern that it compiles to. -/
  entry : ∀ source p, s.cache.find? source = some p ↔
    source ∈ s.cache.sources ∧ Pattern.compile source = .ok p
  /-- A request leaves the cache, or it adds the pattern of a source that was not there. -/
  step : ∀ r, (s.answer r).scanner.cache = s.cache ∨ ∃ p, r.source? = some p.source ∧
    p.source ∉ s.cache.sources ∧ (s.answer r).scanner.cache = s.cache.insert p
  /-- A pattern is told of once if its source was asked for, and was not inherited. -/
  once : ∀ p, l.events.count (.cached p) =
    if p.source ∉ Request.asked l.inherited ∧ p.source ∈ Request.asked (l.own.map (·.1)) then 1
    else 0
  /-- A pattern is told of where its source is asked for first. -/
  first : ∀ pre r es post, l.own = pre ++ (r, es) :: post → ∀ p, .cached p ∈ es ↔
    r.source? = some p.source ∧ p.source ∉ Request.asked (l.inherited ++ pre.map (·.1))

namespace Scanner

variable {rs : List Request} {source : Text}

/-- The sources in the cache of a scanner that was new. -/
theorem mem_sources_after_new (input : Option Text) :
    source ∈ ((new input).after rs).cache.sources ↔
      source ∈ Request.asked rs ∧ ∃ p, Pattern.compile source = .ok p := by
  rw [mem_sources_after]
  simp [new, Cache.empty, Cache.sources]

theorem nodup_sources_after_new (input : Option Text) (rs : List Request) :
    ((new input).after rs).cache.sources.Nodup :=
  nodup_sources_after (s := new input) List.nodup_nil rs

/-- There are as many patterns in the cache as distinct sources that were asked for and compile. -/
theorem size_after_new (input : Option Text) (rs : List Request) :
    ((new input).after rs).cache.size =
      ((Request.asked rs).dedup.filter Pattern.compiles).length := by
  have hperm : ((new input).after rs).cache.sources.Perm
      ((Request.asked rs).dedup.filter Pattern.compiles) := by
    rw [List.perm_ext_iff_of_nodup (nodup_sources_after_new input rs)
      ((List.nodup_dedup _).filter _)]
    intro source
    rw [mem_sources_after_new, List.mem_filter, List.mem_dedup, Pattern.compiles_iff]
  rw [← hperm.length_eq, Cache.size, Cache.sources, List.length_map]

/-- A pattern that was asked for is in the cache of a scanner that was new. -/
theorem source_mem_sources_after_new (input : Option Text) (p : Pattern) :
    p.source ∈ ((new input).after rs).cache.sources ↔ p.source ∈ Request.asked rs := by
  rw [mem_sources_after_new]
  exact and_iff_left ⟨p, Pattern.compile_source p⟩

end Scanner

/-- A record that tells of a scanner explains its cache. -/
theorem Record.TellsOf.explains {l : Record} {s : Scanner} (h : l.TellsOf s) : l.Explains s := by
  obtain ⟨input, rfl, hown⟩ := h
  refine ⟨fun source => Scanner.mem_sources_after_new input, fun hchar => ?_,
    Scanner.nodup_sources_after_new input _, Scanner.size_after_new input _,
    fun source p => Cache.find?_eq_some_iff, Scanner.cache_answer_cases _, fun p => ?_, ?_⟩
  · obtain ⟨p, hp⟩ := Scanner.compiled_anyCharacter
    refine (Scanner.mem_sources_after_new input).2 ⟨?_, p, hp⟩
    exact List.mem_filterMap.2 ⟨.takeChar, hchar, rfl⟩
  · rw [events, hown, Scanner.count_told, Scanner.map_fst_told]
    simp only [Scanner.source_mem_sources_after_new]
  · intro pre r es post hsplit p
    rw [Scanner.events_of_told_eq (hown.symm.trans hsplit), Scanner.mem_answer_events_iff,
      ← Scanner.after_append, Scanner.source_mem_sources_after_new]

/-- **What the cache of a scanner holds.**  A new session takes any steps.  Then each of its scanners
has in its cache, under each source that it or a scanner that it comes from was asked for and that
compiles, the pattern of that source, and nothing else.  Whatever it is asked for next removes no
entry and replaces none.  Of a pattern that it did not inherit there was one event, where its source
was asked for first. -/
theorem Session.caches_explained (input : Option Text) (steps : List Step) :
    List.Forall₂ Record.Explains (records input steps) ((new input).run steps).2.scanners :=
  (records_tell input steps).imp fun _ _ h => h.explains

/-- A copy has what it has inherited and what it adds, also without a text. -/
example :
    let steps : List Step :=
      [.ask (.scan (.source "a".toList)), .clone, .ask .takeChar, .use 1,
        .ask (.skip (.source "(".toList)), .ask (.scanUntil (.source "b".toList)),
        .ask (.scan (.source "a".toList))]
    ((Session.new none).run steps).2.scanners.map (·.cache.sources) =
      [["(?s:.)".toList, "a".toList], ["b".toList, "a".toList]] := by
  decide

end TextScan
