/-
# Nothing breaks off

A safe machine answers every request, stays safe, and does what its scanner does (`answer_safe`): a
match that is found lies in the text, it does not end before the cursor, and a pattern that was just
put into the cache is found there.  A new machine is safe.  So a session of machines over a text that
is smaller than the greatest word takes any steps without breaking off and replies what the session
of scanners replies (`Bench.runs_unbroken`).
-/

import TextScan.Proofs.Guarded.Readings

namespace TextScan

theorem Cache.find?_insert (c : Cache) (p : Pattern) : (c.insert p).find? p.source = some p := by
  rw [find?, insert, List.find?_cons_of_pos (by simp)]

namespace Guarded

/-- **A look-up in the cache does not miss.** -/
theorem resolve_eq (q : Query) (c : Cache) : resolve q c = .ok (q.resolve c) := by
  cases q with
  | pattern p => rfl
  | source s =>
    rw [resolve, fetch, Query.resolve]
    cases hc : c.find? s with
    | some p =>
      rw [lookUp_eq hc]
      rfl
    | none =>
      cases hp : Pattern.compile s with
      | error e => rfl
      | ok p =>
        have hfind : (c.insert p).find? s = some p := by
          rw [← Pattern.source_of_compile hp]
          exact c.find?_insert p
        simp only [lookUp_eq hfind]
        rfl

/-- An outcome is that of an answer, with a machine that is safe. -/
structure Outcome.Answers (o : Outcome) (a : Answer) : Prop where
  reply : o.reply = a.reply
  scanner : o.machine.scanner = a.scanner
  events : o.events = a.events
  safe : o.machine.Safe

/-- A trial is an attempt of a scanner, with the text of a match that ends behind the cursor. -/
structure Trial.Attempts (b : Trial) (s : Scanner) (a : Attempt) : Prop where
  scanner : b.machine.scanner = a.scanner
  events : b.events = a.events
  safe : b.machine.Safe
  error : ∀ e, a.result = .error e → b.result = .error e
  missed : a.result = .ok none → b.result = .ok none
  found : ∀ f, a.result = .ok (some f) → ∃ u, s.slice? f.span = some u ∧ b.result = .ok (some u) ∧
    s.cursor ≤ f.span.stop ∧ b.machine.cursor = f.span.stop

namespace Machine

variable {M : Machine}

theorem safe_new {input : Option Text} (h : ∀ t, input = some t → Text.size t < greatest) :
    (new input).Safe :=
  ⟨h, fun _ hk => absurd hk (by simp [new])⟩

theorem Safe.withCursor (h : M.Safe) (n : Nat) : (⟨M.input, n, M.kept, M.cache⟩ : Machine).Safe :=
  ⟨h.small, h.lies⟩

/-- A machine stays safe where it forgets the match. -/
theorem Safe.forget (h : M.Safe) (n : Nat) (c : Cache) :
    (⟨M.input, n, none, c⟩ : Machine).Safe :=
  ⟨h.small, fun _ hk => absurd hk (by simp)⟩

/-- **An attempt does not break off.** -/
theorem attempt_safe (h : M.Safe) (m : Regex.Mode) (q : Query) :
    ∃ b, M.attempt m q = .ok b ∧ b.Attempts M.scanner (M.scanner.attempt m q) := by
  obtain ⟨input, cursor, kept, cache⟩ := M
  simp only [attempt, resolve_eq, ok_bind, Scanner.attempt, scanner]
  cases q.resolve cache with
  | error e =>
    dsimp only
    exact ⟨_, rfl, rfl, rfl, h, fun e' he => congrArg Except.error (Except.error.inj he),
      fun hn => absurd hn (by simp), fun f hf => absurd hf (by simp)⟩
  | ok r =>
    obtain ⟨p, c, es⟩ := r
    dsimp only
    cases input with
    | none =>
      exact ⟨_, rfl, rfl, rfl, ⟨h.small, h.lies⟩, fun e he => absurd he (by simp), fun _ => rfl,
        fun f hf => absurd hf (by simp)⟩
    | some t =>
      dsimp only
      cases hr : Text.drop? t cursor with
      | none =>
        exact ⟨_, rfl, rfl, rfl, h.forget cursor c, fun e he => absurd he (by simp),
          fun _ => rfl, fun f hf => absurd hf (by simp)⟩
      | some region =>
        dsimp only
        cases hh : p.regex.hit? m region with
        | none =>
          exact ⟨_, rfl, rfl, rfl, h.forget cursor c, fun e he => absurd he (by simp),
            fun _ => rfl, fun f hf => absurd hf (by simp)⟩
        | some hit =>
          have hfind : p.findAt m t cursor = some (Kept.found ⟨cursor, p.regex, hit⟩) :=
            Pattern.findAt_eq_some_iff.2 ⟨region, hit, hr, hh, rfl⟩
          have hlies := Pattern.liesIn_of_findAt hfind
          have hle := (Pattern.le_start_of_findAt hfind).1
          obtain ⟨u, hu, hcut⟩ := Kept.cut_of_liesIn hlies.span
          dsimp only
          rw [Kept.span_eq hlies (h.small t rfl), ok_bind, hcut, ok_bind]
          refine ⟨_, rfl, rfl, rfl, ⟨h.small, fun k hk => ?_⟩, fun e he => absurd he (by simp),
            fun hn => absurd hn (by simp), fun f hf => ?_⟩
          · obtain rfl := Option.some.inj hk
            exact ⟨t, rfl, hlies⟩
          · obtain rfl := Option.some.inj (Except.ok.inj hf)
            exact ⟨u, hu, rfl, Nat.le_trans hle hlies.span.ordered, rfl⟩

/-- What is said of a trial answers what is said of the attempt, if the two say the same of a
match. -/
theorem outcome_answers {b : Trial} {s : Scanner} {a : Attempt} (h : b.Attempts s a)
    {say : Trial → Text → Guarded Reply} {say' : Found → Reply}
    (hsay : ∀ f u, s.slice? f.span = some u → s.cursor ≤ f.span.stop →
      b.machine.cursor = f.span.stop → say b u = .ok (say' f)) :
    ∃ o, outcome (.ok b) say = .ok o ∧ o.Answers (Scanner.answerAttempt a say') := by
  rw [outcome, ok_bind]
  cases ha : a.result with
  | error e =>
    rw [h.error e ha]
    exact ⟨_, rfl, by simp [Scanner.answerAttempt, Reply.ofAttempt, ha], h.scanner, h.events, h.safe⟩
  | ok r =>
    cases r with
    | none =>
      rw [h.missed ha]
      exact ⟨_, rfl, by simp [Scanner.answerAttempt, Reply.ofAttempt, ha], h.scanner, h.events,
        h.safe⟩
    | some f =>
      obtain ⟨u, hu, hresult, hle, hcursor⟩ := h.found f ha
      rw [hresult]
      dsimp only
      rw [hsay f u hu hle hcursor]
      exact ⟨_, rfl, by simp [Scanner.answerAttempt, Reply.ofAttempt, ha], h.scanner, h.events,
        h.safe⟩

theorem say_answers (h : M.Safe) {reply : Guarded Reply} {reply' : Reply} (hr : reply = .ok reply') :
    ∃ o, M.say reply = .ok o ∧ o.Answers ⟨reply', M.scanner, []⟩ := by
  rw [say, hr]
  exact ⟨_, rfl, rfl, rfl, rfl, h⟩

/-- Taking a character has no fault to pass over. -/
theorem takeChar_safe (h : M.Safe) :
    ∃ o, M.takeChar = .ok o ∧ o.Answers (M.scanner.answer .takeChar) := by
  obtain ⟨b, hb, hab⟩ := attempt_safe h .anchored (.source Scanner.anyCharacter)
  obtain ⟨p, hp⟩ := Scanner.compiled_anyCharacter
  rw [takeChar, hb, ok_bind]
  refine ⟨_, rfl, ?_, hab.scanner, hab.events, hab.safe⟩
  have hreply : (M.scanner.answer .takeChar).reply = Reply.ofAttempt
      (M.scanner.attempt .anchored (.source Scanner.anyCharacter)) M.scanner.sayText := rfl
  rw [hreply]
  cases ha : (M.scanner.attempt .anchored (.source Scanner.anyCharacter)).result with
  | error e => exact absurd ha (Scanner.result_ne_error hp e)
  | ok r =>
    cases r with
    | none => simp [Reply.ofAttempt, Reply.ofText?, ha, hab.missed ha, Except.toOption]
    | some f =>
      obtain ⟨u, hu, hresult, -⟩ := hab.found f ha
      simp [Reply.ofAttempt, ha, hresult, Except.toOption, Scanner.sayText_eq hu, Reply.ofText?]

/-- An attempt is answered if it can be said what is to be said of a match that lies in the text and
ends behind the cursor. -/
theorem attempt_answers (h : M.Safe) (m : Regex.Mode) (q : Query)
    {say : Trial → Text → Guarded Reply} {say' : Found → Reply}
    (hsay : ∀ b f u, M.scanner.slice? f.span = some u → M.cursor ≤ f.span.stop →
      b.machine.cursor = f.span.stop → say b u = .ok (say' f)) :
    ∃ o, outcome (M.attempt m q) say = .ok o ∧
      o.Answers (Scanner.answerAttempt (M.scanner.attempt m q) say') := by
  obtain ⟨b, hb, hab⟩ := attempt_safe h m q
  rw [hb]
  exact outcome_answers hab (hsay b)

/-- **A safe machine answers every request and stays safe.** -/
theorem answer_safe (h : M.Safe) (r : Request) :
    ∃ o, M.answer r = .ok o ∧ o.Answers (M.scanner.answer r) := by
  cases r with
  | scan q => exact attempt_answers h _ q fun _ f u hu _ _ => by rw [Scanner.sayText_eq hu]
  | scanUntil q => exact attempt_answers h _ q fun _ f u hu _ _ => by rw [Scanner.sayText_eq hu]
  | skip q =>
    refine attempt_answers h _ q fun _ f u hu _ _ => ?_
    obtain ⟨t, -, ht⟩ := Option.bind_eq_some_iff.1 hu
    rw [Text.size_of_slice? ht]
  | skipUntil q =>
    refine attempt_answers h _ q fun b f u _ hle hcursor => ?_
    rw [hcursor, sub_eq hle]
    rfl
  | takeChar => exact takeChar_safe h
  | moveTo n => exact ⟨_, rfl, rfl, rfl, rfl, h.withCursor n⟩
  | reset => exact ⟨_, rfl, rfl, rfl, rfl, h.forget 0 M.cache⟩
  | terminate => exact ⟨_, rfl, rfl, rfl, rfl, h.forget _ M.cache⟩
  | peek n => exact say_answers h (by rw [peek_eq]; rfl)
  | rest => exact say_answers h rfl
  | restSize => exact say_answers h rfl
  | beforeMatch => exact say_answers h (by rw [beforeMatch_eq h]; rfl)
  | afterMatch => exact say_answers h (by rw [afterMatch_eq h]; rfl)
  | groupNamed n => exact say_answers h (by rw [groupNamed_eq h]; rfl)
  | group i => exact say_answers h (by rw [group_eq h]; rfl)
  | lastMatch => exact say_answers h (by rw [matchView_eq h]; rfl)
  | location n => exact say_answers h (by rw [location_eq h]; rfl)
  | cursorLocation => exact say_answers h (by rw [location_eq h]; rfl)
  | input => exact say_answers h rfl

end Machine

namespace Bench

variable {b : Bench}

/-- All machines of a bench are safe. -/
def Safe (b : Bench) : Prop := ∀ M ∈ b.machines, M.Safe

/-- The current machine stands for the current scanner. -/
theorem scanner_machine (b : Bench) : b.machine.scanner = b.session.scanner := by
  rw [machine, Session.scanner, session, List.getElem?_map]
  cases b.machines[b.current]? <;> rfl

theorem Safe.machine (h : b.Safe) : b.machine.Safe := by
  rw [Bench.machine]
  cases hm : b.machines[b.current]? with
  | none => exact Machine.safe_new fun t ht => absurd ht (by simp)
  | some M => exact h M (List.mem_of_getElem? hm)

theorem safe_new {input : Option Text} (h : ∀ t, input = some t → Text.size t < greatest) :
    (new input).Safe := by
  intro M hM
  obtain rfl := List.mem_singleton.1 hM
  exact Machine.safe_new h

/-- **A step does not break off.** -/
theorem take_safe (h : b.Safe) (step : Step) : ∃ b', b'.Safe ∧
    b'.session = (b.session.take step).2.2 ∧
    b.take step = .ok ((b.session.take step).1, (b.session.take step).2.1, b') := by
  cases step with
  | ask r =>
    obtain ⟨o, ho, hreply, hscanner, hevents, hsafe⟩ := Machine.answer_safe h.machine r
    rw [scanner_machine] at hreply hscanner hevents
    refine ⟨⟨b.machines.set b.current o.machine, b.current⟩, fun M hM => ?_, ?_, ?_⟩
    · rcases List.mem_or_eq_of_mem_set hM with hM | rfl
      · exact h M hM
      · exact hsafe
    · simp only [session, Session.take, List.map_set, hscanner]
    · rw [take, ho, ok_bind, hreply, hevents]
      rfl
  | clone =>
    refine ⟨⟨b.machines ++ [b.machine], b.current⟩, fun M hM => ?_, ?_, ?_⟩
    · rcases List.mem_append.1 hM with hM | hM
      · exact h M hM
      · exact List.mem_singleton.1 hM ▸ h.machine
    · rw [Session.take, ← scanner_machine]
      simp only [session, List.map_append, List.map_cons, List.map_nil]
    · rw [take, Session.take, session, List.length_map]
  | use n => exact ⟨⟨b.machines, n⟩, h, rfl, rfl⟩

/-- Steps taken one after the other do not break off. -/
theorem run_safe (h : b.Safe) (steps : List Step) : ∃ b', b'.Safe ∧
    b'.session = (b.session.run steps).2 ∧ b.run steps = .ok ((b.session.run steps).1, b') := by
  induction steps generalizing b with
  | nil => exact ⟨b, h, rfl, rfl⟩
  | cons step steps ih =>
    obtain ⟨b₁, h₁, hsession₁, hstep⟩ := take_safe h step
    obtain ⟨b₂, h₂, hsession₂, hsteps⟩ := ih h₁
    rw [hsession₁] at hsession₂ hsteps
    refine ⟨b₂, h₂, hsession₂, ?_⟩
    rw [run, hstep, ok_bind]
    dsimp only
    rw [hsteps]
    rfl

/-- **Nothing breaks off.**  A text in memory is smaller than the greatest word.  Over such a text,
or none, a new bench takes any steps without breaking off, and its replies and events are those of
the session.  Behind the steps every machine can be read and asked for anything, again without
breaking off and with the answers of its scanner; and the spans of its match and of the groups that
took part have their ends in order, in the text and on boundaries. -/
theorem runs_unbroken (input : Option Text) (h : ∀ t, input = some t → Text.size t < greatest)
    (steps : List Step) :
    ∃ b : Bench, (new input).run steps = .ok (((Session.new input).run steps).1, b) ∧
      b.session = ((Session.new input).run steps).2 ∧
      ∀ M ∈ b.machines, M.reading = .ok M.scanner.reading ∧
        (∀ r, ∃ o, M.answer r = .ok o ∧ o.Answers (M.scanner.answer r)) ∧
        ∀ f, M.scanner.found = some f → ∃ t, M.input = some t ∧ ∀ i s, f.group? i = some s →
          s.start ≤ s.stop ∧ s.stop ≤ Text.size t ∧ Text.isBoundary t s.start = true ∧
            Text.isBoundary t s.stop = true := by
  obtain ⟨b, hsafe, hsession, hrun⟩ := run_safe (safe_new h) steps
  refine ⟨b, hrun, hsession, fun M hM => ?_⟩
  have hM := hsafe M hM
  refine ⟨Machine.reading_eq hM, Machine.answer_safe hM, fun f hf => ?_⟩
  obtain ⟨k, hk, rfl⟩ := Option.map_eq_some_iff.1 hf
  obtain ⟨t, ht, hlies⟩ := hM.lies k hk
  refine ⟨t, ht, fun i s hs => ?_⟩
  have hs := hlies.group? hs
  exact ⟨hs.ordered, hs.stop_le, hs.start, hs.stop⟩

/-- With a character of two bytes, a cursor inside it, a cursor behind everything, and a copy. -/
theorem runs_unbroken_twoBytes :
    let input := some "aé\n".toList
    let steps : List Step :=
      [.ask (.scanUntil (.source "(é)?\\B".toList)), .clone, .ask (.moveTo 2), .ask (.peek 1),
        .ask .takeChar, .use 1, .ask (.moveTo greatest), .ask .cursorLocation, .ask .lastMatch]
    (∀ t, input = some t → Text.size t < greatest) ∧
      ∃ b : Bench, (new input).run steps = .ok (((Session.new input).run steps).1, b) ∧
        b.session = ((Session.new input).run steps).2 := by
  intro input steps
  have hsmall : ∀ t, input = some t → Text.size t < greatest := by
    intro t ht
    obtain rfl := Option.some.inj ht
    decide
  obtain ⟨b, hrun, hsession, -⟩ := runs_unbroken input hsmall steps
  exact ⟨hsmall, b, hrun, hsession⟩

end Bench
end Guarded
end TextScan
