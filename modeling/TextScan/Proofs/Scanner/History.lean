/-
# The match after a series of requests

A search has one of four outcomes, and all that is said of it here and elsewhere is read off them
(`search_outcome`).  A request decides if it forgets the match, or if it is a search that comes to
no fault; all other requests leave the match as it is (`Idle.found_after`).  In a series of requests
to a new scanner there is a last one that decides, or none does (`idle_or_exists_last`).  So the
match of the scanner is what the last one that decides has found (`LastDecides.exists_found`), and it
is read off the text, the cursor before that request, the pattern and the mode (`found_after_new`).
-/

import TextScan.Proofs.Scanner.Readings
import TextScan.Proofs.Scanner.Spans

namespace TextScan

/-- The mode and the query of a search. -/
def Request.search? : Request → Option (Regex.Mode × Query)
  | .scan q => some (.anchored, q)
  | .scanUntil q => some (.leftmost, q)
  | .skip q => some (.anchored, q)
  | .skipUntil q => some (.leftmost, q)
  | .takeChar => some (.anchored, .source Scanner.anyCharacter)
  | _ => none

/-- What a search replies for a match that was found from a cursor on: its text, its length, or how
far behind the cursor it ends. -/
def Request.replyTo (r : Request) (cursor : Nat) (span : Span) (u : Text) : Reply :=
  match r with
  | .skip _ => .number span.length
  | .skipUntil _ => .number (span.stop - cursor)
  | _ => .text u

theorem Request.replyTo_ne (r : Request) (cursor : Nat) (span : Span) (u : Text) :
    r.replyTo cursor span u ≠ .nothing ∧ ∀ e, r.replyTo cursor span u ≠ .fault e := by
  cases r <;> simp [replyTo]

namespace Scanner

/-- The scanner after a series of requests. -/
def after (s : Scanner) (rs : List Request) : Scanner := (s.answers rs).2

@[simp] theorem after_cons (s : Scanner) (r : Request) (rs : List Request) :
    s.after (r :: rs) = (s.answer r).scanner.after rs := rfl

theorem after_append (s : Scanner) (rs rs' : List Request) :
    s.after (rs ++ rs') = (s.after rs).after rs' := by
  induction rs generalizing s with
  | nil => rfl
  | cons r rs ih => exact ih _

/-- A request decides what the match is: it forgets it, or it is a search without a fault. -/
def Decides (s : Scanner) (r : Request) : Prop :=
  r = .reset ∨ r = .terminate ∨ r.search?.isSome = true ∧ ∀ e, (s.answer r).reply ≠ .fault e

/-- A request is a search, and it finds something. -/
def Succeeds (s : Scanner) (r : Request) : Prop :=
  r.search?.isSome = true ∧ (∀ e, (s.answer r).reply ≠ .fault e) ∧ (s.answer r).reply ≠ .nothing

/-- No request of a series decides. -/
def Idle (s : Scanner) : List Request → Prop
  | [] => True
  | r :: rs => ¬s.Decides r ∧ (s.answer r).scanner.Idle rs

/-- Among the requests `pre`, `r` and `post`, made in this order, `r` is the last that decides. -/
structure LastDecides (s : Scanner) (pre : List Request) (r : Request) (post : List Request) :
    Prop where
  decides : (s.after pre).Decides r
  idle : ((s.after pre).answer r).scanner.Idle post

/-- What can come of a search for a query: a fault, and nothing is changed; nothing, for there is no
text; nothing, and the last match is forgotten; or a match, which is kept and gone behind. -/
inductive Outcome (s : Scanner) (r : Request) (m : Regex.Mode) (q : Query) : Prop where
  | fault (e : PatternFault) (compiled : q.compiled = .error e)
      (answer : s.answer r = ⟨.fault e, s, []⟩)
  | absent (p : Pattern) (c : Cache) (compiled : q.compiled = .ok p) (input : s.input = none)
      (reply : (s.answer r).reply = .nothing)
      (scanner : (s.answer r).scanner = { s with cache := c })
  | missed (p : Pattern) (c : Cache) (t : Text) (compiled : q.compiled = .ok p)
      (input : s.input = some t) (findAt : p.findAt m t s.cursor = none)
      (reply : (s.answer r).reply = .nothing)
      (scanner : (s.answer r).scanner = { s with found := none, cache := c })
  | found (p : Pattern) (c : Cache) (t : Text) (f : Found) (u : Text)
      (compiled : q.compiled = .ok p) (input : s.input = some t)
      (findAt : p.findAt m t s.cursor = some f) (text : Text.slice? t f.span = some u)
      (reply : (s.answer r).reply = r.replyTo s.cursor f.span u)
      (scanner : (s.answer r).scanner =
        { s with cursor := f.span.stop, found := some f, cache := c })

variable {s : Scanner} {r : Request} {m : Regex.Mode} {q : Query}

/-! ## One request -/

/-- A search that replies a text succeeds. -/
theorem succeeds_of_text {u : Text} (hr : r.search?.isSome = true)
    (h : (s.answer r).reply = .text u) : s.Succeeds r :=
  ⟨hr, by simp [h], by simp [h]⟩

/-- A search is an attempt that says of a match what the request asks for. -/
theorem exists_say (h : r.search? = some (m, q)) :
    ∃ say, s.answer r = answerAttempt (s.attempt m q) say ∧
      ∀ f u, s.slice? f.span = some u → say f = r.replyTo s.cursor f.span u := by
  cases r with
  | scan q' =>
    obtain ⟨rfl, rfl⟩ := Prod.mk.inj (Option.some.inj h)
    exact ⟨s.sayText, rfl, fun _ _ hu => sayText_eq hu⟩
  | scanUntil q' =>
    obtain ⟨rfl, rfl⟩ := Prod.mk.inj (Option.some.inj h)
    exact ⟨s.sayText, rfl, fun _ _ hu => sayText_eq hu⟩
  | takeChar =>
    obtain ⟨rfl, rfl⟩ := Prod.mk.inj (Option.some.inj h)
    exact ⟨s.sayText, rfl, fun _ _ hu => sayText_eq hu⟩
  | skip q' =>
    obtain ⟨rfl, rfl⟩ := Prod.mk.inj (Option.some.inj h)
    exact ⟨_, rfl, fun _ _ _ => rfl⟩
  | skipUntil q' =>
    obtain ⟨rfl, rfl⟩ := Prod.mk.inj (Option.some.inj h)
    exact ⟨_, rfl, fun _ _ _ => rfl⟩
  | _ => exact absurd h (by simp [Request.search?])

/-- **What can come of a search.** -/
theorem search_outcome (h : r.search? = some (m, q)) : s.Outcome r m q := by
  obtain ⟨say, hanswer, hsay⟩ := exists_say (s := s) h
  have hreply : (s.answer r).reply = Reply.ofAttempt (s.attempt m q) say := by rw [hanswer]; rfl
  have hscanner : (s.answer r).scanner = (s.attempt m q).scanner := by rw [hanswer]; rfl
  rcases s.attempt_cases m q with ⟨e, hq, -⟩ | ⟨p, c, hp, ⟨hi, hresult, hs⟩ | ⟨t, hi, hcases⟩⟩
  · exact .fault e hq (by rw [hanswer, answerAttempt, attempt_of_error hq, Reply.ofAttempt])
  · exact .absent p c hp hi (by rw [hreply, Reply.ofAttempt, hresult]) (hscanner.trans hs)
  rcases hcases with ⟨hf, hresult, hs⟩ | ⟨f, hf, hresult, hs⟩
  · exact .missed p c t hp hi hf (by rw [hreply, Reply.ofAttempt, hresult]) (hscanner.trans hs)
  · obtain ⟨u, hu⟩ := (Pattern.liesIn_of_findAt hf).span.exists_slice
    have hsaid := hsay f u (by rw [slice?_eq hi, hu])
    exact .found p c t f u hp hi hf hu (by rw [hreply, Reply.ofAttempt, hresult, ← hsaid])
      (hscanner.trans hs)

/-- The answer to a search is a fault and changes nothing; or nothing, and then no match is kept
that was not there in a scanner without a text; or it is a match. -/
theorem answer_search_cases (h : r.search? = some (m, q)) :
    ((∃ e, (s.answer r).reply = .fault e) ∧ (s.answer r).scanner = s) ∨
    ((s.answer r).reply = .nothing ∧ (s.answer r).scanner.input = s.input ∧
      ((s.answer r).scanner.found = none ∨
        s.input = none ∧ (s.answer r).scanner.found = s.found)) ∨
    (s.Succeeds r ∧ (s.answer r).scanner.input = s.input ∧ ∃ t p f, s.input = some t ∧
      q.compiled = .ok p ∧ p.findAt m t s.cursor = some f ∧
      (s.answer r).scanner.found = some f ∧ (s.answer r).scanner.cursor = f.span.stop) := by
  unfold Succeeds
  cases search_outcome (s := s) h with
  | fault e _ hanswer =>
    rw [hanswer]
    exact Or.inl ⟨⟨e, rfl⟩, rfl⟩
  | absent p c _ hi hreply hscanner =>
    rw [hscanner]
    exact Or.inr (Or.inl ⟨hreply, rfl, Or.inr ⟨hi, rfl⟩⟩)
  | missed p c t _ _ _ hreply hscanner =>
    rw [hscanner]
    exact Or.inr (Or.inl ⟨hreply, rfl, Or.inl rfl⟩)
  | found p c t f u hp hi hf _ hreply hscanner =>
    obtain ⟨hne, hok⟩ := r.replyTo_ne s.cursor f.span u
    rw [hreply, hscanner]
    exact Or.inr (Or.inr ⟨⟨by rw [h]; rfl, hok, hne⟩, rfl, t, p, f, hi, hp, hf, rfl, rfl⟩)

/-- A search that succeeds keeps the match that its pattern has at the cursor, and goes behind it. -/
theorem Succeeds.exists_found (h : s.Succeeds r) : ∃ m q t p f, r.search? = some (m, q) ∧
    s.input = some t ∧ q.compiled = .ok p ∧ p.findAt m t s.cursor = some f ∧
    (s.answer r).scanner.found = some f ∧ (s.answer r).scanner.cursor = f.span.stop := by
  obtain ⟨hsearch, hok, hne⟩ := h
  obtain ⟨⟨m, q⟩, hr⟩ := Option.isSome_iff_exists.1 hsearch
  rcases answer_search_cases (s := s) hr with
    ⟨⟨e, he⟩, -⟩ | ⟨hnothing, -⟩ | ⟨-, -, t, p, f, hi, hp, hf, hfound, hcursor⟩
  · exact absurd he (hok e)
  · exact absurd hnothing hne
  · exact ⟨m, q, t, p, f, hr, hi, hp, hf, hfound, hcursor⟩

/-- A request that is no search changes nothing, but for the three that move the cursor. -/
theorem answer_no_search (hr : r.search? = none) : (s.answer r).scanner = s ∨ r = .reset ∨
    r = .terminate ∨ ∃ n, r = .moveTo n := by
  cases r with
  | scan q => simp [Request.search?] at hr
  | scanUntil q => simp [Request.search?] at hr
  | skip q => simp [Request.search?] at hr
  | skipUntil q => simp [Request.search?] at hr
  | takeChar => simp [Request.search?] at hr
  | reset => simp
  | terminate => simp
  | moveTo n => simp
  | _ => exact Or.inl rfl

/-- No request changes the text. -/
theorem input_answer (s : Scanner) (r : Request) : (s.answer r).scanner.input = s.input := by
  cases hr : r.search? with
  | some a =>
    rcases answer_search_cases (s := s) hr with ⟨-, h⟩ | ⟨-, h, -⟩ | ⟨-, h, -⟩
    · rw [h]
    · exact h
    · exact h
  | none =>
    rcases answer_no_search (s := s) hr with h | rfl | rfl | ⟨n, rfl⟩
    · rw [h]
    · rfl
    · rfl
    · rfl

/-- A request that does not decide leaves the match, and the cursor too if it does not move it. -/
theorem answer_of_not_decides (h : ¬s.Decides r) : (s.answer r).scanner.found = s.found ∧
    ((∀ n, r ≠ .moveTo n) → (s.answer r).scanner.cursor = s.cursor) := by
  cases hr : r.search? with
  | some a =>
    have hsearch : r.search?.isSome = true := by rw [hr]; rfl
    rcases answer_search_cases (s := s) hr with ⟨-, hs⟩ | ⟨hn, -⟩ | ⟨⟨-, hok, -⟩, -⟩
    · rw [hs]
      exact ⟨rfl, fun _ => rfl⟩
    · exact absurd (Or.inr (Or.inr ⟨hsearch, by simp [hn]⟩)) h
    · exact absurd (Or.inr (Or.inr ⟨hsearch, hok⟩)) h
  | none =>
    rcases answer_no_search (s := s) hr with hs | rfl | rfl | ⟨n, rfl⟩
    · rw [hs]
      exact ⟨rfl, fun _ => rfl⟩
    · exact absurd (Or.inl rfl) h
    · exact absurd (Or.inr (Or.inl rfl)) h
    · exact ⟨rfl, fun hn => absurd rfl (hn n)⟩

/-- A request that decides without success leaves no match. -/
theorem found_answer_of_decides (h : s.Decides r) (hno : ¬s.Succeeds r)
    (habsent : s.input = none → s.found = none) : (s.answer r).scanner.found = none := by
  rcases h with rfl | rfl | ⟨hsearch, hok⟩
  · rfl
  · rfl
  · obtain ⟨a, ha⟩ := Option.isSome_iff_exists.1 hsearch
    rcases answer_search_cases (s := s) ha with ⟨⟨e, he⟩, -⟩ | ⟨-, -, hf | ⟨hi, hf⟩⟩ | ⟨hyes, -⟩
    · exact absurd he (hok e)
    · exact hf
    · rw [hf, habsent hi]
    · exact absurd hyes hno

/-- Without a text no request comes to a match. -/
theorem found_answer_of_absent (hi : s.input = none) (hf : s.found = none) :
    (s.answer r).scanner.found = none := by
  by_cases hd : s.Decides r
  · refine found_answer_of_decides hd (fun h => ?_) fun _ => hf
    obtain ⟨m, q, t, p, f, -, ht, -⟩ := h.exists_found
    exact absurd (hi.symm.trans ht) (by simp)
  · rw [(answer_of_not_decides hd).1, hf]

/-! ## Series of requests -/

theorem input_after (s : Scanner) (rs : List Request) : (s.after rs).input = s.input := by
  induction rs generalizing s with
  | nil => rfl
  | cons r rs ih => rw [after_cons, ih, input_answer]

theorem found_after_of_absent {rs : List Request} (hi : s.input = none) (hf : s.found = none) :
    (s.after rs).found = none := by
  induction rs generalizing s with
  | nil => exact hf
  | cons r rs ih => exact ih ((input_answer s r).trans hi) (found_answer_of_absent hi hf)

/-- **What no request decides stays as it is.** -/
theorem Idle.found_after {rs : List Request} (h : s.Idle rs) : (s.after rs).found = s.found ∧
    ((∀ n, .moveTo n ∉ rs) → (s.after rs).cursor = s.cursor) := by
  induction rs generalizing s with
  | nil => exact ⟨rfl, fun _ => rfl⟩
  | cons r rs ih =>
    obtain ⟨hfound, hcursor⟩ := ih h.2
    obtain ⟨hfound', hcursor'⟩ := answer_of_not_decides h.1
    refine ⟨hfound.trans hfound', fun hmove => ?_⟩
    have hr : ∀ n, r ≠ .moveTo n := fun n hn => hmove n (hn ▸ List.mem_cons_self)
    have hrs : ∀ n, .moveTo n ∉ rs := fun n hn => hmove n (List.mem_cons_of_mem r hn)
    exact (hcursor hrs).trans (hcursor' hr)

/-- Among the requests of a series there is a last one that decides, or none does. -/
theorem idle_or_exists_last (s : Scanner) (rs : List Request) :
    s.Idle rs ∨ ∃ pre r post, rs = pre ++ r :: post ∧ s.LastDecides pre r post := by
  induction rs generalizing s with
  | nil => exact Or.inl trivial
  | cons r rs ih =>
    rcases ih (s.answer r).scanner with hidle | ⟨pre, r', post, rfl, hlast⟩
    · by_cases hd : s.Decides r
      · exact Or.inr ⟨[], r, rs, rfl, hd, hidle⟩
      · exact Or.inl ⟨hd, hidle⟩
    · exact Or.inr ⟨r :: pre, r', post, rfl, hlast.decides, hlast.idle⟩

variable {pre post : List Request}

/-- Behind the last request that decides, the match is the one that it left. -/
theorem LastDecides.after_eq (h : s.LastDecides pre r post) :
    (s.after (pre ++ r :: post)).found = ((s.after pre).answer r).scanner.found ∧
      ((∀ n, .moveTo n ∉ post) →
        (s.after (pre ++ r :: post)).cursor = ((s.after pre).answer r).scanner.cursor) := by
  rw [after_append, after_cons]
  exact h.idle.found_after

/-- Behind a success that is the last to decide, the match is what was found, and the cursor is at
its end if it was not moved since. -/
theorem LastDecides.exists_found (h : s.LastDecides pre r post) (hyes : (s.after pre).Succeeds r) :
    ∃ m q t p f, r.search? = some (m, q) ∧ s.input = some t ∧ q.compiled = .ok p ∧
      p.findAt m t (s.after pre).cursor = some f ∧ (s.after (pre ++ r :: post)).found = some f ∧
      ((∀ n, .moveTo n ∉ post) → (s.after (pre ++ r :: post)).cursor = f.span.stop) := by
  obtain ⟨m, q, t, p, f, hr, hi, hp, hf, hfound, hcursor⟩ := hyes.exists_found
  obtain ⟨hkept, hstay⟩ := h.after_eq
  rw [input_after] at hi
  exact ⟨m, q, t, p, f, hr, hi, hp, hf, hkept.trans hfound, fun hmove =>
    (hstay hmove).trans hcursor⟩

/-- If a new scanner has a match behind a series of requests, the last one to decide succeeded. -/
theorem LastDecides.succeeds {input : Option Text} (h : (new input).LastDecides pre r post)
    (hfound : ((new input).after (pre ++ r :: post)).found.isSome = true) :
    ((new input).after pre).Succeeds r := by
  by_contra hno
  rw [h.after_eq.1, found_answer_of_decides h.decides hno] at hfound
  · exact absurd hfound (by simp)
  · intro hi
    exact found_after_of_absent ((input_after _ pre).symm.trans hi) rfl

/-- A new scanner has a match behind a series of requests if the last one to decide succeeded. -/
theorem isSome_found_after_iff (input : Option Text) (rs : List Request) :
    ((new input).after rs).found.isSome = true ↔ ∃ pre r post, rs = pre ++ r :: post ∧
      (new input).LastDecides pre r post ∧ ((new input).after pre).Succeeds r := by
  constructor
  · intro h
    rcases idle_or_exists_last (new input) rs with hidle | ⟨pre, r, post, rfl, hlast⟩
    · rw [hidle.found_after.1] at h
      exact absurd h (by simp [new])
    · exact ⟨pre, r, post, rfl, hlast, hlast.succeeds h⟩
  · rintro ⟨pre, r, post, rfl, hlast, hyes⟩
    obtain ⟨m, q, t, p, f, -, -, -, -, hfound, -⟩ := hlast.exists_found hyes
    rw [hfound]
    rfl

/-- **The match after any series of requests.**  A new scanner has a match behind a series of
requests exactly if a request was the last to decide and succeeded, and shows nothing of a match
else.  The match is then the one that the pattern of that request has in the text at the cursor
before it, and shows as right behind it; it does not start before that cursor, it starts there if it
was looked for there, and it ends at the cursor if that was not moved since.  Without a text there is
never a match. -/
theorem found_after_new (input : Option Text) (rs : List Request) :
    (((new input).after rs).found.isSome = true ↔ ∃ pre r post, rs = pre ++ r :: post ∧
      (new input).LastDecides pre r post ∧ ((new input).after pre).Succeeds r) ∧
    (((new input).after rs).found = none → ((new input).after rs).ShowsNone) ∧
    (∀ pre r post, rs = pre ++ r :: post → (new input).LastDecides pre r post →
      ((new input).after pre).Succeeds r →
      ((new input).after rs).SameMatch (((new input).after pre).answer r).scanner ∧
      ∃ m q t p f, r.search? = some (m, q) ∧ input = some t ∧ q.compiled = .ok p ∧
        p.findAt m t ((new input).after pre).cursor = some f ∧
        ((new input).after rs).found = some f ∧
        ((new input).after pre).cursor ≤ f.span.start ∧
        (m = .anchored → f.span.start = ((new input).after pre).cursor) ∧
        ((∀ n, .moveTo n ∉ post) → ((new input).after rs).cursor = f.span.stop)) ∧
    (input = none → ((new input).after rs).found = none) := by
  refine ⟨isSome_found_after_iff input rs, showsNone_of_found, ?_, fun hi => ?_⟩
  · rintro pre r post rfl hlast hyes
    obtain ⟨m, q, t, p, f, hr, hi, hp, hf, hfound, hcursor⟩ := hlast.exists_found hyes
    obtain ⟨hle, hstart⟩ := Pattern.le_start_of_findAt hf
    refine ⟨sameMatch_of_found ?_ hlast.after_eq.1, m, q, t, p, f, hr, hi, hp, hf, hfound, hle,
      hstart, hcursor⟩
    rw [input_answer, input_after, input_after]
  · exact found_after_of_absent hi rfl

end Scanner
end TextScan
