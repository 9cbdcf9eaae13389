/-
# The tokens of a text

A round of the loop that takes a text apart gives the text of a match at the cursor, or of one
character; only a match can be empty (`StandsBefore.token`).  So the tokens of any number of rounds
make up the text up to the cursor (`StandsBefore.tokens`).  Where no match is empty, each round
leaves less text, and after as many rounds as there were characters nothing is left: the loop is at
its end, and more rounds would change nothing (`tokens_of_isAtEnd`).

Neither a token nor a fault depends on what the caches hold, or on whether a pattern is given or its
source (`tokens_alike`).
-/

import TextScan.Proofs.Scanner.Progress
import TextScan.Proofs.Scanner.Transparency
import TextScan.Scanner.Loop

namespace TextScan

/-- No scan for a query finds an empty match in a text, wherever the cursor is. -/
def Query.NeverEmpty (q : Query) (input : Option Text) : Prop :=
  ∀ s : Scanner, s.input = input → ∀ f, (s.scan q).result = .ok (some f) → f.span.isEmpty = false

/-- Whether a query ever finds an empty match in a text is seen on the last parts of the text. -/
theorem Query.neverEmpty_of_tails {q : Query} {p : Pattern} {t : Text} (hq : q.compiled = .ok p)
    (h : ∀ r ∈ t.tails, (p.regex.hit? .anchored r).all fun hit => !hit.span.isEmpty) :
    q.NeverEmpty (some t) := by
  intro s hs f hf
  obtain ⟨r, hit, hr, hh, rfl⟩ :=
    Pattern.findAt_eq_some_iff.1 (Scanner.findAt_of_result hs hq hf)
  obtain ⟨a, rfl, -⟩ := Text.drop?_eq_some_iff.1 hr
  have hall := h r ((List.mem_tails r _).2 (List.suffix_append a r))
  rw [hh, Option.all_some, Bool.not_eq_true'] at hall
  simpa only [Found.ofHit, Span.isEmpty, Span.shift, Nat.add_le_add_iff_right] using hall

/-- After at most `max` rounds of taking a text `t` apart, `ts` are the tokens and `us` their texts;
`r` was left before and `r'` is left now, with the scanner before it. -/
structure TakenApart (qs : List Query) (max : Nat) (t r : Text) (ts : List Token) (us : List Text)
    (s' : Scanner) (r' : Text) : Prop where
  parts : r = us.flatten ++ r'
  texts : ts.map (·.text) = us.map some
  scanner : s'.StandsBefore t r'
  length_le : ts.length ≤ max
  /-- If no query matches nothing, no token is empty. -/
  ne_nil : (∀ q ∈ qs, q.NeverEmpty (some t)) → ∀ u ∈ us, u ≠ []
  /-- If no query matches nothing, nothing is left after enough rounds. -/
  nothing_left : (∀ q ∈ qs, q.NeverEmpty (some t)) → r.length ≤ max → r' = []

/-- One more token in front, which is empty only if a query can match nothing. -/
theorem TakenApart.cons {qs : List Query} {max : Nat} {t v r r' : Text} {tok : Token}
    {ts : List Token} {us : List Text} {s' : Scanner} (h : TakenApart qs max t r ts us s' r')
    (htext : tok.text = some v) (hempty : v = [] → ∃ q ∈ qs, ¬q.NeverEmpty (some t)) :
    TakenApart qs (max + 1) t (v ++ r) (tok :: ts) (v :: us) s' r' := by
  have hv : (∀ q ∈ qs, q.NeverEmpty (some t)) → v ≠ [] := fun hqs hv => by
    obtain ⟨q, hq, hno⟩ := hempty hv
    exact hno (hqs q hq)
  refine ⟨?_, ?_, h.scanner, Nat.succ_le_succ h.length_le, fun hqs => ?_, fun hqs hle => ?_⟩
  · rw [h.parts, List.flatten_cons, List.append_assoc]
  · rw [List.map_cons, List.map_cons, htext, h.texts]
  · exact List.forall_mem_cons.2 ⟨hv hqs, h.ne_nil hqs⟩
  · have hpos := List.length_pos_of_ne_nil (hv hqs)
    rw [List.length_append] at hle
    exact h.nothing_left hqs (by omega)

namespace Scanner

/-- Two outcomes of a loop are a fault, the same one, or a value, the same one, and alike
scanners. -/
inductive AlikeOutcomes {α : Type} :
    Except PatternFault (α × Scanner) → Except PatternFault (α × Scanner) → Prop where
  | fault (e : PatternFault) : AlikeOutcomes (.error e) (.error e)
  | done (a : α) {s s' : Scanner} (h : s.Alike s') : AlikeOutcomes (.ok (a, s)) (.ok (a, s'))

namespace AlikeOutcomes

variable {α β : Type} {x x' : Except PatternFault (α × Scanner)}
  {f f' : α × Scanner → Except PatternFault (β × Scanner)}

theorem bind (h : AlikeOutcomes x x')
    (hf : ∀ a s s', s.Alike s' → AlikeOutcomes (f (a, s)) (f' (a, s'))) :
    AlikeOutcomes (x >>= f) (x' >>= f') := by
  cases h with
  | fault e => exact .fault e
  | done a h => exact hf a _ _ h

theorem map_fst_eq (h : AlikeOutcomes x x') : x.map (·.1) = x'.map (·.1) := by
  cases h with
  | fault e => rfl
  | done a h => rfl

end AlikeOutcomes

variable {s s' : Scanner} {qs qs' : List Query} {t r : Text}

/-! ## Rounds -/

theorem tokens_of_isAtEnd (h : s.isAtEnd = true) (qs : List Query) (max : Nat) :
    s.tokens qs max = .ok ([], s) := by
  cases max with
  | zero => rfl
  | succ max => rw [tokens, if_pos h]

/-- A round gives its token, and the other rounds go on behind it. -/
theorem tokens_of_token {tok : Token} (h : s.isAtEnd = false) (htok : s.token qs = .ok (tok, s'))
    (max : Nat) :
    s.tokens qs (max + 1) = (s'.tokens qs max).map fun x => (tok :: x.1, x.2) := by
  rw [tokens, h, htok]
  change (s'.tokens qs max >>= fun x => pure (tok :: x.1, x.2)) = _
  cases s'.tokens qs max with
  | error e => rfl
  | ok x => rfl

theorem tokens_of_fault {e : PatternFault} (h : s.isAtEnd = false) (he : s.token qs = .error e)
    (max : Nat) : s.tokens qs (max + 1) = .error e := by
  rw [tokens, h, he]
  rfl

/-- A loop that has come to its end stays there, with as many rounds as one likes. -/
theorem tokens_of_le {ts : List Token} {n max : Nat} (h : s.tokens qs n = .ok (ts, s'))
    (hend : s'.isAtEnd = true) (hle : n ≤ max) : s.tokens qs max = .ok (ts, s') := by
  induction n generalizing s ts max with
  | zero =>
    obtain ⟨rfl, rfl⟩ := Prod.mk.inj (Except.ok.inj h)
    exact tokens_of_isAtEnd hend qs max
  | succ n ih =>
    obtain ⟨max, rfl⟩ := Nat.exists_eq_add_one_of_ne_zero (Nat.ne_zero_of_lt hle)
    cases hs : s.isAtEnd with
    | true =>
      rw [tokens_of_isAtEnd hs] at h ⊢
      exact h
    | false =>
      cases htok : s.token qs with
      | error e =>
        rw [tokens_of_fault hs htok] at h
        exact absurd h (by simp)
      | ok x =>
        obtain ⟨tok, s₁⟩ := x
        rw [tokens_of_token hs htok] at h ⊢
        cases hrest : s₁.tokens qs n with
        | error e =>
          rw [hrest] at h
          exact absurd h (by simp [Except.map])
        | ok y =>
          rw [hrest] at h
          obtain ⟨rfl, rfl⟩ := Prod.mk.inj (Except.ok.inj h)
          rw [ih hrest (Nat.le_of_succ_le_succ hle)]
          rfl

/-! ## Caches and sources -/

theorem scanFirst_alike (hs : s.Alike s') (hqs : List.Forall₂ Query.Alike qs qs') (i : Nat) :
    AlikeOutcomes (s.scanFirst i qs) (s'.scanFirst i qs') := by
  induction hqs generalizing s s' i with
  | nil => exact .done none hs
  | @cons q q' qs qs' hq hqs ih =>
    obtain ⟨hresult, hscanner, -⟩ := attempt_alike (m := .anchored) hs hq
    rw [scanFirst, scanFirst, scan, scan, ← hresult]
    cases (s.attempt .anchored q).result with
    | error e => exact .fault e
    | ok o =>
      cases o with
      | none => exact ih hscanner (i + 1)
      | some f => exact .done _ hscanner

theorem token_alike (hs : s.Alike s') (hqs : List.Forall₂ Query.Alike qs qs') :
    AlikeOutcomes (s.token qs) (s'.token qs') := by
  refine (scanFirst_alike hs hqs 0).bind fun o s₁ s₁' h => ?_
  obtain ⟨c, rfl⟩ := h.exists_cache
  cases o with
  | some hit => exact .done _ ⟨rfl, rfl, rfl⟩
  | none =>
    obtain ⟨hresult, hscanner, -⟩ := attempt_alike (m := .anchored) h (.refl (.source anyCharacter))
    dsimp only
    rw [takeChar, takeChar, scan, scan, ← hresult]
    exact .done _ hscanner

/-- **Tokens do not depend on the cache**, nor on whether a pattern is given or its source. -/
theorem tokens_alike (hs : s.Alike s') (hqs : List.Forall₂ Query.Alike qs qs') (max : Nat) :
    AlikeOutcomes (s.tokens qs max) (s'.tokens qs' max) := by
  induction max generalizing s s' with
  | zero => exact .done [] hs
  | succ max ih =>
    have hend : s.isAtEnd = s'.isAtEnd := by rw [isAtEnd, isAtEnd, hs.input, hs.cursor]
    rw [tokens, tokens, ← hend]
    cases s.isAtEnd with
    | true => exact .done [] hs
    | false =>
      refine (token_alike hs hqs).bind fun tok s₁ s₁' h => ?_
      exact (ih h).bind fun ts s₂ s₂' h => .done (tok :: ts) h

/-! ## Texts -/

namespace StandsBefore

/-- Trying queries in order comes to the fault of one of them; or none of them matches and the
scanner stays where it stands; or one of them matches a first part of what is left. -/
theorem scanFirst (h : s.StandsBefore t r) (qs : List Query) (i : Nat) :
    (∃ q ∈ qs, ∃ e, q.compiled = .error e ∧ s.scanFirst i qs = .error e) ∨
    (∃ s', s.scanFirst i qs = .ok (none, s') ∧ s'.StandsBefore t r) ∨
    ∃ k f s' v r', s.scanFirst i qs = .ok (some (k, f), s') ∧ r = v ++ r' ∧
      Text.slice? t f.span = some v ∧ s'.StandsBefore t r' ∧
      (v = [] → ∃ q ∈ qs, ¬q.NeverEmpty (some t)) := by
  induction qs generalizing s i with
  | nil => exact Or.inr (Or.inl ⟨s, rfl, h⟩)
  | cons q qs ih =>
    rw [Scanner.scanFirst]
    cases hq : q.compiled with
    | error e =>
      refine Or.inl ⟨q, List.mem_cons_self, e, hq, ?_⟩
      rw [scan, attempt_of_error hq]
    | ok p =>
      rcases h.attempt hq .anchored with ⟨-, hfails⟩ | ⟨f, u, v, r', -, rfl, hu, hpasses⟩
      · have hresult : (s.scan q).result = .ok none := hfails.result
        rw [hresult]
        rcases ih hfails.scanner (i + 1) with
          ⟨q', hq', e, he⟩ | hnone | ⟨k, f, s', v, r', hok, hr, hv, hs', hempty⟩
        · exact Or.inl ⟨q', List.mem_cons_of_mem q hq', e, he⟩
        · exact Or.inr (Or.inl hnone)
        · refine Or.inr (Or.inr ⟨k, f, s', v, r', hok, hr, hv, hs', fun hnil => ?_⟩)
          obtain ⟨q', hq', hnever⟩ := hempty hnil
          exact ⟨q', List.mem_cons_of_mem q hq', hnever⟩
      · have hresult : (s.scan q).result = .ok (some f) := hpasses.result
        obtain rfl := hu rfl
        rw [hresult]
        refine Or.inr (Or.inr ⟨i, f, _, v, r', rfl, rfl, hpasses.text, hpasses.scanner, ?_⟩)
        intro hnil
        refine ⟨q, List.mem_cons_self, fun hnever => ?_⟩
        have hfull := hnever s h.input f hresult
        exact absurd (hpasses.isEmpty_iff.2 hnil) (by simp [hfull])

/-- **A round gives a token**, or it comes to a fault.  The token is a first part of what is left,
and it is empty only if a query can match nothing. -/
theorem token (h : s.StandsBefore t r) (hr : r ≠ []) (qs : List Query) :
    (∃ q ∈ qs, ∃ e, q.compiled = .error e ∧ s.token qs = .error e) ∨
    ∃ tok s' v r', s.token qs = .ok (tok, s') ∧ r = v ++ r' ∧ tok.text = some v ∧
      s'.StandsBefore t r' ∧ (v = [] → ∃ q ∈ qs, ¬q.NeverEmpty (some t)) := by
  unfold Scanner.token
  rcases h.scanFirst qs 0 with
    ⟨q, hq, e, he, hfault⟩ | ⟨s', hnone, hs'⟩ | ⟨k, f, s', v, r', hok, hv, htext, hs', hempty⟩
  · rw [hfault]
    exact Or.inl ⟨q, hq, e, he, rfl⟩
  · obtain ⟨c, r', rfl⟩ := List.exists_cons_of_ne_nil hr
    obtain ⟨f, hpasses⟩ := hs'.takeChar_cons
    rw [hnone]
    refine Or.inr ⟨_, _, [c], r', rfl, rfl, ?_, hpasses.scanner, by simp⟩
    simp only [hpasses.result, slice?_eq hs'.input, hpasses.text]
  · rw [hok]
    exact Or.inr ⟨_, _, v, r', rfl, hv, by simp only [slice?_eq hs'.input, htext], hs', hempty⟩

/-- **Rounds take a text apart**, or one of them comes to a fault. -/
theorem tokens (h : s.StandsBefore t r) (qs : List Query) (max : Nat) :
    (∃ q ∈ qs, ∃ e, q.compiled = .error e ∧ s.tokens qs max = .error e) ∨
      ∃ ts us s' r', s.tokens qs max = .ok (ts, s') ∧ TakenApart qs max t r ts us s' r' := by
  induction max generalizing s r with
  | zero =>
    refine Or.inr ⟨[], [], s, r, rfl, rfl, rfl, h, Nat.le_refl 0, fun _ => by simp, fun _ hr => ?_⟩
    exact List.eq_nil_of_length_eq_zero (Nat.eq_zero_of_le_zero hr)
  | succ max ih =>
    cases hend : s.isAtEnd with
    | true =>
      obtain rfl := h.isAtEnd_iff.1 hend
      rw [tokens_of_isAtEnd hend]
      exact Or.inr ⟨[], [], s, [], rfl, rfl, rfl, h, Nat.zero_le _, fun _ => by simp,
        fun _ _ => rfl⟩
    | false =>
      have hr : r ≠ [] := fun hr => by simp [h.isAtEnd_iff.2 hr] at hend
      rcases h.token hr qs with
        ⟨q, hq, e, he, hfault⟩ | ⟨tok, s₁, v, r₁, htok, rfl, htext, hs₁, hempty⟩
      · exact Or.inl ⟨q, hq, e, he, tokens_of_fault hend hfault max⟩
      rw [tokens_of_token hend htok]
      rcases ih hs₁ with ⟨q, hq, e, he, hfault⟩ | ⟨ts, us, s', r', hts, hapart⟩
      · exact Or.inl ⟨q, hq, e, he, by rw [hfault]; rfl⟩
      · exact Or.inr ⟨tok :: ts, v :: us, s', r', by rw [hts]; rfl, hapart.cons htext hempty⟩

/-- **The loop comes to its end** if all queries have patterns and none matches nothing: as many
rounds as there are characters left are enough, and the tokens are what was left. -/
theorem tokens_of_neverEmpty (h : s.StandsBefore t r) (hqs : ∀ q ∈ qs, ∃ p, q.compiled = .ok p)
    (hnever : ∀ q ∈ qs, q.NeverEmpty (some t)) :
    ∃ (ts : List Token) (us : List Text) (s' : Scanner),
      (∀ max, r.length ≤ max → s.tokens qs max = .ok (ts, s')) ∧ ts.length ≤ r.length ∧
        ts.map (·.text) = us.map some ∧ (∀ u ∈ us, u ≠ []) ∧ us.flatten = r ∧
        s'.StandsBefore t [] := by
  rcases h.tokens qs r.length with ⟨q, hq, e, he, -⟩ | ⟨ts, us, s', r', hts, hapart⟩
  · obtain ⟨p, hp⟩ := hqs q hq
    exact absurd (hp.symm.trans he) (by simp)
  · obtain rfl := hapart.nothing_left hnever (Nat.le_refl _)
    have hend := hapart.scanner.isAtEnd_iff.2 rfl
    refine ⟨ts, us, s', fun max hle => tokens_of_le hts hend hle, hapart.length_le, hapart.texts,
      hapart.ne_nil hnever, ?_, hapart.scanner⟩
    rw [hapart.parts, List.append_nil]

end StandsBefore

/-! ## Whole texts -/

/-- **The tokens of a text make up the text.**  A scanner at the start of its text, or without one,
takes it apart.  If all queries have patterns and none of them ever matches nothing, the loop comes
to the end of the text by itself, in no more rounds than there are characters; each round gives a
token that is not empty, and the tokens make up the text.  The tokens, or the fault, are the same
with queries that ask for the same, sources in place of patterns or patterns in place of sources,
whatever is in the caches.  And whatever the queries are, rounds come to the fault of one of them,
or their tokens make up the text up to the cursor. -/
theorem tokens_make_up_text (hs : s.cursor = 0) (qs : List Query) :
    ((∀ q ∈ qs, ∃ p, q.compiled = .ok p) → (∀ q ∈ qs, q.NeverEmpty s.input) →
      ∃ (ts : List Token) (us : List Text) (s' : Scanner),
        (∀ max, (s.input.getD []).length ≤ max → s.tokens qs max = .ok (ts, s')) ∧
        ts.length ≤ (s.input.getD []).length ∧ ts.map (·.text) = us.map some ∧
        (∀ u ∈ us, u ≠ []) ∧ us.flatten = s.input.getD [] ∧
        s'.isAtEnd = true ∧ s'.cursor = Text.size (s.input.getD [])) ∧
    (∀ s' qs', s.Alike s' → List.Forall₂ Query.Alike qs qs' → ∀ max,
      (s'.tokens qs' max).map (·.1) = (s.tokens qs max).map (·.1)) ∧
    ∀ max, (∃ q ∈ qs, ∃ e, q.compiled = .error e ∧ s.tokens qs max = .error e) ∨
      ∃ (ts : List Token) (us : List Text) (s' : Scanner),
        s.tokens qs max = .ok (ts, s') ∧ ts.map (·.text) = us.map some ∧
        Text.slice? (s.input.getD []) ⟨0, s'.cursor⟩ = some us.flatten := by
  refine ⟨fun hqs hnever => ?_,
    fun s' qs' hs' hqs' max => (tokens_alike hs' hqs' max).map_fst_eq.symm, fun max => ?_⟩
  · cases hi : s.input with
    | none =>
      have hend : s.isAtEnd = true := by rw [isAtEnd, hi, Option.all_none]
      exact ⟨[], [], s, fun max _ => tokens_of_isAtEnd hend qs max, Nat.le_refl 0, rfl, by simp,
        rfl, hend, hs⟩
    | some t =>
      rw [hi] at hnever
      obtain ⟨ts, us, s', hts, hlength, htexts, hne, hflatten, hs'⟩ :=
        (standsBefore_of_cursor hi hs).tokens_of_neverEmpty hqs hnever
      obtain ⟨a, ha, -, hcursor⟩ := hs'.slice_done
      refine ⟨ts, us, s', hts, hlength, htexts, hne, hflatten, hs'.isAtEnd_iff.2 rfl, ?_⟩
      rw [hcursor, Option.getD_some, ha, List.append_nil]
  · cases hi : s.input with
    | none =>
      have hend : s.isAtEnd = true := by rw [isAtEnd, hi, Option.all_none]
      refine Or.inr ⟨[], [], s, tokens_of_isAtEnd hend qs max, rfl, ?_⟩
      rw [hs]
      rfl
    | some t =>
      rcases (standsBefore_of_cursor hi hs).tokens qs max with hfault | ⟨ts, us, s', r, hts, hapart⟩
      · exact Or.inl hfault
      · obtain ⟨a, ha, hslice, -⟩ := hapart.scanner.slice_done
        obtain rfl := List.append_cancel_right (hapart.parts.symm.trans ha)
        exact Or.inr ⟨ts, us, s', hts, hapart.texts, hslice⟩

/-- Two queries, neither of which matches nothing, and a text with other characters before, between
and behind what they match. -/
theorem tokens_make_up_text_twoBytes :
    let t := "éa1, bc!".toList
    let qs := [Query.source "[a-c]+".toList, .source "([0-9])|,+?".toList]
    ((∀ q ∈ qs, ∃ p, q.compiled = .ok p) ∧ ∀ q ∈ qs, q.NeverEmpty (some t)) ∧
      ∃ (ts : List Token) (us : List Text) (s : Scanner),
        (∀ max, 8 ≤ max → (new (some t)).tokens qs max = .ok (ts, s)) ∧
        ts.map (·.text) = us.map some ∧ us.flatten = t ∧ s.isAtEnd = true ∧
        ts.map (·.pattern) = [none, some 0, some 1, some 1, none, some 0, none] := by
  intro t qs
  have hword := Query.neverEmpty_of_tails (q := .source "[a-c]+".toList) (t := t) rfl (by decide)
  have hdigit :=
    Query.neverEmpty_of_tails (q := .source "([0-9])|,+?".toList) (t := t) rfl (by decide)
  have hqs : ∀ q ∈ qs, ∃ p, q.compiled = .ok p := by
    simp only [qs, List.forall_mem_cons]
    exact ⟨⟨_, rfl⟩, ⟨_, rfl⟩, by simp⟩
  have hnever : ∀ q ∈ qs, q.NeverEmpty (some t) := by
    simp only [qs, List.forall_mem_cons]
    exact ⟨hword, hdigit, by simp⟩
  obtain ⟨ts, us, s, hts, -, htexts, -, hflatten, hend, -⟩ :=
    (tokens_make_up_text (s := new (some t)) rfl qs).1 hqs hnever
  have heval : (((new (some t)).tokens qs 8).map fun x => x.1.map (·.pattern)).toOption =
      some [none, some 0, some 1, some 1, none, some 0, none] := by decide
  rw [hts 8 (Nat.le_refl 8)] at heval
  exact ⟨⟨hqs, hnever⟩, ts, us, s, hts, htexts, hflatten, hend, Option.some.inj heval⟩

end Scanner
end TextScan
