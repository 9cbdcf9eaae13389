/-
# Listing the matches of a pattern

The loop that lists matches has four kinds of rounds, and three of them record a match
(`Scanner.Lists`).  It is followed on the text that is left: a match that is not empty takes a
character of it, and behind an empty match a character is taken by itself.  So the loop ends
(`exists_lists`), and a bound of a round for each character that is left and one more does not show
(`Lists.findUpTo_eq`).

What it records is read off its rounds (`Lists.inOrder`): the spans lie in the text, each one behind
those that were recorded before it.  A match can be empty right behind another one, but not right
behind an empty one.
-/

import TextScan.Proofs.Scanner.Progress
import TextScan.Scanner.Loop

namespace TextScan

/-- A span ends before another one starts; an empty one leaves room between them. -/
structure Span.Precedes (s s' : Span) : Prop where
  stop_le : s.stop ≤ s'.start
  lt_of_isEmpty : s.isEmpty = true → s.stop < s'.start

/-- A span with its ends in order does not precede itself. -/
theorem Span.Precedes.ne {s s' : Span} (h : s.Precedes s') (hs : s.start ≤ s.stop) : s ≠ s' := by
  rintro rfl
  have hle := h.stop_le
  have hlt := h.lt_of_isEmpty (by simpa only [isEmpty, decide_eq_true_iff] using hle)
  omega

/-- The matches of a list lie in a text from an offset on, one behind the other. -/
structure Occurrence.InOrder (t : Text) (n : Nat) (os : List Occurrence) : Prop where
  within : ∀ o ∈ os, n ≤ o.span.start ∧ o.span.LiesIn t
  sorted : os.Pairwise fun o o' => o.span.Precedes o'.span

namespace Occurrence.InOrder

variable {t : Text} {n n' : Nat} {o : Occurrence} {os : List Occurrence}

theorem nil : InOrder t n [] := ⟨fun _ ho => absurd ho List.not_mem_nil, .nil⟩

/-- One more match in front, which ends where the others may start, or earlier if it is empty. -/
theorem cons (h : InOrder t n' os) (hle : n ≤ o.span.start) (hlies : o.span.LiesIn t)
    (hstop : o.span.stop ≤ n') (hempty : o.span.isEmpty = true → o.span.stop < n') :
    InOrder t n (o :: os) := by
  refine ⟨fun o' ho' => ?_, List.pairwise_cons.2 ⟨fun o' ho' => ?_, h.sorted⟩⟩
  · rcases List.mem_cons.1 ho' with rfl | ho'
    · exact ⟨hle, hlies⟩
    · obtain ⟨hle', hlies'⟩ := h.within o' ho'
      exact ⟨hle.trans (hlies.ordered.trans (hstop.trans hle')), hlies'⟩
  · obtain ⟨hle', -⟩ := h.within o' ho'
    exact ⟨hstop.trans hle', fun he => (hempty he).trans_le hle'⟩

/-- No span occurs twice. -/
theorem nodup (h : InOrder t n os) : (os.map (·.span)).Nodup := by
  rw [List.Nodup, List.pairwise_map]
  exact h.sorted.imp_of_mem fun ho _ hp => hp.ne (h.within _ ho).2.ordered

end Occurrence.InOrder

namespace Scanner

/-- The loop that lists the matches of a query, without a bound on its rounds: it ends with a list
and a scanner. -/
inductive Lists (q : Query) : Scanner → List Occurrence → Scanner → Prop where
  /-- The loop ends where there is no match. -/
  | missed {s : Scanner} (hmiss : (s.scanUntil q).result = .ok none) :
      Lists q s [] (s.scanUntil q).scanner
  /-- The loop ends behind an empty match where there is no character. -/
  | last {s : Scanner} {f : Found} (hfound : (s.scanUntil q).result = .ok (some f))
      (hempty : f.span.isEmpty = true) (hend : (s.scanUntil q).scanner.takeChar.result = .ok none) :
      Lists q s [⟨f.span, (s.scanUntil q).scanner.captures⟩]
        (s.scanUntil q).scanner.takeChar.scanner
  /-- The loop goes on behind an empty match and a character. -/
  | skipped {s s' : Scanner} {f g : Found} {os : List Occurrence}
      (hfound : (s.scanUntil q).result = .ok (some f)) (hempty : f.span.isEmpty = true)
      (hchar : (s.scanUntil q).scanner.takeChar.result = .ok (some g))
      (hrest : Lists q (s.scanUntil q).scanner.takeChar.scanner os s') :
      Lists q s (⟨f.span, (s.scanUntil q).scanner.captures⟩ :: os) s'
  /-- The loop goes on behind a match that is not empty. -/
  | taken {s s' : Scanner} {f : Found} {os : List Occurrence}
      (hfound : (s.scanUntil q).result = .ok (some f)) (hempty : f.span.isEmpty = false)
      (hrest : Lists q (s.scanUntil q).scanner os s') :
      Lists q s (⟨f.span, (s.scanUntil q).scanner.captures⟩ :: os) s'

variable {s s' s'' : Scanner} {q : Query} {p : Pattern} {t r : Text} {os os' : List Occurrence}

/-- The loop ends in one way only: what came of its searches says how a round goes on. -/
theorem Lists.unique (h : Lists q s os s') (h' : Lists q s os' s'') : os' = os ∧ s'' = s' := by
  induction h generalizing os' s'' with
  | missed hmiss => cases h' <;> simp_all
  | last hfound hempty hend => cases h' <;> simp_all
  | skipped hfound hempty hchar hrest ih =>
    cases h' with
    | skipped hfound' hempty' hchar' hrest' =>
      obtain ⟨rfl, rfl⟩ := ih hrest'
      simp_all
    | _ => simp_all
  | taken hfound hempty hrest ih =>
    cases h' with
    | taken hfound' hempty' hrest' =>
      obtain ⟨rfl, rfl⟩ := ih hrest'
      simp_all
    | _ => simp_all

/-- **The loop ends**, by induction on what is left: a match that is not empty takes some of it, and
so does a character behind an empty match. -/
theorem exists_lists (hq : q.compiled = .ok p) (h : s.StandsBefore t r) :
    ∃ os s', Lists q s os s' := by
  induction hn : r.length using Nat.strong_induction_on generalizing s r with
  | _ n ih =>
    rcases h.attempt hq .leftmost with ⟨-, hfails⟩ | ⟨f, u, v, r', -, rfl, -, hpasses⟩
    · exact ⟨_, _, .missed hfails.result⟩
    have hfound : (s.scanUntil q).result = .ok (some f) := hpasses.result
    have hbehind : (s.scanUntil q).scanner.StandsBefore t r' := hpasses.scanner
    rw [List.length_append, List.length_append] at hn
    cases hempty : f.span.isEmpty with
    | false =>
      have hpos := List.length_pos_of_ne_nil (hpasses.ne_nil hempty)
      obtain ⟨os, s', hrest⟩ := ih r'.length (by omega) hbehind rfl
      exact ⟨_, s', .taken hfound hempty hrest⟩
    | true =>
      cases r' with
      | nil => exact ⟨_, _, .last hfound hempty hbehind.takeChar_nil.result⟩
      | cons c r' =>
        obtain ⟨g, hg⟩ := hbehind.takeChar_cons
        rw [List.length_cons] at hn
        obtain ⟨os, s', hrest⟩ := ih r'.length (by omega) hg.scanner rfl
        exact ⟨_, s', .skipped hfound hempty hg.result hrest⟩

/-- What the loop records: no more matches than there are characters left and one more, and their
spans lie in the text from the cursor on, in order. -/
theorem Lists.inOrder (h : Lists q s os s') (hq : q.compiled = .ok p) (hs : s.StandsBefore t r) :
    os.length ≤ r.length + 1 ∧ Occurrence.InOrder t s.cursor os := by
  induction h generalizing r with
  | missed hmiss => exact ⟨Nat.zero_le _, .nil⟩
  | @last s f hfound hempty hend =>
    obtain ⟨u, v, r', -, -, hpasses⟩ := hs.passes_of_result hq hfound
    have hnil := Occurrence.InOrder.nil (t := t) (n := f.span.stop + 1)
    exact ⟨Nat.le_add_left 1 _,
      hnil.cons hpasses.le_start hpasses.within.span (by simp) fun _ => Nat.lt_succ_self _⟩
  | @skipped s s' f g os hfound hempty hchar hrest ih =>
    obtain ⟨u, v, r', rfl, -, hpasses⟩ := hs.passes_of_result hq hfound
    -- The character that is taken leaves room behind the empty match.
    obtain ⟨c, r', rfl, hg⟩ := hpasses.scanner.passes_takeChar hchar
    obtain ⟨hlength, horder⟩ := ih hg.scanner
    have hroom : f.span.stop < (s.scanUntil q).scanner.takeChar.scanner.cursor := by
      rw [← hpasses.cursor]
      exact hg.lt_cursor (List.cons_ne_nil c [])
    refine ⟨?_, horder.cons hpasses.le_start hpasses.within.span hroom.le fun _ => hroom⟩
    simp only [List.length_append, List.length_cons] at hlength ⊢
    omega
  | @taken s s' f os hfound hempty hrest ih =>
    obtain ⟨u, v, r', rfl, -, hpasses⟩ := hs.passes_of_result hq hfound
    have hpos := List.length_pos_of_ne_nil (hpasses.ne_nil hempty)
    obtain ⟨hlength, horder⟩ := ih hpasses.scanner
    refine ⟨?_, horder.cons hpasses.le_start hpasses.within.span hpasses.cursor.ge ?_⟩
    · simp only [List.length_append, List.length_cons] at hlength ⊢
      omega
    · exact fun he => absurd (he.symm.trans hempty) (by simp)

/-! ## The loop with a bound -/

/-- A bound that is greater than the number of characters left does not show. -/
theorem Lists.findUpTo_eq {fuel : Nat} (h : Lists (.pattern p) s os s') (hs : s.StandsBefore t r)
    (hfuel : r.length < fuel) : findUpTo p fuel s = (os, s') := by
  induction h generalizing r fuel with
  | missed hmiss =>
    obtain ⟨n, rfl⟩ := Nat.exists_eq_add_one_of_ne_zero (Nat.ne_zero_of_lt hfuel)
    simp only [findUpTo, hmiss]
  | last hfound hempty hend =>
    obtain ⟨n, rfl⟩ := Nat.exists_eq_add_one_of_ne_zero (Nat.ne_zero_of_lt hfuel)
    simp only [findUpTo, hfound, hempty, if_true, hend]
  | skipped hfound hempty hchar hrest ih =>
    obtain ⟨n, rfl⟩ := Nat.exists_eq_add_one_of_ne_zero (Nat.ne_zero_of_lt hfuel)
    obtain ⟨u, v, r', rfl, -, hpasses⟩ := hs.passes_of_result (q := .pattern p) rfl hfound
    obtain ⟨c, r', rfl, hg⟩ := hpasses.scanner.passes_takeChar hchar
    simp only [List.length_append, List.length_cons] at hfuel
    have hleft : r'.length < n := by omega
    simp only [findUpTo, hfound, hempty, if_true, hchar, ih hg.scanner hleft]
  | taken hfound hempty hrest ih =>
    obtain ⟨n, rfl⟩ := Nat.exists_eq_add_one_of_ne_zero (Nat.ne_zero_of_lt hfuel)
    obtain ⟨u, v, r', rfl, -, hpasses⟩ := hs.passes_of_result (q := .pattern p) rfl hfound
    have hpos := List.length_pos_of_ne_nil (hpasses.ne_nil hempty)
    simp only [List.length_append] at hfuel
    have hleft : r'.length < n := by omega
    simp only [findUpTo, hfound, hempty, Bool.false_eq_true, if_false, ih hpasses.scanner hleft]

/-- What the loop comes to over a new scanner is what `findAll` gives. -/
theorem Lists.findAll_eq {input : Option Text} (h : Lists (.pattern p) (new input) os s') :
    findAll p input = (os, s') := by
  cases input with
  | some t => exact h.findUpTo_eq (standsBefore_of_cursor rfl rfl) (Nat.lt_succ_self _)
  | none =>
    have hmiss : ((new none).scanUntil (.pattern p)).result = .ok none := by
      rw [scanUntil, attempt_absent rfl]
    obtain ⟨rfl, rfl⟩ := (Lists.missed hmiss).unique h
    simp only [findAll, findUpTo, hmiss]

/-- **Listing the matches ends, with the matches in order.**  For every query with a pattern, and
for every scanner at the start of its text or without a text, the loop ends by itself, and in one
way only.  It records no more matches than the text has characters and one more.  Their spans lie in
the text; each one starts where one before it has ended or later, and later than that if the one
before it was empty; and no span is recorded twice.  Over a new scanner it is what `findAll`
gives. -/
theorem listing_inOrder (hq : q.compiled = .ok p) (hs : s.cursor = 0) :
    ∃ (os : List Occurrence) (s' : Scanner), (∀ os' s'', Lists q s os' s'' ↔ os' = os ∧ s'' = s') ∧
      os.length ≤ (s.input.getD []).length + 1 ∧
      (∀ o ∈ os, ∃ t, s.input = some t ∧ o.span.LiesIn t) ∧
      (os.Pairwise fun o o' => o.span.stop ≤ o'.span.start ∧
        (o.span.isEmpty = true → o.span.stop < o'.span.start)) ∧
      (os.map (·.span)).Nodup ∧
      ∀ input, s = new input → q = .pattern p → findAll p input = (os, s') := by
  have hfindAll : ∀ {os s'}, Lists q s os s' → ∀ input, s = new input → q = .pattern p →
      findAll p input = (os, s') := by
    rintro os s' hlists input rfl rfl
    exact hlists.findAll_eq
  cases hi : s.input with
  | none =>
    have hlists := Lists.missed (result_of_absent (m := .leftmost) hq hi)
    refine ⟨[], _, fun os' s'' => ⟨hlists.unique, ?_⟩, Nat.zero_le _, by simp, .nil, .nil,
      hfindAll hlists⟩
    rintro ⟨rfl, rfl⟩
    exact hlists
  | some t =>
    have hstands := standsBefore_of_cursor hi hs
    obtain ⟨os, s', hlists⟩ := exists_lists hq hstands
    obtain ⟨hlength, horder⟩ := hlists.inOrder hq hstands
    refine ⟨os, s', fun os' s'' => ⟨hlists.unique, ?_⟩, hlength,
      fun o ho => ⟨t, rfl, (horder.within o ho).2⟩,
      horder.sorted.imp fun h => ⟨h.stop_le, h.lt_of_isEmpty⟩, horder.nodup, hfindAll hlists⟩
    rintro ⟨rfl, rfl⟩
    exact hlists

/-- The bound is reached: every character but an `a` has an empty match in front of it, and so has
the end. -/
theorem listing_inOrder_star :
    let t := "baéa".toList
    ∃ p, Pattern.compile "a*".toList = .ok p ∧ (new (some t)).cursor = 0 ∧
      ∃ (os : List Occurrence) (s' : Scanner), Lists (.pattern p) (new (some t)) os s' ∧
        os.map (·.span) = [⟨0, 0⟩, ⟨1, 2⟩, ⟨2, 2⟩, ⟨4, 5⟩, ⟨5, 5⟩] ∧
        os.length = t.length + 1 := by
  intro t
  have hcompile : Pattern.compile "a*".toList = .ok ⟨"a*".toList, _, rfl⟩ := rfl
  refine ⟨_, hcompile, rfl, ?_⟩
  obtain ⟨os, s', hlists, -, -, -, -, hfindAll⟩ :=
    listing_inOrder (q := .pattern ⟨"a*".toList, _, rfl⟩) (s := new (some t)) rfl rfl
  have hspans : os.map (·.span) = [⟨0, 0⟩, ⟨1, 2⟩, ⟨2, 2⟩, ⟨4, 5⟩, ⟨5, 5⟩] := by
    rw [← show (findAll _ (some t)).1 = os from congrArg Prod.fst (hfindAll (some t) rfl rfl)]
    decide
  refine ⟨os, s', (hlists os s').2 ⟨rfl, rfl⟩, hspans, ?_⟩
  rw [← List.length_map (·.span), hspans]
  rfl

end Scanner
end TextScan
