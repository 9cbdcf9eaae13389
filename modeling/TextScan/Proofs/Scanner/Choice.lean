/-
# Two patterns tried in order

The pattern of a choice is made of the sources of two patterns, each in parentheses, with a bar
between them.  A scan for it finds something where a scan for one of the two does.  It finds what the
first finds, and only where that finds nothing what the second finds, with the groups of the second
behind those of the first (`Scanner.scan_choice`).

There are two reservations.  Groups in a part that is repeated zero times are not counted at the end
of a source, but their numbers are used up where other groups come behind them.  And what both
sources start with is taken out of the alternatives: if it can match in several ways, and both
patterns find something, then the way is chosen before the alternative is
(`Scanner.choice_out_of_order`).
-/

import TextScan.Proofs.Regex.Embedding.Choice
import TextScan.Proofs.Regex.OrderedChoice
import TextScan.Proofs.Scanner.Groups
import TextScan.Proofs.Scanner.Matching
import TextScan.Proofs.Scanner.Modes

namespace TextScan

open Regex (Expr Tree Spot)

/-- The groups of a match, by number. -/
theorem Found.map_groups_ofHit {α : Type} (n : Nat) (p : Pattern) (h : Regex.Hit)
    (g : Option Span → α) : (ofHit n p.regex h).groups.map (fun x => g x.2) =
      (List.range p.groupCount).map fun i => g ((h.group? (i + 1)).map (Span.shift n)) := by
  refine List.ext_getElem ?_ fun i hi hi' => ?_
  · simp only [ofHit, Regex.groupsOf, Pattern.groupCount, List.length_map, List.length_mapIdx,
      List.length_range]
  · simp only [ofHit, Regex.groupsOf, List.getElem_map, List.getElem_mapIdx, List.getElem_range]

namespace Pattern

variable {a b c : Pattern} {ea eb : Expr} {ta : Tree}

theorem groupCount_eq (hea : Expr.ofSource a.source = .ok ea) :
    a.groupCount = ea.groupNames.length := by
  rw [groupCount, regex_eq_ofExpr hea]
  rfl

/-- The groups of an expression are numbered from one on, up to the number of groups opened. -/
theorem number_of_mem_groups (hta : Tree.ofSource a.source = .ok ta)
    (hea : Expr.ofSource a.source = .ok ea) {g : Nat × Option Text} (hg : g ∈ ea.groups) :
    1 ≤ g.1 ∧ g.1 ≤ ta.captures.length := by
  obtain ⟨f, hmeaning⟩ := Expr.exists_meaning hea hta
  have hcaptured := ta.capturesIf_subset ((ta.mem_groups_of_meaning hmeaning).1 hg)
  have hmem : g.1 ∈ ta.captures.map (·.1) := List.mem_map_of_mem hcaptured
  rw [(Tree.numbered_of_ofSource hta).1, List.mem_range'_1] at hmem
  omega

theorem groupCount_le_opened (hta : Tree.ofSource a.source = .ok ta) :
    a.groupCount ≤ ta.captures.length := by
  obtain ⟨ea, hea, -, -⟩ := a.exists_ofExpr
  rw [groupCount_eq hea]
  exact ea.isLeast_length_groupNames.2 fun g hg => (number_of_mem_groups hta hea hg).2

section Choice

variable (hsource : c.source = Regex.choice a.source b.source)
  (hna : '#' ∉ a.source) (hnb : '#' ∉ b.source) (hta : Tree.ofSource a.source = .ok ta)
  (hea : Expr.ofSource a.source = .ok ea) (heb : Expr.ofSource b.source = .ok eb)

include hsource hna hnb hta hea heb

theorem ofSource_of_choice :
    Expr.ofSource c.source = .ok (.alternatives [ea, eb.renumber ta.captures.length]) := by
  obtain ⟨e, he, -, -⟩ := c.exists_ofExpr
  rw [he]
  rw [hsource] at he
  rw [Expr.ofSource_choice hea hta heb hna hnb he]

theorem groupCount_of_choice : c.groupCount =
    if b.groupCount = 0 then a.groupCount else ta.captures.length + b.groupCount := by
  obtain ⟨tb, htb⟩ := b.exists_tree
  rw [groupCount_eq (ofSource_of_choice hsource hna hnb hta hea heb), groupCount_eq hea,
    groupCount_eq heb]
  exact Expr.length_groupNames_alternatives (fun g hg => (number_of_mem_groups hta hea hg).2)
    fun g hg => (number_of_mem_groups htb heb hg).1

end Choice

end Pattern

namespace Scanner

variable {s : Scanner} {q : Query} {p : Pattern} {e : Expr} {t region : Text} {h h' : Regex.Hit}

/-- The text of a group of a hit in the text from the cursor on. -/
def groupText (s : Scanner) (h : Regex.Hit) (i : Nat) : Option Text :=
  ((h.group? i).map (Span.shift s.cursor)).bind s.slice?

/-- An answer reports a hit in the text from the cursor on, with a number of groups. -/
structure Shows (s : Scanner) (ans : Answer) (h : Regex.Hit) (count : Nat) : Prop where
  reply : ∃ u, s.slice? (h.span.shift s.cursor) = some u ∧ ans.reply = .text u
  cursor : ans.scanner.cursor = (h.span.shift s.cursor).stop
  span : ans.scanner.matchedSpan = some (h.span.shift s.cursor)
  captures : ans.scanner.captures = (List.range count).map fun i => s.groupText h (i + 1)

theorem exists_region_of_succeeds (h : s.Succeeds (.scan q)) :
    ∃ t region, s.input = some t ∧ Text.drop? t s.cursor = some region := by
  obtain ⟨t, p, f, hi, -, hf⟩ := (succeeds_iff rfl).1 h
  obtain ⟨region, -, hr, -⟩ := Pattern.findAt_eq_some_iff.1 hf
  exact ⟨t, region, hi, hr⟩

section Hits

variable (hi : s.input = some t) (hr : Text.drop? t s.cursor = some region)
  (hq : q.compiled = .ok p) (he : Expr.ofSource p.source = .ok e)

include hi hr hq he

/-- A scan succeeds exactly if its expression has a hit at the cursor. -/
theorem succeeds_scan_iff_hit :
    s.Succeeds (.scan q) ↔ ∃ h, (Regex.Program.ofExpr e).hit? .anchored region = some h := by
  rw [succeeds_iff rfl]
  constructor
  · rintro ⟨t', p', f, hi', hq', hf⟩
    obtain rfl := Option.some.inj (hi.symm.trans hi')
    obtain rfl := Except.ok.inj (hq.symm.trans hq')
    obtain ⟨region', h, hr', hh, -⟩ := Pattern.findAt_eq_some_iff.1 hf
    obtain rfl := Option.some.inj (hr.symm.trans hr')
    rw [Pattern.regex_eq_ofExpr he] at hh
    exact ⟨h, hh⟩
  · rintro ⟨h, hh⟩
    refine ⟨t, p, _, hi, hq, Pattern.findAt_eq_some_iff.2 ⟨region, h, hr, ?_, rfl⟩⟩
    rw [Pattern.regex_eq_ofExpr he]
    exact hh

/-- A scan reports the hit of its expression. -/
theorem shows_of_hit? (hh : (Regex.Program.ofExpr e).hit? .anchored region = some h) :
    s.Shows (s.answer (.scan q)) h p.groupCount := by
  have hf : p.findAt .anchored t s.cursor = some (Found.ofHit s.cursor p.regex h) := by
    refine Pattern.findAt_eq_some_iff.2 ⟨region, h, hr, ?_, rfl⟩
    rw [Pattern.regex_eq_ofExpr he]
    exact hh
  cases search_outcome (s := s) (r := .scan q) rfl with
  | fault e he' _ => exact absurd (hq.symm.trans he') (by simp)
  | absent p c _ hi' _ _ => exact absurd (hi.symm.trans hi') (by simp)
  | missed p' c t' hq' hi' hf' _ _ =>
    obtain rfl := Option.some.inj (hi.symm.trans hi')
    obtain rfl := Except.ok.inj (hq.symm.trans hq')
    exact absurd (hf.symm.trans hf') (by simp)
  | found p' c t' f u hq' hi' hf' htext hreply hscanner =>
    obtain rfl := Option.some.inj (hi.symm.trans hi')
    obtain rfl := Except.ok.inj (hq.symm.trans hq')
    obtain rfl := Option.some.inj (hf.symm.trans hf')
    refine ⟨⟨u, by rw [slice?_eq hi]; exact htext, hreply⟩, by rw [hscanner]; rfl,
      by rw [hscanner]; rfl, ?_⟩
    rw [hscanner]
    exact Found.map_groups_ofHit s.cursor p h fun sp => sp.bind s.slice?

end Hits

/-- Two answers say the same, but for the groups. -/
structure SameScan (x y : Answer) : Prop where
  reply : x.reply = y.reply
  cursor : x.scanner.cursor = y.scanner.cursor
  span : x.scanner.matchedSpan = y.scanner.matchedSpan

theorem Shows.sameScan {x y : Answer} {n m : Nat} (hx : s.Shows x h n) (hy : s.Shows y h' m)
    (hspan : h.span = h'.span) : SameScan x y := by
  obtain ⟨u, hu, hreply⟩ := hx.reply
  obtain ⟨u', hu', hreply'⟩ := hy.reply
  rw [hspan] at hu
  obtain rfl := Option.some.inj (hu.symm.trans hu')
  exact ⟨hreply.trans hreply'.symm, by rw [hx.cursor, hy.cursor, hspan],
    by rw [hx.span, hy.span, hspan]⟩

/-- What a scanner says to a scan for the choice between two patterns, next to what it says to a scan
for each.  The first pattern has the tree `t`, and `lead` is what both start with. -/
structure ScansInOrder (s : Scanner) (qa qb qc : Query) (a b c : Pattern) (t : Tree) (lead : Expr) :
    Prop where
  /-- The groups of the second come behind all that are opened in the source of the first. -/
  count : c.groupCount =
    if b.groupCount = 0 then a.groupCount else t.captures.length + b.groupCount
  /-- These are the groups that the first counts, if none is in a part repeated zero times. -/
  opened : t.kept = t.captures → t.captures.length = a.groupCount
  succeeds : s.Succeeds (.scan qc) ↔ s.Succeeds (.scan qa) ∨ s.Succeeds (.scan qb)
  /-- What the first finds comes first, if the second finds nothing or both start in one way. -/
  first : s.Succeeds (.scan qa) → (s.Succeeds (.scan qb) → lead.OneWay (Spot.start s.rest)) →
    SameScan (s.answer (.scan qc)) (s.answer (.scan qa)) ∧
      (s.answer (.scan qc)).scanner.captures = (s.answer (.scan qa)).scanner.captures ++
        List.replicate (c.groupCount - a.groupCount) none
  /-- What the second finds comes second. -/
  second : ¬s.Succeeds (.scan qa) → s.Succeeds (.scan qb) →
    SameScan (s.answer (.scan qc)) (s.answer (.scan qb)) ∧
      (s.answer (.scan qc)).scanner.captures = (List.replicate t.captures.length none ++
        (s.answer (.scan qb)).scanner.captures).take c.groupCount

section Ranges

variable {α : Type} {g g' : Nat → Option α} {m n : Nat}

/-- Where nothing follows any more, a list is filled up with nothing. -/
theorem map_range_add_of_none (n : Nat) (h : ∀ i, m ≤ i → g i = none) :
    (List.range (m + n)).map g = (List.range m).map g ++ List.replicate n none := by
  rw [List.range_add, List.map_append, List.map_map]
  refine congrArg (_ ++ ·) (List.eq_replicate_iff.2 ⟨by simp, fun x hx => ?_⟩)
  obtain ⟨i, -, rfl⟩ := List.mem_map.1 hx
  exact h _ (Nat.le_add_right m i)

/-- A list that stands behind nothing. -/
theorem map_range_add_of_shift (m : Nat) (hnone : ∀ i, i < n → g' i = none)
    (hshift : ∀ i, g' (n + i) = g i) :
    (List.range (n + m)).map g' = List.replicate n none ++ (List.range m).map g := by
  rw [List.range_add, List.map_append, List.map_map]
  refine congrArg₂ (· ++ ·) (List.eq_replicate_iff.2 ⟨by simp, fun x hx => ?_⟩)
    (List.map_congr_left fun i _ => hshift i)
  obtain ⟨i, hi, rfl⟩ := List.mem_map.1 hx
  exact hnone i (List.mem_range.1 hi)

end Ranges

section Choice

variable {qa qb qc : Query} {a b c : Pattern} {ea eb : Expr} {ta : Tree}

/-- A pattern has no group behind those that it counts. -/
theorem groupText_eq_none (hea : Expr.ofSource a.source = .ok ea)
    (hh : (Regex.Program.ofExpr ea).hit? .anchored region = some h) {i : Nat}
    (hi : a.groupCount ≤ i) : s.groupText h (i + 1) = none := by
  rw [Pattern.groupCount_eq hea] at hi
  have hno := Expr.group?_of_hit? (Expr.ordered_of_ofSource hea) hh (i := i + 1) fun g hg heq => by
    have hle := ea.isLeast_length_groupNames.1 g hg
    omega
  rw [groupText, hno]
  rfl

/-- Groups that are moved behind `n` others stand there, and nothing stands before them. -/
theorem groupText_move (heb : Expr.ofSource b.source = .ok eb)
    (hh : (Regex.Program.ofExpr eb).hit? .anchored region = some h) (n : Nat) :
    (∀ i, i < n → s.groupText ⟨h.span, h.marks.move (2 * n)⟩ (i + 1) = none) ∧
      ∀ i, s.groupText ⟨h.span, h.marks.move (2 * n)⟩ (n + i + 1) = s.groupText h (i + 1) := by
  obtain ⟨tb, htb⟩ := b.exists_tree
  constructor
  · intro i hi
    rw [groupText, Expr.group?_move_of_hit? (Expr.ordered_of_ofSource heb)
      (fun g hg => (Pattern.number_of_mem_groups htb heb hg).1) hh (Nat.succ_le_of_lt hi)]
    rfl
  · intro i
    have hplace : n + i + 1 = i + 1 + n := by omega
    rw [groupText, hplace, Regex.Hit.group?_move]
    rfl

/-- **A choice tries its patterns in order.** -/
theorem scan_choice (s : Scanner) (ha : qa.compiled = .ok a) (hb : qb.compiled = .ok b)
    (hc : qc.compiled = .ok c) (hsource : c.source = Regex.choice a.source b.source)
    (hna : '#' ∉ a.source) (hnb : '#' ∉ b.source) (hta : Tree.ofSource a.source = .ok ta)
    (hea : Expr.ofSource a.source = .ok ea) (heb : Expr.ofSource b.source = .ok eb) :
    s.ScansInOrder qa qb qc a b c ta (.commonLead [ea, eb.renumber ta.captures.length]) := by
  have hec := Pattern.ofSource_of_choice hsource hna hnb hta hea heb
  have hfa := Expr.factored_of_ofSource hea
  have hfb := Expr.factored_of_ofSource heb
  have hoa := Expr.ordered_of_ofSource hea
  have hob := Expr.ordered_of_ofSource heb
  have hcount := Pattern.groupCount_of_choice hsource hna hnb hta hea heb
  have hopened := Pattern.groupCount_le_opened hta
  refine ⟨hcount, fun hkept => (Pattern.groupCount_of_kept hta hkept).symm, ?_, fun hsa hway => ?_,
    fun hna' hsb => ?_⟩
  · by_cases hregion : ∃ t region, s.input = some t ∧ Text.drop? t s.cursor = some region
    · obtain ⟨t, region, hi, hr⟩ := hregion
      rw [succeeds_scan_iff_hit hi hr ha hea, succeeds_scan_iff_hit hi hr hb heb,
        succeeds_scan_iff_hit hi hr hc hec, Expr.exists_hit?_alternatives hfa hfb hoa hob]
    · have hno : ∀ {q}, ¬s.Succeeds (.scan q) := fun h => hregion (exists_region_of_succeeds h)
      exact iff_of_false hno (not_or.2 ⟨hno, hno⟩)
  · obtain ⟨t, region, hi, hr⟩ := exists_region_of_succeeds hsa
    obtain ⟨h, hh⟩ := (succeeds_scan_iff_hit hi hr ha hea).1 hsa
    have hrest : s.rest = region := by rw [rest, hi, Option.bind_some, hr, Option.getD_some]
    rw [hrest, succeeds_scan_iff_hit hi hr hb heb] at hway
    have hshows := shows_of_hit? hi hr ha hea hh
    have hshows' := shows_of_hit? hi hr hc hec
      (Expr.hit?_alternatives_left hfa hfb hoa hob hh hway)
    have hle : a.groupCount ≤ c.groupCount := by
      rw [hcount]
      split <;> omega
    refine ⟨hshows'.sameScan hshows rfl, ?_⟩
    rw [hshows'.captures, hshows.captures,
      ← map_range_add_of_none _ fun i hi => groupText_eq_none hea hh hi, Nat.add_sub_cancel' hle]
  · obtain ⟨t, region, hi, hr⟩ := exists_region_of_succeeds hsb
    obtain ⟨h, hh⟩ := (succeeds_scan_iff_hit hi hr hb heb).1 hsb
    rw [succeeds_scan_iff_hit hi hr ha hea] at hna'
    have hnone := Option.eq_none_iff_forall_ne_some.2 fun h hh => hna' ⟨h, hh⟩
    have hshows := shows_of_hit? hi hr hb heb hh
    have hshows' := shows_of_hit? hi hr hc hec
      (Expr.hit?_alternatives_right hfa hfb hoa hob hnone hh)
    have hle : c.groupCount ≤ ta.captures.length + b.groupCount := by
      rw [hcount]
      split <;> omega
    refine ⟨hshows'.sameScan hshows rfl, ?_⟩
    obtain ⟨hbefore, hbehind⟩ := groupText_move (s := s) heb hh ta.captures.length
    rw [hshows'.captures, hshows.captures, ← map_range_add_of_shift b.groupCount hbefore hbehind,
      ← List.map_take, List.take_range, Nat.min_eq_left hle]

end Choice

/-- At the `é` of `-éy` the choice between `é(x)?` and `é(y)` finds what the first does, though the
second finds more. -/
theorem scan_choice_shorter :
    let qa := Query.source "é(x)?".toList
    let qb := Query.source "é(y)".toList
    let qc := Query.source (Regex.choice "é(x)?".toList "é(y)".toList)
    let s := (new (some "-éy".toList)).after [.moveTo 1]
    ∃ a b c t, s.ScansInOrder qa qb qc a b c t (.text ['é']) ∧
      SameScan (s.answer (.scan qc)) (s.answer (.scan qa)) ∧
      (s.answer (.scan qb)).reply = .text "éy".toList ∧
      (s.answer (.scan qc)).reply = .text "é".toList ∧
      (s.answer (.scan qc)).scanner.captures = [none, none] := by
  intro qa qb qc s
  have ha : qa.compiled = .ok ⟨"é(x)?".toList, _, rfl⟩ := rfl
  have hb : qb.compiled = .ok ⟨"é(y)".toList, _, rfl⟩ := rfl
  have hc : qc.compiled = .ok ⟨Regex.choice "é(x)?".toList "é(y)".toList, _, rfl⟩ := rfl
  have h := scan_choice s ha hb hc rfl (by decide) (by decide) rfl rfl rfl
  have hfirst : (s.answer (.scan qa)).reply = .text "é".toList := by decide
  refine ⟨_, _, _, _, h, ?_, by decide, by decide, by decide⟩
  exact (h.first (succeeds_of_text rfl hfirst) fun _ => Expr.oneWay_text _ _).1

/-- A choice does not always try its sources in order: for `(x){0}` and `(y)` it shows a group of the
first that a scan for the first does not show, and in `aab`, where the first of `a*a` and `a*b` finds
`aa`, it finds `aab`. -/
theorem choice_out_of_order :
    (¬∀ (a b : Text) (p : Pattern), '#' ∉ a → '#' ∉ b → Pattern.compile b = .ok p →
      (∃ c, Pattern.compile (Regex.choice a b) = .ok c) → ∀ (input : Option Text)
      (rs : List Request), ((new input).after rs).Succeeds (.scan (.source a)) →
        (((new input).after rs).answer (.scan (.source (Regex.choice a b)))).scanner.captures =
          (((new input).after rs).answer (.scan (.source a))).scanner.captures ++
            List.replicate p.groupCount none) ∧
    ¬∀ a b : Text, '#' ∉ a → '#' ∉ b → (∃ p, Pattern.compile b = .ok p) →
      (∃ c, Pattern.compile (Regex.choice a b) = .ok c) → ∀ (input : Option Text)
      (rs : List Request), ((new input).after rs).Succeeds (.scan (.source a)) →
        SameScan (((new input).after rs).answer (.scan (.source (Regex.choice a b))))
          (((new input).after rs).answer (.scan (.source a))) := by
  constructor
  · intro h
    have hreply : ((new (some [])).answer (.scan (.source "(x)\x7b0\x7d".toList))).reply =
      .text [] := by decide
    have hlists := h "(x)\x7b0\x7d".toList "(y)".toList _ (by decide) (by decide) rfl ⟨_, rfl⟩
      (some []) [] (succeeds_of_text rfl hreply)
    have hfirst : ((new (some [])).answer
      (.scan (.source "(x)\x7b0\x7d".toList))).scanner.captures = [] := by decide
    have hchoice : ((new (some [])).answer (.scan (.source (Regex.choice "(x)\x7b0\x7d".toList
      "(y)".toList)))).scanner.captures = [none, none] := by decide
    have heq : [none, none] = [none] :=
      hchoice.symm.trans (hlists.trans (congrArg (· ++ [none]) hfirst))
    exact absurd heq (by decide)
  · intro h
    have hreply : ((new (some "aab".toList)).answer (.scan (.source "a*a".toList))).reply =
      .text "aa".toList := by decide
    have hchoice : ((new (some "aab".toList)).answer (.scan (.source (Regex.choice "a*a".toList
      "a*b".toList)))).reply = .text "aab".toList := by decide
    have hsame := (h "a*a".toList "a*b".toList (by decide) (by decide) ⟨_, rfl⟩ ⟨_, rfl⟩
      (some "aab".toList) [] (succeeds_of_text rfl hreply)).reply
    exact absurd (hchoice.symm.trans (hsame.trans hreply)) (by decide)

end Scanner
end TextScan
