/-
# The groups of a match

The groups of a match can be asked for in a list, by number and by name, and the pattern says how
many there are.  The list and the numbers come from the names that the pattern has and the marks that
the search left; the names are looked up in the list.  All of these agree with the source of the
pattern, with its groups counted by their opening parentheses (`coherent_after_new`).

A group in a part that is repeated zero times is left out of the expression: it has its number still,
but it takes part in no match, and where no other group follows it is not counted.
-/

import TextScan.Proofs.Regex.Groups
import TextScan.Proofs.Scanner.History

namespace TextScan

open Regex (Expr Tree)

namespace Pattern

variable {p : Pattern} {t : Tree} {m : Regex.Mode} {u : Text} {n : Nat} {f : Found}

/-- The source of a pattern has a tree. -/
theorem exists_tree (p : Pattern) : ∃ t, Tree.ofSource p.source = .ok t := by
  obtain ⟨e, he, -⟩ := p.exists_ofExpr
  obtain ⟨t, ht, -⟩ := Regex.bind_eq_ok.1 he
  exact ⟨t, ht⟩

/-- The expression of a pattern has the groups that the tree of its source keeps. -/
theorem exists_expr_of_tree (ht : Tree.ofSource p.source = .ok t) :
    ∃ e, p.regex = Regex.ofExpr e ∧ e.Ordered ∧ ∀ g, g ∈ e.groups ↔ g ∈ t.kept := by
  obtain ⟨e, he, hordered, hr⟩ := p.exists_ofExpr
  obtain ⟨t', ht', he⟩ := Regex.bind_eq_ok.1 he
  obtain rfl := Except.ok.inj (ht.symm.trans ht')
  obtain ⟨⟨e', f⟩, hmeaning, he⟩ := Regex.bind_eq_ok.1 he
  obtain rfl := Except.ok.inj he
  exact ⟨e', hr, hordered, fun g => t.mem_groups_of_meaning hmeaning⟩

/-- A pattern counts its groups up to the last one that is kept. -/
theorem isLeast_groupCount (ht : Tree.ofSource p.source = .ok t) :
    IsLeast {n | ∀ g ∈ t.kept, g.1 ≤ n} p.groupCount := by
  obtain ⟨e, hr, -, hgroups⟩ := exists_expr_of_tree ht
  have hleast := e.isLeast_length_groupNames
  simp only [hgroups] at hleast
  rw [groupCount, hr]
  exact hleast

/-- Where no group is left out, a pattern counts all groups of its source. -/
theorem groupCount_of_kept (ht : Tree.ofSource p.source = .ok t) (hkept : t.kept = t.captures) :
    p.groupCount = t.captures.length := by
  have hnumbers := (Tree.numbered_of_ofSource ht).1
  obtain ⟨hle, hleast⟩ := isLeast_groupCount ht
  rw [hkept] at hle hleast
  refine le_antisymm (hleast fun g hg => ?_) ?_
  · have hmem : g.1 ∈ t.captures.map (·.1) := List.mem_map_of_mem hg
    rw [hnumbers, List.mem_range'_1] at hmem
    omega
  · cases hlength : t.captures.length with
    | zero => exact Nat.zero_le _
    | succ k =>
      have hmem : k + 1 ∈ t.captures.map (·.1) := by
        rw [hnumbers, hlength, List.mem_range'_1]
        omega
      obtain ⟨g, hg, hk⟩ := List.mem_map.1 hmem
      exact hk ▸ hle g hg

/-- A match has a place for each group that the pattern counts. -/
theorem length_groups_of_findAt (hf : p.findAt m u n = some f) : f.groups.length = p.groupCount := by
  obtain ⟨region, h, -, -, rfl⟩ := findAt_eq_some_iff.1 hf
  simp only [Found.ofHit, Regex.groupsOf, List.length_map, List.length_mapIdx, groupCount]

/-- The places of a match have the names of the groups that are kept. -/
theorem name_of_findAt (ht : Tree.ofSource p.source = .ok t) (hf : p.findAt m u n = some f)
    {i : Nat} {name : Text} :
    (f.groups[i]?).map (·.1) = some (some name) ↔ (i + 1, some name) ∈ t.kept := by
  obtain ⟨e, hr, -, hgroups⟩ := exists_expr_of_tree ht
  obtain ⟨region, h, -, -, rfl⟩ := findAt_eq_some_iff.1 hf
  rw [← hgroups, ← e.groupNames_getElem?_eq_some_iff fun g hg g' hg' heq =>
    Tree.eq_of_number ht (t.capturesIf_subset ((hgroups g).1 hg))
      (t.capturesIf_subset ((hgroups g').1 hg')) heq]
  simp only [Found.ofHit, Regex.groupsOf, hr, Regex.ofExpr, List.getElem?_map, List.getElem?_mapIdx,
    Option.map_map]
  cases e.groupNames[i]? <;> rfl

/-- A group that is not kept takes part in no match. -/
theorem group?_of_not_kept (ht : Tree.ofSource p.source = .ok t) (hf : p.findAt m u n = some f)
    {i : Nat} (hi : 1 ≤ i) (hno : ∀ g ∈ t.kept, g.1 ≠ i) : f.group? i = none := by
  obtain ⟨e, hr, he, hgroups⟩ := exists_expr_of_tree ht
  obtain ⟨region, h, -, hh, rfl⟩ := findAt_eq_some_iff.1 hf
  obtain ⟨i, rfl⟩ : ∃ k, i = k + 1 := ⟨i - 1, by omega⟩
  rw [hr] at hh
  obtain ⟨s, -, ⟨y, hrun, rfl⟩, -⟩ := Regex.yields_of_hit? he hh
  have hnone : ∀ span, Regex.Hit.group? ⟨span, y.2⟩ (i + 1) = none :=
    hrun.group?_eq_none fun g hg => hno g ((hgroups g).1 hg)
  simp only [Found.group?, Found.ofHit, Regex.groupsOf, List.getElem?_map, List.getElem?_mapIdx,
    Option.map_map, hnone]
  cases p.regex.names[i]? <;> rfl

/-- A group of the source that is left out of the expression takes part in no match. -/
theorem group?_of_left_out (ht : Tree.ofSource p.source = .ok t) (hf : p.findAt m u n = some f)
    {g : Nat × Option Text} (hg : g ∈ t.captures) (hno : g ∉ t.kept) : f.group? g.1 = none := by
  refine group?_of_not_kept ht hf (Tree.number_pos ht hg) fun g' hg' heq => hno ?_
  rwa [← Tree.eq_of_number ht (t.capturesIf_subset hg') hg heq]

/-- A name stands for the group of the source that has it, and for nothing if none has it. -/
theorem groupNamed?_of_findAt (ht : Tree.ofSource p.source = .ok t)
    (hf : p.findAt m u n = some f) (name : Text) :
    (∀ i, (i, some name) ∈ t.captures → f.groupNamed? name = f.group? i) ∧
      ((∀ i, (i, some name) ∉ t.captures) → f.groupNamed? name = none) := by
  -- what is found by name stands at the number of a group with that name
  have hfind : ∀ {g}, f.groups.find? (·.1 == some name) = some g →
      ∃ i, f.groups[i]? = some g ∧ (i + 1, some name) ∈ t.kept := by
    intro g hg
    obtain ⟨i, hi⟩ := List.getElem?_of_mem (List.mem_of_find?_eq_some hg)
    have hname : g.1 = some name := by simpa using List.find?_some hg
    exact ⟨i, hi, (name_of_findAt ht hf).1 (by rw [hi, Option.map_some, hname])⟩
  have hnone : (∀ i, (i, some name) ∉ t.kept) → f.groupNamed? name = none := by
    intro hno
    unfold Found.groupNamed?
    cases hg : f.groups.find? (·.1 == some name) with
    | none => rfl
    | some g =>
      obtain ⟨i, -, hmem⟩ := hfind hg
      exact absurd hmem (hno _)
  refine ⟨fun i hi => ?_, fun hno => hnone fun i hmem => hno i (t.capturesIf_subset hmem)⟩
  by_cases hkept : (i, some name) ∈ t.kept
  · obtain ⟨i, rfl⟩ : ∃ k, i = k + 1 :=
      ⟨i - 1, by have := Tree.number_pos ht hi; simp only at this; omega⟩
    obtain ⟨g, hg, hname⟩ := Option.map_eq_some_iff.1 ((name_of_findAt ht hf).2 hkept)
    unfold Found.groupNamed?
    cases hg' : f.groups.find? (·.1 == some name) with
    | none =>
      exact absurd (List.find?_eq_none.1 hg' g (List.mem_of_getElem? hg)) (by simp [hname])
    | some g' =>
      obtain ⟨j, hj, hmem⟩ := hfind hg'
      have hij := Tree.eq_of_name ht (t.capturesIf_subset hmem) hi
      obtain rfl : j = i := by omega
      simp only [Found.group?, hj]
  · rw [hnone fun j hmem => hkept (Tree.eq_of_name ht (t.capturesIf_subset hmem) hi ▸ hmem),
      group?_of_left_out ht hf hi hkept]

end Pattern

namespace Scanner

variable {s : Scanner} {p : Pattern} {t : Tree} {m : Regex.Mode} {u : Text} {n : Nat} {f : Found}

/-- The groups that a scanner shows of its match agree with the source of a pattern, with the tree
`t`. -/
structure Coherent (s : Scanner) (p : Pattern) (t : Tree) : Prop where
  /-- All lists of groups have as many places as the pattern counts. -/
  captures : s.captures.length = p.groupCount
  view : ∃ v, s.matchView = some v ∧ v.captures.length = p.groupCount
  /-- The groups of the source are numbered by their opening parentheses. -/
  numbers : t.captures.map (·.1) = List.range' 1 t.captures.length
  /-- The pattern counts them up to the last one that is not in a part repeated zero times. -/
  count : IsLeast {n | ∀ g ∈ t.kept, g.1 ≤ n} p.groupCount
  all : t.kept = t.captures → p.groupCount = t.captures.length
  whole : s.group 0 = s.matched
  listed : ∀ i, 1 ≤ i → i ≤ p.groupCount → s.captures[i - 1]? = some (s.group i)
  beyond : ∀ i, p.groupCount < i → s.group i = none
  /-- A group in a part that is repeated zero times is shown as nothing, by number and so by name. -/
  leftOut : ∀ i name, (i, name) ∈ t.captures → (i, name) ∉ t.kept → s.group i = none
  /-- A name stands for one group of the source. -/
  unique : ∀ name i j, (i, some name) ∈ t.captures → (j, some name) ∈ t.captures → i = j
  named : ∀ name i, (i, some name) ∈ t.captures → s.groupNamed name = s.group i
  unnamed : ∀ name, (∀ i, (i, some name) ∉ t.captures) → s.groupNamed name = none

/-- A scanner that holds a match of a pattern shows its groups as the pattern has them. -/
theorem coherent_of_findAt (ht : Tree.ofSource p.source = .ok t) (hf : p.findAt m u n = some f)
    (hs : s.found = some f) : s.Coherent p t := by
  have hlength := Pattern.length_groups_of_findAt hf
  have hcaptures : s.captures = f.groups.map fun g => g.2.bind s.slice? := by
    rw [captures, hs, Option.elim_some]
  have hgroup : ∀ i, s.group i = (f.group? i).bind s.slice? := fun i => by
    rw [group, hs, Option.bind_some]
  have hcount : s.captures.length = p.groupCount := by rw [hcaptures, List.length_map, hlength]
  refine ⟨hcount, ⟨_, by rw [matchView, hs, Option.map_some], hcount⟩,
    (Tree.numbered_of_ofSource ht).1, Pattern.isLeast_groupCount ht, Pattern.groupCount_of_kept ht,
    ?_, fun i hi hle => ?_, fun i hlt => ?_, fun i name hi hno => ?_,
    fun _ _ _ hi hj => Tree.eq_of_name ht hi hj, fun name i hi => ?_, fun name hno => ?_⟩
  · rw [hgroup, matched, hs]
    rfl
  · obtain ⟨i, rfl⟩ : ∃ k, i = k + 1 := ⟨i - 1, by omega⟩
    have hi' : i < f.groups.length := by omega
    rw [hgroup, hcaptures, Nat.add_sub_cancel, List.getElem?_map, Found.group?,
      List.getElem?_eq_getElem hi']
    rfl
  · obtain ⟨i, rfl⟩ : ∃ k, i = k + 1 := ⟨i - 1, by omega⟩
    rw [hgroup, Found.group?, List.getElem?_eq_none (by omega)]
    rfl
  · rw [hgroup, Pattern.group?_of_left_out ht hf hi hno]
    rfl
  · rw [groupNamed, hs, Option.bind_some, hgroup,
      (Pattern.groupNamed?_of_findAt ht hf name).1 i hi]
  · rw [groupNamed, hs, Option.bind_some, (Pattern.groupNamed?_of_findAt ht hf name).2 hno]
    rfl

/-- **The groups of a match agree with the source of its pattern.**  The match of a scanner behind a
series of requests was found by the last one that decided, for a pattern whose source has the tree
`t`.  Then all ways to ask for its groups agree with each other and with the groups of `t`. -/
theorem coherent_after_new {input : Option Text} {pre post : List Request} {r : Request} {q : Query}
    (hlast : (new input).LastDecides pre r post) (hyes : ((new input).after pre).Succeeds r)
    (hr : r.search? = some (m, q)) (hp : q.compiled = .ok p)
    (ht : Tree.ofSource p.source = .ok t) :
    ((new input).after (pre ++ r :: post)).Coherent p t := by
  obtain ⟨m', q', u, p', f, hr', -, hp', hf, hfound, -⟩ := hlast.exists_found hyes
  obtain ⟨rfl, rfl⟩ := Prod.mk.inj (Option.some.inj (hr.symm.trans hr'))
  obtain rfl := Except.ok.inj (hp.symm.trans hp')
  exact coherent_of_findAt ht hf hfound

/-- In `éb` the first match of `(a)|(c){0}((b))(d){0}` has the third and the fourth of five groups.
The second is counted, for others follow it, but it is left out. -/
theorem coherent_after_new_branch :
    let q := Query.source "(a)|(c)\x7b0\x7d((b))(d)\x7b0\x7d".toList
    let s := (new (some "éb".toList)).after ([] ++ .scanUntil q :: [])
    ∃ p t, q.compiled = .ok p ∧ Tree.ofSource p.source = .ok t ∧ s.Coherent p t ∧
      s.captures = [none, none, some ['b'], some ['b']] ∧ (2, none) ∈ t.captures ∧
      s.group 2 = none := by
  intro q s
  have hp : q.compiled = .ok ⟨"(a)|(c)\x7b0\x7d((b))(d)\x7b0\x7d".toList, _, rfl⟩ := rfl
  have hreply : ((new (some "éb".toList)).answer (.scanUntil q)).reply = .text ['b'] := by decide
  have hyes : (new (some "éb".toList)).Succeeds (.scanUntil q) := succeeds_of_text rfl hreply
  have h : s.Coherent _ _ :=
    coherent_after_new ⟨Or.inr (Or.inr ⟨rfl, hyes.2.1⟩), trivial⟩ hyes rfl hp rfl
  exact ⟨_, _, hp, rfl, h, by decide, by decide, h.leftOut 2 none (by decide) (by decide)⟩

/-- The pattern `(a){0}` does not count the one group of its source, and its match has none. -/
theorem zeroTimes_not_counted :
    ∃ p t, Pattern.compile "(a)\x7b0\x7d".toList = .ok p ∧ Tree.ofSource p.source = .ok t ∧
      t.captures.length = 1 ∧ p.groupCount = 0 ∧ (new (some [])).Succeeds (.scan (.pattern p)) ∧
      ((new (some [])).after [.scan (.pattern p)]).captures.length = 0 := by
  let p : Pattern := ⟨"(a)\x7b0\x7d".toList, _, rfl⟩
  have hreply : ((new (some [])).answer (.scan (.pattern p))).reply = .text [] := by decide
  exact ⟨p, _, rfl, rfl, rfl, rfl, succeeds_of_text rfl hreply, by decide⟩

end Scanner
end TextScan
