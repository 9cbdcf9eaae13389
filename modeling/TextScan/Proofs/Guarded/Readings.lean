/-
# Reading a match does not break off

A machine is safe if its text is smaller than the greatest word and its match lies in its text
(`Machine.Safe`).  Then the spans of the match and its groups can be added up, and the text can be
cut at them; so all that is read of a safe machine is what its scanner shows (`reading_eq`,
`group_eq`, `groupNamed_eq`).
-/

import TextScan.Proofs.Guarded.Machine
import TextScan.Proofs.Scanner.Spans

namespace TextScan

namespace Guarded
namespace Kept

variable {k : Kept} {t : Text}

theorem found_group? (k : Kept) (i : Nat) :
    k.found.group? i = (k.relative? i).map (·.shift k.base) := by
  cases i with
  | zero => rfl
  | succ i =>
    simp only [Found.group?, found, Found.ofHit, Regex.groupsOf, relative?, List.getElem?_map,
      List.getElem?_mapIdx]
    by_cases h : i < k.regex.names.length
    · rw [if_pos h, List.getElem?_eq_getElem h]
      rfl
    · rw [if_neg h, List.getElem?_eq_none (Nat.le_of_not_lt h)]
      rfl

theorem map_fst_groups (k : Kept) : k.found.groups.map (·.1) = k.regex.names := by
  refine List.ext_getElem? fun i => ?_
  simp only [found, Found.ofHit, Regex.groupsOf, List.getElem?_map, List.getElem?_mapIdx]
  cases k.regex.names[i]? <;> rfl

theorem length_groups (k : Kept) : k.found.groups.length = k.regex.names.length := by
  rw [← map_fst_groups, List.length_map]

/-- A group with a name is the first one with that name. -/
theorem found_groupNamed? (k : Kept) (name : Text) : k.found.groupNamed? name =
    (k.regex.names.findIdx? (· == some name)).bind fun i => k.found.group? (i + 1) := by
  rw [Found.groupNamed?, ← map_fst_groups, List.findIdx?_map,
    List.find?_eq_bind_findIdx?_getElem?, Option.bind_assoc]
  rfl

/-- A span that lies in a small text when it is shifted can be shifted and cut out. -/
theorem shift_of_liesIn {s : Span} (hs : (s.shift k.base).LiesIn t)
    (ht : Text.size t < greatest) : shift k.base s = .ok (s.shift k.base) := by
  have hstop : s.stop + k.base ≤ Text.size t := hs.stop_le
  exact shift_eq (Nat.le_of_add_le_add_right hs.ordered) (by omega)

theorem cut_of_liesIn {s : Span} (hs : s.LiesIn t) :
    ∃ u, Text.slice? t s = some u ∧ cut t s = .ok u := by
  obtain ⟨u, hu⟩ := hs.exists_slice
  exact ⟨u, hu, cut_eq hu⟩

variable (h : k.found.LiesIn t) (ht : Text.size t < greatest)

include h ht

theorem span_eq : k.span = .ok k.found.span := shift_of_liesIn h.span ht

theorem text_eq : ∃ u, Text.slice? t k.found.span = some u ∧ k.text t = .ok u := by
  obtain ⟨u, hu, hcut⟩ := cut_of_liesIn h.span
  exact ⟨u, hu, by rw [text, span_eq h ht, ok_bind, hcut]⟩

theorem group_eq (i : Nat) :
    k.group t i = .ok ((k.found.group? i).bind (Text.slice? t)) := by
  have hspan := k.found_group? i
  rw [group]
  cases hr : k.relative? i with
  | none =>
    rw [hspan, hr]
    rfl
  | some s =>
    rw [hr, Option.map_some] at hspan
    have hs := h.group? hspan
    obtain ⟨u, hu, hcut⟩ := cut_of_liesIn hs
    dsimp only
    rw [shift_of_liesIn hs ht, ok_bind, hcut, ok_bind, hspan, Option.bind_some, hu]
    rfl

theorem captures_eq :
    k.captures t = .ok (k.found.groups.map fun g => g.2.bind (Text.slice? t)) := by
  rw [captures, mapM_eq fun i _ => group_eq h ht (i + 1), ← length_groups]
  refine congrArg Except.ok (List.ext_getElem? fun i => ?_)
  rw [List.getElem?_map, List.getElem?_map]
  by_cases hi : i < k.found.groups.length
  · rw [List.getElem?_range hi, List.getElem?_eq_getElem hi]
    simp only [Option.map_some, Found.group?, List.getElem?_eq_getElem hi, Option.bind_some]
  · rw [List.getElem?_eq_none (by simpa using hi), List.getElem?_eq_none (by simpa using hi)]
    rfl

theorem groupNamed_eq (name : Text) :
    k.groupNamed t name = .ok ((k.found.groupNamed? name).bind (Text.slice? t)) := by
  rw [groupNamed, found_groupNamed?]
  cases k.regex.names.findIdx? (· == some name) with
  | none => rfl
  | some i => exact group_eq h ht (i + 1)

end Kept

namespace Machine

/-- The text is smaller than the greatest word, and the match lies in the text. -/
structure Safe (M : Machine) : Prop where
  small : ∀ t, M.input = some t → Text.size t < greatest
  lies : ∀ k, M.kept = some k → ∃ t, M.input = some t ∧ k.found.LiesIn t

variable {M : Machine}

/-- A safe machine has no match, or it has a text and a match that lies in it. -/
theorem Safe.cases (h : M.Safe) : M.kept = none ∨ ∃ t k, M.input = some t ∧ M.kept = some k ∧
    k.found.LiesIn t ∧ Text.size t < greatest := by
  cases hk : M.kept with
  | none => exact Or.inl rfl
  | some k =>
    obtain ⟨t, ht, hlies⟩ := h.lies k hk
    exact Or.inr ⟨t, k, ht, rfl, hlies, h.small t ht⟩

/-- What is read of the text and the match is what the scanner shows. -/
theorem Safe.view_eq {α : Type} (h : M.Safe) {nothing : α} {f : Text → Kept → Guarded α} {a : α}
    (hnone : M.kept = none → a = nothing)
    (hsome : ∀ t k, M.input = some t → M.kept = some k → k.found.LiesIn t →
      Text.size t < greatest → f t k = .ok a) : M.view nothing f = .ok a := by
  rcases h.cases with hk | ⟨t, k, ht, hk, hlies, hsmall⟩
  · rw [hnone hk, view, hk]
    cases M.input <;> rfl
  · rw [view, ht, hk]
    exact hsome t k ht hk hlies hsmall

theorem found_scanner {k : Kept} (hk : M.kept = some k) : M.scanner.found = some k.found := by
  rw [scanner, hk]
  rfl

theorem found_scanner_of_none (hk : M.kept = none) : M.scanner.found = none := by
  rw [scanner, hk]
  rfl

theorem slice?_scanner {t : Text} (ht : M.input = some t) : M.scanner.slice? = Text.slice? t := by
  funext s
  rw [Scanner.slice?, scanner, ht]
  rfl

theorem isAtLineStart_eq (M : Machine) : M.isAtLineStart = .ok M.scanner.isAtLineStart := by
  rw [isAtLineStart, Scanner.isAtLineStart, scanner]
  split
  · rename_i hc
    simp [hc]
  · rename_i hc
    cases M.input with
    | none => simp [hc]
    | some t => simp [hc, sub_eq (Nat.pos_of_ne_zero hc)]

variable (h : M.Safe)

include h

theorem matchedSpan_eq : M.matchedSpan = .ok M.scanner.matchedSpan := by
  rw [matchedSpan, Scanner.matchedSpan]
  rcases h.cases with hk | ⟨t, k, -, hk, hlies, hsmall⟩
  · rw [found_scanner_of_none hk, hk]
    rfl
  · rw [found_scanner hk, hk]
    dsimp only
    rw [Kept.span_eq hlies hsmall]
    rfl

theorem matchedSize_eq : M.matchedSize = .ok M.scanner.matchedSize := by
  rw [matchedSize, matchedSpan_eq h]
  rfl

theorem matched_eq : M.matched = .ok M.scanner.matched := by
  refine h.view_eq (fun hk => ?_) fun t k ht hk hlies hsmall => ?_
  · rw [Scanner.matched, found_scanner_of_none hk]
    rfl
  · obtain ⟨u, hu, htext⟩ := Kept.text_eq hlies hsmall
    rw [htext, Scanner.matched, found_scanner hk, slice?_scanner ht, Option.bind_some, hu]
    rfl

theorem captures_eq : M.captures = .ok M.scanner.captures := by
  refine h.view_eq (fun hk => ?_) fun t k ht hk hlies hsmall => ?_
  · rw [Scanner.captures, found_scanner_of_none hk]
    rfl
  · rw [Kept.captures_eq hlies hsmall, Scanner.captures, found_scanner hk, slice?_scanner ht]
    rfl

theorem group_eq (i : Nat) : M.group i = .ok (M.scanner.group i) := by
  refine h.view_eq (fun hk => ?_) fun t k ht hk hlies hsmall => ?_
  · rw [Scanner.group, found_scanner_of_none hk]
    rfl
  · rw [Kept.group_eq hlies hsmall, Scanner.group, found_scanner hk, slice?_scanner ht]
    rfl

theorem groupNamed_eq (name : Text) : M.groupNamed name = .ok (M.scanner.groupNamed name) := by
  refine h.view_eq (fun hk => ?_) fun t k ht hk hlies hsmall => ?_
  · rw [Scanner.groupNamed, found_scanner_of_none hk]
    rfl
  · rw [Kept.groupNamed_eq hlies hsmall, Scanner.groupNamed, found_scanner hk, slice?_scanner ht]
    rfl

theorem matchView_eq : M.matchView = .ok M.scanner.matchView := by
  refine h.view_eq (fun hk => ?_) fun t k ht hk hlies hsmall => ?_
  · rw [Scanner.matchView, found_scanner_of_none hk]
    rfl
  · obtain ⟨u, hu, htext⟩ := Kept.text_eq hlies hsmall
    rw [Kept.span_eq hlies hsmall, htext, Kept.captures_eq hlies hsmall, Scanner.matchView,
      Scanner.captures, found_scanner hk, slice?_scanner ht, Option.map_some, hu]
    rfl

/-- A part of the text beside the match can be cut out if its span lies in the text. -/
theorem around_eq {part : Text → Span → Span}
    (hpart : ∀ t s, s.LiesIn t → (part t s).LiesIn t) : M.around part =
      .ok (M.scanner.found.bind fun f => M.input.bind fun t => Text.slice? t (part t f.span)) := by
  rw [around, matchedSpan_eq h, ok_bind, Scanner.matchedSpan]
  rcases h.cases with hk | ⟨t, k, ht, hk, hlies, -⟩
  · rw [found_scanner_of_none hk]
    cases M.input <;> rfl
  · obtain ⟨u, hu, hcut⟩ := Kept.cut_of_liesIn (hpart t k.found.span hlies.span)
    rw [found_scanner hk, ht, Option.map_some, Option.bind_some, Option.bind_some, hu]
    dsimp only
    rw [hcut]
    rfl

theorem beforeMatch_eq : M.beforeMatch = .ok M.scanner.beforeMatch := by
  rw [beforeMatch, around_eq h fun t s hs =>
    ⟨Nat.zero_le _, Text.isBoundary_zero t, hs.start⟩]
  rfl

theorem afterMatch_eq : M.afterMatch = .ok M.scanner.afterMatch := by
  rw [afterMatch, around_eq h fun t s hs => ⟨hs.stop_le, hs.stop, Text.isBoundary_size t⟩]
  simp only [Text.slice?_size]
  rfl

theorem location_eq (n : Nat) : M.location n = .ok (M.scanner.location n) := by
  refine position_eq ?_ n
  cases hi : M.input with
  | none => decide
  | some t => exact h.small t hi

/-- **All that a safe machine shows is what its scanner shows.** -/
theorem reading_eq : M.reading = .ok M.scanner.reading := by
  rw [reading, isAtLineStart_eq, location_eq h, matched_eq h, matchedSpan_eq h, matchedSize_eq h,
    captures_eq h, beforeMatch_eq h, afterMatch_eq h, matchView_eq h]
  rfl

end Machine
end Guarded
end TextScan
