/-
# Lines and columns

The position that a scanner gives for a byte offset is where a walk through the characters before
it leads to (`location_walks`).  It says which offset it stands for: the text before the offset can
be read off the position, and boundaries have positions in their order (`location_identifies`).  The
cursor is at the start of a line exactly if it is at offset zero, or at a boundary whose position has
column one (`isAtLineStart_iff_column`).
-/

import Mathlib.Order.Bounds.Defs
import TextScan.Proofs.Text.Positions
import TextScan.Scanner.Basic

namespace TextScan
namespace Scanner

/-- **Positions are found by walking.**  The walk starts in the first line and the first column and
goes one step for each character.  Inside a character the position stays that of the character, and
beyond the end that of the end; without a text there is no step to go. -/
theorem location_walks (s : Scanner) :
    s.location 0 = Position.start ∧
    (∀ t, s.input = some t →
      (∀ n c r, Text.drop? t n = some (c :: r) →
        s.location (n + c.utf8Size) = (s.location n).step c ∧
        ∀ k, n < k → k < n + c.utf8Size → s.location k = s.location n) ∧
      (∀ n, Text.size t ≤ n → s.location n = s.location (Text.size t)) ∧
      ∀ n, s.location n = (Text.fit n t).foldl Position.step Position.start) ∧
    (s.input = none → ∀ n, s.location n = Position.start) := by
  refine ⟨Position.ofOffset_zero _, fun t hi => ?_, fun hi n => ?_⟩
  · have hlocation : s.location = Position.ofOffset t := by
      funext n
      rw [location, hi, Option.getD_some]
    rw [hlocation]
    refine ⟨fun n c r hr => ⟨Position.ofOffset_next hr, fun k hle hlt => ?_⟩, fun n hn => ?_,
      fun n => Position.after_append [] _⟩
    · exact Position.ofOffset_inside hr (Nat.le_of_lt hle) hlt
    · exact Position.ofOffset_of_size_le hn
  · rw [location, hi, Option.getD_none]
    exact (Position.ofOffset_of_size_le (Nat.zero_le n)).trans (Position.ofOffset_zero _)

/-- In a text of an `é`, a line feed and a `b`, the walk comes to the second column and then to the
second line. -/
theorem location_walks_twoBytes :
    let t := "é\nb".toList
    let s := new (some t)
    (s.input = some t ∧ Text.drop? t 0 = some "é\nb".toList ∧ Text.drop? t 2 = some "\nb".toList) ∧
      s.location 1 = ⟨1, 1⟩ ∧ s.location 2 = ⟨1, 2⟩ ∧ s.location 3 = ⟨2, 1⟩ := by
  intro t s
  obtain ⟨hstart, htext, -⟩ := location_walks s
  obtain ⟨hstep, -⟩ := htext t rfl
  obtain ⟨hnext, hinside⟩ := hstep 0 'é' "\nb".toList rfl
  obtain ⟨hfeed, -⟩ := hstep 2 '\n' ['b'] rfl
  have hsecond : s.location 2 = ⟨1, 2⟩ :=
    hnext.trans (congrArg (fun p => Position.step p 'é') hstart)
  have hthird : s.location 3 = ⟨2, 1⟩ :=
    hfeed.trans (congrArg (fun p => Position.step p '\n') hsecond)
  exact ⟨⟨rfl, rfl, rfl⟩, (hinside 1 (by decide) (by decide)).trans hstart, hsecond, hthird⟩

/-- **A position identifies its offset.**  It stops at the end of the text up to the last boundary
that is not beyond the offset.  So a later offset has no earlier position, and different boundaries
have different positions, in their order.  An absent text counts as an empty one. -/
theorem location_identifies (s : Scanner) :
    (∀ n, ∃ b a, IsGreatest {k | Text.isBoundary (s.input.getD []) k = true ∧
          k ≤ min n (Text.size (s.input.getD []))} b ∧
        Text.slice? (s.input.getD []) ⟨0, b⟩ = some a ∧
        (s.location n).StopsAt (s.input.getD []) a) ∧
    Monotone s.location ∧
    StrictMonoOn s.location {k | Text.isBoundary (s.input.getD []) k = true} ∧
    Set.InjOn s.location {k | Text.isBoundary (s.input.getD []) k = true} := by
  generalize ht : s.input.getD [] = t
  have hlocation : s.location = Position.ofOffset t := by
    funext n
    rw [location, ht]
  rw [hlocation]
  have hstrict := Position.ofOffset_strictMonoOn t
  refine ⟨fun n => ⟨_, _, ⟨⟨Text.isBoundary_size_fit n t, ?_⟩, fun k hk => ?_⟩,
    Text.slice?_fit t n, ?_⟩, Position.ofOffset_mono t, hstrict, hstrict.injOn⟩
  · exact Nat.le_min.2 ⟨Text.size_fit_le n t, Text.size_fit_le_size n t⟩
  · exact Text.le_size_fit hk.1 (Nat.le_min.1 hk.2).1
  · have hstops := Position.stopsAt_after (Text.fit n t) (Text.unfit n t)
    rwa [Text.fit_append_unfit] at hstops

/-- **The two ways to find the start of a line agree.**  The byte before the cursor is a line feed
exactly if the cursor is a boundary behind the start and its position has column one. -/
theorem isAtLineStart_iff_column (s : Scanner) :
    s.isAtLineStart = true ↔ s.cursor = 0 ∨ ∃ t, s.input = some t ∧
      Text.isBoundary t s.cursor = true ∧ s.cursor ≤ Text.size t ∧
      s.cursorLocation.column = 1 := by
  rw [isAtLineStart, Bool.or_eq_true, beq_iff_eq, Option.any_eq_true]
  by_cases hzero : s.cursor = 0
  · simp only [hzero, true_or]
  refine or_congr_right (exists_congr fun t => and_congr_right fun hi => ?_)
  rw [beq_iff_eq, Text.byte?_eq_lineFeed_iff, cursorLocation, location, hi, Option.getD_some]
  constructor
  · rintro ⟨a, b, rfl, ha⟩
    have hsize : s.cursor = Text.size (a ++ ['\n']) := by
      have : '\n'.utf8Size = 1 := rfl
      rw [Text.size_append, Text.size_cons, Text.size_nil]
      omega
    rw [hsize, List.append_cons, Position.ofOffset_size, Position.column_after_eq_one_iff]
    have hb := Text.isBoundary_append (a ++ ['\n']) b
    exact ⟨hb, Text.le_size_of_isBoundary hb, Or.inr ⟨a, rfl⟩⟩
  · rintro ⟨hb, -, hcolumn⟩
    obtain ⟨a, b, rfl, ha⟩ := Text.isBoundary_iff.1 hb
    rw [← ha, Position.ofOffset_size, Position.column_after_eq_one_iff] at hcolumn
    rcases hcolumn with rfl | ⟨a, rfl⟩
    · exact absurd ha.symm hzero
    · refine ⟨a, b, (List.append_cons a '\n' b).symm, ?_⟩
      rw [← ha, Text.size_append]
      rfl

end Scanner
end TextScan
