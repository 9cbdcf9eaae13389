/-
# Offsets, byte by byte

The part of a text that fits into a number of bytes, and the position of a byte offset, as they are
found on a text of bytes: by going back to a boundary one byte at a time (`backUp`), by counting the
bytes that are line feeds, and by looking for the last one.  A byte of value ten is always a line
feed and never a part of another character (`count_bytesOf`).  None of this breaks off, and it comes to
what the characters say (`peek_eq`, `position_eq`).
-/

import TextScan.Proofs.Guarded.Basic
import TextScan.Proofs.Text.Positions

namespace TextScan

namespace Text

/-- The byte offset at which a character stands for the last time. -/
def lastOffset? (c : Char) : Text → Option Nat
  | [] => none
  | d :: t => ((lastOffset? c t).map (d.utf8Size + ·)).or (if d = c then some 0 else none)

theorem count_bytesOf (t : Text) : (Regex.bytesOf t).count 0x0A = t.count '\n' := by
  induction t with
  | nil => rfl
  | cons c t ih =>
    have hbytes : Regex.bytesOf (c :: t) = String.utf8EncodeChar c ++ Regex.bytesOf t := rfl
    rw [hbytes, List.count_append, count_utf8EncodeChar, ih, List.count_cons]
    simp only [beq_iff_eq]
    omega

theorem length_le_size (t : Text) : t.length ≤ size t := by
  induction t with
  | nil => exact Nat.le_refl 0
  | cons c t ih =>
    have := c.utf8Size_pos
    simp only [List.length_cons, size_cons]
    omega

theorem lastOffset?_eq_none {c : Char} {t : Text} (h : lastOffset? c t = none) : c ∉ t := by
  induction t with
  | nil => exact List.not_mem_nil
  | cons d t ih =>
    rw [lastOffset?, Option.or_eq_none_iff, Option.map_eq_none_iff] at h
    obtain ⟨ht, hd⟩ := h
    intro hc
    rcases List.mem_cons.1 hc with rfl | hc
    · simp at hd
    · exact ih ht hc

/-- The last time that a character stands in a text, no such character follows. -/
theorem exists_of_lastOffset? {c : Char} {t : Text} {n : Nat} (h : lastOffset? c t = some n) :
    ∃ a b, t = a ++ c :: b ∧ size a = n ∧ c ∉ b := by
  induction t generalizing n with
  | nil => simp [lastOffset?] at h
  | cons d t ih =>
    rw [lastOffset?] at h
    cases ht : lastOffset? c t with
    | some k =>
      rw [ht] at h
      obtain rfl : d.utf8Size + k = n := by simpa using h
      obtain ⟨a, b, rfl, rfl, hb⟩ := ih ht
      exact ⟨d :: a, b, rfl, rfl, hb⟩
    | none =>
      rw [ht] at h
      by_cases hd : d = c
      · obtain rfl : 0 = n := by simpa [hd] using h
        exact ⟨[], t, by rw [hd]; rfl, rfl, lastOffset?_eq_none ht⟩
      · simp [hd] at h

end Text

namespace Position

/-- In the first line the column counts all characters. -/
theorem column_after {t : Text} (h : '\n' ∉ t) : (after t).column = t.length + 1 := by
  have hwalk := column_foldl_step h (after [])
  rw [← after_append, List.nil_append, after_nil] at hwalk
  rw [hwalk, start, Nat.add_comm]

/-- In a later line the column counts the characters behind the last line feed. -/
theorem column_after_append {a b : Text} (h : '\n' ∉ b) :
    (after (a ++ '\n' :: b)).column = b.length + 1 := by
  rw [after_append, List.foldl_cons, column_foldl_step h, step, if_pos rfl, Nat.add_comm]

end Position

namespace Guarded

open Text

/-- The last boundary up to an offset; at offset zero there is nothing to go back to. -/
def backUp (t : Text) : Nat → Guarded Nat
  | 0 => if isBoundary t 0 then .ok 0 else .error .underflow
  | n + 1 => if isBoundary t (n + 1) then .ok (n + 1) else backUp t n

/-- The next bytes of a text, as many as make up whole characters. -/
def peek (t : Text) (n : Nat) : Guarded Text := do
  let stop ← backUp t (min n (size t))
  cut t ⟨0, stop⟩

/-- The position of a byte offset. -/
def position (t : Text) (n : Nat) : Guarded Position := do
  let before ← peek t n
  let lineStart ← (lastOffset? '\n' before).elim (.ok 0) fun i => add i 1
  let line ← add ((Regex.bytesOf before).count 0x0A) 1
  let tail ← cut before ⟨lineStart, size before⟩
  let column ← add tail.length 1
  makePosition line column

/-- Going back comes to the end of what fits. -/
theorem backUp_eq {t : Text} {n : Nat} : backUp t n = .ok (size (fit n t)) := by
  induction n with
  | zero =>
    have := size_fit_le 0 t
    rw [backUp, if_pos (isBoundary_zero t), Nat.le_zero.1 this]
  | succ n ih =>
    rw [backUp]
    split
    · rename_i hb
      have hle := size_fit_le (n + 1) t
      have hge := le_size_fit hb (Nat.le_refl (n + 1))
      rw [Nat.le_antisymm hle hge]
    · rename_i hb
      -- What fits into `n + 1` bytes ends at a boundary, so it does not end there.
      have hne : size (fit (n + 1) t) ≠ n + 1 := fun h => hb (h ▸ isBoundary_size_fit (n + 1) t)
      have hle := size_fit_le (n + 1) t
      have hle' := size_fit_le n t
      have h₁ := le_size_fit (isBoundary_size_fit (n + 1) t) (show _ ≤ n by omega)
      have h₂ := le_size_fit (isBoundary_size_fit n t) (show _ ≤ n + 1 by omega)
      rw [ih, Nat.le_antisymm h₁ h₂]

/-- What fits into a number of bytes fits into the size of the text. -/
theorem size_fit_min (t : Text) (n : Nat) : size (fit (min n (size t)) t) = size (fit n t) := by
  have hle := size_fit_le n t
  have hle' := size_fit_le (min n (size t)) t
  have h₁ := le_size_fit (isBoundary_size_fit n t) (Nat.le_min.2 ⟨hle, size_fit_le_size n t⟩)
  have h₂ := le_size_fit (isBoundary_size_fit (min n (size t)) t)
    (Nat.le_trans hle' (Nat.min_le_left n _))
  exact Nat.le_antisymm h₂ h₁

/-- **Peeking does not break off**, and gives what fits. -/
theorem peek_eq (t : Text) (n : Nat) : peek t n = .ok (fit n t) := by
  rw [peek, backUp_eq, ok_bind, size_fit_min]
  exact cut_eq (slice?_fit t n)

/-- **The position of an offset is found** in a text that is smaller than the greatest word. -/
theorem position_eq {t : Text} (h : size t < greatest) (n : Nat) :
    position t n = .ok (Position.ofOffset t n) := by
  have hbefore : size (fit n t) < greatest := Nat.lt_of_le_of_lt (size_fit_le_size n t) h
  rw [position, peek_eq, ok_bind, Position.ofOffset]
  generalize fit n t = b at hbefore
  have hlength := length_le_size b
  have hcount : b.count '\n' ≤ b.length := List.count_le_length
  have hline : add ((Regex.bytesOf b).count 0x0A) 1 = .ok (Position.after b).line := by
    rw [count_bytesOf, add_eq (by omega)]
    rfl
  have hmake : ∀ tail : Text, tail.length + 1 = (Position.after b).column → tail.length ≤ b.length →
      (do let column ← add tail.length 1
          makePosition (Position.after b).line column) = .ok (Position.after b) := by
    intro tail hcolumn htail
    rw [add_eq (by omega), ok_bind, hcolumn, makePosition_after]
  cases hlast : lastOffset? '\n' b with
  | none =>
    have hcut : cut b ⟨0, size b⟩ = .ok b :=
      cut_eq (slice?_eq_some_iff.2 ⟨[], [], by simp, rfl, Nat.zero_add _⟩)
    have hcolumn := Position.column_after (lastOffset?_eq_none hlast)
    rw [Option.elim_none, ok_bind, hline, ok_bind, hcut, ok_bind]
    exact hmake b hcolumn.symm (Nat.le_refl _)
  | some i =>
    obtain ⟨a, c, hb, rfl, hc⟩ := exists_of_lastOffset? hlast
    have hsize : size b = size a + 1 + size c := by
      rw [hb, size_append, size_cons]
      have : '\n'.utf8Size = 1 := rfl
      omega
    have hcut : cut b ⟨size a + 1, size b⟩ = .ok c := by
      refine cut_eq (slice?_eq_some_iff.2 ⟨a ++ ['\n'], [], ?_, ?_, ?_⟩)
      · rw [hb]
        simp
      · rw [size_append]
        rfl
      · rw [size_append, hsize]
        rfl
    have hcolumn : (Position.after b).column = c.length + 1 := by
      rw [hb]
      exact Position.column_after_append hc
    rw [Option.elim_some, add_eq (by omega), ok_bind, hline, ok_bind, hcut, ok_bind]
    refine hmake c hcolumn.symm ?_
    rw [hb]
    simp only [List.length_append, List.length_cons]
    omega

end Guarded
end TextScan
