/-
# Peeking

Peeking gives as much of the rest as fits into a number of bytes.  This is the longest part of whole
characters that does, and no more than three bytes are left over where the rest goes on
(`peek_longest`).

On a text of bytes it is found by going back from the last byte that could fit, as long as there is
a byte in the middle of a character.  The way back ends before offset zero is passed, for a character
starts there.
-/

import TextScan.Proofs.Guarded.Offsets
import TextScan.Proofs.Text.Boundaries
import TextScan.Scanner.Basic

namespace TextScan

/-- Going back from an offset of a text to `stop`: the bytes that are passed are in the middle of a
character, at most three of them, and at `stop` a character starts or the text ends. -/
structure Text.GoesBack (t : Text) (n stop : Nat) : Prop where
  le : stop ≤ n
  near : n ≤ stop + 3
  passed : ∀ k, stop < k → k ≤ n → ∃ b, byte? t k = some b ∧ ¬b.IsUTF8FirstByte
  stops : stop = size t ∨ ∃ b, byte? t stop = some b ∧ b.IsUTF8FirstByte

/-- The way back from the last byte that could fit ends where what fits does. -/
theorem Text.goesBack_fit (n : Nat) (t : Text) :
    GoesBack t (min n (size t)) (size (fit n t)) := by
  refine ⟨Nat.le_min.2 ⟨size_fit_le n t, size_fit_le_size n t⟩, min_le_size_fit n t,
    fun k hlt hle => ?_, ?_⟩
  · have hinside := inside_of_size_fit_lt hlt hle
    obtain ⟨b, hb, hfirst⟩ := exists_byte hinside.lt_size
    refine ⟨b, hb, fun h => ?_⟩
    exact absurd (hinside.not_isBoundary.symm.trans (hfirst.1 h)) (by simp)
  · rcases Nat.eq_or_lt_of_le (size_fit_le_size n t) with h | h
    · exact Or.inl h
    · obtain ⟨b, hb, hfirst⟩ := exists_byte h
      exact Or.inr ⟨b, hb, hfirst.2 (isBoundary_size_fit n t)⟩

namespace Scanner

/-- **Peeking gives the longest part of the rest that fits.**  It is a first part of the rest, of
whole characters and of at most the given number of bytes, and it starts with every other such part.
So it is the rest if and only if the number is at least the size of the rest, and it gets longer with
the number.  The way back from the last byte that could fit comes to its end without passing offset
zero. -/
theorem peek_longest (s : Scanner) (n : Nat) :
    (s.peek n <+: s.rest ∧ Text.size (s.peek n) ≤ n ∧
      Text.isBoundary s.rest (Text.size (s.peek n)) = true) ∧
    (∀ u, u <+: s.rest → Text.size u ≤ n → u <+: s.peek n) ∧
    (s.peek n = s.rest ↔ s.restSize ≤ n) ∧
    (∀ k, k ≤ n → s.peek k <+: s.peek n) ∧
    min n s.restSize ≤ Text.size (s.peek n) + 3 ∧
    Guarded.backUp s.rest (min n s.restSize) = .ok (Text.size (s.peek n)) ∧
    s.rest.GoesBack (min n s.restSize) (Text.size (s.peek n)) ∧
    Guarded.peek s.rest n = .ok (s.peek n) := by
  have hback := Text.goesBack_fit n s.rest
  have hpre := Text.fit_prefix_self n s.rest
  have hsize := Text.size_fit_le n s.rest
  refine ⟨⟨hpre, hsize, Text.isBoundary_size_fit n s.rest⟩,
    fun u hu hle => Text.prefix_fit hu hle, Text.fit_eq_self_iff, fun k hk => ?_, hback.near, ?_,
    hback, Guarded.peek_eq s.rest n⟩
  · have hle := Nat.le_trans (Text.size_fit_le k s.rest) hk
    exact Text.prefix_fit (Text.fit_prefix_self k s.rest) hle
  · rw [Guarded.backUp_eq, restSize, Guarded.size_fit_min, peek]

/-- Two of the three bytes left over are the start of the last character. -/
example :
    let s := (new (some "aé€".toList)).moveTo 1
    s.peek 4 = ['é'] ∧ Guarded.backUp s.rest 4 = .ok 2 := by
  decide

end Scanner
end TextScan
