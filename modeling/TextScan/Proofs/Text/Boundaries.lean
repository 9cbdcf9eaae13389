/-
# Between the boundaries

An offset that is no boundary of a text is beyond its end or inside one of its characters
(`isBoundary_eq_false_iff`).  Before the end the byte at an offset tells: at a boundary a character
starts with it, and inside a character none does (`exists_byte`).

What fits into a number of bytes is the longest first part of the text that does (`prefix_fit`).  A
character has at most four bytes, so at most three bytes of the number are left over where the text
goes on (`min_le_size_fit`).
-/

import TextScan.Proofs.Text.Cuts

namespace TextScan
namespace Text

/-- An offset is inside a character of a text: behind its first byte and not behind its last. -/
def Inside (t : Text) (n : Nat) : Prop :=
  ∃ a c b, t = a ++ c :: b ∧ size a < n ∧ n < size a + c.utf8Size

variable {t u : Text} {n k : Nat}

/-! ## Offsets that are no boundaries -/

theorem Inside.lt_size (h : Inside t n) : n < size t := by
  obtain ⟨a, c, b, rfl, -, hlt⟩ := h
  rw [size_append, size_cons]
  omega

/-- Between the first and the last byte of a character there is no boundary. -/
theorem Inside.not_isBoundary (h : Inside t n) : isBoundary t n = false := by
  obtain ⟨a, c, b, rfl, hlt, hlt'⟩ := h
  rw [Bool.eq_false_iff]
  intro hb
  obtain ⟨x, y, hcut, rfl⟩ := isBoundary_iff.1 hb
  obtain ⟨m, rfl, hm⟩ := exists_middle hcut (Nat.le_of_lt hlt)
  rw [size_append] at hlt hlt'
  cases m with
  | nil => exact absurd hlt (Nat.lt_irrefl _)
  | cons d m =>
    obtain ⟨rfl, -⟩ := List.cons.inj hm
    rw [size_cons] at hlt'
    omega

/-- There is no room for the character behind what fits. -/
theorem lt_of_unfit_eq_cons {c : Char} {r : Text} (h : unfit n t = c :: r) :
    n < size (fit n t) + c.utf8Size := by
  have ht : t = fit n t ++ [c] ++ r := by
    rw [List.append_assoc, List.singleton_append, ← h, fit_append_unfit]
  have hsize : size (fit n t ++ [c]) = size (fit n t) + c.utf8Size := by
    rw [size_append, size_cons, size_nil, Nat.add_zero]
  have hb : isBoundary t (size (fit n t) + c.utf8Size) = true := isBoundary_iff.2 ⟨_, r, ht, hsize⟩
  have hpos := c.utf8Size_pos
  refine Nat.lt_of_not_le fun hle => ?_
  have := le_size_fit hb hle
  omega

/-- **An offset that is no boundary** is beyond the end of the text or inside a character. -/
theorem isBoundary_eq_false_iff : isBoundary t n = false ↔ size t < n ∨ Inside t n := by
  constructor
  · intro hb
    have ht := fit_append_unfit n t
    have hle := size_fit_le n t
    have hne : size (fit n t) ≠ n := by
      intro h
      rw [← h, isBoundary_size_fit] at hb
      exact absurd hb (by simp)
    cases hu : unfit n t with
    | nil =>
      rw [hu, List.append_nil] at ht
      rw [ht] at hle hne
      exact Or.inl (by omega)
    | cons c r =>
      rw [hu] at ht
      exact Or.inr ⟨fit n t, c, r, ht.symm, by omega, lt_of_unfit_eq_cons hu⟩
  · rintro (h | h)
    · rw [Bool.eq_false_iff]
      intro hb
      exact absurd (le_size_of_isBoundary hb) (Nat.not_le.2 h)
    · exact h.not_isBoundary

@[simp] theorem isSome_drop? (t : Text) (n : Nat) : (drop? t n).isSome = isBoundary t n :=
  Option.isSome_map

/-- What stands before a text does not show in the boundaries behind it. -/
theorem isBoundary_append_add (a b : Text) (n : Nat) :
    isBoundary (a ++ b) (n + size a) = isBoundary b n := by
  rw [← isSome_drop?, drop?_append_right, isSome_drop?]

/-- **A boundary before the end is seen on one byte**: a character starts with it. -/
theorem exists_byte (h : n < size t) :
    ∃ b, byte? t n = some b ∧ (b.IsUTF8FirstByte ↔ isBoundary t n = true) := by
  induction t generalizing n with
  | nil => exact absurd h (Nat.not_lt_zero n)
  | cons c t ih =>
    rw [byte?]
    split
    · rename_i hlt
      have hi : n < (String.utf8EncodeChar c).length := by rwa [String.length_utf8EncodeChar]
      refine ⟨_, List.getElem?_eq_getElem hi, ?_⟩
      rw [UInt8.isUTF8FirstByte_getElem_utf8EncodeChar]
      constructor
      · rintro rfl
        exact isBoundary_zero _
      · intro hb
        refine Nat.eq_zero_of_not_pos fun hpos => ?_
        have hinside : Inside (c :: t) n := ⟨[], c, t, rfl, hpos, by rwa [size_nil, Nat.zero_add]⟩
        exact absurd (hinside.not_isBoundary.symm.trans hb) (by simp)
    · rename_i hge
      obtain ⟨k, rfl⟩ := Nat.exists_eq_add_of_le' (Nat.le_of_not_lt hge)
      have hk : k < size t := by
        rw [size_cons] at h
        omega
      have hb := isBoundary_append_add [c] t k
      rw [size_cons, size_nil, Nat.add_zero, List.singleton_append] at hb
      rw [Nat.add_sub_cancel, hb]
      exact ih hk

/-! ## The longest part that fits -/

theorem fit_prefix_self (n : Nat) (t : Text) : fit n t <+: t := ⟨unfit n t, fit_append_unfit n t⟩

/-- **What fits is the longest first part that does.** -/
theorem prefix_fit (h : u <+: t) (hle : size u ≤ n) : u <+: fit n t := by
  obtain ⟨b, rfl⟩ := h
  have hsize := le_size_fit (isBoundary_append u b) hle
  obtain ⟨m, hm, -⟩ := exists_middle (fit_append_unfit n (u ++ b)).symm hsize
  exact ⟨m, hm.symm⟩

theorem fit_eq_self_iff : fit n t = t ↔ size t ≤ n := by
  constructor
  · intro h
    have hle := size_fit_le n t
    rwa [h] at hle
  · intro h
    exact (fit_prefix_self n t).eq_of_length_le (prefix_fit (List.prefix_refl t) h).length_le

/-- Where less than the number of bytes fits, at most three bytes are left over. -/
theorem min_le_size_fit (n : Nat) (t : Text) : min n (size t) ≤ size (fit n t) + 3 := by
  cases hu : unfit n t with
  | nil =>
    have ht := fit_append_unfit n t
    rw [hu, List.append_nil] at ht
    rw [ht]
    omega
  | cons c r =>
    have := lt_of_unfit_eq_cons hu
    have := c.utf8Size_le_four
    omega

/-- Behind what fits, up to the number of bytes, lies the inside of a character. -/
theorem inside_of_size_fit_lt (hlt : size (fit n t) < k) (hle : k ≤ min n (size t)) :
    Inside t k := by
  obtain ⟨hn, hsize⟩ := Nat.le_min.1 hle
  have hb : isBoundary t k = false := by
    rw [Bool.eq_false_iff]
    intro hb
    exact absurd (le_size_fit hb hn) (Nat.not_le.2 hlt)
  exact (isBoundary_eq_false_iff.1 hb).resolve_left (Nat.not_lt.2 hsize)

end Text
end TextScan
