/-
# Line feeds

A line feed is the byte ten, and no other character has this byte (`count_utf8EncodeChar`).  So the
byte at an offset is ten exactly if a line feed stands there (`byte?_eq_lineFeed_iff`).

The rows of a text are what it comes to if it is cut behind each line feed: every row but the last
ends with its only line feed, and the last row, possibly empty, has none.
-/

import TextScan.Text.Basic

namespace TextScan
namespace Text

/-- A text cut behind each of its line feeds. -/
def rows : Text → List Text
  | [] => [[]]
  | c :: t => if c = '\n' then [c] :: rows t else (rows t).modifyHead (c :: ·)

theorem rows_ne_nil (t : Text) : rows t ≠ [] := by
  induction t with
  | nil => simp [rows]
  | cons c t ih =>
    rw [rows]
    split <;> simp [ih]

/-- The rows of a text make it up. -/
theorem flatten_rows (t : Text) : (rows t).flatten = t := by
  induction t with
  | nil => rfl
  | cons c t ih =>
    obtain ⟨row, rest, hrows⟩ := List.exists_cons_of_ne_nil (rows_ne_nil t)
    rw [hrows] at ih
    rw [rows, hrows]
    split <;> simpa using ih

example : rows "é\n\nb\n".toList = ["é\n".toList, "\n".toList, "b\n".toList, []] := by decide

theorem ofNat_ne_lineFeed {n : Nat} (h : n < 256) (hn : n ≠ 10) : (0x0A : UInt8) ≠ .ofNat n := by
  intro heq
  have hval := congrArg UInt8.toNat heq
  rw [UInt8.toNat_ofNat'] at hval
  exact hn ((Nat.mod_eq_of_lt h).symm.trans hval.symm)

/-- A line feed is the byte ten, and no other character has this byte. -/
theorem count_utf8EncodeChar (c : Char) :
    (String.utf8EncodeChar c).count 0x0A = if c = '\n' then 1 else 0 := by
  split
  · rename_i h
    rw [h]
    rfl
  · rename_i h
    have hv : c.val.toNat ≠ 10 := fun hv => h (Char.ext (UInt32.toNat_inj.1 hv))
    rw [List.count_eq_zero]
    intro hmem
    unfold String.utf8EncodeChar at hmem
    dsimp only at hmem
    -- A character of one byte is that byte; all bytes of the others are at least 128.
    split at hmem
    · exact ofNat_ne_lineFeed (by omega) hv (List.mem_singleton.1 hmem)
    split at hmem
    · simp only [List.mem_cons, List.not_mem_nil, or_false] at hmem
      rcases hmem with h | h <;> exact ofNat_ne_lineFeed (by omega) (by omega) h
    split at hmem
    · simp only [List.mem_cons, List.not_mem_nil, or_false] at hmem
      rcases hmem with h | h | h <;> exact ofNat_ne_lineFeed (by omega) (by omega) h
    · simp only [List.mem_cons, List.not_mem_nil, or_false] at hmem
      rcases hmem with h | h | h | h <;> exact ofNat_ne_lineFeed (by omega) (by omega) h

theorem eq_lineFeed_of_mem {c : Char} (h : 0x0A ∈ String.utf8EncodeChar c) : c = '\n' := by
  have hcount := count_utf8EncodeChar c
  split at hcount
  · assumption
  · exact absurd h (List.count_eq_zero.1 hcount)

theorem byte?_append_right (a b : Text) (n : Nat) : byte? (a ++ b) (size a + n) = byte? b n := by
  induction a with
  | nil => rw [size_nil, Nat.zero_add, List.nil_append]
  | cons c a ih =>
    have hsize : c.utf8Size + size a + n - c.utf8Size = size a + n := by omega
    rw [List.cons_append, size_cons, byte?, if_neg (by omega), hsize, ih]

/-- The byte ten is where a line feed stands. -/
theorem byte?_eq_lineFeed_iff {t : Text} {n : Nat} :
    byte? t n = some 0x0A ↔ ∃ a b, t = a ++ '\n' :: b ∧ size a = n := by
  constructor
  · intro h
    induction t generalizing n with
    | nil => simp [byte?] at h
    | cons c t ih =>
      rw [byte?] at h
      split at h
      · rename_i hn
        obtain rfl := eq_lineFeed_of_mem (List.mem_of_getElem? h)
        exact ⟨[], t, rfl, (Nat.lt_one_iff.1 hn).symm⟩
      · obtain ⟨a, b, rfl, ha⟩ := ih h
        exact ⟨c :: a, b, rfl, by rw [size_cons]; omega⟩
  · rintro ⟨a, b, rfl, rfl⟩
    exact byte?_append_right a ('\n' :: b) 0

end Text
end TextScan
