/-
# Texts and byte offsets

A text is the list of its characters.  Offsets and lengths count the bytes of its UTF-8 form, so an
offset may fall inside a character.  Four functions get from bytes to characters:

| function | answer |
| --- | --- |
| `size t` | the bytes of `t` |
| `cut? t n` | `t` in two parts at byte `n`, `none` if `n` is inside a character or beyond the end |
| `fit n t` | the longest first part of `t` that has at most `n` bytes |
| `byte? t n` | the byte of `t` at offset `n` |

`cut?_eq_some_iff` says that a cut loses nothing and that every way to write `t` as two texts is a
cut of it; `fit_append_unfit` and `size_fit_le` say what `fit` keeps.
-/

namespace TextScan

/-- A text is the list of its characters. -/
abbrev Text := List Char

namespace Text

/-- The bytes of a text in UTF-8. -/
def size : Text → Nat
  | [] => 0
  | c :: t => c.utf8Size + size t

@[simp] theorem size_nil : size [] = 0 := rfl

@[simp] theorem size_cons (c : Char) (t : Text) : size (c :: t) = c.utf8Size + size t := rfl

@[simp] theorem size_append (t u : Text) : size (t ++ u) = size t + size u := by
  induction t with
  | nil => simp
  | cons c t ih => simp [ih, Nat.add_assoc]

/-- Cuts a text at a byte offset, if a character starts there or the text ends there. -/
def cut? : Text → Nat → Option (Text × Text)
  | t, 0 => some ([], t)
  | [], _ + 1 => none
  | c :: t, n + 1 =>
    if c.utf8Size ≤ n + 1 then
      (cut? t (n + 1 - c.utf8Size)).map fun p => (c :: p.1, p.2)
    else none

@[simp] theorem cut?_zero (t : Text) : cut? t 0 = some ([], t) := by cases t <;> rfl

/-- The parts of a text are cut at the size of the first. -/
theorem cut?_append (t u : Text) : cut? (t ++ u) (size t) = some (t, u) := by
  induction t with
  | nil => simp
  | cons c t ih =>
    obtain ⟨n, hn⟩ : ∃ n, c.utf8Size + size t = n + 1 :=
      ⟨c.utf8Size + size t - 1, by have := c.utf8Size_pos; omega⟩
    have hc : c.utf8Size ≤ n + 1 := by omega
    have hr : n + 1 - c.utf8Size = size t := by omega
    simp only [List.cons_append, size_cons, hn, cut?]
    rw [if_pos hc, hr, ih]
    rfl

/-- A cut loses nothing, and its first part ends at the offset. -/
theorem cut?_eq_some_iff {t a b : Text} {n : Nat} :
    cut? t n = some (a, b) ↔ t = a ++ b ∧ size a = n := by
  constructor
  · intro h
    induction t generalizing n a with
    | nil =>
      cases n with
      | zero => simp [cut?] at h; simp [h]
      | succ n => simp [cut?] at h
    | cons c t ih =>
      cases n with
      | zero => simp [cut?] at h; simp [h]
      | succ n =>
        rw [cut?] at h
        split at h
        · rename_i hc
          obtain ⟨p, hp, hq⟩ := Option.map_eq_some_iff.1 h
          simp only [Prod.mk.injEq] at hq
          obtain ⟨rfl, rfl⟩ := hq
          obtain ⟨h₁, h₂⟩ := ih hp
          refine ⟨by rw [h₁]; rfl, ?_⟩
          simp only [size_cons, h₂]
          omega
        · simp at h
  · rintro ⟨rfl, rfl⟩
    exact cut?_append a b

/-- The text from a byte offset on. -/
def drop? (t : Text) (n : Nat) : Option Text := (cut? t n).map (·.2)

/-- The longest first part of a text that has at most `n` bytes. -/
def fit : Nat → Text → Text
  | _, [] => []
  | n, c :: t => if c.utf8Size ≤ n then c :: fit (n - c.utf8Size) t else []

/-- What `fit` leaves over. -/
def unfit : Nat → Text → Text
  | _, [] => []
  | n, c :: t => if c.utf8Size ≤ n then unfit (n - c.utf8Size) t else c :: t

theorem fit_append_unfit (n : Nat) (t : Text) : fit n t ++ unfit n t = t := by
  induction t generalizing n with
  | nil => rfl
  | cons c t ih =>
    unfold fit unfit
    split
    · simp [ih]
    · rfl

theorem size_fit_le (n : Nat) (t : Text) : size (fit n t) ≤ n := by
  induction t generalizing n with
  | nil => exact Nat.zero_le n
  | cons c t ih =>
    unfold fit
    split
    · have := ih (n - c.utf8Size)
      simp only [size_cons]
      omega
    · exact Nat.zero_le n

/-- The byte at an offset of the UTF-8 form. -/
def byte? : Text → Nat → Option UInt8
  | [], _ => none
  | c :: t, n =>
    if n < c.utf8Size then (String.utf8EncodeChar c)[n]? else byte? t (n - c.utf8Size)

end Text
end TextScan
