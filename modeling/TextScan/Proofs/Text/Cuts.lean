/-
# Where a text can be cut

A boundary of a text is a byte offset at which one of its characters starts, or its end.  Two ways
to write a text as two parts are compared by the sizes of the first parts (`exists_middle`), and so
a span marks a part of a text exactly if its ends are in order and boundaries
(`isSome_slice?_iff`).  The part that fits into a number of bytes ends at the last boundary up to
that number (`le_size_fit`); it has no room for the next character, and is known by that
(`fit_eq_of_append`).  A text in front changes the offsets of a part and not the part
(`slice?_append_right`), and parts that follow each other are one part (`slice?_append_slice`).
-/

import TextScan.Span

namespace TextScan
namespace Text

/-- Whether a byte offset is the start of a character of a text or its end. -/
def isBoundary (t : Text) (n : Nat) : Bool := (cut? t n).isSome

/-- A boundary is where a first part of the text ends. -/
theorem isBoundary_iff {t : Text} {n : Nat} :
    isBoundary t n = true ↔ ∃ a b, t = a ++ b ∧ size a = n := by
  rw [isBoundary, Option.isSome_iff_exists]
  constructor
  · rintro ⟨⟨a, b⟩, h⟩
    exact ⟨a, b, cut?_eq_some_iff.1 h⟩
  · rintro ⟨a, b, h⟩
    exact ⟨(a, b), cut?_eq_some_iff.2 h⟩

theorem isBoundary_append (a b : Text) : isBoundary (a ++ b) (size a) = true :=
  isBoundary_iff.2 ⟨a, b, rfl, rfl⟩

@[simp] theorem isBoundary_zero (t : Text) : isBoundary t 0 = true := isBoundary_append [] t

@[simp] theorem isBoundary_size (t : Text) : isBoundary t (size t) = true := by
  simpa using isBoundary_append t []

theorem le_size_of_isBoundary {t : Text} {n : Nat} (h : isBoundary t n = true) : n ≤ size t := by
  obtain ⟨a, b, rfl, rfl⟩ := isBoundary_iff.1 h
  rw [size_append]
  omega

/-- The boundaries of a last part, seen from the whole text. -/
theorem isBoundary_append_right (a : Text) {b : Text} {n : Nat} (h : isBoundary b n = true) :
    isBoundary (a ++ b) (n + size a) = true := by
  obtain ⟨c, d, rfl, rfl⟩ := isBoundary_iff.1 h
  exact isBoundary_iff.2 ⟨a ++ c, d, by rw [List.append_assoc], by rw [size_append, Nat.add_comm]⟩

theorem size_eq_zero {t : Text} : size t = 0 ↔ t = [] := by
  cases t with
  | nil => simp
  | cons c t =>
    have := c.utf8Size_pos
    simp only [size_cons, reduceCtorEq, iff_false]
    omega

/-- A text is cut at an offset in one way only. -/
theorem eq_of_append_eq {a b c d : Text} (h : a ++ b = c ++ d) (hs : size a = size c) :
    a = c ∧ b = d := by
  have hc := cut?_append a b
  rw [h, hs, cut?_append c d] at hc
  simpa [eq_comm] using hc

/-- Of two first parts of a text the shorter one starts the longer one. -/
theorem exists_middle {a b c d : Text} (h : a ++ b = c ++ d) (hs : size a ≤ size c) :
    ∃ m, c = a ++ m ∧ b = m ++ d := by
  rcases List.append_eq_append_iff.1 h with ⟨m, hc, hb⟩ | ⟨m, ha, hd⟩
  · exact ⟨m, hc, hb⟩
  · have hm : m = [] := by
      rw [ha, size_append] at hs
      exact size_eq_zero.1 (by omega)
    exact ⟨[], by rw [ha, hm]; simp, by rw [hd, hm]; simp⟩

theorem drop?_eq_some_iff {t b : Text} {n : Nat} :
    drop? t n = some b ↔ ∃ a, t = a ++ b ∧ size a = n := by
  rw [drop?, Option.map_eq_some_iff]
  constructor
  · rintro ⟨⟨a, b⟩, h, rfl⟩
    exact ⟨a, cut?_eq_some_iff.1 h⟩
  · rintro ⟨a, h⟩
    exact ⟨(a, b), cut?_eq_some_iff.2 h, rfl⟩

theorem slice?_eq_some_iff {t u : Text} {i j : Nat} :
    slice? t ⟨i, j⟩ = some u ↔ ∃ a b, t = a ++ u ++ b ∧ size a = i ∧ size a + size u = j := by
  constructor
  · intro h
    unfold slice? at h
    split at h
    · rename_i hij
      obtain ⟨r, hr, hu⟩ := Option.bind_eq_some_iff.1 h
      obtain ⟨⟨u', b⟩, hc, rfl⟩ := Option.map_eq_some_iff.1 hu
      obtain ⟨a, rfl, ha⟩ := drop?_eq_some_iff.1 hr
      obtain ⟨rfl, hsize⟩ := cut?_eq_some_iff.1 hc
      dsimp only at hij ha hsize ⊢
      exact ⟨a, b, (List.append_assoc a u' b).symm, ha, by omega⟩
    · simp at h
  · rintro ⟨a, b, rfl, rfl, rfl⟩
    exact slice?_append a u b

/-- The bytes of a part of a text are counted by its span. -/
theorem size_of_slice? {t u : Text} {s : Span} (h : slice? t s = some u) :
    size u = s.length := by
  obtain ⟨i, j⟩ := s
  obtain ⟨a, b, -, hi, hj⟩ := slice?_eq_some_iff.1 h
  simp only [Span.length]
  omega

/-- A span marks a part of a text exactly if its ends are in order and boundaries. -/
theorem isSome_slice?_iff {t : Text} {s : Span} :
    (slice? t s).isSome = true ↔
      s.start ≤ s.stop ∧ isBoundary t s.start = true ∧ isBoundary t s.stop = true := by
  obtain ⟨i, j⟩ := s
  constructor
  · intro h
    obtain ⟨u, hu⟩ := Option.isSome_iff_exists.1 h
    obtain ⟨a, b, rfl, rfl, rfl⟩ := slice?_eq_some_iff.1 hu
    refine ⟨Nat.le_add_right _ _, isBoundary_iff.2 ⟨a, u ++ b, by simp, rfl⟩,
      isBoundary_iff.2 ⟨a ++ u, b, rfl, size_append a u⟩⟩
  · rintro ⟨hij, hi, hj⟩
    obtain ⟨a, r, rfl, rfl⟩ := isBoundary_iff.1 hi
    obtain ⟨c, d, h, rfl⟩ := isBoundary_iff.1 hj
    obtain ⟨m, rfl, rfl⟩ := exists_middle h hij
    rw [Option.isSome_iff_exists]
    exact ⟨m, slice?_eq_some_iff.2 ⟨a, d, by simp, rfl, (size_append a m).symm⟩⟩

/-- The span up to the end marks the text that is taken up at its start. -/
theorem slice?_size (t : Text) (n : Nat) : slice? t ⟨n, size t⟩ = drop? t n := by
  refine Option.ext fun u => ?_
  rw [slice?_eq_some_iff, drop?_eq_some_iff]
  constructor
  · rintro ⟨a, b, rfl, ha, hsize⟩
    rw [size_append, size_append] at hsize
    obtain rfl : b = [] := size_eq_zero.1 (by omega)
    exact ⟨a, by simp, ha⟩
  · rintro ⟨a, rfl, ha⟩
    exact ⟨a, [], by simp, ha, (size_append a u).symm⟩

/-- What stands before a text does not show in what is taken up behind it. -/
theorem drop?_append_right (u t : Text) (n : Nat) : drop? (u ++ t) (n + size u) = drop? t n := by
  refine Option.ext fun b => ?_
  rw [drop?_eq_some_iff, drop?_eq_some_iff]
  constructor
  · rintro ⟨a, h, ha⟩
    obtain ⟨m, rfl, ht⟩ := exists_middle h (by omega)
    rw [size_append] at ha
    exact ⟨m, ht, by omega⟩
  · rintro ⟨a, rfl, rfl⟩
    exact ⟨u ++ a, (List.append_assoc u a b).symm, by rw [size_append, Nat.add_comm]⟩

/-- A span of a text marks the same part of it behind another text. -/
theorem slice?_append_right (u t : Text) (s : Span) :
    slice? (u ++ t) (s.shift (size u)) = slice? t s := by
  have hlength : s.stop + size u - (s.start + size u) = s.stop - s.start :=
    Nat.add_sub_add_right ..
  simp only [slice?, Span.shift, Nat.add_le_add_iff_right, drop?_append_right, hlength]

/-- At a boundary lies the empty part. -/
theorem slice?_self {t : Text} {n : Nat} (h : isBoundary t n = true) :
    slice? t ⟨n, n⟩ = some [] := by
  obtain ⟨a, b, rfl, rfl⟩ := isBoundary_iff.1 h
  exact slice?_eq_some_iff.2 ⟨a, b, by simp, rfl, rfl⟩

/-- Two parts of a text, one right behind the other, are one part. -/
theorem slice?_append_slice {t a b : Text} {i j k : Nat} (ha : slice? t ⟨i, j⟩ = some a)
    (hb : slice? t ⟨j, k⟩ = some b) : slice? t ⟨i, k⟩ = some (a ++ b) := by
  obtain ⟨x, y, h, rfl, rfl⟩ := slice?_eq_some_iff.1 ha
  obtain ⟨x', z, h', hx', rfl⟩ := slice?_eq_some_iff.1 hb
  have hcut : (x ++ a) ++ y = x' ++ (b ++ z) := by rw [← h, h', List.append_assoc]
  obtain ⟨rfl, rfl⟩ := eq_of_append_eq hcut (by rw [hx', size_append])
  refine slice?_eq_some_iff.2 ⟨x, z, by simp [h], rfl, ?_⟩
  rw [size_append, size_append, Nat.add_assoc]

/-- What fits ends at a boundary. -/
theorem isBoundary_size_fit (n : Nat) (t : Text) : isBoundary t (size (fit n t)) = true :=
  isBoundary_iff.2 ⟨fit n t, unfit n t, (fit_append_unfit n t).symm, rfl⟩

/-- What fits goes up to the last boundary that is not beyond the number of bytes. -/
theorem le_size_fit {t : Text} {k n : Nat} (h : isBoundary t k = true) (hk : k ≤ n) :
    k ≤ size (fit n t) := by
  obtain ⟨a, b, rfl, rfl⟩ := isBoundary_iff.1 h
  clear h
  induction a generalizing n with
  | nil => exact Nat.zero_le _
  | cons c a ih =>
    rw [size_cons] at hk
    have hc : c.utf8Size ≤ n := by omega
    have := @ih (n - c.utf8Size) (by omega)
    rw [List.cons_append, fit, if_pos hc, size_cons, size_cons]
    omega

theorem size_fit_le_size (n : Nat) (t : Text) : size (fit n t) ≤ size t :=
  le_size_of_isBoundary (isBoundary_size_fit n t)

theorem slice?_fit (t : Text) (n : Nat) : slice? t ⟨0, size (fit n t)⟩ = some (fit n t) :=
  slice?_eq_some_iff.2 ⟨[], unfit n t, (fit_append_unfit n t).symm, rfl, Nat.zero_add _⟩

/-- What fits is the first part that has no room for one more character. -/
theorem fit_eq_of_append {a b : Text} {n : Nat} (hle : size a ≤ n)
    (hlt : ∀ c r, b = c :: r → n < size a + c.utf8Size) : fit n (a ++ b) = a := by
  induction a generalizing n with
  | nil =>
    cases b with
    | nil => rfl
    | cons c r =>
      have := hlt c r rfl
      rw [size_nil] at this
      exact if_neg (by omega)
  | cons d a ih =>
    rw [size_cons] at hle hlt
    rw [List.cons_append, fit, if_pos (by omega), ih (by omega)]
    intro c r hb
    have := hlt c r hb
    omega

/-- With more bytes, what fits goes on. -/
theorem exists_fit_append {n k : Nat} (t : Text) (h : n ≤ k) : ∃ u, fit k t = fit n t ++ u := by
  have hle := le_size_fit (isBoundary_size_fit n t) (Nat.le_trans (size_fit_le n t) h)
  obtain ⟨u, hu, -⟩ := exists_middle ((fit_append_unfit n t).trans (fit_append_unfit k t).symm) hle
  exact ⟨u, hu⟩

end Text
end TextScan
