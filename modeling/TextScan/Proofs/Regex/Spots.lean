/-
# The spots of a text

A text has one spot at each of its boundaries: the spot between a first part and the part that is
left.  Two spots of one text with the same offset are the same spot (`IsIn.eq_of_offset`), and
reading characters goes from spot to spot (`IsIn.past`, `IsIn.behind`).
-/

import TextScan.Proofs.Text.Cuts
import TextScan.Regex.Anchor

namespace TextScan
namespace Regex
namespace Spot

/-- The spot between two parts of a text. -/
def between (a b : Text) : Spot := ⟨a.getLast?, b, Text.size a⟩

/-- The spot of a text at a byte offset, if there is one. -/
def at? (t : Text) (n : Nat) : Option Spot := (Text.cut? t n).map fun p => between p.1 p.2

/-- The spot behind a text that stands at a spot, before what is left. -/
def behind (s : Spot) (t rest : Text) : Spot :=
  ⟨t.getLast?.or s.before, rest, s.offset + Text.size t⟩

/-- A spot is one of the spots of a text. -/
def IsIn (t : Text) (s : Spot) : Prop := ∃ a b, t = a ++ b ∧ s = between a b

theorem behind_cons (s : Spot) (c : Char) (t r : Text) :
    s.behind (c :: t) r = (s.past c (t ++ r)).behind t r := by
  cases t with
  | nil => rfl
  | cons d t =>
    simp only [behind, past, List.getLast?_cons_cons, Text.size_cons, Nat.add_assoc]
    cases h : (d :: t).getLast? with
    | none => simp at h
    | some e => rfl

theorem at?_eq_some_iff {t : Text} {n : Nat} {s : Spot} :
    at? t n = some s ↔ IsIn t s ∧ s.offset = n := by
  rw [at?, Option.map_eq_some_iff]
  constructor
  · rintro ⟨⟨a, b⟩, h, rfl⟩
    obtain ⟨ht, hn⟩ := Text.cut?_eq_some_iff.1 h
    exact ⟨⟨a, b, ht, rfl⟩, hn⟩
  · rintro ⟨⟨a, b, rfl, rfl⟩, rfl⟩
    exact ⟨(a, b), Text.cut?_append a b, rfl⟩

theorem isIn_start (t : Text) : IsIn t (start t) := ⟨[], t, rfl, rfl⟩

variable {t : Text} {s s' : Spot}

/-- A text has one spot at an offset. -/
theorem IsIn.eq_of_offset (h : IsIn t s) (h' : IsIn t s') (ho : s.offset = s'.offset) : s = s' := by
  obtain ⟨a, b, rfl, rfl⟩ := h
  obtain ⟨c, d, ht, rfl⟩ := h'
  obtain ⟨rfl, rfl⟩ := Text.eq_of_append_eq ht ho
  rfl

/-- The spots of a text are at its boundaries. -/
theorem IsIn.isBoundary (h : IsIn t s) : Text.isBoundary t s.offset = true := by
  obtain ⟨a, b, rfl, rfl⟩ := h
  exact Text.isBoundary_append a b

theorem IsIn.offset_le (h : IsIn t s) : s.offset ≤ Text.size t :=
  Text.le_size_of_isBoundary h.isBoundary

theorem IsIn.past {c : Char} {r : Text} (h : IsIn t s) (hr : s.rest = c :: r) :
    IsIn t (s.past c r) := by
  obtain ⟨a, b, rfl, rfl⟩ := h
  obtain rfl : b = c :: r := hr
  refine ⟨a ++ [c], r, by simp, ?_⟩
  simp [Spot.past, between]

theorem IsIn.behind {u r : Text} (h : IsIn t s) (hr : s.rest = u ++ r) :
    IsIn t (s.behind u r) := by
  induction u generalizing s with
  | nil =>
    obtain rfl : s.rest = r := hr
    exact h
  | cons c u ih =>
    rw [behind_cons]
    exact ih (h.past hr) rfl

/-- There is a character between a spot and a later one. -/
theorem IsIn.exists_past (h : IsIn t s) (h' : IsIn t s') (ho : s.offset < s'.offset) :
    ∃ c r, s.rest = c :: r ∧ (s.past c r).offset ≤ s'.offset := by
  obtain ⟨a, b, rfl, rfl⟩ := h
  obtain ⟨c, d, ht, rfl⟩ := h'
  obtain ⟨m, rfl, rfl⟩ := Text.exists_middle ht (Nat.le_of_lt ho)
  cases m with
  | nil => simp [between] at ho
  | cons e m =>
    refine ⟨e, m ++ d, rfl, ?_⟩
    simp only [Spot.past, between, Text.size_append, Text.size_cons]
    omega

end Spot
end Regex
end TextScan
