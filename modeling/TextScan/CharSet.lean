/-
# Character sets

A set of characters is a list of ranges of code points, in order, with a gap of at least one code
point between two ranges.  `insert` keeps this form, and the other operations are built on it.

No character has a code point in `D800-DFFF`, so the neighbour of `D7FF` upwards is `E000`.  Ranges
that meet there are not joined.  A complement takes the two neighbours of every gap, the smaller one
first; for the gap between two ranges that meet at the surrogates these are `D7FF` and `E000`
themselves.
-/

import TextScan.Text.Basic

namespace TextScan

/-- The code points from `low` to `high`. -/
structure CharRange where
  low : Nat
  high : Nat
  deriving DecidableEq, Repr

namespace CharRange

/-- Whether a code point is in a range. -/
def contains (r : CharRange) (n : Nat) : Bool := decide (r.low ≤ n) && decide (n ≤ r.high)

/-- The range between two code points in either order. -/
def between (a b : Nat) : CharRange := ⟨min a b, max a b⟩

/-- The part of a range that is in another one. -/
def inter? (r s : CharRange) : Option CharRange :=
  let low := max r.low s.low
  let high := min r.high s.high
  if low ≤ high then some ⟨low, high⟩ else none

/-- The greatest code point. -/
def top : Nat := 0x10FFFF

/-- The code point of the next character. -/
def succ (n : Nat) : Nat := if n = 0xD7FF then 0xE000 else n + 1

/-- The code point of the character before. -/
def pred (n : Nat) : Nat := if n = 0xE000 then 0xD7FF else n - 1

/-- The parts of a range that are not in another one. -/
def diff (r s : CharRange) : List CharRange :=
  if s.high < r.low ∨ r.high < s.low then [r]
  else
    (if r.low < s.low then [⟨r.low, pred s.low⟩] else []) ++
      (if s.high < r.high then [⟨succ s.high, r.high⟩] else [])

end CharRange

/-- A set of characters. -/
structure CharSet where
  ranges : List CharRange
  deriving DecidableEq, Repr

namespace CharSet

/-- The set without members. -/
def empty : CharSet := ⟨[]⟩

/-- The set of all characters. -/
def all : CharSet := ⟨[⟨0, CharRange.top⟩]⟩

/-- Whether a code point is in a set. -/
def has (s : CharSet) (n : Nat) : Bool := s.ranges.any (·.contains n)

/-- Whether a character is in a set. -/
def contains (s : CharSet) (c : Char) : Bool := s.has c.toNat

theorem has_all {n : Nat} (h : n ≤ CharRange.top) : all.has n = true := by
  simp [has, all, CharRange.contains, h]

/-- Every character is in the set of all characters. -/
@[simp] theorem contains_all (c : Char) : all.contains c = true := by
  refine has_all ?_
  have := c.valid
  simp only [UInt32.isValidChar, Nat.isValidChar] at this
  have h : c.toNat = c.val.toNat := rfl
  simp only [CharRange.top]
  omega

/-- Joins a range with the ranges that it meets. -/
def insertRange (r : CharRange) : List CharRange → List CharRange
  | [] => [r]
  | s :: rest =>
    if r.high + 1 < s.low then r :: s :: rest
    else if s.high + 1 < r.low then s :: insertRange r rest
    else insertRange ⟨min r.low s.low, max r.high s.high⟩ rest

/-- Adds a range to a set. -/
def insert (s : CharSet) (r : CharRange) : CharSet := ⟨insertRange r s.ranges⟩

/-- The set of the characters in any of the ranges. -/
def ofRanges (rs : List CharRange) : CharSet := rs.foldl insert empty

/-- The set of the characters from `a` to `b`. -/
def range (a b : Char) : CharSet := ⟨[⟨a.toNat, b.toNat⟩]⟩

/-- The set with one member. -/
def single (c : Char) : CharSet := range c c

/-- The characters in one of two sets. -/
def union (s t : CharSet) : CharSet := t.ranges.foldl insert s

/-- The characters in both sets. -/
def inter (s t : CharSet) : CharSet :=
  ⟨s.ranges.flatMap fun r => t.ranges.filterMap r.inter?⟩

/-- The characters in the first set but not in the second. -/
def diff (s t : CharSet) : CharSet :=
  ⟨t.ranges.foldl (fun rs r => rs.flatMap (·.diff r)) s.ranges⟩

/-- The characters in one set but not in the other. -/
def symmDiff (s t : CharSet) : CharSet := (s.union t).diff (s.inter t)

/-- The gaps above `n`, where the ranges are in order and above it. -/
def gapsAbove (n : Nat) : List CharRange → List CharRange
  | [] => if n < CharRange.top then [⟨CharRange.succ n, CharRange.top⟩] else []
  | r :: rest =>
    CharRange.between (CharRange.succ n) (CharRange.pred r.low) :: gapsAbove r.high rest

/-- The characters that are not in a set. -/
def complement : CharSet → CharSet
  | ⟨[]⟩ => all
  | ⟨r :: rest⟩ =>
    ⟨(if 0 < r.low then [⟨0, CharRange.pred r.low⟩] else []) ++ gapsAbove r.high rest⟩

/-- Whether all members are ASCII characters. -/
def isAscii (s : CharSet) : Bool := s.ranges.all fun r => decide (r.high < 0x80)

/-- The only member of a set that has one. -/
def single? : CharSet → Option Char
  | ⟨[r]⟩ => if r.low = r.high ∧ r.low.isValidChar then some (Char.ofNat r.low) else none
  | _ => none

/-! Members of sets. -/

section Members

variable {s t : CharSet}

theorem any_contains_insertRange (r : CharRange) (rs : List CharRange) (n : Nat) :
    (insertRange r rs).any (·.contains n) = (r.contains n || rs.any (·.contains n)) := by
  induction rs generalizing r with
  | nil => rfl
  | cons s rest ih =>
    rw [insertRange]
    split
    · rfl
    split
    · rw [List.any_cons, List.any_cons, ih, Bool.or_left_comm]
    · -- two ranges that meet have the members of the range over both
      have hjoin : (CharRange.mk (min r.low s.low) (max r.high s.high)).contains n =
          (r.contains n || s.contains n) := by
        rw [Bool.eq_iff_iff]
        simp only [CharRange.contains, Bool.or_eq_true, Bool.and_eq_true, decide_eq_true_eq]
        omega
      rw [ih, hjoin, List.any_cons, Bool.or_assoc]

@[simp] theorem has_insert (s : CharSet) (r : CharRange) (n : Nat) :
    (s.insert r).has n = (r.contains n || s.has n) := any_contains_insertRange r s.ranges n

@[simp] theorem has_union (s t : CharSet) (n : Nat) : (s.union t).has n = (s.has n || t.has n) := by
  have hfold : ∀ (rs : List CharRange) (u : CharSet),
      (rs.foldl insert u).has n = (u.has n || rs.any (·.contains n)) := by
    intro rs
    induction rs with
    | nil => exact fun u => (Bool.or_false _).symm
    | cons r rs ih =>
      intro u
      rw [List.foldl_cons, ih, has_insert, List.any_cons, Bool.or_comm (r.contains n), Bool.or_assoc]
  exact hfold t.ranges s

@[simp] theorem contains_union (s t : CharSet) (c : Char) :
    (s.union t).contains c = (s.contains c || t.contains c) := has_union s t c.toNat

@[simp] theorem contains_empty (c : Char) : empty.contains c = false := rfl

@[simp] theorem contains_single (c d : Char) : (single c).contains d = decide (d = c) := by
  rw [Bool.eq_iff_iff]
  simp only [single, range, contains, has, List.any_cons, List.any_nil, Bool.or_false,
    CharRange.contains, Bool.and_eq_true, decide_eq_true_eq]
  exact ⟨fun h => Char.toNat_inj.1 (Nat.le_antisymm h.2 h.1), fun h => by simp [h]⟩

/-- The only member is a member, and the only one. -/
theorem contains_of_single? {c : Char} (h : s.single? = some c) (d : Char) :
    s.contains d = decide (d = c) := by
  unfold single? at h
  split at h
  · rename_i r
    split at h
    · rename_i hr
      obtain rfl := Option.some.inj h
      obtain ⟨hrange, hvalid⟩ := hr
      have hcode : (Char.ofNat r.low).toNat = r.low := by
        rw [Char.ofNat, dif_pos hvalid]
        rfl
      rw [Bool.eq_iff_iff]
      simp only [contains, has, List.any_cons, List.any_nil, Bool.or_false, CharRange.contains,
        Bool.and_eq_true, decide_eq_true_eq, ← hrange]
      rw [← Char.toNat_inj, hcode]
      omega
    · exact absurd h (by simp)
  · exact absurd h (by simp)

end Members

/-- Adds every class that a set meets.  The classes are disjoint. -/
def closeUnder (classes : List (List Nat)) (s : CharSet) : CharSet :=
  classes.foldl (fun t k => if k.any s.has then k.foldl (fun t n => t.insert ⟨n, n⟩) t else t) s

end CharSet
end TextScan
