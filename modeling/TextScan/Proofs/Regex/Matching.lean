/-
# What an expression matches

`Expr.Matches e s s'` says that `e` matches the text between the spots `s` and `s'`.  It is defined
by recursion on the expression and knows nothing of programs, threads or preferences: a repetition
is any number of matches within its bounds, one after the other, and an alternative is a match of
either branch.  `Expr.MatchesIn` says the same of byte offsets of a text.

`Expr.Runs` also follows what groups remember.  Every match can be run (`exists_runs_of_matches`),
and every run is a match (`Runs.matches`).
-/

import TextScan.Proofs.Regex.Spots
import TextScan.Regex.Search

namespace TextScan
namespace Regex

/-- A relation several times, one after the other. -/
def Repeats {α : Type} (r : α → α → Prop) : Nat → α → α → Prop
  | 0, a, b => b = a
  | n + 1, a, b => ∃ c, r a c ∧ Repeats r n c b

namespace Repeats

variable {α β : Type} {r : α → α → Prop} {a b c : α}

theorem one : Repeats r 1 a b ↔ r a b := by
  constructor
  · rintro ⟨c, h, rfl⟩
    exact h
  · exact fun h => ⟨b, h, rfl⟩

theorem append {m n : Nat} (h : Repeats r m a b) (h' : Repeats r n b c) :
    Repeats r (m + n) a c := by
  induction m generalizing a with
  | zero =>
    obtain rfl : b = a := h
    rwa [Nat.zero_add]
  | succ m ih =>
    obtain ⟨d, hd, h⟩ := h
    rw [Nat.add_right_comm]
    exact ⟨d, hd, ih h⟩

theorem split {m n : Nat} (h : Repeats r (m + n) a c) : ∃ b, Repeats r m a b ∧ Repeats r n b c := by
  induction m generalizing a with
  | zero => exact ⟨a, rfl, by rwa [Nat.zero_add] at h⟩
  | succ m ih =>
    rw [Nat.add_right_comm] at h
    obtain ⟨d, hd, h⟩ := h
    obtain ⟨b, hb, hc⟩ := ih h
    exact ⟨b, ⟨d, hd, hb⟩, hc⟩

/-- What every step keeps, all steps keep. -/
theorem keep {p : α → Prop} (hr : ∀ {x y}, p x → r x y → p y) {n : Nat} (ha : p a)
    (h : Repeats r n a b) : p b := by
  induction n generalizing a with
  | zero =>
    obtain rfl : b = a := h
    exact ha
  | succ n ih =>
    obtain ⟨c, hc, h⟩ := h
    exact ih (hr ha hc) h

/-- Steps can be seen through a function. -/
theorem map {q : β → β → Prop} (f : α → β) (hr : ∀ {x y}, r x y → q (f x) (f y)) {n : Nat}
    (h : Repeats r n a b) : Repeats q n (f a) (f b) := by
  induction n generalizing a with
  | zero =>
    obtain rfl : b = a := h
    rfl
  | succ n ih =>
    obtain ⟨c, hc, h⟩ := h
    exact ⟨f c, hr hc, ih h⟩

end Repeats

/-- A number of times is allowed by the bounds of a repetition. -/
def Within (least : Nat) (most : Option Nat) (n : Nat) : Prop :=
  least ≤ n ∧ ∀ m, most = some m → n ≤ m

namespace Expr

/-- An expression matches what stands between two spots. -/
def Matches : Expr → Spot → Spot → Prop
  | .empty, s, s' => s' = s
  | .text t, s, s' => ∃ r, s.rest = t ++ r ∧ s' = s.behind t r
  | .oneOf _ set, s, s' => ∃ c r, s.rest = c :: r ∧ set.contains c = true ∧ s' = s.past c r
  | .anchor a, s, s' => a.holds s = true ∧ s' = s
  | .group _ _ e, s, s' => e.Matches s s'
  | .times least most _ e, s, s' => ∃ n, Within least most n ∧ Repeats e.Matches n s s'
  | .seq a b, s, s' => ∃ u, a.Matches s u ∧ b.Matches u s'
  | .alt a b, s, s' => a.Matches s s' ∨ b.Matches s s'

/-- An expression matches the part of a text between two byte offsets, both of them boundaries. -/
def MatchesIn (e : Expr) (t : Text) (i j : Nat) : Prop :=
  ∃ s s', Spot.at? t i = some s ∧ Spot.at? t j = some s' ∧ e.Matches s s'

end Expr

/-- A spot, and what was remembered on the way to it. -/
abbrev Trail := Spot × Marks

namespace Expr

/-- An expression matches what stands between two spots, and its groups remember where. -/
def Runs : Expr → Trail → Trail → Prop
  | .empty, x, y => y = x
  | .text t, x, y => ∃ r, x.1.rest = t ++ r ∧ y = (x.1.behind t r, x.2)
  | .oneOf _ set, x, y =>
    ∃ c r, x.1.rest = c :: r ∧ set.contains c = true ∧ y = (x.1.past c r, x.2)
  | .anchor a, x, y => a.holds x.1 = true ∧ y = x
  | .group i _ e, x, y =>
    ∃ z, e.Runs (x.1, (2 * i, x.1.offset) :: x.2) z ∧ y = (z.1, (2 * i + 1, z.1.offset) :: z.2)
  | .times least most _ e, x, y => ∃ n, Within least most n ∧ Repeats e.Runs n x y
  | .seq a b, x, y => ∃ z, a.Runs x z ∧ b.Runs z y
  | .alt a b, x, y => a.Runs x y ∨ b.Runs x y

/-- The bounds of every repetition are in order. -/
def Ordered : Expr → Prop
  | .empty => True
  | .text _ => True
  | .oneOf _ _ => True
  | .anchor _ => True
  | .group _ _ e => e.Ordered
  | .times least most _ e => (∀ m, most = some m → least ≤ m) ∧ e.Ordered
  | .seq a b => a.Ordered ∧ b.Ordered
  | .alt a b => a.Ordered ∧ b.Ordered

/-- Every run is a match. -/
theorem Runs.matches {e : Expr} {x y : Trail} (h : e.Runs x y) : e.Matches x.1 y.1 := by
  induction e generalizing x y with
  | empty => exact congrArg Prod.fst h
  | text t =>
    obtain ⟨r, hr, rfl⟩ := h
    exact ⟨r, hr, rfl⟩
  | oneOf _ set =>
    obtain ⟨c, r, hr, hc, rfl⟩ := h
    exact ⟨c, r, hr, hc, rfl⟩
  | anchor a => exact ⟨h.1, congrArg Prod.fst h.2⟩
  | group i _ e ih =>
    obtain ⟨z, hz, rfl⟩ := h
    have hm := ih hz
    exact hm
  | times least most _ e ih =>
    obtain ⟨n, hn, h⟩ := h
    exact ⟨n, hn, h.map Prod.fst ih⟩
  | seq a b iha ihb =>
    obtain ⟨z, ha, hb⟩ := h
    exact ⟨z.1, iha ha, ihb hb⟩
  | alt a b iha ihb => exact h.imp iha ihb

/-- Every match can be run, whatever was remembered before. -/
theorem exists_runs_of_matches {e : Expr} {s s' : Spot} (h : e.Matches s s') (ms : Marks) :
    ∃ ms', e.Runs (s, ms) (s', ms') := by
  induction e generalizing s s' ms with
  | empty =>
    obtain rfl : s' = s := h
    exact ⟨ms, rfl⟩
  | text t =>
    obtain ⟨r, hr, rfl⟩ := h
    exact ⟨ms, r, hr, rfl⟩
  | oneOf _ set =>
    obtain ⟨c, r, hr, hc, rfl⟩ := h
    exact ⟨ms, c, r, hr, hc, rfl⟩
  | anchor a =>
    obtain ⟨ha, rfl⟩ := h
    exact ⟨ms, ha, rfl⟩
  | group i _ e ih =>
    obtain ⟨ms', h'⟩ := ih h ((2 * i, s.offset) :: ms)
    exact ⟨_, _, h', rfl⟩
  | times least most _ e ih =>
    obtain ⟨n, hn, h⟩ := h
    have hrun : ∃ ms', Repeats e.Runs n (s, ms) (s', ms') := by
      clear hn
      induction n generalizing s ms with
      | zero =>
        obtain rfl : s' = s := h
        exact ⟨ms, rfl⟩
      | succ n ihn =>
        obtain ⟨u, hu, h⟩ := h
        obtain ⟨ms₁, h₁⟩ := ih hu ms
        obtain ⟨ms₂, h₂⟩ := ihn ms₁ h
        exact ⟨ms₂, (u, ms₁), h₁, h₂⟩
    obtain ⟨ms', h'⟩ := hrun
    exact ⟨ms', n, hn, h'⟩
  | seq a b iha ihb =>
    obtain ⟨u, ha, hb⟩ := h
    obtain ⟨ms₁, h₁⟩ := iha ha ms
    obtain ⟨ms₂, h₂⟩ := ihb hb ms₁
    exact ⟨ms₂, (u, ms₁), h₁, h₂⟩
  | alt a b iha ihb =>
    rcases h with h | h
    · obtain ⟨ms', h'⟩ := iha h ms
      exact ⟨ms', Or.inl h'⟩
    · obtain ⟨ms', h'⟩ := ihb h ms
      exact ⟨ms', Or.inr h'⟩

/-- A match goes forward, from a spot of a text to a spot of it. -/
theorem Matches.forward {e : Expr} {t : Text} {s s' : Spot} (h : e.Matches s s')
    (hs : s.IsIn t) : s'.IsIn t ∧ s.offset ≤ s'.offset := by
  induction e generalizing s s' with
  | empty =>
    obtain rfl : s' = s := h
    exact ⟨hs, Nat.le_refl _⟩
  | text u =>
    obtain ⟨r, hr, rfl⟩ := h
    exact ⟨hs.behind hr, Nat.le_add_right _ _⟩
  | oneOf _ set =>
    obtain ⟨c, r, hr, -, rfl⟩ := h
    exact ⟨hs.past hr, Nat.le_add_right _ _⟩
  | anchor a =>
    obtain ⟨-, rfl⟩ := h
    exact ⟨hs, Nat.le_refl _⟩
  | group i _ e ih => exact ih h hs
  | times least most _ e ih =>
    obtain ⟨n, -, h⟩ := h
    refine h.keep (p := fun u => u.IsIn t ∧ s.offset ≤ u.offset) ?_ ⟨hs, Nat.le_refl _⟩
    rintro u u' ⟨hu, hsu⟩ h
    exact ⟨(ih h hu).1, Nat.le_trans hsu (ih h hu).2⟩
  | seq a b iha ihb =>
    obtain ⟨u, ha, hb⟩ := h
    obtain ⟨hu, hsu⟩ := iha ha hs
    exact ⟨(ihb hb hu).1, Nat.le_trans hsu (ihb hb hu).2⟩
  | alt a b iha ihb =>
    rcases h with h | h
    · exact iha h hs
    · exact ihb h hs

end Expr
end Regex
end TextScan
