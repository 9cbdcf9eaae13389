/-
# Expressions that read something

An expression without anchors matches the empty text either at every spot or at none: whether there
is something to read does not depend on where it stands.  So if it does not match the empty text,
less is left behind every match than before it (`advances_of_not_matchesIn`).

What can match nothing but the empty text is repeated once at most where an expression is put
together (`Expr.repeated`).  An expression that reads something is not of that kind, and is repeated
as often as it is said (`repeated_of_advances`).
-/

import TextScan.Proofs.Regex.Behind
import TextScan.Proofs.Regex.Matching

namespace TextScan
namespace Regex
namespace Expr

/-- Less is left behind a match than before it. -/
def Advances (e : Expr) : Prop := ∀ s s' : Spot, e.Matches s s' → s'.rest.length < s.rest.length

/-- An expression matches the empty text everywhere. -/
def Nullable (e : Expr) : Prop := ∀ s : Spot, e.Matches s s

variable {e : Expr} {s s' : Spot}

theorem nullable_text_nil : (text []).Nullable := fun s => ⟨s.rest, rfl, rfl⟩

theorem Nullable.repeats (h : e.Nullable) (n : Nat) (s : Spot) : Repeats e.Matches n s s := by
  induction n with
  | zero => rfl
  | succ n ih => exact ⟨s, h s, ih⟩

/-- Matches one after the other read something, or each of them can be left out. -/
theorem less_or_repeats {n : Nat} (he : ∀ {s s' : Spot}, e.Matches s s' →
      s'.rest.length < s.rest.length ∨ s'.rest.length = s.rest.length ∧ e.Nullable)
    (h : Repeats e.Matches n s s') : s'.rest.length < s.rest.length ∨
      s'.rest.length = s.rest.length ∧ ∀ u, Repeats e.Matches n u u := by
  induction n generalizing s with
  | zero =>
    obtain rfl : s' = s := h
    exact Or.inr ⟨rfl, fun u => rfl⟩
  | succ n ih =>
    obtain ⟨u, hu, h⟩ := h
    rcases he hu with hlt | ⟨heq, hnull⟩
    · rcases ih h with hlt' | ⟨heq', -⟩
      · exact Or.inl (hlt'.trans hlt)
      · exact Or.inl (heq' ▸ hlt)
    · rcases ih h with hlt' | ⟨heq', -⟩
      · exact Or.inl (heq ▸ hlt')
      · exact Or.inr ⟨heq'.trans heq, hnull.repeats (n + 1)⟩

/-- **A match reads something, or the empty text is matched everywhere.** -/
theorem Matches.less_or_nullable (ha : e.anchors = []) (h : e.Matches s s') :
    s'.rest.length < s.rest.length ∨ s'.rest.length = s.rest.length ∧ e.Nullable := by
  induction e generalizing s s' with
  | empty =>
    obtain rfl : s' = s := h
    exact Or.inr ⟨rfl, fun u => rfl⟩
  | text t =>
    obtain ⟨r, hr, rfl⟩ := h
    have hrest : (s.behind t r).rest = r := rfl
    rw [hrest, hr, List.length_append]
    cases t with
    | nil => exact Or.inr ⟨by simp, nullable_text_nil⟩
    | cons c t => exact Or.inl (by simp)
  | oneOf _ set =>
    obtain ⟨c, r, hr, -, rfl⟩ := h
    have hrest : (s.past c r).rest = r := rfl
    exact Or.inl (by rw [hrest, hr]; exact Nat.lt_succ_self _)
  | anchor a => exact absurd ha (List.cons_ne_nil a [])
  | group i _ e ih => exact ih ha h
  | times least most _ e ih =>
    obtain ⟨n, hn, h⟩ := h
    refine (less_or_repeats (ih ha) h).imp_right fun hall => ⟨hall.1, fun u => ⟨n, hn, hall.2 u⟩⟩
  | seq a b iha ihb =>
    obtain ⟨ha, hb⟩ := List.append_eq_nil_iff.1 ha
    obtain ⟨u, hm, hm'⟩ := h
    rcases iha ha hm with hlt | ⟨heq, hnull⟩
    · rcases ihb hb hm' with hlt' | ⟨heq', -⟩
      · exact Or.inl (hlt'.trans hlt)
      · exact Or.inl (heq' ▸ hlt)
    · rcases ihb hb hm' with hlt' | ⟨heq', hnull'⟩
      · exact Or.inl (heq ▸ hlt')
      · exact Or.inr ⟨heq'.trans heq, fun u => ⟨u, hnull u, hnull' u⟩⟩
  | alt a b iha ihb =>
    obtain ⟨ha, hb⟩ := List.append_eq_nil_iff.1 ha
    rcases h with h | h
    · exact (iha ha h).imp_right fun hnull => ⟨hnull.1, fun u => Or.inl (hnull.2 u)⟩
    · exact (ihb hb h).imp_right fun hnull => ⟨hnull.1, fun u => Or.inr (hnull.2 u)⟩

/-- **An expression reads something if it does not match the empty text.** -/
theorem advances_of_not_matchesIn (ha : e.anchors = []) (h : ¬e.MatchesIn [] 0 0) : e.Advances := by
  intro s s' hm
  rcases hm.less_or_nullable ha with hlt | ⟨-, hnull⟩
  · exact hlt
  · exact absurd ⟨Spot.start [], Spot.start [], rfl, rfl, hnull _⟩ h

/-! ## Sizes -/

theorem codePointSize_pos (n : Nat) : 0 < codePointSize n := by
  unfold codePointSize
  split
  · decide
  · split
    · decide
    · split <;> decide

/-- What matches nothing but the empty text matches that. -/
theorem nullable_of_maxSize (he : e.Ordered) (ha : e.anchors = []) (h : e.maxSize = some 0) :
    e.Nullable := by
  induction e with
  | empty => exact fun s => rfl
  | text t =>
    obtain rfl := Text.size_eq_zero.1 (Option.some.inj h)
    exact nullable_text_nil
  | oneOf _ set =>
    obtain ⟨r, -, hr⟩ := Option.map_eq_some_iff.1 h
    exact absurd hr (codePointSize_pos r.high).ne'
  | anchor a => exact absurd ha (List.cons_ne_nil a [])
  | group i _ e ih => exact ih he ha h
  | times least most _ e ih =>
    obtain ⟨n, hmost, h⟩ := Option.bind_eq_some_iff.1 h
    obtain ⟨m, hm, h⟩ := Option.map_eq_some_iff.1 h
    have hle : least ≤ n := he.1 n hmost
    intro s
    refine ⟨least, ⟨Nat.le_refl _, fun m' hm' => ?_⟩, ?_⟩
    · obtain rfl := Option.some.inj (hmost.symm.trans hm')
      exact hle
    · rcases Nat.mul_eq_zero.1 h with rfl | rfl
      · exact (ih he.2 ha hm).repeats least s
      · obtain rfl := Nat.le_zero.1 hle
        rfl
  | seq a b iha ihb =>
    obtain ⟨ha, hb⟩ := List.append_eq_nil_iff.1 ha
    obtain ⟨m, hm, h⟩ := Option.bind_eq_some_iff.1 h
    obtain ⟨n, hn, h⟩ := Option.map_eq_some_iff.1 h
    obtain ⟨rfl, rfl⟩ := Nat.add_eq_zero_iff.1 h
    exact fun s => ⟨s, iha he.1 ha hm s, ihb he.2 hb hn s⟩
  | alt a b iha ihb =>
    obtain ⟨ha, hb⟩ := List.append_eq_nil_iff.1 ha
    obtain ⟨m, hm, h⟩ := Option.bind_eq_some_iff.1 h
    obtain ⟨n, hn, h⟩ := Option.map_eq_some_iff.1 h
    have hzero : m = 0 := Nat.le_zero.1 (h ▸ Nat.le_max_left m n)
    exact fun s => Or.inl (iha he.1 ha (hzero ▸ hm) s)

/-- What reads something is repeated as often as it is said. -/
theorem repeated_of_advances (he : e.Ordered) (ha : e.anchors = []) (hadv : e.Advances)
    (greedy : Bool) : repeated 0 none greedy e = times 0 none greedy e := by
  have hsize : ¬e.maxSize = some 0 := by
    intro hzero
    have hnull := nullable_of_maxSize he ha hzero (Spot.start [])
    exact absurd (hadv _ _ hnull) (Nat.lt_irrefl _)
  unfold repeated
  rw [decide_eq_false hsize]
  rfl

end Expr
end Regex
end TextScan
