/-
# A source any number of times

A source can be put in parentheses that capture nothing, with a star behind them, or with a star and
the question mark that makes it lazy.  No group stands outside of the parentheses, so nothing stops
the reader there.  The tree is that of the source in the parentheses, repeated, if that is not too
deep (`Tree.ofSource_anyTimes`).  So the source of an expression that reads something means this
expression, repeated (`Expr.ofSource_anyTimes`).

The question mark makes no difference to the depth of the tree, nor to the weight of what it means.
So it can be put behind the star where the source without it compiles
(`compile_anyTimes`).
-/

import TextScan.Proofs.Regex.Embedding.Choice
import TextScan.Proofs.Regex.Openings
import TextScan.Proofs.Regex.Rounds

namespace TextScan
namespace Regex

/-- The source of another one any number of times: as often as possible, or as rarely. -/
def anyTimes (greedy : Bool) (a : Text) : Text :=
  "(?:".toList ++ a ++ (if greedy then ")*" else ")*?").toList

/-- The sign behind the parentheses. -/
def starSign (greedy : Bool) : Text := if greedy then ['*'] else ['*', '?']

variable {a : Text} {ta T : Tree} {e e' : Expr} {greedy greedy' : Bool}

theorem anyTimes_eq (greedy : Bool) (a : Text) :
    anyTimes greedy a = '(' :: '?' :: ':' :: (a ++ ')' :: starSign greedy) := by
  have hfirst : "(?:".toList = ['(', '?', ':'] := rfl
  have hlast : (if greedy then ")*" else ")*?").toList = ')' :: starSign greedy := by
    cases greedy <;> rfl
  unfold anyTimes
  simp only [hfirst, hlast, List.cons_append, List.nil_append]

/-- At the end of a source, a star behind one group in parentheses repeats it. -/
theorem Reader.run_star {stop k m : Nat} {names : List (Text × Extent)} {x : Extent}
    (hm : (starSign greedy).length < m) :
    run m ⟨⟨starSign greedy, stop, false⟩, (Level.empty 0).push (.group x (.plain []) T), [], k,
      names⟩ = .ok (.repetition ⟨x.first, stop + (starSign greedy).length⟩ ⟨0, none⟩ greedy
        (.group x (.plain []) T)) := by
  cases greedy with
  | true =>
    obtain ⟨m, rfl⟩ : ∃ m', m = m' + 2 := ⟨m - 2, by simp [starSign] at hm; omega⟩
    rfl
  | false =>
    obtain ⟨m, rfl⟩ : ∃ m', m = m' + 3 := ⟨m - 3, by simp [starSign] at hm; omega⟩
    rfl

/-- **The tree of a source any number of times**, and how deep it may be. -/
theorem Tree.ofSource_anyTimes (greedy : Bool) (ha : Tree.ofSource a = .ok ta) (hna : '#' ∉ a) :
    ∃ x y, Tree.ofSource (anyTimes greedy a) =
      match (ta.shift 3 0).tooDeep? (nestLimit - 2) with
      | some e => fail .nestedTooDeep e.first e.stop
      | none => pure (.repetition x ⟨0, none⟩ greedy (.group y (.plain []) (ta.shift 3 0))) := by
  have hlength : (anyTimes greedy a).length + 1 = a.length + 5 + (starSign greedy).length := by
    simp only [anyTimes_eq, List.length_cons, List.length_append]
    omega
  rcases Reader.run_plain (w := starSign greedy) (m := a.length + 5 + (starSign greedy).length)
    0 0 (Level.empty 0) [] [] ha hna (by omega) with
    ⟨stop, m, names, hm, hrun⟩ | ⟨hnames, -⟩
  · rw [Reader.run_star hm] at hrun
    refine ⟨⟨0, stop + (starSign greedy).length⟩, ⟨0, stop⟩, ?_⟩
    unfold Tree.ofSource
    rw [hlength, Reader.ofSource, Cursor.ofSource, anyTimes_eq, hrun]
    rfl
  · exact absurd rfl hnames

theorem Tree.meaning_repetition {x : Extent} {b : Bounds} {f f' : Flags}
    (h : T.meaning f = .ok (e, f')) : (Tree.repetition x b greedy T).meaning f =
      .ok (Expr.repeated b.least b.most (greedy != f'.swapGreed) e, f') := by
  simp only [Tree.meaning, h]
  rfl

namespace Expr

/-- A source any number of times means what the source means, repeated, if it is not too deep. -/
theorem ofSource_anyTimes_eq (greedy : Bool) (he : Expr.ofSource a = .ok e)
    (hta : Tree.ofSource a = .ok ta) (hna : '#' ∉ a) : Expr.ofSource (Regex.anyTimes greedy a) =
      match (ta.shift 3 0).tooDeep? (nestLimit - 2) with
      | some x => fail .nestedTooDeep x.first x.stop
      | none => pure (repeated 0 none greedy e) := by
  obtain ⟨f, hmeaning⟩ := exists_meaning he hta
  obtain ⟨x, y, hT⟩ := Tree.ofSource_anyTimes greedy hta hna
  have hinside : (ta.shift 3 0).meaning {} = .ok (e.renumber 0, f) := Tree.meaning_shift ta hmeaning
  have hall : (Tree.repetition x ⟨0, none⟩ greedy
      (.group y (.plain []) (ta.shift 3 0))).meaning {} =
        .ok (repeated 0 none (greedy != false) (e.renumber 0), {}) :=
    Tree.meaning_repetition (Tree.meaning_plain hinside)
  rw [renumber_zero, Bool.bne_false] at hall
  unfold Expr.ofSource
  rw [hT]
  cases (ta.shift 3 0).tooDeep? (nestLimit - 2) with
  | some x => rfl
  | none => exact bind_eq_ok.2 ⟨_, rfl, bind_eq_ok.2 ⟨_, hall, rfl⟩⟩

/-- **What a source any number of times means**, if it reads something.  Whether it is lazy makes no
difference to its depth. -/
theorem ofSource_anyTimes (ha : e.anchors = []) (hadv : e.Advances) (he : Expr.ofSource a = .ok e)
    (hna : '#' ∉ a) (h : Expr.ofSource (Regex.anyTimes greedy' a) = .ok e') (greedy : Bool) :
    Expr.ofSource (Regex.anyTimes greedy a) = .ok (anyTimes greedy e) := by
  obtain ⟨ta, hta⟩ := exists_tree he
  rw [ofSource_anyTimes_eq greedy' he hta hna] at h
  rw [ofSource_anyTimes_eq greedy he hta hna]
  cases hdeep : (ta.shift 3 0).tooDeep? (nestLimit - 2) with
  | some x =>
    rw [hdeep] at h
    exact absurd h (by simp [fail])
  | none =>
    rw [repeated_of_advances (ordered_of_ofSource he) ha hadv]
    rfl

/-- A repetition that may be left out matches the empty text. -/
theorem isTexts_anyTimes (greedy : Bool) (e : Expr) : (anyTimes greedy e).isTexts = false := by
  have hnone : (anyTimes greedy e).Matches (Spot.start []) (Spot.start []) :=
    ⟨0, ⟨Nat.zero_le 0, fun _ h => absurd h (by simp)⟩, rfl⟩
  exact isTexts_of_matches_empty hnone rfl

/-- Whether a repetition is lazy makes no difference to its weight. -/
theorem isTooLarge_anyTimes (greedy greedy' : Bool) (e : Expr) :
    (anyTimes greedy e).isTooLarge = (anyTimes greedy' e).isTooLarge := by
  have hbulk (d : Direction) : (anyTimes greedy e).bulk d = (anyTimes greedy' e).bulk d := rfl
  simp only [isTooLarge, hbulk, isTexts_anyTimes]

end Expr

/-- So a lazy repetition compiles where a greedy one does, and the other way round. -/
theorem compile_anyTimes {x : Regex} (ha : e.anchors = []) (hadv : e.Advances)
    (he : Expr.ofSource a = .ok e) (hna : '#' ∉ a) (h : Regex.compile (anyTimes greedy' a) = .ok x)
    (greedy : Bool) :
    Regex.compile (anyTimes greedy a) = .ok (ofExpr (Expr.anyTimes greedy e)) := by
  obtain ⟨e', he', -⟩ := exists_expr_of_compile h
  have hall := Expr.ofSource_anyTimes ha hadv he hna he'
  refine compile_of_expr (hall greedy) ?_
  cases hlarge : (Expr.anyTimes greedy e).isTooLarge with
  | false => rfl
  | true =>
    rw [Expr.isTooLarge_anyTimes greedy greedy'] at hlarge
    rw [Regex.compile, hall greedy'] at h
    dsimp only at h
    rw [if_pos hlarge] at h
    exact absurd h (by simp)

end Regex
end TextScan
