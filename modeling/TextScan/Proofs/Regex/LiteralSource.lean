/-
# Reading an escaped text back

`Pattern.literalSource` puts a backslash before every character of a text that means something in a
source.  The reader takes each character of the text back as one literal, escaped or not
(`Reader.exists_step_literal`), and so the whole source as the literals in a row
(`Reader.run_literal`).  Their meaning is the text and nothing else (`Expr.ofSource_literalSource`).
-/

import Mathlib.Data.List.Forall2
import TextScan.Pattern
import TextScan.Proofs.Regex.Matching
import TextScan.Proofs.Regex.Reading

namespace TextScan
namespace Regex

/-- The expression that matches a text and nothing else. -/
def Expr.ofText (t : Text) : Expr := if t.isEmpty then .empty else .text t

/-- The source of one character that stands for itself. -/
def literalChar (c : Char) : Text := if isMeta c then ['\\', c] else [c]

theorem literalSource_cons (c : Char) (t : Text) :
    Pattern.literalSource (c :: t) = literalChar c ++ Pattern.literalSource t := rfl

/-- A text is read off its escaped form. -/
theorem literalSource_injective {a b : Text}
    (h : Pattern.literalSource a = Pattern.literalSource b) : a = b := by
  have hslash : isMeta '\\' = true := rfl
  induction a generalizing b with
  | nil =>
    cases b with
    | nil => rfl
    | cons d b =>
      rw [literalSource_cons, literalChar] at h
      split at h <;> exact absurd h (by simp [Pattern.literalSource])
  | cons c a ih =>
    cases b with
    | nil =>
      rw [literalSource_cons, literalChar] at h
      split at h <;> exact absurd h (by simp [Pattern.literalSource])
    | cons d b =>
      rw [literalSource_cons, literalSource_cons, literalChar, literalChar] at h
      split at h <;> split at h <;> rename_i hc hd <;>
        simp only [List.cons_append, List.nil_append, List.cons.injEq, true_and] at h
      · obtain ⟨rfl, h⟩ := h
        rw [ih h]
      · exact absurd (h.1 ▸ hslash) hd
      · exact absurd (h.1 ▸ hslash) hc
      · obtain ⟨rfl, h⟩ := h
        rw [ih h]

namespace Reader

/-- An item that stands for a character. -/
def IsLiteral (t : Tree) (c : Char) : Prop := ∃ e, t = .atom (.literal ⟨e, c, false⟩)

variable {c : Char}

/-- An escaped character is read as a literal. -/
theorem step_escaped (hc : isMeta c = true) (r : Reader) (t : Text) (n : Nat) :
    r.step '\\' ⟨'\\' :: c :: t, n, false⟩ =
      .ok (r.push (.atom (.literal ⟨⟨n, n + 1 + 1⟩, c, false⟩)) ⟨t, n + 1 + 1, false⟩) := by
  simp only [isMeta, String.reduceToList, List.contains_eq_mem, decide_eq_true_eq, List.mem_cons,
    List.not_mem_nil, or_false] at hc
  rcases hc with rfl | rfl | rfl | rfl | rfl | rfl | rfl | rfl | rfl | rfl | rfl | rfl | rfl | rfl |
    rfl | rfl | rfl | rfl <;> rfl

/-- A character that means nothing is read as a literal. -/
theorem step_plain (hc : isMeta c = false) (r : Reader) (t : Text) (n : Nat) :
    r.step c ⟨c :: t, n, false⟩ =
      .ok (r.push (.atom (.literal ⟨⟨n, n + 1⟩, c, false⟩)) ⟨t, n + 1, false⟩) := by
  have hne : ∀ d, isMeta d = true → c ≠ d := fun d hd h => by
    rw [h, hd] at hc
    exact absurd hc (by simp)
  have hsign : Cursor.signBounds? c = none := by
    unfold Cursor.signBounds?
    split
    · exact absurd rfl (hne '?' rfl)
    · exact absurd rfl (hne '*' rfl)
    · exact absurd rfl (hne '+' rfl)
    · rfl
  have hatom : Cursor.atom c ⟨c :: t, n, false⟩ =
      .ok (.literal ⟨⟨n, n + 1⟩, c, false⟩, ⟨t, n + 1, false⟩) := by
    unfold Cursor.atom
    split
    · exact absurd rfl (hne '\\' rfl)
    · exact absurd rfl (hne '.' rfl)
    · exact absurd rfl (hne '^' rfl)
    · exact absurd rfl (hne '$' rfl)
    · rfl
  simp only [step, hne '(' rfl, hne ')' rfl, hne '|' rfl, hne '[' rfl, hne '\x7b' rfl, if_false,
    hsign, hatom, Except.map]

/-- One character of a text is read back from its source as a literal. -/
theorem exists_step_literal (r : Reader) (c : Char) (t : Text) (n : Nat) :
    ∃ ch rest item k, literalChar c ++ t = ch :: rest ∧ IsLiteral item c ∧
      r.step ch ⟨literalChar c ++ t, n, false⟩ = .ok (r.push item ⟨t, k, false⟩) := by
  cases hc : isMeta c with
  | true =>
    simp only [literalChar, hc, if_true]
    exact ⟨_, _, _, _, rfl, ⟨_, rfl⟩, step_escaped hc r t n⟩
  | false =>
    simp only [literalChar, hc, Bool.false_eq_true, if_false]
    exact ⟨_, _, _, _, rfl, ⟨_, rfl⟩, step_plain hc r t n⟩

/-- **The source of a text is read as its characters in a row.**  By induction on the text; `fuel` is
more than the number of its characters. -/
theorem run_literal {fuel : Nat} {t : Text} (r : Reader) (n : Nat) (hf : t.length < fuel)
    (hr : r.cursor = ⟨Pattern.literalSource t, n, false⟩) :
    ∃ items stop, List.Forall₂ IsLiteral items t ∧ run fuel r =
      finish { r with level := { r.level with items := items.reverse ++ r.level.items } } stop := by
  induction t generalizing fuel r n with
  | nil =>
    obtain ⟨fuel, rfl⟩ : ∃ k, fuel = k + 1 := ⟨fuel - 1, by omega⟩
    exact ⟨[], r.cursor.skipBlanks.index, .nil, run_nil (by rw [hr]; rfl)⟩
  | cons c t ih =>
    obtain ⟨fuel, rfl⟩ : ∃ k, fuel = k + 1 := ⟨fuel - 1, by omega⟩
    obtain ⟨ch, rest, item, k, hrest, hitem, hstep⟩ :=
      exists_step_literal r c (Pattern.literalSource t) n
    have hc : r.cursor.skipBlanks = ⟨literalChar c ++ Pattern.literalSource t, n, false⟩ := by
      rw [hr]
      rfl
    have hlength : t.length < fuel := by simpa using hf
    obtain ⟨items, stop, hitems, hrun⟩ := ih
      (r.push item ⟨Pattern.literalSource t, k, false⟩) k hlength rfl
    refine ⟨item :: items, stop, .cons hitem hitems, ?_⟩
    rw [run_cons (by rw [hc, hrest]), hc, hstep, Except.bind, hrun]
    simp only [push, Level.push, List.reverse_cons, List.append_assoc, List.singleton_append]
    rfl

end Reader

variable {items : List Tree} {t : Text}

/-- Literals lie at no depth. -/
theorem anyTooDeep?_literals (h : List.Forall₂ Reader.IsLiteral items t) (n : Nat) :
    Tree.anyTooDeep? items n = none := by
  induction h with
  | nil => rfl
  | cons hitem _ ih =>
    obtain ⟨e, rfl⟩ := hitem
    rw [Tree.anyTooDeep?, ih]
    rfl

theorem tooDeep?_literals (h : List.Forall₂ Reader.IsLiteral items t) (e : Extent) :
    (Tree.ofItems e items).tooDeep? nestLimit = none := by
  cases h with
  | nil => rfl
  | cons hitem hitems =>
    cases hitems with
    | nil =>
      obtain ⟨e', rfl⟩ := hitem
      rfl
    | cons hitem' hitems => exact anyTooDeep?_literals (.cons hitem (.cons hitem' hitems)) _

/-- A literal means its character. -/
theorem meaning_literal {item : Tree} {c : Char} (h : Reader.IsLiteral item c) :
    item.meaning {} = .ok (.text [c], {}) := by
  obtain ⟨e, rfl⟩ := h
  simp [Tree.meaning, Atom.meaning, Literal.value, charExpr, Flags.fold, Except.map]

theorem allMeanings_literals (h : List.Forall₂ Reader.IsLiteral items t) :
    Tree.allMeanings {} items = .ok (t.map fun c => .text [c], {}) := by
  induction h with
  | nil => rfl
  | cons hitem _ ih =>
    rw [Tree.allMeanings, meaning_literal hitem]
    simp only [bind, Except.bind, ih]
    rfl

/-- Characters in a row are one text. -/
theorem joinTexts_chars (c : Char) (t : Text) :
    Expr.joinTexts ((c :: t).map fun c => .text [c]) = [.text (c :: t)] := by
  induction t generalizing c with
  | nil => rfl
  | cons d t ih =>
    rw [List.map_cons, Expr.joinTexts, ih]
    rfl

theorem sequence_chars (t : Text) :
    Expr.sequence (t.map fun c => .text [c]) = Expr.ofText t := by
  have hparts : (t.map fun c => Expr.text [c]).flatMap Expr.parts = t.map fun c => .text [c] := by
    induction t with
    | nil => rfl
    | cons c t ih =>
      rw [List.map_cons, List.flatMap_cons, ih]
      rfl
  rw [Expr.sequence, hparts]
  cases t with
  | nil => rfl
  | cons c t =>
    rw [joinTexts_chars]
    rfl

theorem meaning_literals (h : List.Forall₂ Reader.IsLiteral items t) (e : Extent) :
    (Tree.ofItems e items).meaning {} = .ok (Expr.ofText t, {}) := by
  cases h with
  | nil => rfl
  | cons hitem hitems =>
    cases hitems with
    | nil => exact meaning_literal hitem
    | cons hitem' hitems =>
      have hmeanings := allMeanings_literals (.cons hitem (.cons hitem' hitems))
      simp only [Tree.ofItems, Tree.meaning, bind, Except.bind, hmeanings, sequence_chars]
      rfl

/-- There is a backslash for some characters at most. -/
theorem length_le_literalSource (t : Text) : t.length ≤ (Pattern.literalSource t).length := by
  induction t with
  | nil => exact Nat.zero_le _
  | cons c t ih =>
    rw [literalSource_cons, literalChar]
    split <;> simp only [List.length_append, List.length_cons, List.length_nil] <;> omega

/-- **An escaped text is read back as the text.** -/
theorem Expr.ofSource_literalSource (t : Text) :
    Expr.ofSource (Pattern.literalSource t) = .ok (Expr.ofText t) := by
  have hfuel : t.length < (Pattern.literalSource t).length + 1 :=
    Nat.lt_succ_of_le (length_le_literalSource t)
  obtain ⟨items, stop, hitems, hrun⟩ :=
    Reader.run_literal (Reader.ofSource (Pattern.literalSource t)) 0 hfuel rfl
  have htree : Tree.ofSource (Pattern.literalSource t) =
      .ok (Tree.ofItems ⟨0, stop⟩ items) := by
    rw [Tree.ofSource, hrun]
    simp only [Reader.finish, Reader.ofSource, Level.empty, Level.close, Level.branch,
      List.append_nil, List.reverse_reverse, bind, Except.bind, tooDeep?_literals hitems]
    rfl
  rw [Expr.ofSource, htree]
  simp only [bind, Except.bind, meaning_literals hitems]
  rfl

/-! ## What a text matches -/

theorem Expr.matches_ofText {s s' : Spot} :
    (Expr.ofText t).Matches s s' ↔ ∃ r, s.rest = t ++ r ∧ s' = s.behind t r := by
  cases t with
  | nil =>
    constructor
    · intro h
      obtain rfl : s' = s := h
      exact ⟨_, rfl, rfl⟩
    · rintro ⟨r, rfl, rfl⟩
      rfl
  | cons c t => exact Iff.rfl

/-- A text matches where it stands. -/
theorem Expr.matchesIn_ofText {region : Text} {i j : Nat} :
    (Expr.ofText t).MatchesIn region i j ↔
      ∃ a b, region = a ++ t ++ b ∧ Text.size a = i ∧ j = i + Text.size t := by
  constructor
  · rintro ⟨s, s', hs, hs', hm⟩
    obtain ⟨⟨a, c, rfl, rfl⟩, rfl⟩ := Spot.at?_eq_some_iff.1 hs
    obtain ⟨b, hb, rfl⟩ := matches_ofText.1 hm
    obtain rfl : c = t ++ b := hb
    exact ⟨a, b, (List.append_assoc a t b).symm, rfl, (Spot.at?_eq_some_iff.1 hs').2.symm⟩
  · rintro ⟨a, b, rfl, rfl, rfl⟩
    have hs : Spot.IsIn (a ++ t ++ b) (Spot.between a (t ++ b)) :=
      ⟨a, t ++ b, List.append_assoc a t b, rfl⟩
    exact ⟨_, _, Spot.at?_eq_some_iff.2 ⟨hs, rfl⟩,
      Spot.at?_eq_some_iff.2 ⟨hs.behind rfl, rfl⟩, matches_ofText.2 ⟨b, rfl, rfl⟩⟩

end Regex
end TextScan
