/-
# Patterns of literal texts

The pattern of a literal text is compiled from the escaped text, which is read back as the text
itself.  So nothing in a text is a fault of its source, and the pattern finds the text and nothing
else: a scan finds it where the text from the cursor on starts with it, and `scanUntil` finds its
first occurrence (`literal_finds_text`).
-/

import TextScan.Proofs.Regex.LiteralSource
import TextScan.Proofs.Scanner.Modes
import TextScan.Proofs.Scanner.Matching

namespace TextScan

open Regex (Expr)

variable {s : Scanner} {q : Query} {p : Pattern} {t u region : Text}

namespace Pattern

theorem source_of_literal (h : literal t = .ok p) : p.source = literalSource t :=
  source_of_compile h

theorem ofSource_of_literal (h : literal t = .ok p) : Expr.ofSource p.source = .ok (Expr.ofText t) := by
  rw [source_of_literal h, Expr.ofSource_literalSource]

/-- A literal text is refused only for its size. -/
theorem refusal_of_literal {f : PatternFault} (h : literal t = .error f) :
    f.refusal = .tooLarge := by
  unfold literal compile at h
  split at h
  · exact absurd h (by simp)
  · rename_i e he
    obtain rfl := Except.error.inj h
    rw [Regex.compile, Expr.ofSource_literalSource] at he
    dsimp only at he
    split at he
    · exact (Except.error.inj he).symm
    · exact absurd he (by simp)

/-- A literal text that is not too large has a pattern. -/
theorem exists_literal (h : (Expr.ofText t).isTooLarge = false) : ∃ p, literal t = .ok p := by
  have hc : Regex.compile (literalSource t) = .ok (Regex.ofExpr (Expr.ofText t)) :=
    Regex.compile_of_expr (Expr.ofSource_literalSource t) h
  exact ⟨⟨literalSource t, _, hc⟩, compile_source ⟨literalSource t, _, hc⟩⟩

/-- A literal text has no groups. -/
theorem groupCount_of_literal (h : literal t = .ok p) : p.groupCount = 0 := by
  rw [groupCount, regex_eq_ofExpr (ofSource_of_literal h)]
  cases t <;> rfl

/-- The patterns of two texts are equal exactly if the texts are. -/
theorem literal_eq_iff {p' : Pattern} (h : literal t = .ok p) (h' : literal u = .ok p') :
    p = p' ↔ t = u := by
  rw [eq_iff_source_eq, source_of_literal h, source_of_literal h']
  exact ⟨Regex.literalSource_injective, congrArg literalSource⟩

end Pattern

namespace Scanner

/-- An answer reports a text that stands at an offset counted from the cursor: the reply is the
text, and the last match spans it. -/
structure ReportsText (s : Scanner) (a : Answer) (i : Nat) (t : Text) : Prop where
  reply : a.reply = .text t
  span : a.scanner.matchedSpan = some ⟨s.cursor + i, s.cursor + i + Text.size t⟩

/-- In the text from the cursor on, `region`, both scans for a query find a text and nothing else. -/
structure FindsText (s : Scanner) (q : Query) (region t : Text) : Prop where
  scan_iff : s.Succeeds (.scan q) ↔ t <+: region
  scan : s.Succeeds (.scan q) → s.ReportsText (s.answer (.scan q)) 0 t
  scanUntil_iff : s.Succeeds (.scanUntil q) ↔ t <:+: region
  /-- The match is the first occurrence of the text. -/
  scanUntil : s.Succeeds (.scanUntil q) → ∃ a b, region = a ++ t ++ b ∧
    (∀ a' b', region = a' ++ t ++ b' → Text.size a ≤ Text.size a') ∧
    s.ReportsText (s.answer (.scanUntil q)) (Text.size a) t

/-- What is reported between two offsets is the text that stands there. -/
theorem Reports.reportsText {ans : Answer} {a b : Text} (hi : s.input = some u)
    (hr : Text.drop? u s.cursor = some (a ++ t ++ b))
    (h : s.Reports ans (Text.size a) (Text.size a + Text.size t)) :
    s.ReportsText ans (Text.size a) t := by
  obtain ⟨hspan, v, hv, hreply⟩ := h
  obtain ⟨x, rfl, hx⟩ := Text.drop?_eq_some_iff.1 hr
  have ht : Text.slice? (x ++ (a ++ t ++ b)) ⟨s.cursor + Text.size a,
      s.cursor + (Text.size a + Text.size t)⟩ = some t :=
    Text.slice?_eq_some_iff.2 ⟨x ++ a, b, by simp, by rw [Text.size_append, hx],
      by rw [Text.size_append, hx, Nat.add_assoc]⟩
  rw [slice?_eq hi, ht] at hv
  obtain rfl := Option.some.inj hv
  exact ⟨hreply, by rw [hspan, Nat.add_assoc]⟩

/-- A scan for an expression that is a text finds the text at the cursor. -/
theorem scan_findsText (hi : s.input = some u) (hr : Text.drop? u s.cursor = some region)
    (hq : q.compiled = .ok p) (he : Expr.ofSource p.source = .ok (Expr.ofText t)) :
    (s.Succeeds (.scan q) ↔ t <+: region) ∧
      (s.Succeeds (.scan q) → s.ReportsText (s.answer (.scan q)) 0 t) := by
  rcases answer_scan_cases hi hr hq he with ⟨hno, hnone⟩ | ⟨j, hm, hrep⟩
  · have hfail : ¬s.Succeeds (.scan q) := fun h => h.2.2 hno
    refine ⟨iff_of_false hfail ?_, fun h => absurd h hfail⟩
    rintro ⟨b, rfl⟩
    exact hnone _ (Regex.Expr.matchesIn_ofText.2 ⟨[], b, rfl, rfl, rfl⟩)
  · obtain ⟨a, b, rfl, ha, rfl⟩ := Regex.Expr.matchesIn_ofText.1 hm
    obtain rfl := Text.size_eq_zero.1 ha
    have hrep := hrep.reportsText (a := []) hi hr
    exact ⟨iff_of_true (succeeds_of_text rfl hrep.reply) ⟨b, rfl⟩, fun _ => hrep⟩

/-- A scan for the first match of an expression that is a text finds its first occurrence. -/
theorem scanUntil_findsText (hi : s.input = some u) (hr : Text.drop? u s.cursor = some region)
    (hq : q.compiled = .ok p) (he : Expr.ofSource p.source = .ok (Expr.ofText t)) :
    (s.Succeeds (.scanUntil q) ↔ t <:+: region) ∧
      (s.Succeeds (.scanUntil q) → ∃ a b, region = a ++ t ++ b ∧
        (∀ a' b', region = a' ++ t ++ b' → Text.size a ≤ Text.size a') ∧
        s.ReportsText (s.answer (.scanUntil q)) (Text.size a) t) := by
  rcases answer_scanUntil_cases hi hr hq he with ⟨hno, hnone⟩ | ⟨i, j, hm, hleast, hrep⟩
  · have hfail : ¬s.Succeeds (.scanUntil q) := fun h => h.2.2 hno
    refine ⟨iff_of_false hfail ?_, fun h => absurd h hfail⟩
    rintro ⟨a, b, rfl⟩
    exact hnone _ _ (Regex.Expr.matchesIn_ofText.2 ⟨a, b, rfl, rfl, rfl⟩)
  · obtain ⟨a, b, rfl, rfl, rfl⟩ := Regex.Expr.matchesIn_ofText.1 hm
    have hrep := hrep.reportsText hi hr
    refine ⟨iff_of_true (succeeds_of_text rfl hrep.reply) ⟨a, b, rfl⟩, fun _ => ⟨a, b, rfl, ?_, hrep⟩⟩
    exact fun a' b' h => hleast _ _ (Regex.Expr.matchesIn_ofText.2 ⟨a', b', h, rfl, rfl⟩)

/-- **The pattern of a literal text finds the text and nothing else.**  It fails to be made only for
its size.  It has no groups.  From a cursor on a boundary a scan finds something exactly if what is
left starts with the text, and `scanUntil` exactly if the text occurs in what is left; they report
the text there, and its first occurrence.  Two such patterns are equal exactly if their texts
are. -/
theorem literal_finds_text (t : Text) :
    (∀ f, Pattern.literal t = .error f → f.refusal = .tooLarge) ∧
    (∀ p, Pattern.literal t = .ok p → p.groupCount = 0 ∧
      ∀ (s : Scanner) (q : Query) (u region : Text), q.compiled = .ok p → s.input = some u →
        Text.drop? u s.cursor = some region → s.FindsText q region t) ∧
    ∀ t' p p', Pattern.literal t = .ok p → Pattern.literal t' = .ok p' → (p = p' ↔ t = t') :=
  ⟨fun _ h => Pattern.refusal_of_literal h,
    fun _ h => ⟨Pattern.groupCount_of_literal h, fun _ _ _ _ hq hi hr =>
      have he := Pattern.ofSource_of_literal h
      have hscan := scan_findsText hi hr hq he
      have huntil := scanUntil_findsText hi hr hq he
      ⟨hscan.1, hscan.2, huntil.1, huntil.2⟩⟩,
    fun _ _ _ h h' => Pattern.literal_eq_iff h h'⟩

/-- The text `a{2}` in `éaaa{2}` from the second character on: a scan does not find it, and
`scanUntil` finds it behind two characters. -/
theorem literal_finds_text_braces :
    let t := "a\x7b2\x7d".toList
    let s := (new (some "éaaa\x7b2\x7d".toList)).moveTo 2
    ∃ p, Pattern.literal t = .ok p ∧ p.groupCount = 0 ∧
      ¬s.Succeeds (.scan (.pattern p)) ∧ s.Succeeds (.scanUntil (.pattern p)) ∧
      (s.answer (.scanUntil (.pattern p))).reply = .text t ∧
      ∀ p', Pattern.literal "aa".toList = .ok p' → p ≠ p' := by
  intro t s
  obtain ⟨p, hp⟩ : ∃ p, Pattern.literal t = .ok p := Pattern.exists_literal (by decide)
  obtain ⟨-, hfinds, heq⟩ := literal_finds_text t
  obtain ⟨hcount, hfinds⟩ := hfinds p hp
  have h := hfinds s (.pattern p) "éaaa\x7b2\x7d".toList "aaa\x7b2\x7d".toList rfl rfl rfl
  have huntil : s.Succeeds (.scanUntil (.pattern p)) := h.scanUntil_iff.2 (by decide)
  obtain ⟨a, b, -, -, hrep⟩ := h.scanUntil huntil
  exact ⟨p, hp, hcount, h.scan_iff.not.2 (by decide), huntil, hrep.reply,
    fun p' hp' => (heq _ p p' hp hp').not.2 (by decide)⟩

end Scanner
end TextScan
