/-
# Positions, character by character

A position goes on from character to character: a line feed leads to the start of the next line, and
any other character one column further (`Position.step`).  The position behind a text is the one
that its characters lead to from the first position (`Position.after_append`).

Positions are ordered by line and then by column.  Every step leads to a later position, so the
position behind a text comes before those behind the texts that it starts
(`Position.after_lt_after_append`).

A position says where it is: the rows before its line and the characters before its column make up
the text that it was found behind (`Position.stopsAt_after`).  With that, the position of a byte
offset is known from the boundaries around the offset (`Position.ofOffset_size` and what follows).
-/

import Mathlib.Data.List.Induction
import Mathlib.Data.Prod.Lex
import TextScan.Position
import TextScan.Proofs.Text.Cuts
import TextScan.Proofs.Text.LineFeeds

namespace TextScan
namespace Position

/-- The position at the start of a text. -/
def start : Position := ⟨1, 1⟩

/-- The position behind one more character. -/
def step (p : Position) (c : Char) : Position :=
  if c = '\n' then ⟨p.line + 1, 1⟩ else ⟨p.line, p.column + 1⟩

/-! ## Walking -/

theorem after_nil : after [] = start := rfl

theorem after_append_singleton (t : Text) (c : Char) : after (t ++ [c]) = (after t).step c := by
  unfold after step
  rw [List.reverse_append, List.reverse_singleton, List.singleton_append, List.count_append,
    List.takeWhile_cons, List.count_singleton]
  by_cases hc : c = '\n' <;> simp [hc]

/-- **The position behind a text is where its characters lead to.** -/
theorem after_append (a b : Text) : after (a ++ b) = b.foldl step (after a) := by
  induction b generalizing a with
  | nil => rw [List.append_nil, List.foldl_nil]
  | cons c b ih => rw [List.append_cons, ih, after_append_singleton, List.foldl_cons]

/-- Characters that are no line feeds lead along the line. -/
theorem column_foldl_step {t : Text} (h : '\n' ∉ t) (p : Position) :
    (t.foldl step p).column = p.column + t.length := by
  induction t generalizing p with
  | nil => rfl
  | cons c t ih =>
    obtain ⟨hc, ht⟩ := not_or.1 (List.mem_cons.not.1 h)
    rw [List.foldl_cons, ih ht, step, if_neg (Ne.symm hc), List.length_cons]
    dsimp only
    omega

/-- The first column is at the start of the text and behind the line feeds. -/
theorem column_after_eq_one_iff {t : Text} :
    (after t).column = 1 ↔ t = [] ∨ ∃ a, t = a ++ ['\n'] := by
  induction t using List.reverseRecOn with
  | nil => simp [after]
  | append_singleton a c _ =>
    have hpos : (after a).column ≠ 0 := Nat.succ_ne_zero _
    rw [after_append_singleton, step]
    by_cases hc : c = '\n' <;> simp [hc, hpos]

/-! ## Order -/

/-- What positions are ordered by: the line, and in a line the column. -/
def key (p : Position) : ℕ ×ₗ ℕ := toLex (p.line, p.column)

theorem key_injective : Function.Injective key := by
  rintro ⟨l, c⟩ ⟨l', c'⟩ h
  obtain ⟨rfl, rfl⟩ := Prod.mk.inj (toLex.injective h)
  rfl

/-- Positions are ordered by line, and in a line by column. -/
instance : PartialOrder Position := PartialOrder.lift key key_injective

theorem lt_iff {p q : Position} :
    p < q ↔ p.line < q.line ∨ p.line = q.line ∧ p.column < q.column :=
  Prod.Lex.toLex_lt_toLex

theorem lt_step (p : Position) (c : Char) : p < p.step c := by
  rw [lt_iff, step]
  split
  · exact Or.inl (Nat.lt_succ_self _)
  · exact Or.inr ⟨rfl, Nat.lt_succ_self _⟩

theorem lt_foldl_step {t : Text} (h : t ≠ []) (p : Position) : p < t.foldl step p := by
  induction t generalizing p with
  | nil => exact absurd rfl h
  | cons c t ih =>
    rw [List.foldl_cons]
    by_cases ht : t = []
    · rw [ht, List.foldl_nil]
      exact lt_step p c
    · exact lt_trans (lt_step p c) (ih ht _)

/-- **A longer first part of a text ends at a later position.** -/
theorem after_lt_after_append (a : Text) {b : Text} (h : b ≠ []) : after a < after (a ++ b) := by
  rw [after_append]
  exact lt_foldl_step h _

theorem after_le_after_append (a b : Text) : after a ≤ after (a ++ b) := by
  by_cases hb : b = []
  · rw [hb, List.append_nil]
  · exact (after_lt_after_append a hb).le

/-! ## Reading a position back -/

/-- A position stops at the end of a first part `a` of a text: `a` is made up of the rows before the
line of the position, and of the characters before its column in the row of that line. -/
def StopsAt (p : Position) (t a : Text) : Prop :=
  ∃ k j row, p = ⟨k + 1, j + 1⟩ ∧ (Text.rows t)[k]? = some row ∧ j ≤ row.length ∧
    ((Text.rows t).take k).flatten ++ row.take j = a

/-- The rows of a longer text start with the whole rows of a shorter one and go on in its last row.
The numbers of both are those of the position behind the shorter text. -/
theorem exists_rows_append (a : Text) : ∃ whole last,
    after a = ⟨whole.length + 1, last.length + 1⟩ ∧
    ∀ b row rest, Text.rows b = row :: rest →
      Text.rows (a ++ b) = whole ++ (last ++ row) :: rest := by
  induction a using List.reverseRecOn with
  | nil => exact ⟨[], [], rfl, fun b row rest hb => hb⟩
  | append_singleton a c ih =>
    obtain ⟨whole, last, hafter, hrows⟩ := ih
    by_cases hc : c = '\n'
    · subst hc
      -- The last row is whole now, and an empty one follows.
      refine ⟨whole ++ [last ++ ['\n']], [], ?_, fun b row rest hb => ?_⟩
      · simp [after_append_singleton, hafter, step]
      · have hcons : Text.rows ('\n' :: b) = ['\n'] :: row :: rest := by simp [Text.rows, hb]
        simp [hrows _ _ _ hcons]
    · refine ⟨whole, last ++ [c], ?_, fun b row rest hb => ?_⟩
      · simp [after_append_singleton, hafter, step, hc]
      · have hcons : Text.rows (c :: b) = (c :: row) :: rest := by simp [Text.rows, hb, hc]
        simp [hrows _ _ _ hcons]

/-- **The position behind a first part of a text stops at its end.** -/
theorem stopsAt_after (a b : Text) : (after a).StopsAt (a ++ b) a := by
  obtain ⟨whole, last, hafter, hrows⟩ := exists_rows_append a
  obtain ⟨row, rest, hb⟩ := List.exists_cons_of_ne_nil (Text.rows_ne_nil b)
  have hflatten : whole.flatten ++ last = a := by
    have ha := hrows [] [] [] rfl
    rw [List.append_nil, List.append_nil] at ha
    rw [← Text.flatten_rows a, ha, List.flatten_append, List.flatten_singleton]
  refine ⟨whole.length, last.length, last ++ row, hafter, ?_, ?_, ?_⟩
  · rw [hrows b row rest hb, List.getElem?_append_right (Nat.le_refl _), Nat.sub_self,
      List.getElem?_cons_zero]
  · rw [List.length_append]
    omega
  · rw [hrows b row rest hb, List.take_left, List.take_left, hflatten]

/-! ## Byte offsets -/

variable {t r : Text} {c : Char} {n k : Nat}

/-- At a boundary, the position is the one behind the text before it. -/
theorem ofOffset_size (a b : Text) : ofOffset (a ++ b) (Text.size a) = after a := by
  have hfit : Text.fit (Text.size a) (a ++ b) = a :=
    Text.fit_eq_of_append (Nat.le_refl _) fun c _ _ => Nat.lt_add_of_pos_right c.utf8Size_pos
  rw [ofOffset, hfit]

theorem ofOffset_zero (t : Text) : ofOffset t 0 = start := ofOffset_size [] t

/-- Beyond the end, the position is the one at the end. -/
theorem ofOffset_of_size_le (h : Text.size t ≤ n) : ofOffset t n = ofOffset t (Text.size t) := by
  have hfit : ∀ k, Text.size t ≤ k → Text.fit k t = t := fun k hk => by
    have := Text.fit_eq_of_append (b := []) hk (by simp)
    rwa [List.append_nil] at this
  rw [ofOffset, ofOffset, hfit n h, hfit _ (Nat.le_refl _)]

/-- Inside a character, the position is the one of the character. -/
theorem ofOffset_inside (h : Text.drop? t n = some (c :: r)) (hle : n ≤ k)
    (hlt : k < n + c.utf8Size) : ofOffset t k = ofOffset t n := by
  obtain ⟨a, rfl, rfl⟩ := Text.drop?_eq_some_iff.1 h
  have hfit : Text.fit k (a ++ c :: r) = a := Text.fit_eq_of_append hle fun d r' hd => by
    obtain ⟨rfl, -⟩ := List.cons.inj hd
    exact hlt
  rw [ofOffset_size, ofOffset, hfit]

/-- Behind a character, the position is one step on. -/
theorem ofOffset_next (h : Text.drop? t n = some (c :: r)) :
    ofOffset t (n + c.utf8Size) = (ofOffset t n).step c := by
  obtain ⟨a, rfl, rfl⟩ := Text.drop?_eq_some_iff.1 h
  have hsize : Text.size a + c.utf8Size = Text.size (a ++ [c]) := by
    rw [Text.size_append, Text.size_cons, Text.size_nil]
    omega
  rw [ofOffset_size, hsize, List.append_cons, ofOffset_size, after_append_singleton]

/-- A later offset has no earlier position. -/
theorem ofOffset_mono (t : Text) : Monotone (ofOffset t) := by
  intro n k h
  obtain ⟨u, hu⟩ := Text.exists_fit_append t h
  rw [ofOffset, ofOffset, hu]
  exact after_le_after_append _ _

/-- A later boundary has a later position. -/
theorem ofOffset_strictMonoOn (t : Text) :
    StrictMonoOn (ofOffset t) {n | Text.isBoundary t n = true} := by
  intro n hn k hk h
  obtain ⟨a, b, rfl, rfl⟩ := Text.isBoundary_iff.1 hn
  obtain ⟨c, d, hcut, rfl⟩ := Text.isBoundary_iff.1 hk
  obtain ⟨m, rfl, rfl⟩ := Text.exists_middle hcut (Nat.le_of_lt h)
  have hm : m ≠ [] := by
    rintro rfl
    simp at h
  rw [ofOffset_size, ← List.append_assoc, ofOffset_size]
  exact after_lt_after_append a hm

end Position
end TextScan
