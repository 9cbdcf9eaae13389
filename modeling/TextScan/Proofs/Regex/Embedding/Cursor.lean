/-
# Reading inside a longer source

A source may stand in parentheses inside a longer one, `d` characters further on and with `w` behind
its closing parenthesis.  What a cursor does in the source by itself it does there as well
(`Cursor.inside`): a closing parenthesis ends whatever the end of the source ends.  The exception is
a comment, which would run on over the parenthesis; so the sources here have no `#`.

`ReadsInside` says this of a function that reads: where it succeeds, it succeeds inside the longer
source too, with what it read moved.  Where it fails for want of characters, it may go on in the
longer source.
-/

import Mathlib.Data.List.TakeWhile
import TextScan.Proofs.Regex.Shift

namespace TextScan
namespace Regex

/-- A cursor in a source that stands `d` characters further on, before a closing parenthesis and
`w`. -/
def Cursor.inside (d : Nat) (w : Text) (c : Cursor) : Cursor :=
  ⟨c.rest ++ ')' :: w, c.index + d, c.verbose⟩

/-- Where `p` reads, `P` reads inside a longer source, moved by `σ`, and what is left is at the end of
`t`. -/
def ReadsInside {α : Type} (d : Nat) (w : Text) (σ : α → α) (t : Text)
    (p P : Except Fault (α × Cursor)) : Prop :=
  ∀ x c, p = .ok (x, c) → P = .ok (σ x, c.inside d w) ∧ c.rest <:+ t

namespace ReadsInside

variable {α β : Type} {d : Nat} {w t t' : Text} {σ : α → α} {τ : β → β}
  {p P : Except Fault (α × Cursor)}

theorem ok {x : α} {c : Cursor} {y : α} {c' : Cursor} (hy : y = σ x) (hc' : c' = c.inside d w)
    (hc : c.rest <:+ t) : ReadsInside d w σ t (.ok (x, c)) (.ok (y, c')) := by
  rintro x' c'' h
  obtain ⟨rfl, rfl⟩ := Prod.mk.inj (Except.ok.inj h)
  exact ⟨by rw [hy, hc'], hc⟩

theorem error {f : Fault} : ReadsInside d w σ t (.error f) P := fun _ _ h => by cases h

theorem fail {cause : Cause} {first stop : Nat} :
    ReadsInside d w σ t (Regex.fail cause first stop) P := error

theorem mono (h : ReadsInside d w σ t p P) (ht : t <:+ t') : ReadsInside d w σ t' p P :=
  fun x c hp => ⟨(h x c hp).1, (h x c hp).2.trans ht⟩

theorem bind {f F : α × Cursor → Except Fault (β × Cursor)} (h : ReadsInside d w σ t p P)
    (hf : ∀ x c, c.rest <:+ t → ReadsInside d w τ t' (f (x, c)) (F (σ x, c.inside d w))) :
    ReadsInside d w τ t' (p >>= f) (P >>= F) := by
  intro y c hy
  obtain ⟨⟨x, c₁⟩, hx, hy⟩ := bind_eq_ok.1 hy
  obtain ⟨hX, hc₁⟩ := h x c₁ hx
  obtain ⟨hY, hc⟩ := hf x c₁ hc₁ y c hy
  exact ⟨bind_eq_ok.2 ⟨_, hX, hY⟩, hc⟩

/-- A check of what was read comes to the same. -/
theorem bind_check {γ : Type} {q Q : Except Fault γ} {f F : γ → Except Fault (β × Cursor)}
    (h : ∀ x, q = .ok x → ∃ y, Q = .ok y ∧ ReadsInside d w τ t (f x) (F y)) :
    ReadsInside d w τ t (q >>= f) (Q >>= F) := by
  intro y c hy
  obtain ⟨x, hx, hy⟩ := bind_eq_ok.1 hy
  obtain ⟨x', hx', hr⟩ := h x hx
  obtain ⟨hY, hc⟩ := hr y c hy
  exact ⟨bind_eq_ok.2 ⟨_, hx', hY⟩, hc⟩

end ReadsInside

namespace Cursor

variable {c c' : Cursor} {d n m : Nat} {t w : Text} {ch : Char}

@[simp] theorem rest_inside : (c.inside d w).rest = c.rest ++ ')' :: w := rfl

@[simp] theorem index_inside : (c.inside d w).index = c.index + d := rfl

@[simp] theorem verbose_inside : (c.inside d w).verbose = c.verbose := rfl

@[simp] theorem charExtent_inside : (c.inside d w).charExtent = c.charExtent.shift d := by
  simp only [charExtent, Extent.shift, index_inside, Nat.add_right_comm]

@[simp] theorem isEmpty_rest_inside : (c.inside d w).rest.isEmpty = false := by
  rw [rest_inside]
  cases c.rest <;> rfl

/-- Where something has to be left, that is so inside. -/
theorem readsInside_unless_isEmpty {α : Type} {σ : α → α} {p P : Except Fault (α × Cursor)}
    {cause cause' : Cause} {a a' b b' : Nat} (h : c.rest ≠ [] → ReadsInside d w σ t p P) :
    ReadsInside d w σ t (if c.rest.isEmpty then fail cause a b else p)
      (if (c.inside d w).rest.isEmpty then fail cause' a' b' else P) := by
  rw [isEmpty_rest_inside, if_neg Bool.false_ne_true]
  split
  · exact .fail
  · rename_i hrest
    exact h fun hnil => hrest (by rw [hnil]; rfl)

theorem head?_rest_inside (h : c.rest ≠ []) : (c.inside d w).rest.head? = c.rest.head? := by
  rw [rest_inside]
  cases hrest : c.rest with
  | nil => exact absurd hrest h
  | cons ch t => rfl

/-- What is next but a closing parenthesis is next inside as well. -/
theorem head?_rest_inside_iff (hch : ch ≠ ')') :
    (c.inside d w).rest.head? = some ch ↔ c.rest.head? = some ch := by
  rw [rest_inside]
  cases c.rest with
  | nil => simp [Ne.symm hch]
  | cons ch' t => exact Iff.rfl

/-- A character that stops a text being taken stops it before what is behind. -/
theorem takeWhile_append_of_mem {p : Char → Bool} (h : ch ∈ t) (hp : p ch = false) (u : Text) :
    (t ++ u).takeWhile p = t.takeWhile p := by
  induction t with
  | nil => exact absurd h List.not_mem_nil
  | cons ch' t ih =>
    rw [List.cons_append, List.takeWhile_cons, List.takeWhile_cons]
    rcases List.mem_cons.1 h with rfl | h
    · rw [hp]
      rfl
    · rw [ih h]

/-! ## Going on -/

theorem rest_advance (c : Cursor) : c.advance.rest = c.rest.tail := by
  unfold advance
  cases hrest : c.rest with
  | nil => exact hrest
  | cons ch t => rfl

theorem suffix_of_eq {s t : Text} (h : s = t) : s <:+ t := h ▸ List.suffix_refl s

theorem suffix_tail_advance (c : Cursor) : c.advance.rest <:+ c.rest.tail :=
  suffix_of_eq (rest_advance c)

theorem suffix_advance (c : Cursor) : c.advance.rest <:+ c.rest :=
  (suffix_tail_advance c).trans (List.tail_suffix _)

theorem advance_inside (h : c.rest ≠ []) : (c.inside d w).advance = c.advance.inside d w := by
  obtain ⟨rest, index, verbose⟩ := c
  cases rest with
  | nil => exact absurd rfl h
  | cons ch t => simp only [advance, inside, List.cons_append, Nat.add_right_comm]

theorem suffix_afterBlanks (inComment : Bool) (t : Text) (n : Nat) :
    (afterBlanks inComment t n).1 <:+ t := by
  induction t generalizing inComment n with
  | nil => exact List.suffix_refl _
  | cons ch t ih =>
    unfold afterBlanks
    split
    · exact (ih _ _).trans (List.suffix_cons _ _)
    split
    · exact (ih _ _).trans (List.suffix_cons _ _)
    split
    · exact (ih _ _).trans (List.suffix_cons _ _)
    · exact List.suffix_refl _

theorem suffix_skipBlanks (c : Cursor) : c.skipBlanks.rest <:+ c.rest := by
  unfold skipBlanks
  split
  · exact suffix_afterBlanks false c.rest c.index
  · exact List.suffix_refl _

/-- The closing parenthesis is no blank. -/
theorem afterBlanks_append (h : '#' ∉ t) : afterBlanks false (t ++ ')' :: w) (n + d) =
    ((afterBlanks false t n).1 ++ ')' :: w, (afterBlanks false t n).2 + d) := by
  induction t generalizing n with
  | nil => rfl
  | cons ch t ih =>
    have hch : '#' ≠ ch := List.ne_of_not_mem_cons h
    have ht : '#' ∉ t := List.not_mem_of_not_mem_cons h
    simp only [List.cons_append, afterBlanks, Bool.false_eq_true, if_false, Ne.symm hch]
    split
    · rw [Nat.add_right_comm, ih ht]
    · rfl

theorem skipBlanks_inside (h : '#' ∉ c.rest) :
    (c.inside d w).skipBlanks = c.skipBlanks.inside d w := by
  unfold skipBlanks
  rw [verbose_inside]
  split
  · simp only [rest_inside, index_inside, afterBlanks_append h]
    rfl
  · rfl

theorem suffix_next (c : Cursor) : c.next.rest <:+ c.rest.tail :=
  (suffix_skipBlanks c.advance).trans (suffix_tail_advance c)

theorem ne_nil_of_cons (h : c.rest = ch :: t) : c.rest ≠ [] := by
  rw [h]
  exact List.cons_ne_nil _ _

theorem not_mem_of_suffix {s t : Text} (hs : s <:+ t) (h : ch ∉ t) : ch ∉ s :=
  fun hmem => h (hs.subset hmem)

theorem not_mem_next (hc : ch ∉ c.rest) : ch ∉ c.next.rest :=
  not_mem_of_suffix ((suffix_next c).trans (List.tail_suffix _)) hc

theorem not_mem_advance (hc : ch ∉ c.rest) : ch ∉ c.advance.rest :=
  not_mem_of_suffix (suffix_advance c) hc

theorem next_inside (h : c.rest ≠ []) (hc : '#' ∉ c.rest) :
    (c.inside d w).next = c.next.inside d w := by
  rw [next, advance_inside h, skipBlanks_inside (not_mem_advance hc), next]

theorem suffix_skipWhite (c : Cursor) : c.skipWhite.rest <:+ c.rest := List.dropWhile_suffix _

theorem skipWhite_inside : (c.inside d w).skipWhite = c.skipWhite.inside d w := by
  have hwhite : ∀ t : Text, (t ++ ')' :: w).takeWhile Unicode.isBlank = t.takeWhile Unicode.isBlank ∧
      (t ++ ')' :: w).dropWhile Unicode.isBlank = t.dropWhile Unicode.isBlank ++ ')' :: w := by
    intro t
    induction t with
    | nil => exact ⟨rfl, rfl⟩
    | cons ch t ih =>
      simp only [List.cons_append, List.takeWhile_cons, List.dropWhile_cons]
      split
      · exact ⟨by rw [ih.1], ih.2⟩
      · exact ⟨rfl, rfl⟩
  simp only [skipWhite, (hwhite c.rest).1, (hwhite c.rest).2, inside,
    Nat.add_right_comm]

theorem suffix_accept? (h : c.accept? t = some c') : c'.rest <:+ c.rest := by
  unfold accept? at h
  split at h
  · obtain rfl := Option.some.inj h
    exact List.drop_suffix _ _
  · exact absurd h (by simp)

/-- A text without a closing parenthesis does not reach over the one behind the source. -/
theorem isPrefixOf_append (ht : ')' ∉ t) (s w : Text) :
    t.isPrefixOf (s ++ ')' :: w) = t.isPrefixOf s := by
  induction t generalizing s with
  | nil => simp
  | cons ch t ih =>
    have hch : ')' ≠ ch := List.ne_of_not_mem_cons ht
    cases s with
    | nil => simp [List.isPrefixOf, Ne.symm hch]
    | cons ch' s =>
      simp only [List.cons_append, List.isPrefixOf, ih (List.not_mem_of_not_mem_cons ht)]

theorem accept?_inside (ht : ')' ∉ t) :
    (c.inside d w).accept? t = (c.accept? t).map (inside d w) := by
  unfold accept?
  rw [rest_inside, isPrefixOf_append ht]
  split
  · rename_i h
    obtain ⟨r, hr⟩ := List.isPrefixOf_iff_prefix.1 h
    simp only [Option.map_some, inside, ← hr, List.append_assoc, List.drop_left, Nat.add_right_comm]
  · rfl

/-- Without the sign of a comment, the first character that is not blank is where the blanks end. -/
theorem significant?_append (h : '#' ∉ t) (hne : (afterBlanks false t n).1 ≠ []) (u : Text) :
    significant? false (t ++ u) = (afterBlanks false t n).1.head? := by
  induction t generalizing n with
  | nil => exact absurd rfl hne
  | cons ch t ih =>
    have hch : '#' ≠ ch := List.ne_of_not_mem_cons h
    have hsharp : (ch == '#') = false := by simpa using Ne.symm hch
    simp only [afterBlanks, Bool.false_eq_true, if_false, Ne.symm hch] at hne ⊢
    simp only [List.cons_append, significant?, hsharp, Bool.and_false, Bool.false_eq_true, if_false]
    split
    · rename_i hblank
      rw [if_pos hblank] at hne
      exact ih (List.not_mem_of_not_mem_cons h) hne
    · rfl

theorem mem_of_significant? {b : Bool} (h : significant? b t = some ch) : ch ∈ t := by
  induction t generalizing b with
  | nil => exact absurd h (by simp [significant?])
  | cons ch' t ih =>
    unfold significant? at h
    split at h
    · exact List.mem_cons_of_mem _ (ih h)
    split at h
    · exact List.mem_cons_of_mem _ (ih h)
    · obtain rfl := Option.some.inj h
      exact List.mem_cons_self

theorem isBlank_of_afterBlanks_nil (h : '#' ∉ t) (hnil : (afterBlanks false t n).1 = []) :
    ∀ ch ∈ t, Unicode.isBlank ch = true := by
  induction t generalizing n with
  | nil => exact fun _ hmem => absurd hmem List.not_mem_nil
  | cons ch t ih =>
    simp only [afterBlanks, Bool.false_eq_true, if_false, Ne.symm (List.ne_of_not_mem_cons h)] at hnil
    split at hnil
    · rename_i hblank
      exact List.forall_mem_cons.2 ⟨hblank, ih (List.not_mem_of_not_mem_cons h) hnil⟩
    · exact absurd hnil (by simp)

/-- A character after the next one that is no blank is left when one goes on. -/
theorem next_ne_nil_of_following? (h : c.following? = some ch) (hch : Unicode.isBlank ch = false)
    (hc : '#' ∉ c.rest) : c.next.rest ≠ [] := by
  obtain ⟨rest, index, verbose⟩ := c
  intro hnil
  have hmem : ch ∈ rest.tail := by
    rw [← List.drop_one]
    unfold following? at h
    dsimp only at h
    split at h
    · cases hs : significant? false (rest.drop 1) with
      | none =>
        rw [hs] at h
        exact List.mem_of_mem_head? h
      | some ch' =>
        rw [hs] at h
        exact mem_of_significant? (hs.trans h)
    · exact List.mem_of_mem_head? h
  cases rest with
  | nil => exact absurd hmem List.not_mem_nil
  | cons ch' t =>
    have ht : '#' ∉ t := List.not_mem_of_not_mem_cons hc
    cases verbose with
    | false =>
      obtain rfl : t = [] := hnil
      exact absurd hmem List.not_mem_nil
    | true =>
      have hall := isBlank_of_afterBlanks_nil (n := index + 1) ht hnil ch hmem
      rw [hch] at hall
      exact absurd hall Bool.false_ne_true

/-- The character after the next one is the same, if there is one. -/
theorem following?_inside (h : c.next.rest ≠ []) (hc : '#' ∉ c.rest) :
    (c.inside d w).following? = c.following? := by
  obtain ⟨rest, index, verbose⟩ := c
  cases rest with
  | nil =>
    refine absurd (List.suffix_nil.1 ?_) h
    exact suffix_next _
  | cons ch t =>
    have ht : '#' ∉ t := List.not_mem_of_not_mem_cons hc
    have hafter : verbose = true → (afterBlanks false t (index + 1)).1 ≠ [] := fun hv => by
      rw [hv] at h
      exact h
    have hnext : verbose = false → t ≠ [] := fun hv => by
      rw [hv] at h
      exact h
    unfold following?
    simp only [inside, List.cons_append, List.drop_succ_cons, List.drop_zero]
    cases verbose with
    | false =>
      obtain ⟨ch', t, rfl⟩ := List.exists_cons_of_ne_nil (hnext rfl)
      rfl
    | true =>
      have hsame := significant?_append ht (hafter rfl)
      obtain ⟨ch', t', ht'⟩ := List.exists_cons_of_ne_nil (hafter rfl)
      have hplain := hsame []
      rw [List.append_nil] at hplain
      rw [hsame, hplain, ht']
      rfl

/-! ## Collecting -/

section Collect

variable {keep : Char → Bool}

theorem collectUpTo_nil (h : c.rest = []) (n : Nat) : collectUpTo keep n c = ([], c) := by
  cases n with
  | zero => rfl
  | succ n => simp only [collectUpTo, h]

theorem collectUpTo_cons (h : c.rest = ch :: t) (n : Nat) : collectUpTo keep (n + 1) c =
    if keep ch then (ch :: (collectUpTo keep n c.next).1, (collectUpTo keep n c.next).2)
    else ([], c) := by
  simp only [collectUpTo, h]

theorem suffix_collectUpTo (n : Nat) (c : Cursor) : (collectUpTo keep n c).2.rest <:+ c.rest := by
  induction n generalizing c with
  | zero => exact List.suffix_refl _
  | succ n ih =>
    cases hrest : c.rest with
    | nil =>
      exact suffix_of_eq (by rw [collectUpTo_nil hrest, hrest])
    | cons ch t =>
      rw [collectUpTo_cons hrest, ← hrest]
      split
      · exact (ih c.next).trans ((suffix_next c).trans (List.tail_suffix _))
      · exact List.suffix_refl _

theorem length_next_lt (h : c.rest = ch :: t) : c.next.rest.length ≤ t.length := by
  have hle := (suffix_next c).length_le
  rwa [h] at hle

/-- What is collected is the same, if it ends before the source does or at the parenthesis. -/
theorem collectUpTo_inside (hn : c.rest.length ≤ n) (hm : c.rest.length ≤ m) (hc : '#' ∉ c.rest)
    (hend : keep ')' = false ∨ (collectUpTo keep n c).2.rest ≠ []) :
    collectUpTo keep m (c.inside d w) =
      ((collectUpTo keep n c).1, (collectUpTo keep n c).2.inside d w) := by
  induction n generalizing c m with
  | zero =>
    have hrest : c.rest = [] := List.eq_nil_of_length_eq_zero (Nat.le_zero.1 hn)
    have hkeep : keep ')' = false := hend.resolve_right fun h => h hrest
    cases m with
    | zero => rfl
    | succ m =>
      have hrest' : (c.inside d w).rest = ')' :: w := by
        rw [rest_inside, hrest]
        rfl
      rw [collectUpTo_cons hrest', hkeep]
      rfl
  | succ n ih =>
    cases hrest : c.rest with
    | nil =>
      rw [collectUpTo_nil hrest] at hend ⊢
      have hkeep : keep ')' = false := hend.resolve_right fun h => h hrest
      cases m with
      | zero => rfl
      | succ m =>
        have hrest' : (c.inside d w).rest = ')' :: w := by
          rw [rest_inside, hrest]
          rfl
        rw [collectUpTo_cons hrest', hkeep]
        rfl
    | cons ch t =>
      have hlength := length_next_lt hrest
      rw [hrest, List.length_cons] at hn hm
      obtain ⟨m, rfl⟩ : ∃ k, m = k + 1 := ⟨m - 1, by omega⟩
      rw [collectUpTo_cons hrest] at hend ⊢
      rw [collectUpTo_cons (t := t ++ ')' :: w) (by rw [rest_inside, hrest]; rfl)]
      split
      · rename_i hch
        rw [if_pos hch] at hend
        rw [next_inside (ne_nil_of_cons hrest) hc,
          ih (m := m) (by omega) (by omega) (not_mem_next hc) hend]
      · rfl

theorem suffix_collect (keep : Char → Bool) (c : Cursor) : (c.collect keep).2.rest <:+ c.rest :=
  suffix_collectUpTo c.rest.length c

theorem collect_inside (hc : '#' ∉ c.rest)
    (hend : keep ')' = false ∨ (c.collect keep).2.rest ≠ []) :
    (c.inside d w).collect keep = ((c.collect keep).1, (c.collect keep).2.inside d w) := by
  refine collectUpTo_inside (Nat.le_refl _) ?_ hc hend
  rw [rest_inside, List.length_append]
  exact Nat.le_add_right _ _

end Collect

end Cursor
end Regex
end TextScan
