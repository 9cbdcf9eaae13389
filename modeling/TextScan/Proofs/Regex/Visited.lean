/-
# The places that a search has visited

The visited addresses are kept as bits, 32 of them a number, in a row for each byte offset.
`has_add` says what one more visit changes, as long as the rows are as many and as long as the
program and the text need (`Fits`).  The places that are left to visit get fewer with every new
visit (`unvisited_add_lt`), and at first there is one for each address and each spot of the text
(`unvisited_le`).
-/

import Mathlib.Data.Finset.Prod
import Mathlib.Algebra.Order.BigOperators.Group.Finset
import TextScan.Proofs.Regex.Spots
import TextScan.Regex.Search

namespace TextScan

/-- The boundaries of a text that starts at a byte offset. -/
def Text.offsets (n : Nat) : Text → List Nat
  | [] => [n]
  | c :: t => n :: offsets (n + c.utf8Size) t

theorem Text.length_offsets (n : Nat) (t : Text) : (offsets n t).length = t.length + 1 := by
  induction t generalizing n with
  | nil => rfl
  | cons c t ih => rw [offsets, List.length_cons, ih, List.length_cons]

theorem Text.mem_offsets_append (n : Nat) (a b : Text) : n + size a ∈ offsets n (a ++ b) := by
  induction a generalizing n with
  | nil => cases b <;> simp [offsets]
  | cons c a ih =>
    have := ih (n + c.utf8Size)
    rw [List.cons_append, offsets, size_cons, ← Nat.add_assoc]
    exact List.mem_cons_of_mem _ this

namespace Regex
namespace Visited

/-- There is a row for every offset up to `n`, with a number for every address. -/
def Fits (p : Program) (n : Nat) (v : Visited) : Prop :=
  ∀ o, o ≤ n → ∃ row, v[o]? = some row ∧ p.size / 32 < row.size

variable {p : Program} {n : Nat} {v : Visited}

theorem fits_none (p : Program) (n : Nat) : Fits p n (none p n) := fun o ho => by
  refine ⟨Array.replicate (p.size / 32 + 1) 0, ?_, by simp⟩
  simp [none, Nat.lt_succ_of_le ho]

theorem has_none (p : Program) (n a o : Nat) : (none p n).has a o = false := by
  simp only [has, none, Array.getD_eq_getD_getElem?, Array.getElem?_replicate]
  by_cases ho : o < n + 1
  · rw [if_pos ho, Option.getD_some, Array.getElem?_replicate]
    by_cases ha : a / 32 < p.size / 32 + 1
    · rw [if_pos ha, Option.getD_some, Nat.zero_testBit]
    · rw [if_neg ha, Option.getD_none, Nat.zero_testBit]
  · rw [if_neg ho]
    simp

theorem Fits.add (h : Fits p n v) (a o : Nat) : Fits p n (v.add a o) := fun o' ho' => by
  obtain ⟨row, hrow, hsize⟩ := h o' ho'
  unfold Visited.add
  rw [Array.getElem?_modify, hrow]
  by_cases ho : o = o'
  · exact ⟨_, by rw [if_pos ho, Option.map_some], by rwa [Array.size_modify]⟩
  · exact ⟨row, by rw [if_neg ho], hsize⟩

/-- A word with one more bit. -/
theorem testBit_or_shiftLeft (w i j : Nat) :
    (w ||| (1 <<< i)).testBit j = (w.testBit j || decide (j = i)) := by
  rw [Nat.testBit_or, Nat.one_shiftLeft, Nat.testBit_two_pow]
  simp only [eq_comm]

/-- One more visit is a visit to one more place. -/
theorem Fits.has_add (h : Fits p n v) {a o : Nat} (ha : a < p.size) (ho : o ≤ n) (a' o' : Nat) :
    (v.add a o).has a' o' = (v.has a' o' || decide (a' = a ∧ o' = o)) := by
  obtain ⟨row, hrow, hsize⟩ := h o ho
  simp only [has, Visited.add, Array.getD_eq_getD_getElem?, Array.getElem?_modify]
  by_cases hoo : o = o'
  · subst hoo
    rw [if_pos rfl, hrow, Option.map_some, Option.getD_some, Option.getD_some,
      Array.getElem?_modify]
    have hdiv : a / 32 < row.size := Nat.lt_of_le_of_lt (Nat.div_le_div_right ha.le) hsize
    by_cases hw : a / 32 = a' / 32
    · rw [if_pos hw, ← hw, Array.getElem?_eq_getElem hdiv, Option.map_some, Option.getD_some,
        Option.getD_some, testBit_or_shiftLeft]
      have hmod : a' % 32 = a % 32 ↔ a' = a ∧ o = o := by omega
      rw [decide_eq_decide.2 hmod]
    · rw [if_neg hw]
      have hne : ¬(a' = a ∧ o = o) := by
        rintro ⟨rfl, -⟩
        exact hw rfl
      rw [decide_eq_false hne, Bool.or_false]
  · have hne : ¬(a' = a ∧ o' = o) := fun h => hoo h.2.symm
    rw [if_neg hoo, decide_eq_false hne, Bool.or_false]

/-- The places of a program on a text that are not visited yet. -/
def unvisited (p : Program) (t : Text) (v : Visited) : Finset (Nat × Nat) :=
  {x ∈ Finset.range p.size ×ˢ (Text.offsets 0 t).toFinset | v.has x.1 x.2 = false}

theorem unvisited_le (p : Program) (t : Text) (v : Visited) :
    (unvisited p t v).card ≤ p.size * (t.length + 1) := by
  calc (unvisited p t v).card
      ≤ (Finset.range p.size ×ˢ (Text.offsets 0 t).toFinset).card := Finset.card_filter_le _ _
    _ = p.size * (Text.offsets 0 t).toFinset.card := by rw [Finset.card_product, Finset.card_range]
    _ ≤ p.size * (t.length + 1) :=
      Nat.mul_le_mul_left _ ((List.toFinset_card_le _).trans_eq (Text.length_offsets 0 t))

/-- A new visit leaves fewer places to visit. -/
theorem Fits.unvisited_add_lt {t : Text} {s : Spot} (h : Fits p (Text.size t) v) (hs : s.IsIn t)
    {a : Nat} (ha : a < p.size) (hnew : v.has a s.offset = false) :
    (unvisited p t (v.add a s.offset)).card < (unvisited p t v).card := by
  have hadd := h.has_add ha hs.offset_le
  refine Finset.card_lt_card (Finset.ssubset_iff_of_subset ?_ |>.2 ⟨(a, s.offset), ?_, ?_⟩)
  · intro x hx
    simp only [unvisited, Finset.mem_filter, hadd, Bool.or_eq_false_iff] at hx ⊢
    exact ⟨hx.1, hx.2.1⟩
  · obtain ⟨b, c, rfl, rfl⟩ := hs
    have hmem := Text.mem_offsets_append 0 b c
    rw [Nat.zero_add] at hmem
    simp only [unvisited, Finset.mem_filter, Finset.mem_product, Finset.mem_range,
      List.mem_toFinset]
    exact ⟨⟨ha, hmem⟩, hnew⟩
  · simp [unvisited, hadd]

end Visited
end Regex
end TextScan
