/-
# What a run remembers

A group writes the offset where it starts into its first slot and the offset where it ends into its
second.  A run leaves a group only where it ended, so both slots are filled or neither is, and the
latest start does not lie behind the latest end, also where a group was passed several times
(`Runs.filled`).
-/

import TextScan.Proofs.Regex.Matching

namespace TextScan
namespace Regex

namespace Marks

@[simp] theorem get?_nil (k : Nat) : get? [] k = none := rfl

theorem get?_cons (k o : Nat) (ms : Marks) (j : Nat) :
    get? ((k, o) :: ms) j = if k = j then some o else get? ms j := by
  unfold get?
  by_cases h : k = j
  · rw [if_pos h, List.find?_cons_of_pos (by simpa using h)]
    rfl
  · rw [if_neg h, List.find?_cons_of_neg (by simpa using h)]

theorem get?_append (ms ns : Marks) (j : Nat) :
    get? (ms ++ ns) j = (get? ms j).or (get? ns j) := by
  unfold get?
  rw [List.find?_append]
  cases List.find? _ ms <;> rfl

theorem mem_of_get? {ms : Marks} {k o : Nat} (h : get? ms k = some o) : (k, o) ∈ ms := by
  obtain ⟨⟨k', o'⟩, hf, rfl⟩ := Option.map_eq_some_iff.1 h
  have hk : k' = k := by simpa using List.find?_some hf
  exact hk ▸ List.mem_of_find?_eq_some hf

/-- What is remembered between two offsets of a text: the slots of a group are filled together and
in order, with boundaries of the text between the two. -/
structure Filled (t : Text) (first stop : Nat) (ms : Marks) : Prop where
  within : ∀ k o, (k, o) ∈ ms → Text.isBoundary t o = true ∧ first ≤ o ∧ o ≤ stop
  paired : ∀ i, (get? ms (2 * i) = none ∧ get? ms (2 * i + 1) = none) ∨
    ∃ a b, get? ms (2 * i) = some a ∧ get? ms (2 * i + 1) = some b ∧ a ≤ b

namespace Filled

variable {t : Text} {first mid stop : Nat} {ms ns : Marks}

theorem nil : Filled t first stop [] :=
  ⟨fun _ _ h => absurd h List.not_mem_nil, fun _ => Or.inl ⟨rfl, rfl⟩⟩

theorem append (h : Filled t first mid ms) (h' : Filled t mid stop ns) (hm : first ≤ mid)
    (hs : mid ≤ stop) : Filled t first stop (ns ++ ms) := by
  refine ⟨fun k o hk => ?_, fun i => ?_⟩
  · rcases List.mem_append.1 hk with hk | hk
    · obtain ⟨hb, h₁, h₂⟩ := h'.within k o hk
      exact ⟨hb, by omega, h₂⟩
    · obtain ⟨hb, h₁, h₂⟩ := h.within k o hk
      exact ⟨hb, h₁, by omega⟩
  · rw [get?_append, get?_append]
    rcases h'.paired i with ⟨h₁, h₂⟩ | ⟨a, b, h₁, h₂, hab⟩
    · rw [h₁, h₂]
      exact h.paired i
    · rw [h₁, h₂]
      exact Or.inr ⟨a, b, rfl, rfl, hab⟩

/-- A group remembers its two ends on both sides of what its body remembers. -/
theorem group (h : Filled t first stop ms) (i : Nat) (hs : first ≤ stop)
    (hf : Text.isBoundary t first = true) (ht : Text.isBoundary t stop = true) :
    Filled t first stop ((2 * i + 1, stop) :: (ms ++ [(2 * i, first)])) := by
  refine ⟨fun k o hk => ?_, fun j => ?_⟩
  · rcases List.mem_cons.1 hk with hk | hk
    · obtain ⟨rfl, rfl⟩ := Prod.mk.inj hk
      exact ⟨ht, hs, Nat.le_refl _⟩
    · rcases List.mem_append.1 hk with hk | hk
      · exact h.within k o hk
      · obtain ⟨rfl, rfl⟩ := Prod.mk.inj (List.mem_singleton.1 hk)
        exact ⟨hf, Nat.le_refl _, hs⟩
  · rw [get?_cons, get?_cons, get?_append, get?_append, get?_cons, get?_cons]
    rw [if_neg (show ¬2 * i + 1 = 2 * j by omega), if_neg (show ¬2 * i = 2 * j + 1 by omega)]
    by_cases hij : i = j
    · subst hij
      rw [if_pos rfl, if_pos rfl]
      right
      cases hg : get? ms (2 * i) with
      | none => exact ⟨first, stop, rfl, rfl, hs⟩
      | some a => exact ⟨a, stop, rfl, rfl, (h.within _ _ (mem_of_get? hg)).2.2⟩
    · rw [if_neg (show ¬2 * i + 1 = 2 * j + 1 by omega), if_neg (show ¬2 * i = 2 * j by omega)]
      simpa only [Option.or_none, get?_nil] using h.paired j

/-- The two ends of a group that took part. -/
theorem ends (h : Filled t first stop ms) {i a b : Nat} (ha : get? ms (2 * i) = some a)
    (hb : get? ms (2 * i + 1) = some b) :
    first ≤ a ∧ a ≤ b ∧ b ≤ stop ∧ Text.isBoundary t a = true ∧ Text.isBoundary t b = true := by
  obtain ⟨hba, hfa, -⟩ := h.within _ _ (mem_of_get? ha)
  obtain ⟨hbb, -, hbs⟩ := h.within _ _ (mem_of_get? hb)
  rcases h.paired i with ⟨hn, -⟩ | ⟨a', b', ha', hb', hab⟩
  · simp [hn] at ha
  · obtain rfl := Option.some.inj (ha'.symm.trans ha)
    obtain rfl := Option.some.inj (hb'.symm.trans hb)
    exact ⟨hfa, hab, hbs, hba, hbb⟩

end Filled
end Marks

/-- **A run remembers whole groups.**  What a run adds lies between the spots that it leads from and
to, and fills the slots of groups in pairs. -/
theorem Expr.Runs.filled {e : Expr} {t : Text} {x y : Trail} (h : e.Runs x y) (hx : x.1.IsIn t) :
    ∃ new, y.2 = new ++ x.2 ∧ Marks.Filled t x.1.offset y.1.offset new := by
  induction e generalizing x y with
  | empty =>
    obtain rfl : y = x := h
    exact ⟨[], rfl, .nil⟩
  | text u =>
    obtain ⟨r, -, rfl⟩ := h
    exact ⟨[], rfl, .nil⟩
  | oneOf _ set =>
    obtain ⟨c, r, -, -, rfl⟩ := h
    exact ⟨[], rfl, .nil⟩
  | anchor a =>
    obtain ⟨-, rfl⟩ := h
    exact ⟨[], rfl, .nil⟩
  | group i _ e ih =>
    obtain ⟨z, hz, rfl⟩ := h
    obtain ⟨new, hnew, hfill⟩ := ih hz hx
    obtain ⟨hin, hle⟩ := hz.matches.forward hx
    refine ⟨(2 * i + 1, z.1.offset) :: (new ++ [(2 * i, x.1.offset)]), ?_,
      hfill.group i hle hx.isBoundary hin.isBoundary⟩
    rw [hnew]
    simp
  | times least most _ e ih =>
    obtain ⟨n, -, h⟩ := h
    -- The induction on the number of times needs that each one goes forward.
    clear least most
    induction n generalizing x with
    | zero =>
      obtain rfl : y = x := h
      exact ⟨[], rfl, .nil⟩
    | succ n ihn =>
      obtain ⟨z, hz, h⟩ := h
      obtain ⟨new₁, h₁, hf₁⟩ := ih hz hx
      obtain ⟨hin, hle⟩ := hz.matches.forward hx
      obtain ⟨new₂, h₂, hf₂⟩ := ihn hin h
      obtain ⟨-, hle'⟩ := Expr.Matches.forward (e := .times 0 none true e)
        ⟨n, ⟨Nat.zero_le _, by simp⟩, h.map Prod.fst Runs.matches⟩ hin
      exact ⟨new₂ ++ new₁, by rw [h₂, h₁, List.append_assoc], hf₁.append hf₂ hle hle'⟩
  | seq a b iha ihb =>
    obtain ⟨z, ha, hb⟩ := h
    obtain ⟨new₁, h₁, hf₁⟩ := iha ha hx
    obtain ⟨hin, hle⟩ := ha.matches.forward hx
    obtain ⟨new₂, h₂, hf₂⟩ := ihb hb hin
    obtain ⟨-, hle'⟩ := hb.matches.forward hin
    exact ⟨new₂ ++ new₁, by rw [h₂, h₁, List.append_assoc], hf₁.append hf₂ hle hle'⟩
  | alt a b iha ihb =>
    rcases h with h | h
    · exact iha h hx
    · exact ihb h hx

end Regex
end TextScan
