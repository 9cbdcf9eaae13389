/-
# Escapes inside a longer source

An escape that is read in a source is read in the source inside a longer one.  No escape looks at the
closing parenthesis behind the source: digits, letters and hyphens stop before it, and a name in
braces ends before it, or the escape would have failed.
-/

import TextScan.Proofs.Regex.Embedding.Cursor

namespace TextScan
namespace Regex
namespace Cursor

variable {c : Cursor} {d : Nat} {t w : Text} {ch : Char}

theorem readsInside_hexDigits (n : Nat) (hc : '#' ∉ c.rest) :
    ReadsInside d w id c.rest (hexDigits n c) (hexDigits n (c.inside d w)) := by
  induction n generalizing c with
  | zero => exact .ok rfl rfl (List.suffix_refl _)
  | succ n ih =>
    cases hrest : c.rest with
    | nil =>
      simp only [hexDigits, hrest]
      exact .fail
    | cons ch t =>
      simp only [hexDigits, rest_inside, hrest, List.cons_append]
      rw [next_inside (ne_nil_of_cons hrest) hc]
      split
      · refine (ih (not_mem_next hc)).bind fun ds c' hc' => .ok rfl rfl (hc'.trans ?_)
        rw [← hrest]
        exact (suffix_next c).trans (List.tail_suffix _)
      · exact .fail

theorem readsInside_fixedCodePoint (start digits : Nat) (isByte : Bool) (hc : '#' ∉ c.rest) :
    ReadsInside d w (Literal.shift d) c.rest (c.fixedCodePoint start digits isByte)
      ((c.inside d w).fixedCodePoint (start + d) digits isByte) := by
  refine (readsInside_hexDigits digits hc).bind fun ds c' hc' => ?_
  dsimp only [id]
  split
  · exact .ok rfl rfl hc'
  · exact .fail

theorem readsInside_bracedCodePoint (start : Nat) (hrest : c.rest ≠ []) (hc : '#' ∉ c.rest) :
    ReadsInside d w (Literal.shift d) c.rest.tail (c.bracedCodePoint start)
      ((c.inside d w).bracedCodePoint (start + d)) := by
  have hsuffix := (suffix_collect isHexDigit c.next).trans (suffix_next c)
  have hclose : '#' ∉ (c.next.collect isHexDigit).2.rest :=
    not_mem_of_suffix (hsuffix.trans (List.tail_suffix _)) hc
  unfold bracedCodePoint
  rw [next_inside hrest hc, collect_inside (not_mem_next hc) (Or.inl rfl)]
  generalize c.next.collect isHexDigit = p at hsuffix hclose ⊢
  obtain ⟨ds, close⟩ := p
  cases hclose' : close.rest with
  | nil =>
    simp only [hclose']
    exact .fail
  | cons ch t =>
    simp only [rest_inside, hclose', List.cons_append]
    rw [next_inside (ne_nil_of_cons hclose') hclose]
    split
    · split
      · exact .fail
      split
      · exact .ok rfl rfl (((suffix_next close).trans (List.tail_suffix _)).trans hsuffix)
      · exact .fail
    · exact .fail

theorem readsInside_codePoint (start digits : Nat) (hrest : c.rest ≠ []) (hc : '#' ∉ c.rest) :
    ReadsInside d w (Literal.shift d) c.rest.tail (c.codePoint start digits)
      ((c.inside d w).codePoint (start + d) digits) := by
  unfold codePoint
  rw [next_inside hrest hc]
  cases hnext : c.next.rest with
  | nil =>
    simp only [hnext]
    exact .fail
  | cons ch t =>
    simp only [rest_inside, hnext, List.cons_append]
    split
    · exact (readsInside_bracedCodePoint start (ne_nil_of_cons hnext) (not_mem_next hc)).mono
        ((List.tail_suffix _).trans (suffix_next c))
    · exact (readsInside_fixedCodePoint start digits _ (not_mem_next hc)).mono (suffix_next c)

theorem readsInside_property (start : Nat) (negated : Bool) (hrest : c.rest ≠ [])
    (hc : '#' ∉ c.rest) :
    ReadsInside d w (Atom.shift d) c.rest.tail (c.property start negated)
      ((c.inside d w).property (start + d) negated) := by
  unfold property
  rw [next_inside hrest hc]
  cases hnext : c.next.rest with
  | nil =>
    simp only [hnext]
    exact .fail
  | cons ch t =>
    simp only [rest_inside, hnext, List.cons_append]
    rw [next_inside (ne_nil_of_cons hnext) (not_mem_next hc)]
    have hnext' := (suffix_next c.next).trans ((List.tail_suffix _).trans (suffix_next c))
    split
    · cases hclose : (c.next.next.collect (· != '\x7d')).2.rest with
      | nil =>
        dsimp only
        exact .fail
      | cons ch' t' =>
        rw [collect_inside (not_mem_next (not_mem_next hc)) (Or.inr (ne_nil_of_cons hclose))]
        have hsuffix := (suffix_collect (· != '\x7d') c.next.next).trans hnext'
        generalize c.next.next.collect (· != '\x7d') = p at hclose hsuffix ⊢
        obtain ⟨name, close⟩ := p
        dsimp only at hclose hsuffix
        simp only [rest_inside, hclose, List.cons_append]
        rw [advance_inside (ne_nil_of_cons hclose)]
        exact .ok rfl rfl ((suffix_advance close).trans hsuffix)
    · split
      · exact .fail
      · exact .ok rfl rfl hnext'

/-- The name of a boundary is read inside too, or no name is there. -/
theorem namedBoundary?_inside (start : Nat) (hrest : c.rest ≠ []) (hc : '#' ∉ c.rest)
    {r : Option (Assertion × Cursor)} (h : c.namedBoundary? start = .ok r) :
    (c.inside d w).namedBoundary? (start + d) = .ok (r.map fun p => (p.1, p.2.inside d w)) ∧
      ∀ p, r = some p → p.2.rest <:+ c.rest := by
  unfold namedBoundary? at h ⊢
  rw [next_inside hrest hc]
  cases hnext : c.next.rest with
  | nil =>
    simp only [hnext] at h
    exact absurd h (by simp [fail])
  | cons ch t =>
    simp only [hnext] at h
    simp only [rest_inside, hnext, List.cons_append]
    split at h
    · rename_i hch
      rw [if_pos hch, collect_inside (not_mem_next hc) (Or.inl rfl)]
      have hsuffix := (suffix_collect isBoundaryChar c.next).trans
        ((suffix_next c).trans (List.tail_suffix _))
      generalize c.next.collect isBoundaryChar = p at h hsuffix ⊢
      obtain ⟨name, close⟩ := p
      dsimp only at h hsuffix ⊢
      split at h
      · rename_i hbrace
        have hclose : close.rest ≠ [] := fun hnil => by simp [hnil] at hbrace
        rw [head?_rest_inside hclose, if_pos hbrace]
        split at h
        · obtain rfl := Except.ok.inj h
          rw [advance_inside hclose]
          refine ⟨rfl, fun p hp => ?_⟩
          obtain rfl := Option.some.inj hp
          exact (suffix_advance close).trans hsuffix
        · exact absurd h (by simp [fail])
      · exact absurd h (by simp [fail])
    · rename_i hch
      obtain rfl := Except.ok.inj h
      rw [if_neg hch]
      exact ⟨rfl, fun _ hp => absurd hp (by simp)⟩

theorem readsInside_boundary (start : Nat) (hc : '#' ∉ c.rest) :
    ReadsInside d w (Atom.shift d) c.rest (c.boundary start)
      ((c.inside d w).boundary (start + d)) := by
  unfold boundary
  cases hrest : c.rest with
  | nil =>
    simp only [rest_inside, hrest, List.nil_append, List.head?_nil, List.head?_cons]
    exact .ok rfl rfl (suffix_of_eq hrest)
  | cons ch t =>
    rw [head?_rest_inside (ne_nil_of_cons hrest), ← hrest]
    split
    · refine .bind_check fun r hr => ?_
      obtain ⟨hR, hsuffix⟩ := namedBoundary?_inside (d := d) (w := w) start (ne_nil_of_cons hrest) hc hr
      refine ⟨_, hR, ?_⟩
      cases r with
      | none => exact .ok rfl rfl (List.suffix_refl _)
      | some p => exact .ok rfl rfl (hsuffix p rfl)
    · exact .ok rfl rfl (List.suffix_refl _)

theorem readsInside_shortEscape (start : Nat) (ch : Char) (hrest : c.rest ≠ []) (hc : '#' ∉ c.rest) :
    ReadsInside d w (Atom.shift d) c.rest (c.shortEscape start ch)
      ((c.inside d w).shortEscape (start + d) ch) := by
  have hsuffix := suffix_advance c
  unfold shortEscape
  rw [advance_inside hrest]
  dsimp only
  split
  · exact .ok rfl rfl hsuffix
  · split
    · exact .ok rfl rfl hsuffix
    · exact (readsInside_boundary start (not_mem_advance hc)).mono hsuffix
    · exact .ok rfl rfl hsuffix
    · exact .fail

/-- **An escape is read inside a longer source.** -/
theorem readsInside_escape (hrest : c.rest ≠ []) (hc : '#' ∉ c.rest) :
    ReadsInside d w (Atom.shift d) c.rest.tail c.escape (c.inside d w).escape := by
  unfold escape
  rw [advance_inside hrest, ← rest_advance]
  have hc' := not_mem_advance hc
  cases hadvance : c.advance.rest with
  | nil =>
    simp only [hadvance]
    exact .fail
  | cons ch t =>
    have hne := ne_nil_of_cons hadvance
    have htail : c.advance.rest.tail <:+ c.advance.rest := List.tail_suffix _
    simp only [rest_inside, hadvance, List.cons_append]
    rw [← hadvance]
    split
    · exact .fail
    split
    · exact (readsInside_property c.index false hne hc').mono htail
    split
    · exact (readsInside_property c.index true hne hc').mono htail
    split
    · refine (readsInside_codePoint c.index _ hne hc').bind fun l c' hl => ?_
      exact .ok rfl rfl (hl.trans htail)
    · rw [advance_inside hne]
      exact .ok rfl rfl (suffix_advance c.advance)
    · exact readsInside_shortEscape c.index ch hne hc'

end Cursor
end Regex
end TextScan
