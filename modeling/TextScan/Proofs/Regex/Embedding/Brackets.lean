/-
# Sets in brackets inside a longer source

A set in brackets that is read in a source is read in the source inside a longer one: it ends with
its closing bracket, so the reader does not come to the closing parenthesis behind the source.  The
one thing that is looked for further on is the name of a class in colons, and no name has a
parenthesis in it.
-/

import TextScan.Proofs.Regex.Embedding.Escape

namespace TextScan
namespace Regex

variable {c : Cursor} {d : Nat} {t w : Text} {ch : Char}

/-! ## Levels moved -/

namespace BracketLevel

/-- A level of a set that stands further on. -/
def shift (d : Nat) (l : BracketLevel) : BracketLevel :=
  ⟨l.opening.shift d, l.negated, l.left.map fun p => (p.1, p.2.shift d), l.extent.shift d,
    l.items.map (SetTree.shift d)⟩

variable {l : BracketLevel}

theorem push_shift (s : SetTree) : (l.shift d).push (s.shift d) = (l.push s).shift d := by
  simp only [push, shift, List.isEmpty_map, SetTree.extent_shift, List.map_cons,
    BracketLevel.mk.injEq, true_and, and_true, Extent.shift, Extent.mk.injEq]
  split <;> rfl

theorem set_shift : (l.shift d).set = l.set.shift d := by
  unfold set shift
  dsimp only
  rw [← List.map_reverse, SetTree.ofItems_shift]
  cases l.left with
  | none => rfl
  | some p =>
    simp only [Option.map_some, SetTree.shift, SetTree.extent_shift]
    rfl

theorem operate_shift (op : SetOp) (index : Nat) :
    (l.shift d).operate op (index + d) = (l.operate op index).shift d := by
  simp only [operate, set_shift]
  rfl

theorem close_shift (stop : Nat) : (l.shift d).close (stop + d) = (l.close stop).shift d := by
  simp only [close, set_shift, SetTree.shift]
  rfl

end BracketLevel

theorem SetTree.ofAtom_shift {a : Atom} {s : SetTree} (h : SetTree.ofAtom a = .ok s) :
    SetTree.ofAtom (a.shift d) = .ok (s.shift d) := by
  cases a with
  | literal l =>
    obtain rfl := Except.ok.inj h
    rw [SetTree.shift]
    rfl
  | shorthand e k n =>
    obtain rfl := Except.ok.inj h
    rw [SetTree.shift]
    rfl
  | property e p n =>
    obtain rfl := Except.ok.inj h
    rw [SetTree.shift]
    rfl
  | dot e => exact absurd h (by simp [ofAtom, fail])
  | assertion e k => exact absurd h (by simp [ofAtom, fail])

theorem Atom.rangeEnd_shift {a : Atom} {l : Literal} (h : a.rangeEnd = .ok l) :
    (a.shift d).rangeEnd = .ok (l.shift d) := by
  cases a with
  | literal l =>
    obtain rfl := Except.ok.inj h
    rfl
  | _ => exact absurd h (by simp [rangeEnd, fail])

/-- The name of a class has no parenthesis in it. -/
theorem PosixClass.not_mem_of_ofName? {name : Text} {k : PosixClass}
    (h : PosixClass.ofName? name = some k) : ')' ∉ name := by
  unfold ofName? at h
  obtain ⟨p, hp, -⟩ := Option.map_eq_some_iff.1 h
  have hname : p.1.toList = name := by simpa using List.find?_some hp
  rw [← hname]
  exact (show ∀ p ∈ _, ')' ∉ p.1.toList from by decide) p (List.mem_of_find?_eq_some hp)

namespace Cursor

/-- A character that stands for itself, one item further on. -/
theorem push_literal (l : BracketLevel) (e : Extent) (ch : Char) :
    (l.shift d).push (.literal ⟨e.shift d, ch, false⟩) = (l.push (.literal ⟨e, ch, false⟩)).shift d := by
  rw [← BracketLevel.push_shift, SetTree.shift]
  rfl

theorem readsInside_hyphens (start : Nat) {n m : Nat} {l : BracketLevel} (hn : c.rest.length ≤ n)
    (hm : c.rest.length ≤ m) (hc : '#' ∉ c.rest) :
    ReadsInside d w (BracketLevel.shift d) c.rest (hyphens start n l c)
      (hyphens (start + d) m (l.shift d) (c.inside d w)) := by
  -- where no hyphen is left, none is left inside
  have hstop : ∀ {n l} {c : Cursor}, c.rest = [] → hyphens start n l c = .ok (l, c) :=
    fun {n l c} h => by
      cases n with
      | zero => rfl
      | succ n => rw [hyphens, h, if_neg (by simp)]
  have hstop' : ∀ {m l} {c : Cursor}, c.rest = [] →
      hyphens (start + d) m l (c.inside d w) = .ok (l, c.inside d w) := fun {m l c} h => by
    cases m with
    | zero => rfl
    | succ m => rw [hyphens, rest_inside, h, if_neg (by simp)]
  induction n generalizing c m l with
  | zero =>
    have hrest : c.rest = [] := List.eq_nil_of_length_eq_zero (Nat.le_zero.1 hn)
    rw [hstop hrest, hstop' hrest]
    exact .ok rfl rfl (List.suffix_refl _)
  | succ n ih =>
    cases hrest : c.rest with
    | nil =>
      rw [hstop hrest, hstop' hrest]
      exact .ok rfl rfl (suffix_of_eq hrest)
    | cons ch t =>
      have hlength := length_next_lt hrest
      rw [hrest, List.length_cons] at hn hm
      obtain ⟨m, rfl⟩ : ∃ k, m = k + 1 := ⟨m - 1, by omega⟩
      rw [hyphens, hyphens, head?_rest_inside (ne_nil_of_cons hrest), ← hrest]
      split
      · dsimp only
        rw [next_inside (ne_nil_of_cons hrest) hc]
        refine readsInside_unless_isEmpty fun _ => ?_
        rw [charExtent_inside, push_literal]
        exact (ih (by omega) (by omega) (not_mem_next hc)).mono
          ((suffix_next c).trans (List.tail_suffix _))
      · exact .ok rfl rfl (List.suffix_refl _)

theorem readsInside_openBracket (hrest : c.rest ≠ []) (hc : '#' ∉ c.rest) :
    ReadsInside d w (BracketLevel.shift d) c.rest.tail c.openBracket (c.inside d w).openBracket := by
  unfold openBracket
  dsimp only
  rw [next_inside hrest hc]
  refine readsInside_unless_isEmpty fun hone => ?_
  rw [head?_rest_inside hone, next_inside hone (not_mem_next hc)]
  -- the cursor behind the sign of a complement
  have hsign : ∀ b : Bool, ∃ c₂ : Cursor, (if b = true then c.next.next else c.next) = c₂ ∧
      (if b = true then c.next.next.inside d w else c.next.inside d w) = c₂.inside d w ∧
      c₂.rest <:+ c.rest.tail := fun b => by
    cases b with
    | false => exact ⟨_, rfl, rfl, suffix_next c⟩
    | true =>
      exact ⟨_, rfl, rfl, (suffix_next c.next).trans ((List.tail_suffix _).trans (suffix_next c))⟩
  obtain ⟨c₂, hc₂, hc₂', hsuffix⟩ := hsign (c.next.rest.head? == some '^')
  rw [hc₂, hc₂']
  refine readsInside_unless_isEmpty fun _ => ?_
  have hsharp : '#' ∉ c₂.rest := not_mem_of_suffix (hsuffix.trans (List.tail_suffix _)) hc
  refine .bind (readsInside_hyphens c.index (Nat.le_refl _)
    (by rw [rest_inside, List.length_append]; exact Nat.le_add_right _ _) hsharp) fun l c₃ hc₃ => ?_
  have hitems : (l.shift d).items.isEmpty = l.items.isEmpty := List.isEmpty_map
  have hopening : ∀ {l : BracketLevel} {c' : Cursor}, c'.rest <:+ c₂.rest →
      ReadsInside d w (BracketLevel.shift d) c.rest.tail
        (.ok ({ l with opening := ⟨c.index, c'.index⟩ }, c'))
        (.ok ({ l.shift d with opening := ⟨c.index + d, (c'.inside d w).index⟩ }, c'.inside d w)) :=
    fun hc' => .ok rfl rfl (hc'.trans hsuffix)
  dsimp only
  rw [hitems]
  cases hrest₃ : c₃.rest with
  | nil =>
    rw [rest_inside, hrest₃, if_neg (by simp), if_neg (by simp)]
    exact hopening hc₃
  | cons ch t =>
    have hne := ne_nil_of_cons hrest₃
    have hsharp₃ := not_mem_of_suffix hc₃ hsharp
    rw [head?_rest_inside hne, ← hrest₃, next_inside hne hsharp₃]
    split
    · refine readsInside_unless_isEmpty fun _ => ?_
      rw [charExtent_inside, push_literal]
      exact hopening (((suffix_next c₃).trans (List.tail_suffix _)).trans hc₃)
    · exact hopening hc₃

/-! ## Items -/

/-- The class whose name, with the colon and the bracket behind it, is next. -/
def namedClass? (c : Cursor) : Option (PosixClass × Cursor) :=
  (PosixClass.ofName? (c.rest.takeWhile (· != ':'))).bind fun kind =>
    (c.accept? (c.rest.takeWhile (· != ':') ++ ":]".toList)).map (kind, ·)

theorem posixClass?_eq (c : Cursor) : c.posixClass? = (c.accept? "[:".toList).bind fun c₁ =>
    (match c₁.accept? ['^'] with
      | some c₂ => c₂.namedClass?.map (true, ·)
      | none => c₁.namedClass?.map (false, ·)).map fun p : Bool × PosixClass × Cursor =>
        (.posix ⟨c.index, p.2.2.index⟩ p.2.1 p.1, p.2.2) := by
  have hname : ∀ (c₂ : Cursor) (b : Bool),
      ((PosixClass.ofName? (c₂.rest.takeWhile (· != ':'))).bind fun kind =>
        (c₂.accept? (c₂.rest.takeWhile (· != ':') ++ ":]".toList)).bind fun c₃ =>
          some (SetTree.posix ⟨c.index, c₃.index⟩ kind b, c₃)) =
        (c₂.namedClass?.map (b, ·)).map fun p : Bool × PosixClass × Cursor =>
          (.posix ⟨c.index, p.2.2.index⟩ p.2.1 p.1, p.2.2) := fun c₂ b => by
    unfold namedClass?
    cases PosixClass.ofName? (c₂.rest.takeWhile (· != ':')) with
    | none => rfl
    | some k => cases c₂.accept? (c₂.rest.takeWhile (· != ':') ++ ":]".toList) <;> rfl
  unfold posixClass?
  cases c.accept? "[:".toList with
  | none => rfl
  | some c₁ =>
    simp only [Option.bind_eq_bind, Option.bind_some]
    cases c₁.accept? ['^'] with
    | none => exact hname c₁ false
    | some c₂ => exact hname c₂ true

/-- A name that would go on behind the source is none. -/
theorem namedClass?_inside :
    (c.inside d w).namedClass? = c.namedClass?.map fun p => (p.1, p.2.inside d w) := by
  unfold namedClass?
  by_cases hcolon : ':' ∈ c.rest
  · have hname : (c.inside d w).rest.takeWhile (· != ':') = c.rest.takeWhile (· != ':') :=
      takeWhile_append_of_mem hcolon rfl _
    rw [hname]
    cases hk : PosixClass.ofName? (c.rest.takeWhile (· != ':')) with
    | none => rfl
    | some k =>
      have hparen : ')' ∉ c.rest.takeWhile (· != ':') ++ ":]".toList := fun hmem =>
        (List.mem_append.1 hmem).elim (PosixClass.not_mem_of_ofName? hk) (by decide)
      rw [Option.bind_some, Option.bind_some, accept?_inside hparen, Option.map_map, Option.map_map]
      rfl
  · have hpass : ∀ ch ∈ c.rest, (ch != ':') = true := fun ch hch =>
      bne_iff_ne.2 fun h => hcolon (h ▸ hch)
    have hout : PosixClass.ofName? ((c.inside d w).rest.takeWhile (· != ':')) = none := by
      cases hk : PosixClass.ofName? ((c.inside d w).rest.takeWhile (· != ':')) with
      | none => rfl
      | some k =>
        refine absurd ?_ (PosixClass.not_mem_of_ofName? hk)
        rw [rest_inside, List.takeWhile_append_of_pos hpass]
        simp
    have hno : c.accept? (c.rest ++ ":]".toList) = none := by
      refine if_neg fun h => ?_
      have hle := (List.isPrefixOf_iff_prefix.1 h).length_le
      rw [List.length_append] at hle
      exact Nat.not_succ_le_self _ (Nat.le_of_succ_le hle)
    rw [hout, List.takeWhile_eq_self_iff.2 hpass, hno]
    cases PosixClass.ofName? c.rest <;> rfl

/-- A class with a name in colons is read inside where it is read, and nowhere else. -/
theorem posixClass?_inside :
    (c.inside d w).posixClass? = c.posixClass?.map fun p => (p.1.shift d, p.2.inside d w) := by
  rw [posixClass?_eq, posixClass?_eq, accept?_inside (by decide)]
  cases c.accept? "[:".toList with
  | none => rfl
  | some c₁ =>
    rw [Option.map_some, Option.bind_some, Option.bind_some, accept?_inside (by decide)]
    cases c₁.accept? ['^'] with
    | none =>
      simp only [Option.map_none, namedClass?_inside]
      cases c₁.namedClass? with
      | none => rfl
      | some p => simp only [Option.map_some, SetTree.shift]; rfl
    | some c₂ =>
      simp only [Option.map_some, namedClass?_inside]
      cases c₂.namedClass? with
      | none => rfl
      | some p => simp only [Option.map_some, SetTree.shift]; rfl

theorem suffix_posixClass? {p : SetTree × Cursor} (h : c.posixClass? = some p) :
    p.2.rest <:+ c.rest := by
  have hnamed : ∀ {c : Cursor} {p}, c.namedClass? = some p → p.2.rest <:+ c.rest := fun {c p} h => by
    obtain ⟨k, -, h⟩ := Option.bind_eq_some_iff.1 h
    obtain ⟨c', hc', rfl⟩ := Option.map_eq_some_iff.1 h
    exact suffix_accept? hc'
  rw [posixClass?_eq] at h
  obtain ⟨c₁, hc₁, h⟩ := Option.bind_eq_some_iff.1 h
  obtain ⟨q, hq, rfl⟩ := Option.map_eq_some_iff.1 h
  split at hq
  · rename_i c₂ hc₂
    obtain ⟨r, hr, rfl⟩ := Option.map_eq_some_iff.1 hq
    exact (hnamed hr).trans ((suffix_accept? hc₂).trans (suffix_accept? hc₁))
  · obtain ⟨r, hr, rfl⟩ := Option.map_eq_some_iff.1 hq
    exact (hnamed hr).trans (suffix_accept? hc₁)

theorem readsInside_setAtom (hc : '#' ∉ c.rest) :
    ReadsInside d w (Atom.shift d) c.rest.tail c.setAtom (c.inside d w).setAtom := by
  unfold setAtom
  cases hrest : c.rest with
  | nil =>
    dsimp only
    exact .fail
  | cons ch t =>
    have hne := ne_nil_of_cons hrest
    have h := readsInside_escape (d := d) (w := w) hne hc
    simp only [rest_inside, hrest, List.cons_append, List.tail_cons] at h ⊢
    split
    · exact h
    · rw [advance_inside hne, charExtent_inside]
      exact .ok rfl rfl (suffix_of_eq (by rw [rest_advance, hrest]; rfl))

theorem readsInside_setItem (l : BracketLevel) (hc : '#' ∉ c.rest) :
    ReadsInside d w (SetTree.shift d) c.rest.tail (c.setItem l) ((c.inside d w).setItem (l.shift d)) := by
  refine (readsInside_setAtom hc).bind fun low c₁ hc₁ => ?_
  have hsharp₁ : '#' ∉ c₁.rest := not_mem_of_suffix (hc₁.trans (List.tail_suffix _)) hc
  dsimp only
  rw [skipBlanks_inside hsharp₁]
  have hc₂ := (suffix_skipBlanks c₁).trans hc₁
  generalize c₁.skipBlanks = c₂ at hc₂ ⊢
  have hsharp₂ : '#' ∉ c₂.rest := not_mem_of_suffix (hc₂.trans (List.tail_suffix _)) hc
  refine readsInside_unless_isEmpty fun hne => ?_
  rw [head?_rest_inside hne]
  have hitem : ReadsInside d w (SetTree.shift d) c.rest.tail
      (SetTree.ofAtom low >>= fun s => pure (s, c₂))
      (SetTree.ofAtom (low.shift d) >>= fun s => pure (s, c₂.inside d w)) :=
    .bind_check fun s hs => ⟨_, SetTree.ofAtom_shift hs, .ok rfl rfl hc₂⟩
  by_cases hnext : c₂.next.rest = []
  · -- without a character behind it, a hyphen makes no range
    have hfollowing : ∀ ch, Unicode.isBlank ch = false → (c₂.following? == some ch) = false :=
      fun ch hch => by
        rw [beq_eq_false_iff_ne]
        exact fun h => next_ne_nil_of_following? h hch hsharp₂ hnext
    rw [hfollowing ']' rfl, hfollowing '-' rfl, Bool.or_false, Bool.or_false]
    split
    · rename_i hhyphen
      rw [if_pos (by rw [hhyphen, Bool.true_or, Bool.true_or])]
      exact hitem
    · rw [hnext]
      exact .fail
  · rw [following?_inside hnext hsharp₂, next_inside hne hsharp₂]
    split
    · exact hitem
    · refine readsInside_unless_isEmpty fun _ => ?_
      refine (readsInside_setAtom (not_mem_next hsharp₂)).bind fun high c₄ hc₄ => ?_
      have hc₄' := hc₄.trans ((List.tail_suffix _).trans ((suffix_next c₂).trans
        ((List.tail_suffix _).trans hc₂)))
      refine .bind_check fun a ha => ⟨_, Atom.rangeEnd_shift ha, ?_⟩
      refine .bind_check fun b hb => ⟨_, Atom.rangeEnd_shift hb, ?_⟩
      rw [show (a.shift d).char = a.char from rfl, show (b.shift d).char = b.char from rfl]
      split
      · exact .ok (by rw [SetTree.shift]; rfl) rfl hc₄'
      · exact .fail

theorem setOp?_inside :
    (c.inside d w).setOp? = c.setOp?.map fun p => (p.1, p.2.inside d w) := by
  unfold setOp?
  rw [accept?_inside (by decide), accept?_inside (by decide), accept?_inside (by decide)]
  cases c.accept? "&&".toList <;> cases c.accept? "--".toList <;> cases c.accept? "~~".toList <;> rfl

theorem suffix_setOp? {p : SetOp × Cursor} (h : c.setOp? = some p) : p.2.rest <:+ c.rest := by
  unfold setOp? at h
  cases hinter : c.accept? "&&".toList with
  | some c' =>
    rw [hinter] at h
    obtain rfl := Option.some.inj h
    exact suffix_accept? hinter
  | none =>
    cases hdiff : c.accept? "--".toList with
    | some c' =>
      rw [hinter, hdiff] at h
      obtain rfl := Option.some.inj h
      exact suffix_accept? hdiff
    | none =>
      rw [hinter, hdiff] at h
      obtain ⟨c', hc', rfl⟩ := Option.map_eq_some_iff.1 h
      exact suffix_accept? hc'

/-- What is open in a set is closed inside a longer source as well; more fuel does no harm. -/
theorem readsInside_bracketItems {n m : Nat} (hnm : n ≤ m) (l : BracketLevel)
    (outer : List BracketLevel) (hc : '#' ∉ c.rest) :
    ReadsInside d w (SetTree.shift d) c.rest (bracketItems n l outer c)
      (bracketItems m (l.shift d) (outer.map (BracketLevel.shift d)) (c.inside d w)) := by
  induction n generalizing c m l outer with
  | zero => exact .fail
  | succ n ih =>
    obtain ⟨m, rfl⟩ : ∃ k, m = k + 1 := ⟨m - 1, by omega⟩
    have hnm : n ≤ m := by omega
    unfold bracketItems
    dsimp only
    rw [skipBlanks_inside hc]
    have hblanks := suffix_skipBlanks c
    generalize c.skipBlanks = c₁ at hblanks ⊢
    have hsharp : '#' ∉ c₁.rest := not_mem_of_suffix hblanks hc
    -- what is read next, and the items behind it
    have hgo : ∀ {l' : BracketLevel} (outer' : List BracketLevel) {c' : Cursor},
        c'.rest <:+ c₁.rest → ReadsInside d w (SetTree.shift d) c.rest (bracketItems n l' outer' c')
          (bracketItems m (l'.shift d) (outer'.map (BracketLevel.shift d)) (c'.inside d w)) :=
      fun {l'} outer' {c'} hc' => (ih hnm l' outer' (not_mem_of_suffix hc' hsharp)).mono
        (hc'.trans hblanks)
    cases hrest : c₁.rest with
    | nil =>
      dsimp only
      exact .fail
    | cons ch t =>
      have hne := ne_nil_of_cons hrest
      simp only [rest_inside, hrest, List.cons_append]
      split
      · rw [posixClass?_inside]
        cases hposix : c₁.posixClass? with
        | some p =>
          simp only [Option.map_some, BracketLevel.push_shift]
          exact hgo outer (suffix_posixClass? hposix)
        | none =>
          refine (readsInside_openBracket hne hsharp).bind fun inner c' hc' => ?_
          exact hgo (l :: outer) (hc'.trans (List.tail_suffix _))
      split
      · rw [advance_inside hne]
        have hadvance := suffix_advance c₁
        cases outer with
        | nil =>
          exact .ok (BracketLevel.close_shift _) rfl (hadvance.trans hblanks)
        | cons o outer =>
          simp only [List.map_cons, index_inside, BracketLevel.close_shift, BracketLevel.push_shift]
          exact hgo outer hadvance
      · rw [setOp?_inside]
        cases hop : c₁.setOp? with
        | some p =>
          simp only [Option.map_some, index_inside, BracketLevel.operate_shift]
          exact hgo outer (suffix_setOp? hop)
        | none =>
          refine (readsInside_setItem l hsharp).bind fun s c' hc' => ?_
          simp only [BracketLevel.push_shift]
          exact hgo outer (hc'.trans (List.tail_suffix _))

/-- **A set in brackets is read inside a longer source.** -/
theorem readsInside_brackets (hrest : c.rest ≠ []) (hc : '#' ∉ c.rest) :
    ReadsInside d w (SetTree.shift d) c.rest.tail c.brackets (c.inside d w).brackets := by
  refine (readsInside_openBracket hrest hc).bind fun l c' hc' => ?_
  have hsharp : '#' ∉ c'.rest := not_mem_of_suffix (hc'.trans (List.tail_suffix _)) hc
  have hfuel : c.rest.length ≤ (c.inside d w).rest.length := by
    rw [rest_inside, List.length_append]
    exact Nat.le_add_right _ _
  exact (readsInside_bracketItems hfuel l [] hsharp).mono hc'

end Cursor
end Regex
end TextScan
