/-
# A source in parentheses

A source that can be read by itself and has no `#` is read in the same steps where it stands in
parentheses inside a longer source, with everything `d` characters further on and behind `k` groups
(`Reader.step_inside`).  Only a name that a group outside has already may stop the reader there.
Then the closing parenthesis behind the source closes the group around it, with the flags and the
mode that were set before (`Reader.run_inside`).
-/

import TextScan.Proofs.Regex.Captures
import TextScan.Proofs.Regex.Embedding.Brackets

namespace TextScan
namespace Regex

variable {c c' : Cursor} {d k : Nat} {t w : Text} {ch : Char}

/-! ## Levels and groups moved -/

namespace Level

/-- A level that is opened further on. -/
def shift (d k : Nat) (l : Level) : Level :=
  ⟨l.first + d, l.branches.map (Tree.shift d k), l.start + d, l.items.map (Tree.shift d k)⟩

variable {l : Level}

theorem branch_shift (stop : Nat) :
    (l.shift d k).branch (stop + d) = (l.branch stop).shift d k := by
  simp only [branch, shift, ← List.map_reverse]
  exact Tree.ofItems_shift ⟨l.start, stop⟩ l.items.reverse

theorem bar_shift (index : Nat) : (l.shift d k).bar (index + d) = (l.bar index).shift d k := by
  simp only [bar, branch_shift]
  simp only [shift, List.map_cons, List.map_nil, Nat.add_right_comm index d 1]

theorem close_shift (stop : Nat) : (l.shift d k).close (stop + d) = (l.close stop).shift d k := by
  unfold close
  rw [branch_shift]
  cases hbranches : l.branches with
  | nil =>
    simp only [shift, hbranches, List.map_nil]
  | cons b bs =>
    simp only [shift, hbranches, List.map_cons, Tree.shift, Tree.allShift_eq_map, List.map_reverse]
    rfl

end Level

/-- A group that is opened further on, behind `k` others. -/
def OpenGroup.shift (d k : Nat) (g : OpenGroup) : OpenGroup :=
  ⟨g.outer.shift d k, g.paren + d, g.kind.renumber k, g.verbose⟩

/-- What begins with a parenthesis further on, behind `k` groups. -/
def Paren.shift (d k : Nat) : Paren → Paren
  | .group kind name => .group (kind.renumber k) (name.map (Extent.shift d))
  | .flags change => .flags change

/-- Places of names or flags, further on. -/
def shiftPlaces {α : Type} (d : Nat) (l : List (α × Extent)) : List (α × Extent) :=
  l.map fun p => (p.1, p.2.shift d)

theorem find?_shiftPlaces {α : Type} (test : α → Bool) (l : List (α × Extent)) :
    (shiftPlaces d l).find? (fun p => test p.1) =
      (l.find? fun p => test p.1).map fun p => (p.1, p.2.shift d) := by
  rw [shiftPlaces, List.find?_map]
  rfl

namespace Cursor

/-! ## The start of a group -/

/-- A name that ends before its text does is the same with more behind. -/
theorem groupName_append (h : t.drop (groupName t).length ≠ []) (u : Text) :
    groupName (t ++ u) = groupName t := by
  cases t with
  | nil => exact absurd rfl h
  | cons ch t =>
    rw [List.cons_append]
    simp only [groupName] at h ⊢
    split at h
    · rename_i hstart
      rw [if_pos hstart, if_pos hstart]
      by_cases hall : ∀ x ∈ t, isNameChar x = true
      · rw [List.takeWhile_eq_self_iff.2 hall, List.drop_length] at h
        exact absurd rfl h
      · simp only [not_forall, Bool.not_eq_true] at hall
        obtain ⟨x, hx, hno⟩ := hall
        rw [takeWhile_append_of_mem hx hno]
    · rename_i hstart
      rw [if_neg hstart, if_neg hstart]

theorem captureName_inside {name : Text} {e : Extent} (h : c.captureName = .ok (name, e, c')) :
    (c.inside d w).captureName = .ok (name, e.shift d, c'.inside d w) ∧ c'.rest <:+ c.rest := by
  unfold captureName at h ⊢
  dsimp only at h ⊢
  cases hrest : c.rest.drop (groupName c.rest).length with
  | nil =>
    simp only [hrest] at h
    exact absurd h (by simp [fail])
  | cons ch t =>
    have hname : groupName (c.inside d w).rest = groupName c.rest :=
      groupName_append (by rw [hrest]; exact List.cons_ne_nil _ _) _
    have hdrop : (c.inside d w).rest.drop (groupName c.rest).length = ch :: (t ++ ')' :: w) := by
      rw [rest_inside, List.drop_append_of_le_length, hrest]
      · rfl
      · by_contra hlt
        rw [List.drop_eq_nil_of_le (by omega)] at hrest
        exact absurd hrest (by simp)
    have hsuffix : t <:+ c.rest := (List.suffix_cons ch t).trans (hrest ▸ List.drop_suffix _ _)
    simp only [hrest] at h
    rw [hname, hdrop]
    dsimp only
    split at h
    · rename_i hch
      rw [if_pos hch]
      split at h
      · exact absurd h (by simp [fail])
      · rename_i hempty
        rw [if_neg hempty]
        obtain ⟨rfl, hpair⟩ := Prod.mk.inj (Except.ok.inj h)
        obtain ⟨rfl, rfl⟩ := Prod.mk.inj hpair
        refine ⟨?_, hsuffix⟩
        simp only [Extent.shift, inside, Nat.add_right_comm]
    · exact absurd h (by simp [fail])

theorem flagItems_append {seen items : FlagItems} {rest : Text} {n index : Nat}
    (h : flagItems seen t n = .ok (items, rest, index)) (u : Text) :
    flagItems (shiftPlaces d seen) (t ++ u) (n + d) =
      .ok (shiftPlaces d items, rest ++ u, index + d) ∧ rest ≠ [] ∧ rest <:+ t := by
  induction t generalizing seen n with
  | nil => exact absurd h (by simp [flagItems, fail])
  | cons ch t ih =>
    unfold flagItems at h
    rw [List.cons_append]
    unfold flagItems
    dsimp only at h ⊢
    split at h
    · rename_i hch
      rw [if_pos hch]
      obtain ⟨rfl, hpair⟩ := Prod.mk.inj (Except.ok.inj h)
      obtain ⟨rfl, rfl⟩ := Prod.mk.inj hpair
      exact ⟨rfl, List.cons_ne_nil _ _, List.suffix_refl _⟩
    rename_i hch
    rw [if_neg hch]
    have hgo : ∀ {item : Option Flag}, flagItems ((item, ⟨n, n + 1⟩) :: seen) t (n + 1) =
        .ok (items, rest, index) →
        flagItems ((item, ⟨n + d, n + d + 1⟩) :: shiftPlaces d seen) (t ++ u) (n + d + 1) =
          .ok (shiftPlaces d items, rest ++ u, index + d) ∧ rest ≠ [] ∧ rest <:+ ch :: t :=
      fun {item} h => by
        obtain ⟨h, hne, hsuffix⟩ := ih h
        rw [Nat.add_right_comm n 1 d] at h
        refine ⟨?_, hne, hsuffix.trans (List.suffix_cons _ _)⟩
        rw [← h, show shiftPlaces d ((item, ⟨n, n + 1⟩) :: seen) =
          (item, ⟨n + d, n + 1 + d⟩) :: shiftPlaces d seen from rfl, Nat.add_right_comm n 1 d]
    split at h
    · rename_i hdash
      rw [if_pos hdash, find?_shiftPlaces (· == none)]
      split at h
      · exact absurd h (by simp)
      · rename_i hfind
        rw [hfind]
        exact hgo h
    · rename_i hdash
      rw [if_neg hdash]
      split at h
      · exact absurd h (by simp)
      · rename_i f hf
        rw [find?_shiftPlaces (· == some f)]
        split at h
        · exact absurd h (by simp)
        · rename_i hfind
          rw [hfind]
          exact hgo h

theorem flagChange_shiftPlaces (enable : Bool) (items : FlagItems) :
    flagChange enable (shiftPlaces d items) = flagChange enable items := by
  induction items generalizing enable with
  | nil => rfl
  | cons p items ih =>
    obtain ⟨item, e⟩ := p
    cases item with
    | none => exact ih false
    | some f => exact congrArg (_ :: ·) (ih enable)

theorem readsInside_flagsOrGroup (question : Nat) :
    ReadsInside d w (Paren.shift d k) c.rest (c.flagsOrGroup question)
      ((c.inside d w).flagsOrGroup (question + d)) := by
  intro p c' h
  unfold flagsOrGroup at h ⊢
  obtain ⟨⟨items, rest, index⟩, hitems, h⟩ := bind_eq_ok.1 h
  obtain ⟨hinside, hne, hsuffix⟩ := flagItems_append (d := d) hitems (')' :: w)
  obtain ⟨ch, t, rfl⟩ := List.exists_cons_of_ne_nil hne
  have hrest : t <:+ c.rest := (List.suffix_cons ch t).trans hsuffix
  have hend : ∀ {isEmpty : Bool} {change : FlagChange} {p : Paren} {c' : Cursor},
      (if some ch = some ')' then
        if isEmpty then fail .repetitionOfNothing question question
        else .ok (.flags change, ⟨t, index + 1, c.verbose⟩)
      else .ok (.group (.plain change) none, ⟨t, index + 1, c.verbose⟩)) = .ok (p, c') →
      (if some ch = some ')' then
        if isEmpty then fail .repetitionOfNothing (question + d) (question + d)
        else .ok (.flags change, ⟨t ++ ')' :: w, index + d + 1, c.verbose⟩)
      else .ok (.group (.plain change) none, ⟨t ++ ')' :: w, index + d + 1, c.verbose⟩)) =
        (.ok (p.shift d k, c'.inside d w) : Except Fault (Paren × Cursor)) ∧ c'.rest <:+ c.rest := by
    intro isEmpty change p c' h
    rw [Nat.add_right_comm index d 1]
    split at h
    · rename_i hch
      rw [if_pos hch]
      split at h
      · exact absurd h (by simp [fail])
      · rename_i hempty
        rw [if_neg hempty]
        obtain ⟨rfl, rfl⟩ := Prod.mk.inj (Except.ok.inj h)
        exact ⟨rfl, hrest⟩
    · rename_i hch
      rw [if_neg hch]
      obtain ⟨rfl, rfl⟩ := Prod.mk.inj (Except.ok.inj h)
      exact ⟨rfl, hrest⟩
  have hchange := flagChange_shiftPlaces (d := d) true items.reverse
  rw [shiftPlaces, List.map_reverse] at hchange
  refine ⟨bind_eq_ok.2 ⟨_, hinside, ?_⟩, ?_⟩
  · cases items with
    | nil => exact (hend h).1
    | cons item items =>
      obtain ⟨item, e⟩ := item
      cases item with
      | none => exact absurd h (by simp [fail])
      | some f =>
        simp only [shiftPlaces, List.map_cons] at hchange ⊢
        rw [hchange]
        exact (hend h).1
  · cases items with
    | nil => exact (hend h).2
    | cons item items =>
      obtain ⟨item, e⟩ := item
      cases item with
      | none => exact absurd h (by simp [fail])
      | some f => exact (hend h).2

theorem orElse_map {α β : Type} (f : α → β) (a b : Option α) :
    (a.map f <|> b.map f) = (a <|> b).map f := by
  cases a <;> rfl

theorem suffix_orElse {a b : Option Cursor} (ha : ∀ c', a = some c' → c'.rest <:+ t)
    (hb : ∀ c', b = some c' → c'.rest <:+ t) : ∀ c', (a <|> b) = some c' → c'.rest <:+ t := by
  intro c' h
  cases a with
  | none => exact hb c' h
  | some a => exact ha c' h

/-- What begins with a parenthesis begins with it inside a longer source. -/
theorem readsInside_paren (number : Nat) (hrest : c.rest ≠ []) (hc : '#' ∉ c.rest) :
    ReadsInside d w (Paren.shift d k) c.rest.tail (c.paren number)
      ((c.inside d w).paren (number + k)) := by
  have haccept : ∀ sign : String, ')' ∉ sign.toList → (c.next.inside d w).accept? sign.toList =
      (c.next.accept? sign.toList).map (inside d w) := fun sign hsign => accept?_inside hsign
  have hsuffix : ∀ sign : String, ∀ c', c.next.accept? sign.toList = some c' →
      c'.rest <:+ c.rest.tail := fun sign c' h => (suffix_accept? h).trans (suffix_next c)
  unfold paren
  dsimp only
  rw [next_inside hrest hc, haccept "?=" (by decide), haccept "?!" (by decide),
    haccept "?<=" (by decide), haccept "?<!" (by decide), haccept "?P<" (by decide),
    haccept "?<" (by decide), haccept "?" (by decide), orElse_map, orElse_map, orElse_map, orElse_map]
  cases (c.next.accept? "?=".toList <|> c.next.accept? "?!".toList) <|>
      (c.next.accept? "?<=".toList <|> c.next.accept? "?<!".toList) with
  | some after => exact .fail
  | none =>
    have hnamed := suffix_orElse (hsuffix "?P<") (hsuffix "?<")
    cases hsign : c.next.accept? "?P<".toList <|> c.next.accept? "?<".toList with
    | some after =>
      intro p c' h
      obtain ⟨⟨name, e, c''⟩, hname, h⟩ := bind_eq_ok.1 h
      obtain ⟨rfl, rfl⟩ := Prod.mk.inj (Except.ok.inj h)
      obtain ⟨hinside, hc'⟩ := captureName_inside (d := d) (w := w) hname
      exact ⟨bind_eq_ok.2 ⟨_, hinside, rfl⟩, hc'.trans (hnamed after hsign)⟩
    | none =>
      cases hquestion : c.next.accept? "?".toList with
      | some after =>
        simp only [Option.map_none, Option.map_some]
        refine readsInside_unless_isEmpty fun _ => ?_
        exact (readsInside_flagsOrGroup c.next.index).mono (hsuffix "?" after hquestion)
      | none => exact .ok rfl rfl (suffix_next c)

/-! ## Repetitions -/

theorem suffix_decimal (c : Cursor) : c.decimal.2.rest <:+ c.rest :=
  (suffix_skipWhite _).trans ((suffix_collect _ _).trans (suffix_skipWhite c))

/-- A number of a count ends before the closing parenthesis. -/
theorem decimal_inside (hc : '#' ∉ c.rest) :
    (c.inside d w).decimal.2 = c.decimal.2.inside d w ∧
      ∀ n, c.decimal.1 = .ok n → (c.inside d w).decimal.1 = .ok n := by
  have hwhite : '#' ∉ c.skipWhite.rest := not_mem_of_suffix (suffix_skipWhite c) hc
  have hdigits : (c.skipWhite.inside d w).collect Char.isDigit = _ := collect_inside hwhite (Or.inl rfl)
  unfold decimal
  simp only [skipWhite_inside, hdigits]
  refine ⟨trivial, fun n h => ?_⟩
  split at h
  · exact absurd h (by simp [fail])
  · rename_i hdigits
    rw [if_neg hdigits]
    split at h
    · rename_i hlt
      rw [if_pos hlt, h]
    · exact absurd h (by simp [fail])

theorem countBounds_inside {start : Nat} {least least' : Except Fault Nat}
    (hleast : ∀ n, least = .ok n → least' = .ok n) (hc : '#' ∉ c.rest) :
    ReadsInside d w id c.rest (countBounds start least c)
      (countBounds (start + d) least' (c.inside d w)) := by
  have hmap : ∀ {f : Nat → Bounds} {c' : Cursor}, c'.rest <:+ c.rest →
      ReadsInside d w id c.rest (least.map fun m => (f m, c'))
        (least'.map fun m => (f m, c'.inside d w)) := fun {f c'} hc' b c'' h => by
    obtain ⟨m, hm, h⟩ := map_eq_ok.1 h
    obtain ⟨rfl, rfl⟩ := Prod.mk.inj h
    exact ⟨map_eq_ok.2 ⟨m, hleast m hm, rfl⟩, hc'⟩
  have hnext : c.next.rest <:+ c.rest := (suffix_next c).trans (List.tail_suffix _)
  unfold countBounds
  cases hrest : c.rest with
  | nil =>
    dsimp only
    exact .fail
  | cons ch t =>
    simp only [rest_inside, hrest, List.cons_append]
    rw [← hrest, next_inside (ne_nil_of_cons hrest) hc]
    split
    · cases hrest' : c.next.rest with
      | nil =>
        dsimp only
        exact .fail
      | cons ch' t' =>
        simp only [rest_inside, hrest', List.cons_append]
        split
        · exact hmap hnext
        · refine .bind_check fun m hm => ⟨m, hleast m hm, ?_⟩
          obtain ⟨hafter, hmost⟩ := decimal_inside (d := d) (w := w) (not_mem_next hc)
          refine .bind_check fun n hn => ⟨n, hmost n hn, ?_⟩
          exact .ok rfl hafter ((suffix_decimal c.next).trans hnext)
    · exact hmap (List.suffix_refl _)

/-- A count in braces is read inside a longer source. -/
theorem count_inside (hrest : c.rest ≠ []) (hc : '#' ∉ c.rest) {b : Bounds} {greedy : Bool}
    (h : c.count = .ok (b, greedy, c')) :
    (c.inside d w).count = .ok (b, greedy, c'.inside d w) ∧ c'.rest <:+ c.rest.tail := by
  have hnext := not_mem_next hc
  obtain ⟨hdecimal, hleast⟩ := decimal_inside (d := d) (w := w) hnext
  have hsuffix := (suffix_decimal c.next).trans (suffix_next c)
  have hsharp : '#' ∉ c.next.decimal.2.rest := not_mem_of_suffix (suffix_decimal c.next) hnext
  unfold count at h ⊢
  dsimp only at h ⊢
  rw [next_inside hrest hc, isEmpty_rest_inside, if_neg Bool.false_ne_true, hdecimal]
  split at h
  · exact absurd h (by simp [fail])
  obtain ⟨⟨bounds, c₃⟩, hbounds, h⟩ := bind_eq_ok.1 h
  obtain ⟨hinside, hc₃⟩ := countBounds_inside (d := d) (w := w) hleast hsharp bounds c₃ hbounds
  have hsharp₃ := not_mem_of_suffix hc₃ hsharp
  dsimp only at h
  split at h
  · rename_i hbrace
    have hne : c₃.rest ≠ [] := fun hnil => by simp [hnil] at hbrace
    have hc₄ := (suffix_next c₃).trans ((List.tail_suffix _).trans (hc₃.trans hsuffix))
    have hlazy : ((c₃.next.inside d w).rest.head? == some '?') = (c₃.next.rest.head? == some '?') := by
      rw [Bool.eq_iff_iff, beq_iff_eq, beq_iff_eq]
      exact head?_rest_inside_iff (by decide)
    split at h
    · rename_i horder
      obtain ⟨rfl, hpair⟩ := Prod.mk.inj (Except.ok.inj h)
      obtain ⟨rfl, rfl⟩ := Prod.mk.inj hpair
      refine ⟨bind_eq_ok.2 ⟨_, hinside, ?_⟩, ?_⟩
      · dsimp only [id]
        rw [if_pos ((head?_rest_inside_iff (by decide)).2 hbrace), next_inside hne hsharp₃, hlazy,
          if_pos horder]
        split
        · rename_i hq
          rw [advance_inside fun hnil => by simp [hnil] at hq]
          rfl
        · rfl
      · split
        · exact (suffix_advance _).trans hc₄
        · exact hc₄
    · exact absurd h (by simp [fail])
  · exact absurd h (by simp [fail])

/-- A sign of repetition, and the question mark behind it, are read inside a longer source. -/
theorem sign_inside (b : Bounds) (hrest : c.rest ≠ []) :
    (c.inside d w).sign b = ((c.sign b).1, (c.sign b).2.1, (c.sign b).2.2.inside d w) ∧
      (c.sign b).2.2.rest <:+ c.rest.tail := by
  have hadvance := suffix_tail_advance c
  unfold sign
  dsimp only
  rw [advance_inside hrest]
  simp only [head?_rest_inside_iff (show '?' ≠ ')' by decide)]
  split
  · rename_i hq
    rw [advance_inside fun hnil => by simp [hnil] at hq]
    exact ⟨rfl, (suffix_advance _).trans hadvance⟩
  · exact ⟨rfl, hadvance⟩

theorem readsInside_atom (ch : Char) (hrest : c.rest ≠ []) (hc : '#' ∉ c.rest) :
    ReadsInside d w (Atom.shift d) c.rest.tail (c.atom ch) ((c.inside d w).atom ch) := by
  have hadvance := suffix_tail_advance c
  unfold atom
  rw [advance_inside hrest, charExtent_inside]
  dsimp only
  split
  · exact readsInside_escape hrest hc
  all_goals exact .ok rfl rfl hadvance

end Cursor

namespace Reader

/-! ## Steps -/

/-- A reader inside a longer source: what it has read and what it has open is further on, and more
groups are open around that. -/
def inside (d k : Nat) (w : Text) (outer : List OpenGroup) (names : List (Text × Extent))
    (r : Reader) : Reader :=
  ⟨r.cursor.inside d w, r.level.shift d k, r.groups.map (OpenGroup.shift d k) ++ outer,
    r.captures + k, shiftPlaces d r.names ++ names⟩

variable {r r' R : Reader} {outer : List OpenGroup} {names : List (Text × Extent)}

/-- A parenthesis that opens a group opens it inside a longer source, if no group outside has its
name. -/
theorem openParen_inside (hrest : c.rest ≠ []) (hc : '#' ∉ c.rest) (h : r.openParen c = .ok r') :
    ((r.inside d k w outer names).openParen (c.inside d w) = .ok (r'.inside d k w outer names) ∨
      names ≠ [] ∧ ∀ R, (r.inside d k w outer names).openParen (c.inside d w) ≠ .ok R) ∧
      r'.cursor.rest <:+ c.rest.tail := by
  obtain ⟨⟨p, c'⟩, hparen, h⟩ := bind_eq_ok.1 h
  obtain ⟨hinside, hsuffix⟩ := Cursor.readsInside_paren (d := d) (k := k) (w := w) (r.captures + 1)
    hrest hc p c' hparen
  rw [Nat.add_right_comm] at hinside
  cases p with
  | flags change =>
    obtain rfl := Except.ok.inj h
    exact ⟨Or.inl (bind_eq_ok.2 ⟨_, hinside, rfl⟩), hsuffix⟩
  | group kind name =>
    cases kind with
    | plain change =>
      obtain rfl := Except.ok.inj h
      exact ⟨Or.inl (bind_eq_ok.2 ⟨_, hinside, rfl⟩), hsuffix⟩
    | capture i n =>
      obtain ⟨rfl, hname⟩ := Cursor.paren_capture hparen
      cases n with
      | none =>
        obtain rfl := Except.ok.inj h
        exact ⟨Or.inl (bind_eq_ok.2 ⟨_, hinside, rfl⟩), hsuffix⟩
      | some n =>
        obtain ⟨e, rfl⟩ := Option.isSome_iff_exists.1 hname.symm
        dsimp only at h
        cases hnew : r.names.find? (·.1 == n) with
        | some p =>
          rw [hnew] at h
          exact absurd h (by simp [bind, Except.bind])
        | none =>
          rw [hnew] at h
          obtain rfl := Except.ok.inj h
          refine ⟨?_, hsuffix⟩
          have hfind : (r.inside d k w outer names).names.find? (·.1 == n) =
              names.find? (·.1 == n) := by
            have hshift := find?_shiftPlaces (d := d) (· == n) r.names
            rw [hnew] at hshift
            simp only [inside, List.find?_append]
            rw [hshift]
            rfl
          -- A group outside may have the name.
          cases hnew' : names.find? (·.1 == n) with
          | some p =>
            refine Or.inr ⟨fun hnil => ?_, fun R H => ?_⟩
            · rw [hnil] at hnew'
              exact absurd hnew' (by simp)
            · obtain ⟨q, hq, H⟩ := bind_eq_ok.1 H
              obtain rfl := Except.ok.inj (hq.symm.trans hinside)
              dsimp only [Paren.shift, GroupKind.renumber, Option.map_some] at H
              rw [hfind, hnew'] at H
              exact absurd H (by simp [bind, Except.bind])
          | none =>
            refine Or.inl (bind_eq_ok.2 ⟨_, hinside, ?_⟩)
            dsimp only [Paren.shift, GroupKind.renumber, Option.map_some]
            rw [hfind, hnew']
            rfl

theorem closeParen_inside (hrest : c.rest ≠ []) (h : r.closeParen c = .ok r') :
    (r.inside d k w outer names).closeParen (c.inside d w) = .ok (r'.inside d k w outer names) ∧
      r'.cursor.rest <:+ c.rest.tail := by
  unfold closeParen at h ⊢
  cases hgroups : r.groups with
  | nil =>
    rw [hgroups] at h
    exact absurd h (by simp [fail])
  | cons g groups =>
    rw [hgroups] at h
    obtain rfl := Except.ok.inj h
    simp only [inside, hgroups, List.map_cons, List.cons_append, OpenGroup.shift,
      Cursor.advance_inside hrest, Cursor.index_inside, Level.close_shift]
    exact ⟨rfl, Cursor.suffix_tail_advance c⟩

theorem repeated_of_items {t : Tree} {items : List Tree} (hitems : r.level.items = t :: items)
    (hempty : t ≠ .empty) (hflags : ∀ change, t ≠ .flags change)
    (p : Except Fault (Bounds × Bool × Cursor)) :
    r.repeated c p = p.map (r.repetition t items) := by
  unfold repeated
  rw [hitems]
  cases t with
  | empty => exact absurd rfl hempty
  | flags change => exact absurd rfl (hflags change)
  | _ => rfl

theorem repeated_inside {p P : Except Fault (Bounds × Bool × Cursor)}
    (hp : ∀ {b greedy c'}, p = .ok (b, greedy, c') →
      P = .ok (b, greedy, c'.inside d w) ∧ c'.rest <:+ c.rest.tail) (h : r.repeated c p = .ok r') :
    (r.inside d k w outer names).repeated (c.inside d w) P = .ok (r'.inside d k w outer names) ∧
      r'.cursor.rest <:+ c.rest.tail := by
  unfold repeated at h
  split at h
  · exact absurd h (by simp [fail])
  · exact absurd h (by simp [fail])
  · exact absurd h (by simp [fail])
  · rename_i t items hempty hflags hitems
    obtain ⟨⟨b, greedy, c'⟩, hread, rfl⟩ := map_eq_ok.1 h
    obtain ⟨hinside, hsuffix⟩ := hp hread
    have hitems' : (r.inside d k w outer names).level.items =
        t.shift d k :: items.map (Tree.shift d k) := congrArg (List.map (Tree.shift d k)) hitems
    rw [repeated_of_items hitems' (Tree.shift_ne_empty hempty) (Tree.shift_ne_flags hflags), hinside]
    refine ⟨congrArg Except.ok ?_, hsuffix⟩
    simp only [repetition, Tree.extent_shift hempty hflags]
    rfl

/-- A step inside a longer source is the same step, if it opens no parenthesis. -/
theorem step_inside_of_ne (hparen : ch ≠ '(') (hrest : c.rest ≠ []) (hc : '#' ∉ c.rest)
    (h : r.step ch c = .ok r') :
    (r.inside d k w outer names).step ch (c.inside d w) = .ok (r'.inside d k w outer names) ∧
      r'.cursor.rest <:+ c.rest.tail := by
  unfold step at h ⊢
  rw [if_neg hparen] at h ⊢
  split at h
  · rename_i hch
    rw [if_pos hch]
    exact closeParen_inside hrest h
  rename_i hch
  rw [if_neg hch]
  split at h
  · rename_i hch
    obtain rfl := Except.ok.inj h
    rw [if_pos hch, Cursor.advance_inside hrest, Cursor.index_inside]
    refine ⟨congrArg Except.ok ?_, Cursor.suffix_tail_advance c⟩
    simp only [inside, Level.bar_shift]
  rename_i hch
  rw [if_neg hch]
  split at h
  · rename_i hch
    obtain ⟨⟨s, c'⟩, hread, rfl⟩ := map_eq_ok.1 h
    obtain ⟨hinside, hsuffix⟩ := Cursor.readsInside_brackets (d := d) (w := w) hrest hc s c' hread
    rw [if_pos hch, hinside]
    exact ⟨rfl, hsuffix⟩
  rename_i hch
  rw [if_neg hch]
  split at h
  · rename_i hch
    rw [if_pos hch]
    exact repeated_inside (Cursor.count_inside hrest hc) h
  rename_i hch
  rw [if_neg hch]
  split at h
  · rename_i b _
    refine repeated_inside (fun hread => ?_) h
    obtain ⟨hinside, hsuffix⟩ := Cursor.sign_inside (d := d) (w := w) b hrest
    rw [Except.ok.inj hread] at hinside hsuffix
    exact ⟨congrArg Except.ok hinside, hsuffix⟩
  · obtain ⟨⟨a, c'⟩, hread, rfl⟩ := map_eq_ok.1 h
    obtain ⟨hinside, hsuffix⟩ := Cursor.readsInside_atom (d := d) (w := w) ch hrest hc a c' hread
    dsimp only
    rw [hinside]
    exact ⟨rfl, hsuffix⟩

/-- **A step inside a longer source** is the same step, if no group outside stops it. -/
theorem step_inside (d k : Nat) (w : Text) (outer : List OpenGroup) (names : List (Text × Extent))
    (hrest : c.rest ≠ []) (hc : '#' ∉ c.rest) (h : r.step ch c = .ok r') :
    ((r.inside d k w outer names).step ch (c.inside d w) = .ok (r'.inside d k w outer names) ∨
      names ≠ [] ∧ ∀ R, (r.inside d k w outer names).step ch (c.inside d w) ≠ .ok R) ∧
      r'.cursor.rest <:+ c.rest.tail := by
  by_cases hparen : ch = '('
  · subst hparen
    exact openParen_inside hrest hc h
  · exact (step_inside_of_ne hparen hrest hc h).imp_left Or.inl

/-! ## Whole sources -/

/-- At the end of a source that stands in parentheses, the group around it is closed. -/
theorem step_end_inside {g : OpenGroup} (hgroups : r.groups = []) (hrest : c.rest = []) :
    (r.inside d k w (g :: outer) names).step ')' (c.inside d w) =
      .ok ⟨⟨w, c.index + d + 1, g.verbose⟩, g.outer.push
        (.group ⟨g.paren, c.index + d + 1⟩ g.kind ((r.level.close c.index).shift d k)), outer,
        r.captures + k, shiftPlaces d r.names ++ names⟩ := by
  have hadvance : (c.inside d w).advance = ⟨w, c.index + d + 1, c.verbose⟩ := by
    simp only [Cursor.advance, Cursor.inside, hrest, List.nil_append]
  have hclose : (r.inside d k w (g :: outer) names).step ')' (c.inside d w) =
    (r.inside d k w (g :: outer) names).closeParen (c.inside d w) := rfl
  rw [hclose]
  unfold closeParen
  simp only [inside, hgroups, List.map_nil, List.nil_append, hadvance, Cursor.index_inside,
    Level.close_shift]

/-- **A source in parentheses.**  Inside a longer source, a source is read to the parenthesis that
closes the group around it, if no group outside stops the reader. -/
theorem run_inside {n m : Nat} {t : Tree} {g : OpenGroup} (hr : r.Numbered)
    (hc : '#' ∉ r.cursor.rest) (hn : r.cursor.rest.length < n)
    (hm : r.cursor.rest.length + 1 + w.length < m) (h : run n r = .ok t) :
    (∃ stop m' names', w.length < m' ∧ run m (r.inside d k w (g :: outer) names) =
      run m' ⟨⟨w, stop, g.verbose⟩, g.outer.push (.group ⟨g.paren, stop⟩ g.kind (t.shift d k)),
        outer, t.captures.length + k, names'⟩) ∨
      names ≠ [] ∧ ∀ T, run m (r.inside d k w (g :: outer) names) ≠ .ok T := by
  induction n generalizing r m with
  | zero => exact absurd hn (Nat.not_lt_zero _)
  | succ n ih =>
    obtain ⟨m, rfl⟩ : ∃ m', m = m' + 1 := ⟨m - 1, by omega⟩
    have hskip : (r.inside d k w (g :: outer) names).cursor.skipBlanks =
        r.cursor.skipBlanks.inside d w := Cursor.skipBlanks_inside hc
    have hsuffix := Cursor.suffix_skipBlanks r.cursor
    cases hrest : r.cursor.skipBlanks.rest with
    | nil =>
      rw [run_nil hrest] at h
      have hrest' : (r.inside d k w (g :: outer) names).cursor.skipBlanks.rest = ')' :: w := by
        rw [hskip, Cursor.rest_inside, hrest]
        rfl
      unfold finish at h
      cases hgroups : r.groups with
      | cons g groups =>
        rw [hgroups] at h
        exact absurd h (by simp [fail])
      | nil =>
        rw [hgroups] at h
        obtain rfl := Except.ok.inj h
        refine Or.inl ⟨r.cursor.skipBlanks.index + d + 1, m, shiftPlaces d r.names ++ names,
          by omega, ?_⟩
        rw [run_cons hrest', hskip, step_end_inside hgroups hrest, hr.length_captures hgroups]
        rfl
    | cons ch rest =>
      rw [run_cons hrest] at h
      have hrest' : (r.inside d k w (g :: outer) names).cursor.skipBlanks.rest =
          ch :: (rest ++ ')' :: w) := by
        rw [hskip, Cursor.rest_inside, hrest]
        rfl
      rw [run_cons hrest', hskip]
      obtain ⟨r', hstep, h⟩ := bind_eq_ok.1 h
      have hne := Cursor.ne_nil_of_cons hrest
      have hsharp := Cursor.not_mem_of_suffix hsuffix hc
      obtain ⟨hinside, hleft⟩ := step_inside d k w (g :: outer) names hne hsharp hstep
      rcases hinside with hinside | ⟨hnames, hno⟩
      · rw [hinside]
        have hlength := hleft.length_le
        have hle := hsuffix.length_le
        rw [hrest, List.tail_cons] at hlength
        rw [hrest, List.length_cons] at hle
        refine ih (hr.move (move_of_step hstep)) ?_ (by omega) (by omega) h
        exact Cursor.not_mem_of_suffix (hleft.trans (List.tail_suffix _)) hsharp
      · refine Or.inr ⟨hnames, fun T H => ?_⟩
        obtain ⟨R, hR, -⟩ := bind_eq_ok.1 H
        exact hno R hR

end Reader
end Regex
end TextScan
