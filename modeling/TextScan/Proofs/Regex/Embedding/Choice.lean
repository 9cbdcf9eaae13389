/-
# The choice of two sources

Two sources can be put in parentheses that capture nothing, with a bar between them.  If neither has
a `#`, the source of this choice has the tree of the first and then that of the second, which stands
further on and behind the groups of the first (`Tree.ofSource_choice`).  Flags that are set in one do
not reach the other.  So it means the one expression or the other (`Expr.ofSource_choice`).
-/

import TextScan.Proofs.Regex.Embedding.Reader
import TextScan.Regex.Compile

namespace TextScan
namespace Regex

/-- The source of the choice between two sources, the first before the second. -/
def choice (a b : Text) : Text := "(?:".toList ++ a ++ ")|(?:".toList ++ b ++ ")".toList

variable {a b : Text}

theorem choice_eq (a b : Text) :
    choice a b = '(' :: '?' :: ':' :: (a ++ ')' :: '|' :: '(' :: '?' :: ':' :: (b ++ [')'])) := by
  have hfirst : "(?:".toList = ['(', '?', ':'] := rfl
  have hmiddle : ")|(?:".toList = [')', '|', '(', '?', ':'] := rfl
  have hlast : ")".toList = [')'] := rfl
  unfold choice
  simp only [hfirst, hmiddle, hlast, List.append_assoc, List.cons_append, List.nil_append]

/-- A source that is not too deep was read to its end. -/
theorem Tree.run_of_ofSource {source : Text} {t : Tree} (h : Tree.ofSource source = .ok t) :
    Reader.run (source.length + 1) (Reader.ofSource source) = .ok t := by
  obtain ⟨t', hrun, h⟩ := bind_eq_ok.1 h
  split at h
  · exact absurd h (by simp [fail])
  · rw [hrun, ← Except.ok.inj h]

namespace Reader

variable {m i k : Nat} {w source : Text} {l : Level} {groups : List OpenGroup}
  {names : List (Text × Extent)} {t T : Tree}

/-- Parentheses that capture nothing and leave the flags as they are. -/
theorem run_openPlain : run (m + 1) ⟨⟨'(' :: '?' :: ':' :: w, i, false⟩, l, groups, k, names⟩ =
    run m ⟨⟨w, i + 3, false⟩, Level.empty (i + 3), ⟨l, i, .plain [], false⟩ :: groups, k, names⟩ :=
  rfl

theorem run_bar : run (m + 1) ⟨⟨'|' :: w, i, false⟩, l, groups, k, names⟩ =
    run m ⟨⟨w, i + 1, false⟩, l.bar i, groups, k, names⟩ := rfl

/-- A source in such parentheses adds its tree to the level around it, if no group outside stops the
reader. -/
theorem run_plain (i k : Nat) (l : Level) (groups : List OpenGroup) (names : List (Text × Extent))
    (h : Tree.ofSource source = .ok t) (hs : '#' ∉ source)
    (hm : source.length + 2 + w.length < m) :
    (∃ stop m' names', w.length < m' ∧
      run m ⟨⟨'(' :: '?' :: ':' :: (source ++ ')' :: w), i, false⟩, l, groups, k, names⟩ =
        run m' ⟨⟨w, stop, false⟩, l.push (.group ⟨i, stop⟩ (.plain []) (t.shift (i + 3) k)), groups,
          t.captures.length + k, names'⟩) ∨
      names ≠ [] ∧ ∀ T, run m ⟨⟨'(' :: '?' :: ':' :: (source ++ ')' :: w), i, false⟩, l, groups, k,
        names⟩ ≠ .ok T := by
  obtain ⟨m, rfl⟩ : ∃ m', m = m' + 1 := ⟨m - 1, by omega⟩
  rw [run_openPlain]
  have hinside : (ofSource source).inside (i + 3) k w (⟨l, i, .plain [], false⟩ :: groups) names =
      ⟨⟨source ++ ')' :: w, i + 3, false⟩, Level.empty (i + 3), ⟨l, i, .plain [], false⟩ :: groups,
        k, names⟩ := by
    simp only [inside, ofSource, Cursor.ofSource, Cursor.inside, Level.shift, Level.empty,
      List.map_nil, List.nil_append, shiftPlaces, Nat.zero_add]
  have hlt : source.length + 1 + w.length < m := by omega
  rw [← hinside]
  exact run_inside (numbered_ofSource source) hs (Nat.lt_succ_self _) hlt (Tree.run_of_ofSource h)

theorem exists_run_of_plain (h : Tree.ofSource source = .ok t) (hs : '#' ∉ source)
    (hm : source.length + 2 + w.length < m)
    (H : run m ⟨⟨'(' :: '?' :: ':' :: (source ++ ')' :: w), i, false⟩, l, groups, k, names⟩ =
      .ok T) :
    ∃ stop m' names', w.length < m' ∧ run m' ⟨⟨w, stop, false⟩,
      l.push (.group ⟨i, stop⟩ (.plain []) (t.shift (i + 3) k)), groups, t.captures.length + k,
      names'⟩ = .ok T := by
  rcases run_plain i k l groups names h hs hm with ⟨stop, m', names', hm', hrun⟩ | ⟨-, hno⟩
  · exact ⟨stop, m', names', hm', hrun ▸ H⟩
  · exact absurd H (hno T)

end Reader

/-- **The tree of a choice.** -/
theorem Tree.ofSource_choice {ta tb T : Tree} (ha : Tree.ofSource a = .ok ta)
    (hb : Tree.ofSource b = .ok tb) (hna : '#' ∉ a) (hnb : '#' ∉ b)
    (h : Tree.ofSource (choice a b) = .ok T) :
    ∃ e ea eb d, T = .alternation e [.group ea (.plain []) (ta.shift 3 0),
      .group eb (.plain []) (tb.shift d ta.captures.length)] := by
  have hlength : (choice a b).length + 1 = a.length + b.length + 10 := by
    simp only [choice_eq, List.length_cons, List.length_append, List.length_nil]
    omega
  have hrun := Tree.run_of_ofSource h
  rw [hlength, Reader.ofSource, Cursor.ofSource, choice_eq] at hrun
  obtain ⟨i, m, names, hm, hrun⟩ := Reader.exists_run_of_plain ha hna
    (by simp only [List.length_cons, List.length_append, List.length_nil]; omega) hrun
  simp only [List.length_cons, List.length_append, List.length_nil] at hm
  obtain ⟨m, rfl⟩ : ∃ m', m = m' + 1 := ⟨m - 1, by omega⟩
  rw [Reader.run_bar] at hrun
  obtain ⟨stop, m, names, hm, hrun⟩ := Reader.exists_run_of_plain hb hnb
    (by simp only [List.length_nil]; omega) hrun
  obtain ⟨m, rfl⟩ : ∃ m', m = m' + 1 := ⟨m - 1, by omega⟩
  obtain rfl := Except.ok.inj hrun
  exact ⟨_, _, _, _, rfl⟩

/-! ## Meanings -/

section Meaning

variable {x : Extent} {t u : Tree} {f f' : Flags} {e e' : Expr}

/-- What is set inside of parentheses is not set behind them. -/
theorem Tree.meaning_plain (h : t.meaning f = .ok (e, f')) :
    (Tree.group x (.plain []) t).meaning f = .ok (e, f) := by
  have hinside : t.meaning (f.change []) = .ok (e, f') := h
  simp only [Tree.meaning, hinside]
  rfl

theorem Tree.meaning_alternation (ht : t.meaning f = .ok (e, f)) (hu : u.meaning f = .ok (e', f)) :
    (Tree.alternation x [t, u]).meaning f = .ok (.alternatives [e, e'], f) := by
  simp only [Tree.meaning, Tree.allMeanings, ht, bind, Except.bind, hu]
  rfl

end Meaning

namespace Expr

theorem exists_meaning {source : Text} {e : Expr} {t : Tree} (h : Expr.ofSource source = .ok e)
    (ht : Tree.ofSource source = .ok t) : ∃ f, t.meaning {} = .ok (e, f) := by
  obtain ⟨t', ht', h⟩ := bind_eq_ok.1 h
  obtain ⟨⟨e', f⟩, hmeaning, h⟩ := bind_eq_ok.1 h
  obtain rfl := Except.ok.inj (ht'.symm.trans ht)
  obtain rfl := Except.ok.inj h
  exact ⟨f, hmeaning⟩

theorem exists_tree {source : Text} {e : Expr} (h : Expr.ofSource source = .ok e) :
    ∃ t, Tree.ofSource source = .ok t := by
  obtain ⟨t, ht, -⟩ := bind_eq_ok.1 h
  exact ⟨t, ht⟩

/-- **What a choice means.** -/
theorem ofSource_choice {ea eb e : Expr} {ta : Tree} (ha : Expr.ofSource a = .ok ea)
    (hta : Tree.ofSource a = .ok ta) (hb : Expr.ofSource b = .ok eb) (hna : '#' ∉ a) (hnb : '#' ∉ b)
    (h : Expr.ofSource (choice a b) = .ok e) :
    e = alternatives [ea, eb.renumber ta.captures.length] := by
  obtain ⟨tb, htb⟩ := exists_tree hb
  obtain ⟨T, hT⟩ := exists_tree h
  obtain ⟨fa, hea⟩ := exists_meaning ha hta
  obtain ⟨fb, heb⟩ := exists_meaning hb htb
  obtain ⟨f, hmeaning⟩ := exists_meaning h hT
  obtain ⟨x, xa, xb, d, rfl⟩ := Tree.ofSource_choice hta htb hna hnb hT
  have hfirst : (ta.shift 3 0).meaning {} = .ok (ea.renumber 0, fa) := Tree.meaning_shift ta hea
  have hsecond : (tb.shift d ta.captures.length).meaning {} = _ := Tree.meaning_shift tb heb
  rw [Tree.meaning_alternation (Tree.meaning_plain hfirst) (Tree.meaning_plain hsecond),
    renumber_zero] at hmeaning
  exact (Prod.mk.inj (Except.ok.inj hmeaning)).1.symm

end Expr
end Regex
end TextScan
