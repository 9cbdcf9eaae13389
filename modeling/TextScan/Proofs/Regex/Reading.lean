/-
# The steps of a reader

`Reader.Move` lists what one step of a reader can do to what it has read: it keeps an item that has
no parts, ends a branch, opens a group of one of three kinds, closes the innermost one, or puts the
latest item under a repetition.  Every step that does not fail is one of these (`Reader.move_of_step`),
so what they keep holds of the reader at the end of a source (`Reader.run_keeps`).
-/

import TextScan.Regex.Reader

namespace TextScan
namespace Regex

/-- A sequence of two steps succeeds if both do. -/
theorem bind_eq_ok {ε α β : Type} {x : Except ε α} {f : α → Except ε β} {b : β} :
    (x >>= f) = .ok b ↔ ∃ a, x = .ok a ∧ f a = .ok b := by
  cases x with
  | error e => simp [bind, Except.bind]
  | ok a => simp [bind, Except.bind]

theorem map_eq_ok {ε α β : Type} {x : Except ε α} {f : α → β} {b : β} :
    x.map f = .ok b ↔ ∃ a, x = .ok a ∧ f a = b := by
  cases x with
  | error e => simp [Except.map]
  | ok a => simp [Except.map]

/-- A tree that has no parts that are trees. -/
inductive Tree.IsLeaf : Tree → Prop where
  | flags (change : FlagChange) : IsLeaf (.flags change)
  | atom (a : Atom) : IsLeaf (.atom a)
  | bracket (s : SetTree) : IsLeaf (.bracket s)

/-- The bounds of a repetition are in order. -/
def Bounds.InOrder (b : Bounds) : Prop := ∀ m, b.most = some m → b.least ≤ m

namespace Cursor

/-- A count that is read has its bounds in order. -/
theorem inOrder_of_count {c c' : Cursor} {b : Bounds} {greedy : Bool}
    (h : c.count = .ok (b, greedy, c')) : b.InOrder := by
  unfold Cursor.count at h
  dsimp only at h
  split at h
  · exact absurd h (by simp [fail])
  · obtain ⟨⟨bounds, c₃⟩, -, h⟩ := bind_eq_ok.1 h
    dsimp only at h
    split at h
    · split at h
      · rename_i hall
        obtain ⟨rfl, -⟩ := Prod.mk.inj (Except.ok.inj h)
        intro m hm
        simpa [hm] using hall
      · exact absurd h (by simp [fail])
    · exact absurd h (by simp [fail])

theorem inOrder_of_signBounds? {ch : Char} {b : Bounds} (h : Cursor.signBounds? ch = some b) :
    b.InOrder := by
  unfold Cursor.signBounds? at h
  split at h
  · obtain rfl := Option.some.inj h
    exact fun m _ => Nat.zero_le m
  · obtain rfl := Option.some.inj h
    exact fun m _ => Nat.zero_le m
  · obtain rfl := Option.some.inj h
    exact fun m hm => by simp at hm
  · exact absurd h (by simp)

theorem sign_fst (b : Bounds) (c : Cursor) : (c.sign b).1 = b := by
  unfold Cursor.sign
  dsimp only
  split <;> rfl

/-- A group that is opened has the next number, and the place of its name if it has one. -/
theorem paren_capture {c c' : Cursor} {number k : Nat} {name : Option Text} {e : Option Extent}
    (h : c.paren number = .ok (.group (.capture k name) e, c')) :
    k = number ∧ name.isSome = e.isSome := by
  unfold Cursor.paren at h
  dsimp only at h
  split at h
  · exact absurd h (by simp [fail])
  split at h
  · obtain ⟨⟨n, x, after⟩, -, h⟩ := bind_eq_ok.1 h
    obtain ⟨hp, -⟩ := Prod.mk.inj (Except.ok.inj h)
    simp only [Paren.group.injEq, GroupKind.capture.injEq] at hp
    obtain ⟨⟨rfl, rfl⟩, rfl⟩ := hp
    exact ⟨rfl, rfl⟩
  split at h
  · split at h
    · exact absurd h (by simp [fail])
    · unfold Cursor.flagsOrGroup at h
      obtain ⟨⟨items, rest, index⟩, -, h⟩ := bind_eq_ok.1 h
      dsimp only at h
      split at h
      · exact absurd h (by simp [fail])
      split at h
      · split at h
        · exact absurd h (by simp [fail])
        · exact absurd h (by simp [pure, Except.pure])
      · exact absurd h (by simp [pure, Except.pure])
  · obtain ⟨hp, -⟩ := Prod.mk.inj (Except.ok.inj h)
    simp only [Paren.group.injEq, GroupKind.capture.injEq] at hp
    obtain ⟨⟨rfl, rfl⟩, rfl⟩ := hp
    exact ⟨rfl, rfl⟩

end Cursor

namespace Reader

/-- What a step of a reader does to what was read. -/
inductive Move (r : Reader) : Reader → Prop where
  | leaf {t : Tree} (ht : t.IsLeaf) (c : Cursor) : Move r (r.push t c)
  | bar (index : Nat) (c : Cursor) : Move r { r with cursor := c, level := r.level.bar index }
  | plain (change : FlagChange) (index paren : Nat) (verbose : Bool) (c : Cursor) :
    Move r ⟨c, Level.empty index, ⟨r.level, paren, .plain change, verbose⟩ :: r.groups, r.captures,
      r.names⟩
  | unnamed (index paren : Nat) (verbose : Bool) (c : Cursor) :
    Move r ⟨c, Level.empty index, ⟨r.level, paren, .capture (r.captures + 1) none, verbose⟩ ::
      r.groups, r.captures + 1, r.names⟩
  | named {name : Text} (hnew : r.names.find? (·.1 == name) = none) (e : Extent)
    (index paren : Nat) (verbose : Bool) (c : Cursor) :
    Move r ⟨c, Level.empty index, ⟨r.level, paren, .capture (r.captures + 1) (some name), verbose⟩ ::
      r.groups, r.captures + 1, (name, e) :: r.names⟩
  | close {g : OpenGroup} {groups : List OpenGroup} (hg : r.groups = g :: groups) (e : Extent)
    (stop : Nat) (c : Cursor) :
    Move r { r with
      cursor := c, level := g.outer.push (.group e g.kind (r.level.close stop)), groups := groups }
  | repeated {t : Tree} {items : List Tree} (ht : r.level.items = t :: items) {b : Bounds}
    (hb : b.InOrder) (e : Extent) (greedy : Bool) (c : Cursor) :
    Move r { r with
      cursor := c, level := { r.level with items := .repetition e b greedy t :: items } }

variable {r r' : Reader} {c : Cursor}

theorem move_of_openParen (h : r.openParen c = .ok r') : r.Move r' := by
  unfold openParen at h
  obtain ⟨⟨p, c'⟩, hparen, h⟩ := bind_eq_ok.1 h
  cases p with
  | flags change =>
    obtain rfl := Except.ok.inj h
    exact .leaf (.flags change) _
  | group kind name =>
    cases kind with
    | plain change =>
      obtain rfl := Except.ok.inj h
      exact .plain change _ _ _ _
    | capture k n =>
      obtain ⟨rfl, hname⟩ := Cursor.paren_capture hparen
      cases n with
      | none =>
        obtain rfl := Except.ok.inj h
        exact .unnamed _ _ _ _
      | some n =>
        obtain ⟨e, rfl⟩ := Option.isSome_iff_exists.1 hname.symm
        dsimp only at h
        cases hnew : r.names.find? (·.1 == n) with
        | some p =>
          rw [hnew] at h
          exact absurd h (by simp [bind, Except.bind])
        | none =>
          rw [hnew] at h
          obtain rfl := Except.ok.inj h
          exact .named hnew e _ _ _ _

theorem move_of_closeParen (h : r.closeParen c = .ok r') : r.Move r' := by
  unfold closeParen at h
  split at h
  · exact absurd h (by simp [fail])
  · rename_i g groups hg
    obtain rfl := Except.ok.inj h
    exact .close hg _ _ _

theorem move_of_repeated {read : Except Fault (Bounds × Bool × Cursor)}
    (hread : ∀ {b greedy c'}, read = .ok (b, greedy, c') → b.InOrder)
    (h : r.repeated c read = .ok r') : r.Move r' := by
  unfold repeated at h
  split at h
  · exact absurd h (by simp [fail])
  · exact absurd h (by simp [fail])
  · exact absurd h (by simp [fail])
  · rename_i t items _ _ ht
    obtain ⟨⟨b, greedy, c'⟩, hb, rfl⟩ := map_eq_ok.1 h
    exact .repeated ht (hread hb) _ greedy c'

/-- **What a step does.** -/
theorem move_of_step {ch : Char} (h : r.step ch c = .ok r') : r.Move r' := by
  unfold step at h
  split at h
  · exact move_of_openParen h
  split at h
  · exact move_of_closeParen h
  split at h
  · obtain rfl := Except.ok.inj h
    exact .bar _ _
  split at h
  · obtain ⟨p, -, rfl⟩ := map_eq_ok.1 h
    exact .leaf (.bracket p.1) p.2
  split at h
  · exact move_of_repeated Cursor.inOrder_of_count h
  split at h
  · rename_i bounds hbounds
    refine move_of_repeated (fun {b greedy c'} hb => ?_) h
    obtain rfl : b = bounds := by rw [← Cursor.sign_fst bounds c, Except.ok.inj hb]
    exact Cursor.inOrder_of_signBounds? hbounds
  · obtain ⟨p, -, rfl⟩ := map_eq_ok.1 h
    exact .leaf (.atom p.1) p.2

variable {fuel : Nat} {t : Tree} {ch : Char} {rest : Text}

theorem run_nil (h : r.cursor.skipBlanks.rest = []) :
    run (fuel + 1) r = r.finish r.cursor.skipBlanks.index := by
  simp only [run, h]

theorem run_cons (h : r.cursor.skipBlanks.rest = ch :: rest) :
    run (fuel + 1) r = (r.step ch r.cursor.skipBlanks).bind (run fuel) := by
  simp only [run, h]
  rfl

/-- What every move keeps holds at the end. -/
theorem run_keeps {P : Reader → Prop} (hmove : ∀ {r r' : Reader}, P r → r.Move r' → P r')
    (hr : P r) (h : run fuel r = .ok t) :
    ∃ r' stop, P r' ∧ r'.groups = [] ∧ t = r'.level.close stop := by
  have hfinish : ∀ {r stop}, P r → r.finish stop = .ok t →
      ∃ r' stop, P r' ∧ r'.groups = [] ∧ t = r'.level.close stop := by
    intro r stop hr h
    unfold finish at h
    split at h
    · rename_i hgroups
      exact ⟨r, stop, hr, hgroups, (Except.ok.inj h).symm⟩
    · exact absurd h (by simp [fail])
  induction fuel generalizing r with
  | zero => exact hfinish hr h
  | succ fuel ih =>
    cases hrest : r.cursor.skipBlanks.rest with
    | nil => exact hfinish hr (run_nil hrest ▸ h)
    | cons ch rest =>
      rw [run_cons hrest] at h
      obtain ⟨r', hstep, h⟩ := bind_eq_ok.1 h
      exact ih (hmove hr (move_of_step hstep)) h

end Reader

/-- **What every move keeps holds of the tree of a source.** -/
theorem Tree.ofSource_keeps {P : Reader → Prop} {source : Text} {t : Tree}
    (hmove : ∀ {r r' : Reader}, P r → r.Move r' → P r') (hr : P (Reader.ofSource source))
    (h : Tree.ofSource source = .ok t) :
    ∃ r stop, P r ∧ r.groups = [] ∧ t = r.level.close stop := by
  obtain ⟨t', hrun, h⟩ := bind_eq_ok.1 h
  have ht := Reader.run_keeps hmove hr hrun
  split at h
  · exact absurd h (by simp [fail])
  · obtain rfl := Except.ok.inj h
    exact ht

end Regex
end TextScan
