/-
# What the code of an expression does

A stretch of a program from the address `lo` up to `hi` *does* a relation between two addresses
`start` and `exit` if a thread gets from one to the other exactly along the relation (`Does`): it
gets there whenever the relation holds, and every way out of the stretch passes `exit`, at a trail
that the relation allows.  Ways are counted in steps, for a loop comes back to its head and only the
number of steps that are left goes down (`Does.loop`).

Stretches are put together as the code of an expression is: one after the other (`Does.then`), two
beside each other behind a fork (`Does.either`), and around a loop.  So the code of an expression
does what the expression runs (`does_code`), and a program accepts exactly behind a run of its
expression (`accepts_iff_runs`).
-/

import TextScan.Proofs.Regex.Matching

namespace TextScan
namespace Regex

/-- The thread at an address with a trail. -/
def threadAt (address : Nat) (x : Trail) : Thread := ⟨address, x.1, x.2⟩

@[simp] theorem address_threadAt (a : Nat) (x : Trail) : (threadAt a x).address = a := rfl

namespace Program

/-- A thread goes on as another one. -/
def Step (p : Program) (t u : Thread) : Prop := ∃ i, p[t.address]? = some i ∧ u ∈ i.next t

/-- Code stands in a program from an address on. -/
def Has (p : Program) (pc : Nat) (insts : List Inst) : Prop :=
  ∀ k, k < insts.length → p[pc + k]? = insts[k]?

/-- The stretch from `lo` up to `hi` leads from `start` to `exit` along a relation, and out of it in
no other way. -/
structure Does (p : Program) (lo hi start exit : Nat) (r : Trail → Trail → Prop) : Prop where
  enter : ∀ {x y}, r x y → ∃ n, Repeats p.Step n (threadAt start x) (threadAt exit y)
  leave : ∀ {n x t}, Repeats p.Step n (threadAt start x) t → ¬(lo ≤ t.address ∧ t.address < hi) →
    ∃ m y, m ≤ n ∧ r x y ∧ Repeats p.Step m (threadAt exit y) t

variable {p : Program} {lo hi pc : Nat} {i : Inst} {c d : List Inst}

theorem Has.left (h : p.Has pc (c ++ d)) : p.Has pc c := fun k hk => by
  rw [h k (by rw [List.length_append]; omega), List.getElem?_append_left hk]

theorem Has.right (h : p.Has pc (c ++ d)) : p.Has (pc + c.length) d := fun k hk => by
  rw [Nat.add_assoc, h _ (by rw [List.length_append]; omega),
    List.getElem?_append_right (by omega), Nat.add_sub_cancel_left]

theorem Has.head (h : p.Has pc (i :: c)) : p[pc]? = some i := by
  simpa using h 0 (by simp)

theorem Has.tail (h : p.Has pc (i :: c)) : p.Has (pc + 1) c := Has.right (c := [i]) h

namespace Does

variable {start mid exit : Nat} {r q : Trail → Trail → Prop}

/-- A stretch of a larger stretch. -/
theorem mono {lo' hi' : Nat} (h : Does p lo hi start exit r) (hlo : lo' ≤ lo) (hhi : hi ≤ hi') :
    Does p lo' hi' start exit r :=
  ⟨h.enter, fun hp ht => h.leave hp fun ht' => ht ⟨by omega, by omega⟩⟩

theorem congr (h : Does p lo hi start exit r) (hrq : ∀ x y, r x y ↔ q x y) :
    Does p lo hi start exit q := by
  refine ⟨fun hq => h.enter ((hrq _ _).2 hq), fun hp ht => ?_⟩
  obtain ⟨m, y, hm, hr, hp'⟩ := h.leave hp ht
  exact ⟨m, y, hm, (hrq _ _).1 hr, hp'⟩

theorem nothing : Does p lo hi start start (fun x y => y = x) := by
  refine ⟨?_, fun {n x _} hp _ => ⟨n, x, Nat.le_refl n, rfl, hp⟩⟩
  rintro x _ rfl
  exact ⟨0, rfl⟩

/-- One stretch after another. -/
protected theorem «then» (h : Does p lo hi start mid r) (h' : Does p lo hi mid exit q) :
    Does p lo hi start exit (fun x y => ∃ z, r x z ∧ q z y) := by
  refine ⟨?_, fun hp ht => ?_⟩
  · rintro x y ⟨z, hr, hq⟩
    obtain ⟨m, hm⟩ := h.enter hr
    obtain ⟨n, hn⟩ := h'.enter hq
    exact ⟨m + n, hm.append hn⟩
  · obtain ⟨m, z, hm, hr, hp⟩ := h.leave hp ht
    obtain ⟨k, y, hk, hq, hp⟩ := h'.leave hp ht
    exact ⟨k, y, Nat.le_trans hk hm, ⟨z, hr, hq⟩, hp⟩

/-- One instruction. -/
theorem single (hlo : lo ≤ start) (hhi : start < hi) (hinst : p[start]? = some i)
    (hnext : ∀ x u, u ∈ i.next (threadAt start x) ↔ ∃ y, r x y ∧ u = threadAt exit y) :
    Does p lo hi start exit r := by
  refine ⟨fun {x y} hr => ⟨1, threadAt exit y, ⟨i, hinst, (hnext x _).2 ⟨y, hr, rfl⟩⟩, rfl⟩, ?_⟩
  intro n x t hp ht
  cases n with
  | zero =>
    obtain rfl : t = threadAt start x := hp
    exact absurd ⟨hlo, hhi⟩ ht
  | succ n =>
    obtain ⟨u, ⟨j, hj, hu⟩, hp⟩ := hp
    obtain rfl : i = j := Option.some.inj (hinst.symm.trans hj)
    obtain ⟨y, hr, rfl⟩ := (hnext x u).1 hu
    exact ⟨n, y, Nat.le_succ n, hr, hp⟩

/-- Two stretches behind a fork. -/
theorem either {first second : Nat} (hlo : lo ≤ start) (hhi : start < hi)
    (hinst : p[start]? = some i)
    (hnext : ∀ x u, u ∈ i.next (threadAt start x) ↔ u = threadAt first x ∨ u = threadAt second x)
    (h : Does p lo hi first exit r) (h' : Does p lo hi second exit q) :
    Does p lo hi start exit (fun x y => r x y ∨ q x y) := by
  refine ⟨?_, ?_⟩
  · rintro x y (hr | hq)
    · obtain ⟨n, hn⟩ := h.enter hr
      exact ⟨n + 1, _, ⟨i, hinst, (hnext x _).2 (Or.inl rfl)⟩, hn⟩
    · obtain ⟨n, hn⟩ := h'.enter hq
      exact ⟨n + 1, _, ⟨i, hinst, (hnext x _).2 (Or.inr rfl)⟩, hn⟩
  · intro n x t hp ht
    cases n with
    | zero =>
      obtain rfl : t = threadAt start x := hp
      exact absurd ⟨hlo, hhi⟩ ht
    | succ n =>
      obtain ⟨u, ⟨j, hj, hu⟩, hp⟩ := hp
      obtain rfl : i = j := Option.some.inj (hinst.symm.trans hj)
      rcases (hnext x u).1 hu with rfl | rfl
      · obtain ⟨m, y, hm, hr, hp⟩ := h.leave hp ht
        exact ⟨m, y, Nat.le_succ_of_le hm, Or.inl hr, hp⟩
      · obtain ⟨m, y, hm, hq, hp⟩ := h'.leave hp ht
        exact ⟨m, y, Nat.le_succ_of_le hm, Or.inr hq, hp⟩

/-- A stretch that leads back to a fork into it or out. -/
theorem loop {body : Nat} (hlo : lo ≤ start) (hhi : start < hi) (hinst : p[start]? = some i)
    (hnext : ∀ x u, u ∈ i.next (threadAt start x) ↔ u = threadAt body x ∨ u = threadAt exit x)
    (h : Does p lo hi body start r) :
    Does p lo hi start exit (fun x y => ∃ k, Repeats r k x y) := by
  refine ⟨?_, ?_⟩
  · rintro x y ⟨k, hk⟩
    induction k generalizing x with
    | zero =>
      obtain rfl : y = x := hk
      exact ⟨1, _, ⟨i, hinst, (hnext y _).2 (Or.inr rfl)⟩, rfl⟩
    | succ k ih =>
      obtain ⟨z, hz, hk⟩ := hk
      obtain ⟨m, hm⟩ := h.enter hz
      obtain ⟨n, hn⟩ := ih hk
      exact ⟨m + n + 1, _, ⟨i, hinst, (hnext x _).2 (Or.inl rfl)⟩, hm.append hn⟩
  · intro n
    -- The steps that are left go down from one visit of the head to the next.
    induction n using Nat.strongRecOn with
    | ind n ih =>
      intro x t hp ht
      cases n with
      | zero =>
        obtain rfl : t = threadAt start x := hp
        exact absurd ⟨hlo, hhi⟩ ht
      | succ n =>
        obtain ⟨u, ⟨j, hj, hu⟩, hp⟩ := hp
        obtain rfl : i = j := Option.some.inj (hinst.symm.trans hj)
        rcases (hnext x u).1 hu with rfl | rfl
        · obtain ⟨m, z, hm, hz, hp⟩ := h.leave hp ht
          obtain ⟨m', y, hm', ⟨k, hk⟩, hp⟩ := ih m (by omega) hp ht
          exact ⟨m', y, by omega, ⟨k + 1, z, hz, hk⟩, hp⟩
        · exact ⟨n, x, Nat.le_succ n, ⟨0, rfl⟩, hp⟩

end Does
end Program
end Regex
end TextScan
