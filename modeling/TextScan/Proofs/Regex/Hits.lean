/-
# Hits

A search from one spot finds a hit that the program can reach from there, if there is any
(`finds_of_hitAt`, `closed_of_hitAt`).  A search that may start anywhere keeps what it visited in
vain, and so finds a hit at the first spot that has one (`hitFrom?_spec`).  For the program of an
expression the hits at a spot are the runs of the expression from there (`finds_ofExpr_iff`); each
is a match (`Expr.Yields.matchesIn`), and where there is a match there is one
(`Expr.exists_yields_of_matchesIn`).
-/

import TextScan.Proofs.Regex.Code
import TextScan.Proofs.Regex.Exploration

namespace TextScan
namespace Regex

/-- A hit of an expression at a spot: a run from there that starts with nothing remembered. -/
def Expr.Yields (e : Expr) (s : Spot) (h : Hit) : Prop :=
  ∃ y, e.Runs (s, []) y ∧ h = ⟨⟨s.offset, y.1.offset⟩, y.2⟩

/-- A hit at a spot of a text is a match there. -/
theorem Expr.Yields.matchesIn {e : Expr} {t : Text} {s : Spot} {h : Hit} (hy : e.Yields s h)
    (hs : s.IsIn t) : h.span.start = s.offset ∧ e.MatchesIn t s.offset h.span.stop := by
  obtain ⟨y, hy, rfl⟩ := hy
  have hm := hy.matches
  exact ⟨rfl, s, y.1, Spot.at?_eq_some_iff.2 ⟨hs, rfl⟩,
    Spot.at?_eq_some_iff.2 ⟨(hm.forward hs).1, rfl⟩, hm⟩

/-- A match in a text is a hit at one of its spots. -/
theorem Expr.exists_yields_of_matchesIn {e : Expr} {t : Text} {i j : Nat}
    (h : e.MatchesIn t i j) : ∃ s : Spot, s.IsIn t ∧ s.offset = i ∧ ∃ hit, e.Yields s hit := by
  obtain ⟨s, s', hs, -, hm⟩ := h
  obtain ⟨ms, hrun⟩ := exists_runs_of_matches hm []
  exact ⟨s, (Spot.at?_eq_some_iff.1 hs).1, (Spot.at?_eq_some_iff.1 hs).2, _, _, hrun, rfl⟩

namespace Program

/-- A hit of a program at a spot: an accepting thread that can be reached from there. -/
def Finds (p : Program) (s : Spot) (h : Hit) : Prop :=
  ∃ t : Thread, ((∃ n, Repeats p.Step n (threadAt 0 (s, [])) t) ∧
    p[t.address]? = some .accept) ∧ h = ⟨⟨s.offset, t.spot.offset⟩, t.marks⟩

theorem finds_ofExpr_iff {e : Expr} (he : e.Ordered) {s : Spot} {h : Hit} :
    (ofExpr e).Finds s h ↔ e.Yields s h := by
  unfold Finds Expr.Yields
  simp only [accepts_iff_runs he]
  constructor
  · rintro ⟨_, ⟨y, hy, rfl⟩, rfl⟩
    exact ⟨y, hy, rfl⟩
  · rintro ⟨y, hy, rfl⟩
    exact ⟨_, ⟨y, hy, rfl⟩, rfl⟩

end Program

variable {p : Program} {input : Text} {fuel : Nat} {v v' : Visited} {s : Spot} {h : Hit}

theorem finds_of_hitAt (hh : hitAt p fuel v s = .ok h) : p.Finds s h := by
  unfold hitAt at hh
  cases he : explore p fuel [⟨0, s, []⟩] v with
  | error v' => simp [he, Except.map] at hh
  | ok t =>
    rw [he] at hh
    obtain rfl := Except.ok.inj hh
    obtain ⟨hacc, u, hu, hn⟩ := reaches_of_explore he
    obtain rfl := List.mem_singleton.1 hu
    exact ⟨t, ⟨hn, hacc⟩, rfl⟩

/-- A search in vain from a spot leaves the visited places closed, and nothing was to be found. -/
theorem closed_of_hitAt (hfuel : searchFuel p input ≤ fuel) (hfits : v.Fits p (Text.size input))
    (hclosed : Closed p input v []) (hs : s.IsIn input) (hh : hitAt p fuel v s = .error v') :
    v'.Fits p (Text.size input) ∧ Closed p input v' [] ∧ ∀ h, ¬p.Finds s h := by
  unfold hitAt at hh
  cases he : explore p fuel [⟨0, s, []⟩] v with
  | ok t => simp [he, Except.map] at hh
  | error w =>
    rw [he] at hh
    obtain rfl := Except.error.inj hh
    have hle := Visited.unvisited_le p input v
    have hclosed' : Closed p input v [⟨0, s, []⟩] :=
      ⟨fun hin hv hstep => (hclosed.next hin hv hstep).imp_right (Or.imp_right (by simp)),
        hclosed.rejects⟩
    obtain ⟨hf, hc, hseen⟩ := closed_of_explore
      (by unfold searchFuel at hfuel; simp only [List.length_singleton]; omega) hfits
      (fun t ht => by obtain rfl := List.mem_singleton.1 ht; exact hs) hclosed' he
    refine ⟨hf, hc, ?_⟩
    rintro h ⟨t, ⟨⟨n, hn⟩, hacc⟩, -⟩
    have hstart : Seen p v [⟨0, s, []⟩] (threadAt 0 (s, [])).place :=
      Or.inr (Or.inr ⟨_, List.mem_singleton_self _, rfl⟩)
    have hin : (threadAt 0 (s, [])).spot.IsIn input := hs
    exact hc.not_accepts hin (hseen hstart) hn hacc

/-- The search that goes from spot to spot stops at the first one with a hit. -/
theorem hitFrom?_spec {text : Text} {before : Option Char} {offset : Nat}
    (hfuel : searchFuel p input ≤ fuel) (hfits : v.Fits p (Text.size input))
    (hclosed : Closed p input v []) (hs : Spot.IsIn input ⟨before, text, offset⟩) :
    match hitFrom? p fuel v before offset text with
    | some h => ∃ s : Spot, s.IsIn input ∧ p.Finds s h ∧
        ∀ s' : Spot, s'.IsIn input → offset ≤ s'.offset → s'.offset < s.offset →
          ∀ h', ¬p.Finds s' h'
    | none => ∀ s' : Spot, s'.IsIn input → offset ≤ s'.offset → ∀ h', ¬p.Finds s' h' := by
  induction text generalizing v before offset with
  | nil =>
    rw [hitFrom?]
    cases hh : hitAt p fuel v ⟨before, [], offset⟩ with
    | ok h =>
      refine ⟨_, hs, finds_of_hitAt hh, fun s' _ ho ho' => ?_⟩
      exact absurd ho' (Nat.not_lt.2 ho)
    | error v' =>
      obtain ⟨-, -, hnone⟩ := closed_of_hitAt hfuel hfits hclosed hs hh
      intro s' hs' ho
      rcases Nat.lt_or_eq_of_le ho with ho | ho
      · obtain ⟨c, r, hr, -⟩ := hs.exists_past hs' ho
        exact absurd hr (by simp)
      · rw [← hs.eq_of_offset hs' ho]
        exact hnone
  | cons c text ih =>
    rw [hitFrom?]
    cases hh : hitAt p fuel v ⟨before, c :: text, offset⟩ with
    | ok h =>
      refine ⟨_, hs, finds_of_hitAt hh, fun s' _ ho ho' => ?_⟩
      exact absurd ho' (Nat.not_lt.2 ho)
    | error v' =>
      obtain ⟨hf, hc, hnone⟩ := closed_of_hitAt hfuel hfits hclosed hs hh
      have hnext := ih hf hc (hs.past rfl)
      -- Nothing starts here, so the spots from here on are those behind the next character.
      have hskip : ∀ s' : Spot, s'.IsIn input → offset ≤ s'.offset →
          (∀ h', ¬p.Finds s' h') ∨ offset + c.utf8Size ≤ s'.offset := fun s' hs' ho => by
        rcases Nat.lt_or_eq_of_le ho with ho | ho
        · obtain ⟨d, r, hr, ho⟩ := hs.exists_past hs' ho
          obtain ⟨rfl, rfl⟩ := List.cons.inj hr
          exact Or.inr ho
        · rw [← hs.eq_of_offset hs' ho]
          exact Or.inl hnone
      dsimp only
      cases hrest : hitFrom? p fuel v' (some c) (offset + c.utf8Size) text with
      | none =>
        rw [hrest] at hnext
        intro s' hs' ho
        exact (hskip s' hs' ho).elim id (hnext s' hs')
      | some h =>
        rw [hrest] at hnext
        obtain ⟨s, hin, hfinds, hfirst⟩ := hnext
        refine ⟨s, hin, hfinds, fun s' hs' ho ho' => ?_⟩
        exact (hskip s' hs' ho).elim id fun ho => hfirst s' hs' ho ho'

variable {e : Expr}

/-- **The anchored search.**  It finds a hit at the start of the text, if there is one. -/
theorem hit?_anchored (he : e.Ordered) (input : Text) :
    match (Program.ofExpr e).hit? .anchored input with
    | some h => e.Yields (Spot.start input) h
    | none => ∀ h, ¬e.Yields (Spot.start input) h := by
  have hfits := Visited.fits_none (Program.ofExpr e) (Text.size input)
  have hclosed := closed_none (Program.ofExpr e) input (Text.size input)
  simp only [← Program.finds_ofExpr_iff he]
  unfold Program.hit?
  dsimp only
  cases hh : hitAt (Program.ofExpr e) (searchFuel (Program.ofExpr e) input)
      (Visited.none (Program.ofExpr e) (Text.size input)) (Spot.start input) with
  | ok h => exact finds_of_hitAt hh
  | error v' => exact (closed_of_hitAt (Nat.le_refl _) hfits hclosed (Spot.isIn_start input) hh).2.2

/-- **The search for the first hit.**  It finds a hit at the first spot of the text that has one. -/
theorem hit?_leftmost (he : e.Ordered) (input : Text) :
    match (Program.ofExpr e).hit? .leftmost input with
    | some h => ∃ s : Spot, s.IsIn input ∧ e.Yields s h ∧
        ∀ s' : Spot, s'.IsIn input → s'.offset < s.offset → ∀ h', ¬e.Yields s' h'
    | none => ∀ s : Spot, s.IsIn input → ∀ h, ¬e.Yields s h := by
  have hspec := hitFrom?_spec (Nat.le_refl (searchFuel (Program.ofExpr e) input))
    (Visited.fits_none (Program.ofExpr e) (Text.size input))
    (closed_none (Program.ofExpr e) input (Text.size input)) (Spot.isIn_start input)
  simp only [Program.finds_ofExpr_iff he, Nat.zero_le, true_implies] at hspec
  exact hspec

end Regex
end TextScan
