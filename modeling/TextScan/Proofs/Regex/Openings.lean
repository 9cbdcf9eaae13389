/-
# Every match has an opening

An opening opens some bytes if they start with it, and are no more if it is exact (`Opening.Opens`).
What puts openings together keeps that one of them opens a match.  So, where the openings of an
expression are known, one of them opens each of its matches (`Expr.exists_opens_of_matches`).

Those that are looked for are fewer and shorter, but every match still starts with one of them
(`Expr.exists_chosen_of_matches`): where none is found, there is no match.  An expression that
matches the empty text has an empty opening, and texts are not searched for in its place
(`Expr.isTexts_of_matches_empty`).
-/

import TextScan.Proofs.Regex.Matching
import TextScan.Regex.Openings

namespace TextScan
namespace Regex

theorem bytesOf_append (t u : Text) : bytesOf (t ++ u) = bytesOf t ++ bytesOf u :=
  List.flatMap_append

theorem bytesOf_flatten (ws : List Text) : bytesOf ws.flatten = (ws.map bytesOf).flatten := by
  induction ws with
  | nil => rfl
  | cons w ws ih => rw [List.flatten_cons, bytesOf_append, ih, List.map_cons, List.flatten_cons]

namespace Opening

/-- Bytes start with an opening, and are no more if it is exact. -/
def Opens (p : Opening) (bs : List UInt8) : Prop := p.bytes <+: bs ∧ (p.exact = true → bs = p.bytes)

/-- One of some openings opens bytes. -/
def Covered (ps : List Opening) (bs : List UInt8) : Prop := ∃ p ∈ ps, p.Opens bs

/-- Bytes start with one of some openings. -/
def Led (ps : List Opening) (bs : List UInt8) : Prop := ∃ p ∈ ps, p.bytes <+: bs

variable {p q : Opening} {ps qs : List Opening} {bs cs : List UInt8}

theorem opens_empty : empty.Opens [] := ⟨List.prefix_refl [], fun _ => rfl⟩

/-- To be exact is all that can be lost between openings with the same bytes. -/
theorem Opens.of_bytes_eq (h : p.Opens bs) (hbytes : q.bytes = p.bytes)
    (hexact : q.exact = true → p.exact = true) : q.Opens bs :=
  ⟨hbytes ▸ h.1, fun hq => (h.2 (hexact hq)).trans hbytes.symm⟩

theorem Opens.of_inexact (h : p.Opens bs) (hp : p.exact = false) (cs : List UInt8) :
    p.Opens (bs ++ cs) :=
  ⟨h.1.trans (List.prefix_append bs cs), fun hexact => by simp [hp] at hexact⟩

theorem Opens.inexact (h : p.Opens bs) (cs : List UInt8) : p.inexact.Opens (bs ++ cs) := by
  have hsame : p.inexact.Opens bs := ⟨h.1, fun hexact => by simp [Opening.inexact] at hexact⟩
  exact hsame.of_inexact rfl cs

theorem Opens.append (h : p.Opens bs) (hp : p.exact = true) (hq : q.Opens cs) :
    (p.append q).Opens (bs ++ cs) := by
  obtain rfl := h.2 hp
  exact ⟨(List.prefix_append_right_inj _).2 hq.1, fun hexact => congrArg _ (hq.2 hexact)⟩

theorem cut_bytes_start (n : Nat) (p : Opening) : (p.cut n).bytes <+: p.bytes := by
  unfold cut
  split
  · exact List.prefix_refl _
  · exact List.take_prefix n p.bytes

theorem Opens.cut (h : p.Opens bs) (n : Nat) : (p.cut n).Opens bs := by
  refine ⟨(cut_bytes_start n p).trans h.1, fun hexact => ?_⟩
  unfold Opening.cut at hexact ⊢
  split at hexact
  · rw [if_pos ‹_›]
    exact h.2 hexact
  · simp at hexact

theorem Covered.map {f : Opening → Opening} (h : Covered ps bs)
    (hf : ∀ p, p.Opens bs → (f p).Opens cs) : Covered (ps.map f) cs := by
  obtain ⟨p, hp, hopens⟩ := h
  exact ⟨f p, List.mem_map_of_mem hp, hf p hopens⟩

theorem Covered.append_left (h : Covered ps bs) (qs : List Opening) : Covered (ps ++ qs) bs := by
  obtain ⟨p, hp, hopens⟩ := h
  exact ⟨p, List.mem_append_left qs hp, hopens⟩

theorem Covered.append_right (h : Covered qs bs) (ps : List Opening) : Covered (ps ++ qs) bs := by
  obtain ⟨q, hq, hopens⟩ := h
  exact ⟨q, List.mem_append_right ps hq, hopens⟩

/-- Openings that are joined have their bytes, and are exact only if both were. -/
theorem exists_mem_joinEqual {P : Opening → Prop} (hP : ∀ {p q : Opening}, P p → q.bytes = p.bytes →
      (q.exact = true → p.exact = true) → P q) (h : ∃ p ∈ ps, P p) : ∃ p ∈ joinEqual ps, P p := by
  induction ps with
  | nil => exact h
  | cons p ps ih =>
    have hcases : P p ∨ ∃ q ∈ ps, P q := by simpa using h
    rw [joinEqual]
    cases hjoined : joinEqual ps with
    | nil =>
      refine hcases.elim (fun hp => ⟨p, List.mem_singleton_self p, hp⟩) fun hps => ?_
      obtain ⟨q, hq, -⟩ := hjoined ▸ ih hps
      exact absurd hq List.not_mem_nil
    | cons q qs =>
      dsimp only
      split
      · rename_i hbytes
        rcases hcases with hp | hps
        · exact ⟨_, List.mem_cons_self, hP hp rfl fun h => (Bool.and_eq_true_iff.1 h).1⟩
        · obtain ⟨r, hr, hp⟩ := hjoined ▸ ih hps
          rcases List.mem_cons.1 hr with rfl | hr
          · exact ⟨_, List.mem_cons_self, hP hp hbytes fun h => (Bool.and_eq_true_iff.1 h).2⟩
          · exact ⟨r, List.mem_cons_of_mem _ hr, hp⟩
      · rcases hcases with hp | hps
        · exact ⟨p, List.mem_cons_self, hp⟩
        · obtain ⟨r, hr, hp⟩ := hjoined ▸ ih hps
          exact ⟨r, List.mem_cons_of_mem _ hr, hp⟩

theorem Covered.joinEqual (h : Covered ps bs) : Covered (joinEqual ps) bs :=
  exists_mem_joinEqual (fun hp => hp.of_bytes_eq) h

/-! ### Openings to look for -/

theorem Covered.led (h : Covered ps bs) : Led ps bs := by
  obtain ⟨p, hp, hopens⟩ := h
  exact ⟨p, hp, hopens.1⟩

theorem Led.cut (h : Led ps bs) (n : Nat) : Led (ps.map (cut n)) bs := by
  obtain ⟨p, hp, hlead⟩ := h
  exact ⟨p.cut n, List.mem_map_of_mem hp, (cut_bytes_start n p).trans hlead⟩

theorem Led.joinEqual (h : Led ps bs) : Led (joinEqual ps) bs :=
  exists_mem_joinEqual (fun hp hbytes _ => hbytes ▸ hp) h

theorem led_addMinimal (h : Led ps bs ∨ p.bytes <+: bs) : Led (addMinimal ps p) bs := by
  unfold addMinimal
  split
  · rename_i hany
    refine h.elim id fun hp => ?_
    obtain ⟨q, hq, hstart⟩ := List.any_eq_true.1 hany
    exact ⟨q, hq, (List.isPrefixOf_iff_prefix.1 hstart).trans hp⟩
  · rcases h with ⟨q, hq, hlead⟩ | hp
    · exact ⟨q, List.mem_append_left _ hq, hlead⟩
    · exact ⟨p, List.mem_append_right _ (List.mem_singleton_self p), hp⟩

theorem led_foldl_addMinimal (h : Led qs bs ∨ Led ps bs) : Led (ps.foldl addMinimal qs) bs := by
  induction ps generalizing qs with
  | nil => exact h.resolve_right fun ⟨p, hp, _⟩ => List.not_mem_nil hp
  | cons p ps ih =>
    have hcases : (Led qs bs ∨ p.bytes <+: bs) ∨ Led ps bs := by
      simpa [Led, or_assoc] using h
    exact ih (hcases.imp_left led_addMinimal)

theorem Led.minimal (h : Led ps bs) : Led (minimal ps) bs := led_foldl_addMinimal (Or.inr h)

theorem Led.shortened (h : Led ps bs) (cuts : List (Nat × Nat)) : Led (shortened cuts ps) bs := by
  induction cuts generalizing ps with
  | nil => exact h
  | cons c cuts ih =>
    rw [Opening.shortened]
    split
    · exact h
    · exact ih (h.cut c.1).minimal

theorem Led.narrowed (h : Led ps bs) : Led (narrowed ps) bs := by
  unfold Opening.narrowed
  dsimp only
  split
  · exact (h.cut _).joinEqual
  · exact h

/-- What starts with one of some openings starts with one of those that are looked for. -/
theorem Led.chosen (h : Led ps bs) : Led (chosen ps) bs := by
  unfold Opening.chosen
  dsimp only
  split
  · exact (h.minimal.cut 1).joinEqual
  · split
    · exact h.minimal.narrowed
    · exact h.minimal.narrowed.shortened cuts

/-- Openings of nothing at all are no texts to look for. -/
theorem areTexts_of_covered_nil (h : Covered ps []) : areTexts ps = false := by
  obtain ⟨p, hp, hopens⟩ := h
  have hempty : p.bytes = [] := List.prefix_nil.1 hopens.1
  have hany : (ps.any fun p => p.bytes.isEmpty) = true :=
    List.any_eq_true.2 ⟨p, hp, by rw [hempty]; rfl⟩
  simp [areTexts, hany]

end Opening

namespace Openings

open Opening

/-- Openings, where they are known, cover bytes. -/
def Cover (s : Openings) (bs : List UInt8) : Prop := ∀ ps, s = some ps → Covered ps bs

variable {s t : Openings} {ps : List Opening} {bs cs : List UInt8}

theorem cover_some (h : Covered ps bs) : Cover (some ps) bs :=
  fun _ hps => Option.some.inj hps ▸ h

theorem cover_ofEmpty : ofEmpty.Cover [] :=
  cover_some ⟨Opening.empty, List.mem_singleton_self _, opens_empty⟩

theorem cover_ofText (t : Text) : (ofText t).Cover (bytesOf t) := by
  have hexact : Opens ⟨bytesOf t, true⟩ (bytesOf t) := ⟨List.prefix_refl _, fun _ => rfl⟩
  exact cover_some ⟨_, List.mem_singleton_self _, hexact.cut sizeLimit⟩

theorem cover_ofSet {set : CharSet} {c : Char} (h : set.contains c = true) :
    (ofSet set).Cover (bytesOf [c]) := by
  intro ps hps
  unfold ofSet at hps
  dsimp only at hps
  split at hps
  · obtain rfl := Option.some.inj hps
    obtain ⟨r, hr, hc⟩ := List.any_eq_true.1 h
    obtain ⟨hlow, hhigh⟩ : r.low ≤ c.toNat ∧ c.toNat ≤ r.high := by
      simpa [CharRange.contains] using hc
    refine ⟨⟨bytesOf [Char.ofNat c.toNat], true⟩, List.mem_flatMap.2 ⟨r, hr, ?_⟩, ?_⟩
    · exact List.mem_map.2 ⟨c.toNat, List.mem_range'_1.2 ⟨hlow, by omega⟩, rfl⟩
    · rw [Char.ofNat_toNat]
      exact ⟨List.prefix_refl _, fun _ => rfl⟩
  · exact absurd hps (by simp)

theorem Cover.inexact (h : s.Cover bs) (cs : List UInt8) : s.inexact.Cover (bs ++ cs) := by
  intro ps hps
  obtain ⟨qs, hqs, rfl⟩ := Option.map_eq_some_iff.1 hps
  exact (h qs hqs).map fun p hp => hp.inexact cs

theorem Cover.cross (h : Covered ps bs) (ht : t.Cover cs) : (cross ps t).Cover (bs ++ cs) := by
  obtain ⟨p, hp, hopens⟩ := h
  unfold Openings.cross
  split
  · rename_i qs hqs
    obtain ⟨q, hq, hopens'⟩ := ht qs (Option.filter_eq_some_iff.1 hqs).1
    refine cover_some (Covered.map (Covered.joinEqual ?_) fun p h => h.cut sizeLimit)
    cases hexact : p.exact with
    | true =>
      refine ⟨p.append q, List.mem_flatMap.2 ⟨p, hp, ?_⟩, hopens.append hexact hopens'⟩
      rw [if_pos hexact]
      exact List.mem_map_of_mem hq
    | false =>
      refine ⟨p, List.mem_flatMap.2 ⟨p, hp, ?_⟩, hopens.of_inexact hexact cs⟩
      simp [hexact]
  · split
    · exact fun _ h => absurd h (by simp)
    · exact cover_some ⟨p.inexact, List.mem_map_of_mem hp, hopens.inexact cs⟩

theorem Cover.before (hs : s.Cover bs) (ht : t.Cover cs) : (s.before t).Cover (bs ++ cs) := by
  intro rs hrs
  obtain ⟨ps, hps, hrs⟩ := Option.bind_eq_some_iff.1 hrs
  split at hrs
  · exact Cover.cross (hs ps hps) ht rs hrs
  · rename_i hnone
    obtain rfl := Option.some.inj hrs
    obtain ⟨p, hp, hopens⟩ := hs ps hps
    have hexact : p.exact = false :=
      Bool.eq_false_iff.2 fun hexact => hnone (List.any_eq_true.2 ⟨p, hp, hexact⟩)
    exact ⟨p, hp, hopens.of_inexact hexact cs⟩

/-- The openings of one expression or another cover what those of either do. -/
theorem cover_union (h : s.Cover bs ∨ t.Cover bs) : (s.union t).Cover bs := by
  have happend {ps qs : List Opening} (h : Covered ps bs ∨ Covered qs bs) :
      Covered (joinEqual (ps ++ qs)) bs :=
    (h.elim (·.append_left qs) (·.append_right ps)).joinEqual
  have hcut {ps : List Opening} (h : Covered ps bs) : Covered (joinEqual (ps.map (cut 4))) bs :=
    (h.map fun p h => h.cut 4).joinEqual
  unfold union
  split
  · rename_i ps qs
    replace h : Covered ps bs ∨ Covered qs bs := h.imp (· ps rfl) (· qs rfl)
    split
    · exact cover_some (happend h)
    · dsimp only
      split
      · exact cover_some (happend (h.imp hcut hcut))
      · exact fun _ h => absurd h (by simp)
  · exact fun _ h => absurd h (by simp)

theorem Cover.rounds {ws : List (List UInt8)} {n : Nat} (h : ∀ w ∈ ws, s.Cover w)
    (hn : n ≤ ws.length) :
    (Nat.repeat (fun t => Openings.before t s) n ofEmpty).Cover (ws.take n).flatten := by
  induction n with
  | zero => exact cover_ofEmpty
  | succ n ih =>
    rw [List.take_succ_eq_append_getElem hn, List.flatten_append, List.flatten_singleton]
    exact (ih (Nat.le_of_succ_le hn)).before (h _ (List.getElem_mem hn))

/-- The openings of a repetition cover bytes one after the other that the repeated ones cover. -/
theorem Cover.repeated {least : Nat} {most : Option Nat} {ws : List (List UInt8)}
    (hws : Within least most ws.length) (h : ∀ w ∈ ws, s.Cover w) (greedy : Bool) :
    (repeated least most greedy s).Cover ws.flatten := by
  unfold Openings.repeated
  split
  · -- none at all, or one and perhaps more behind it
    have hcases : ofEmpty.Cover ws.flatten ∨
        (if most = some 1 then s else s.inexact).Cover ws.flatten := by
      cases ws with
      | nil => exact Or.inl cover_ofEmpty
      | cons w ws =>
        right
        rw [List.flatten_cons]
        split
        · rename_i hone
          obtain rfl : ws = [] := by
            have := hws.2 1 hone
            simpa using this
          simpa using h w List.mem_cons_self
        · exact (h w List.mem_cons_self).inexact ws.flatten
    cases greedy with
    | true => exact cover_union hcases.symm
    | false => exact cover_union hcases
  · -- the first rounds, and perhaps more behind them
    have hrounds := Cover.rounds h (Nat.le_trans (Nat.min_le_left least roundLimit) hws.1)
    dsimp only
    split
    · rename_i hexact
      have hall : ws.take (min least roundLimit) = ws := by
        have := hws.2 least hexact.1
        exact List.take_of_length_le (by omega)
      rwa [hall] at hrounds
    · have hsplit : ws.flatten = (ws.take (min least roundLimit)).flatten ++
          (ws.drop (min least roundLimit)).flatten := by
        rw [← List.flatten_append, List.take_append_drop]
      rw [hsplit]
      exact hrounds.inexact _

end Openings

/-- Openings at a place cover what stands there: behind parts, with what these are; beside branches,
by itself. -/
def Place.Covers (bs : List UInt8) (t : Openings) : Place → Prop
  | .alone => t.Cover bs
  | .behind s => ∀ cs, s.Cover cs → t.Cover (cs ++ bs)
  | .beside _ => t.Cover bs

theorem Place.covers_put {bs : List UInt8} {t : Openings} (h : t.Cover bs) (p : Place) :
    p.Covers bs (p.put t) := by
  cases p with
  | alone => exact h
  | behind s => exact fun cs hs => hs.before h
  | beside s => exact Openings.cover_union (Or.inr h)

namespace Expr

open Opening

variable {e : Expr} {s s' : Spot}

/-- What the branches before cover stays covered. -/
theorem cover_beside (e : Expr) {t : Openings} {bs : List UInt8} (h : t.Cover bs) :
    (e.openings (.beside t)).Cover bs := by
  induction e generalizing t with
  | alt a b iha ihb => exact ihb (iha h)
  | _ => exact Openings.cover_union (Or.inl h)

/-- Matches one after the other read texts one after the other. -/
theorem exists_texts_of_repeats {n : Nat} {t : Openings}
    (he : ∀ {s s' : Spot}, e.Matches s s' → ∃ w, s.rest = w ++ s'.rest ∧ t.Cover (bytesOf w))
    (h : Repeats e.Matches n s s') : ∃ ws : List Text, ws.length = n ∧
      s.rest = ws.flatten ++ s'.rest ∧ ∀ w ∈ ws, t.Cover (bytesOf w) := by
  induction n generalizing s with
  | zero =>
    obtain rfl : s' = s := h
    exact ⟨[], rfl, rfl, fun w hw => absurd hw List.not_mem_nil⟩
  | succ n ih =>
    obtain ⟨u, hu, h⟩ := h
    obtain ⟨w, hw, hcover⟩ := he hu
    obtain ⟨ws, rfl, hws, hall⟩ := ih h
    refine ⟨w :: ws, rfl, by rw [hw, hws, List.flatten_cons, List.append_assoc], ?_⟩
    exact List.forall_mem_cons.2 ⟨hcover, hall⟩

/-- **The openings of an expression cover its matches**, at every place. -/
theorem exists_covers_of_matches (h : e.Matches s s') : ∃ w, s.rest = w ++ s'.rest ∧
    ∀ p : Place, p.Covers (bytesOf w) (e.openings p) := by
  induction e generalizing s s' with
  | empty =>
    obtain rfl : s' = s := h
    exact ⟨[], rfl, Place.covers_put Openings.cover_ofEmpty⟩
  | text t =>
    obtain ⟨r, hr, rfl⟩ := h
    exact ⟨t, hr, Place.covers_put (Openings.cover_ofText t)⟩
  | oneOf _ set =>
    obtain ⟨c, r, hr, hc, rfl⟩ := h
    exact ⟨[c], hr, Place.covers_put (Openings.cover_ofSet hc)⟩
  | anchor a =>
    obtain ⟨-, rfl⟩ := h
    exact ⟨[], rfl, Place.covers_put Openings.cover_ofEmpty⟩
  | group i _ e ih =>
    obtain ⟨w, hw, hcovers⟩ := ih h
    exact ⟨w, hw, Place.covers_put (hcovers .alone)⟩
  | times least most greedy e ih =>
    obtain ⟨n, hn, h⟩ := h
    obtain ⟨ws, rfl, hws, hall⟩ := exists_texts_of_repeats (fun h => by
      obtain ⟨w, hw, hcovers⟩ := ih h
      exact ⟨w, hw, hcovers .alone⟩) h
    refine ⟨ws.flatten, hws, Place.covers_put ?_⟩
    rw [bytesOf_flatten]
    exact Openings.Cover.repeated (by rwa [List.length_map])
      (List.forall_mem_map.2 hall) greedy
  | seq a b iha ihb =>
    obtain ⟨u, hm, hm'⟩ := h
    obtain ⟨v, hv, hcovers⟩ := iha hm
    obtain ⟨w, hw, hcovers'⟩ := ihb hm'
    refine ⟨v ++ w, by rw [hv, hw, List.append_assoc], fun p => ?_⟩
    have hboth {t : Openings} {bs : List UInt8} (ht : t.Cover bs) :
        (b.openings (.behind (a.openings (.behind t)))).Cover (bs ++ bytesOf (v ++ w)) := by
      rw [bytesOf_append, ← List.append_assoc]
      exact hcovers' (.behind _) _ (hcovers (.behind t) bs ht)
    cases p with
    | behind t => exact fun bs ht => hboth ht
    | alone => exact Place.covers_put (hboth Openings.cover_ofEmpty) .alone
    | beside t => exact Place.covers_put (hboth Openings.cover_ofEmpty) (.beside t)
  | alt a b iha ihb =>
    obtain ⟨w, hw, hboth⟩ : ∃ w, s.rest = w ++ s'.rest ∧
        ∀ t, (b.openings (.beside (a.openings (.beside t)))).Cover (bytesOf w) := by
      rcases h with h | h
      · obtain ⟨w, hw, hcovers⟩ := iha h
        exact ⟨w, hw, fun t => b.cover_beside (hcovers (.beside t))⟩
      · obtain ⟨w, hw, hcovers⟩ := ihb h
        exact ⟨w, hw, fun t => hcovers (.beside _)⟩
    refine ⟨w, hw, fun p => ?_⟩
    cases p with
    | beside t => exact hboth t
    | alone => exact Place.covers_put (hboth _) .alone
    | behind t => exact Place.covers_put (hboth _) (.behind t)

/-- **Where the openings of an expression are known, one of them opens each match.** -/
theorem exists_opens_of_matches {ps : List Opening} (hps : e.openings .alone = some ps)
    (h : e.Matches s s') : ∃ w, s.rest = w ++ s'.rest ∧ ∃ p ∈ ps, p.Opens (bytesOf w) := by
  obtain ⟨w, hw, hcovers⟩ := exists_covers_of_matches h
  exact ⟨w, hw, hcovers .alone ps hps⟩

/-- **Every match starts with one of the openings that are looked for.** -/
theorem exists_chosen_of_matches {ps : List Opening} (hps : e.openings .alone = some ps)
    (h : e.Matches s s') : ∃ w, s.rest = w ++ s'.rest ∧
      ∃ p ∈ chosen (joinEqual ps), p.bytes <+: bytesOf w := by
  obtain ⟨w, hw, hopens⟩ := exists_opens_of_matches hps h
  exact ⟨w, hw, (Covered.joinEqual hopens).led.chosen⟩

/-- Texts are not searched for in the place of an expression that matches the empty text, if it is
not made up of alternatives that are texts. -/
theorem isTexts_of_matches_empty (h : e.Matches s s) (htexts : textsOf? e.branches = none) :
    e.isTexts = false := by
  have hopenings : ((e.openings .alone).any fun ps => areTexts (joinEqual ps)) = false := by
    cases hps : e.openings .alone with
    | none => rfl
    | some ps =>
      obtain ⟨w, hw, hopens⟩ := exists_opens_of_matches hps h
      obtain rfl : w = [] := by simpa using hw
      exact areTexts_of_covered_nil (Covered.joinEqual hopens)
  simp [isTexts, hopenings, htexts]

end Expr
end Regex
end TextScan
