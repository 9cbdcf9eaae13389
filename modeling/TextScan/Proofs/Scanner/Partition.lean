/-
# The match in its text

The match of a scanner parts the text in three: what stands before it, the match, and what stands
behind it.  All three are shown as long as the match is kept, wherever the cursor is moved
(`match_parts_text`).  The groups that took part lie within the match, so their texts are parts of
its text.  Where the cursor was not moved since the match, it stands between the second part and the
third.
-/

import TextScan.Proofs.Scanner.History

namespace TextScan
namespace Scanner

/-- A scanner shows the text `t` in three parts: the text before its match `f`, the text of the
match, and the text behind it. -/
structure Parts (s : Scanner) (t : Text) (f : Found) (a u b : Text) : Prop where
  before : s.beforeMatch = some a
  matched : s.matched = some u
  behind : s.afterMatch = some b
  whole : a ++ u ++ b = t
  span : s.matchedSpan = some f.span
  start : Text.size a = f.span.start
  size : s.matchedSize = some (Text.size u)
  /-- A group that took part lies within the match, and shows the part of its text that is there. -/
  group : ∀ i g, f.group? i = some g → g.Within f.span ∧ ∃ x v y, s.group i = some v ∧
    u = x ++ v ++ y ∧ f.span.start + Text.size x = g.start ∧ Text.size v = g.length
  captures : ∀ v, some v ∈ s.captures → v <:+: u
  named : ∀ name v, s.groupNamed name = some v → v <:+: u

variable {s : Scanner} {p : Pattern} {m : Regex.Mode} {t a u b : Text} {n : Nat} {f : Found}

/-- The text before a match, the text of the match and the text behind it are parts of the text. -/
theorem exists_texts (hi : s.input = some t) (hs : s.found = some f) (hspan : f.span.LiesIn t) :
    ∃ a u b, s.beforeMatch = some a ∧ s.matched = some u ∧ s.afterMatch = some b ∧
      a ++ u ++ b = t ∧ Text.size a = f.span.start ∧ Text.slice? t f.span = some u := by
  obtain ⟨u, hu⟩ := hspan.exists_slice
  obtain ⟨a, b, rfl, hstart, hstop⟩ := Text.slice?_eq_some_iff.1 hu
  have hbefore : Text.slice? (a ++ u ++ b) ⟨0, f.span.start⟩ = some a :=
    Text.slice?_eq_some_iff.2 ⟨[], u ++ b, by simp, rfl, by rw [← hstart]; simp⟩
  have hbehind : Text.drop? (a ++ u ++ b) f.span.stop = some b :=
    Text.drop?_eq_some_iff.2 ⟨a ++ u, rfl, by rw [Text.size_append, hstop]⟩
  refine ⟨a, u, b, ?_, ?_, ?_, rfl, hstart, hu⟩
  · rw [beforeMatch, hs, Option.bind_some, slice?_eq hi, hbefore]
  · rw [matched, hs, Option.bind_some, slice?_eq hi, hu]
  · rw [afterMatch, hs, Option.bind_some, hi, Option.bind_some, hbehind]

/-- A number that stands for a span stands for a part of the match, and shows its text. -/
theorem exists_text_of_group? (hi : s.input = some t) (hs : s.found = some f)
    (hf : p.findAt m t n = some f) (hu : Text.slice? t f.span = some u) {i : Nat} {g : Span}
    (hg : f.group? i = some g) : g.Within f.span ∧ ∃ x v y, s.group i = some v ∧
      u = x ++ v ++ y ∧ f.span.start + Text.size x = g.start ∧ Text.size v = g.length := by
  have hwithin : g.LiesIn t ∧ g.Within f.span := by
    rcases Found.eq_or_mem_of_group? hg with rfl | ⟨g', hg', hsp⟩
    · exact ⟨(Pattern.liesIn_of_findAt hf).span, Nat.le_refl _, Nat.le_refl _⟩
    · exact Pattern.group_of_findAt hf hg' hsp
  obtain ⟨x, v, y, hparts, hv, hx⟩ := hwithin.2.exists_append hwithin.1 hu
  have htext : s.group i = some v := by
    rw [group, hs, Option.bind_some, hg, Option.bind_some, slice?_eq hi, hv]
  exact ⟨hwithin.2, x, v, y, htext, hparts, hx, Text.size_of_slice? hv⟩

/-- The text of a group is a part of the text of the match. -/
theorem infix_of_mem_groups (hi : s.input = some t) (hf : p.findAt m t n = some f)
    (hu : Text.slice? t f.span = some u) {g : Option Text × Option Span} (hg : g ∈ f.groups)
    {v : Text} (hv : g.2.bind s.slice? = some v) : v <:+: u := by
  obtain ⟨sp, hsp, hv⟩ := Option.bind_eq_some_iff.1 hv
  obtain ⟨hlies, hwithin⟩ := Pattern.group_of_findAt hf hg hsp
  obtain ⟨x, v', y, rfl, hv', -⟩ := hwithin.exists_append hlies hu
  rw [slice?_eq hi, hv'] at hv
  obtain rfl := Option.some.inj hv
  exact ⟨x, y, rfl⟩

/-- A scanner that holds a match of a pattern in its text shows the text in three parts. -/
theorem exists_parts (hi : s.input = some t) (hs : s.found = some f)
    (hf : p.findAt m t n = some f) : ∃ a u b, s.Parts t f a u b := by
  obtain ⟨a, u, b, hbefore, hmatched, hbehind, hwhole, hstart, hu⟩ :=
    exists_texts hi hs (Pattern.liesIn_of_findAt hf).span
  have hspan : s.matchedSpan = some f.span := by rw [matchedSpan, hs, Option.map_some]
  have hsize : s.matchedSize = some (Text.size u) := by
    rw [matchedSize, hspan, Option.map_some, Text.size_of_slice? hu]
  refine ⟨a, u, b, hbefore, hmatched, hbehind, hwhole, hspan, hstart, hsize, fun i g hg =>
    exists_text_of_group? hi hs hf hu hg, fun v hv => ?_, fun name v hv => ?_⟩
  · rw [captures, hs, Option.elim_some] at hv
    obtain ⟨g, hg, hv⟩ := List.mem_map.1 hv
    exact infix_of_mem_groups hi hf hu hg hv
  · rw [groupNamed, hs, Option.bind_some] at hv
    obtain ⟨sp, hsp, hv⟩ := Option.bind_eq_some_iff.1 hv
    obtain ⟨g, hg, hgs⟩ := Found.exists_mem_of_groupNamed? hsp
    exact infix_of_mem_groups hi hf hu hg (by rw [hgs, Option.bind_some, hv])

/-- Right behind the match, the rest is the text behind the match. -/
theorem Parts.rest_eq (h : s.Parts t f a u b) (hi : s.input = some t)
    (hs : s.found = some f) (hc : s.cursor = f.span.stop) :
    s.rest = b ∧ s.restSize = Text.size t - f.span.stop := by
  have hbehind := h.behind
  rw [afterMatch, hs, Option.bind_some, hi, Option.bind_some] at hbehind
  have hrest : s.rest = b := by
    rw [rest, hi, Option.bind_some, hc, hbehind, Option.getD_some]
  obtain ⟨c, hcut, hsize⟩ := Text.drop?_eq_some_iff.1 hbehind
  refine ⟨hrest, ?_⟩
  rw [restSize, hrest, hcut, Text.size_append]
  omega

/-- **The match parts the text.**  If a new scanner has a match behind a series of requests, then
what it shows before the match, of the match and behind it makes up the text, and the groups lie
within the match.  If the cursor was not moved since the request that found the match, the rest is
what is shown behind it. -/
theorem match_parts_text {input : Option Text} {rs : List Request} {f : Found}
    (hf : ((new input).after rs).found = some f) :
    ∃ t a u b, input = some t ∧ ((new input).after rs).Parts t f a u b ∧
      ∀ pre r post, rs = pre ++ r :: post → (new input).LastDecides pre r post →
        (∀ n, .moveTo n ∉ post) → ((new input).after rs).rest = b ∧
          ((new input).after rs).restSize = Text.size t - f.span.stop := by
  have hsome : ((new input).after rs).found.isSome = true := by rw [hf]; rfl
  obtain ⟨pre, r, post, rfl, hlast, hyes⟩ := (isSome_found_after_iff input rs).1 hsome
  obtain ⟨m, q, t, p, f', -, hi, -, hfind, hfound, -⟩ := hlast.exists_found hyes
  obtain rfl := Option.some.inj (hfound.symm.trans hf)
  have hinput := (input_after (new input) (pre ++ r :: post)).trans hi
  obtain ⟨a, u, b, hparts⟩ := exists_parts hinput hf hfind
  refine ⟨t, a, u, b, hi, hparts, fun pre' r' post' hrs hlast' hmove => ?_⟩
  rw [hrs] at hsome hf
  have hyes' := hlast'.succeeds hsome
  obtain ⟨-, -, -, -, f'', -, -, -, -, hfound', hcursor⟩ := hlast'.exists_found hyes'
  obtain rfl := Option.some.inj (hfound'.symm.trans hf)
  exact hparts.rest_eq hinput hfound (hrs ▸ hcursor hmove)

/-- In `xéby` the match `éb` of `(?:(é)|(b))+` holds a group of each round, and `y` is left behind
it. -/
theorem match_parts_text_rounds :
    let t := "xéby".toList
    let r := Request.scanUntil (.source "(?:(é)|(b))+".toList)
    let s := (new (some t)).after ([] ++ r :: [.peek 9])
    (∃ f, s.found = some f ∧ ∃ a u b, s.Parts t f a u b ∧ s.rest = b) ∧
      s.captures = [some ['é'], some ['b']] ∧ s.rest = ['y'] := by
  intro t r s
  have hreply : ((new (some t)).answer r).reply = .text "éb".toList := by decide
  have hyes : (new (some t)).Succeeds r := succeeds_of_text rfl hreply
  have hidle : ((new (some t)).answer r).scanner.Idle [.peek 9] := by
    refine ⟨?_, trivial⟩
    rintro (h | h | ⟨h, -⟩) <;> cases h
  have hlast : (new (some t)).LastDecides [] r [.peek 9] :=
    ⟨Or.inr (Or.inr ⟨rfl, hyes.2.1⟩), hidle⟩
  obtain ⟨-, -, -, -, f, -, -, -, -, hfound, -⟩ := hlast.exists_found hyes
  obtain ⟨t', a, u, b, ht, hparts, hrest⟩ := match_parts_text hfound
  obtain rfl : t = t' := Option.some.inj ht
  exact ⟨⟨f, hfound, a, u, b, hparts, (hrest [] r [.peek 9] rfl hlast (by simp)).1⟩, by decide,
    by decide⟩

end Scanner
end TextScan
