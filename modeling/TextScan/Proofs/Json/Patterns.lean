/-
# Patterns by their sources

There are several ways to come by a pattern (`Pattern.Way`).  On each of them the pattern gets a
source, which is not always what it was made of: a pattern that matches a text literally has the
text with its special characters escaped.

| made of | source |
| --- | --- |
| a source, compiled | the source |
| a text, taken literally | the text, escaped |
| a JSON string, read | the string |
| an entry of a cache | what it stands under |

A pattern is written as its source, and the source, compiled or read again, gives a pattern that
nothing tells apart from the first.  Reading accepts the strings that compile and nothing else
(`ofJson_eq_ok_iff`), and where a string does not compile, reading it says why, in the same words.
All of this is `round_trip`.
-/

import TextScan.Json.Decode
import TextScan.Scanner.Basic

namespace TextScan
namespace Pattern

/-- A way to come by a pattern, with the source that it gets; a copy is the pattern itself. -/
inductive Way : Pattern → Text → Prop where
  | compiled {s : Text} {p : Pattern} (h : compile s = .ok p) : Way p s
  | literal {t : Text} {p : Pattern} (h : literal t = .ok p) : Way p (literalSource t)
  | read {s : Text} {p : Pattern} (h : ofJson (.string s) = .ok p) : Way p s
  | cached {c : Cache} {s : Text} {p : Pattern} (h : c.find? s = some p) : Way p s

/-- Nothing tells two patterns apart. -/
structure Same (p q : Pattern) : Prop where
  equal : (p == q) = true
  hash : hash p = hash q
  groupCount : p.groupCount = q.groupCount
  /-- They have the same match in every text, at its start and anywhere. -/
  hit? : ∀ m region, p.regex.hit? m region = q.regex.hit? m region
  /-- A match has the same groups, with the same names. -/
  groupsOf : ∀ h, p.regex.groupsOf h = q.regex.groupsOf h
  /-- Every scanner does the same when it looks for them. -/
  attempt : ∀ (scanner : Scanner) m,
    scanner.attempt m (.pattern p) = scanner.attempt m (.pattern q)

/-- A pattern goes through its source, and through JSON. -/
structure RoundTrips (p : Pattern) : Prop where
  written : p.toJson = .string p.source
  compiled : ∃ q, compile p.source = .ok q ∧ p.Same q
  read : ∃ q, ofJson (.string p.source) = .ok q ∧ p.Same q

section Lemmas

variable {p : Pattern} {s : Text} {v : Json}

theorem Same.refl (p : Pattern) : p.Same p :=
  ⟨beq_self_eq_true p, rfl, rfl, fun _ _ => rfl, fun _ => rfl, fun _ _ => rfl⟩

theorem mapError_eq_ok {ε δ α : Type} {x : Except ε α} {f : ε → δ} {a : α} :
    x.mapError f = .ok a ↔ x = .ok a := by
  cases x with
  | error e =>
    have hread : (Except.error e : Except ε α).mapError f = .error (f e) := rfl
    rw [hread]
    constructor <;> rintro ⟨⟩
  | ok b =>
    have hread : (Except.ok b : Except ε α).mapError f = .ok b := rfl
    rw [hread, Except.ok.injEq, Except.ok.injEq]

/-- A source compiles to a pattern if and only if it is the source of the pattern. -/
theorem compile_eq_ok_iff : compile s = .ok p ↔ p.source = s := by
  constructor
  · exact source_of_compile
  · rintro rfl
    exact compile_source p

/-- **A value is read as a pattern if and only if it is what the pattern is written as.** -/
theorem ofJson_eq_ok_iff : ofJson v = .ok p ↔ v = p.toJson := by
  cases v with
  | string s =>
    have hread : ofJson (.string s) = .ok p ↔ compile s = .ok p := mapError_eq_ok
    have hwritten : Json.string s = p.toJson ↔ p.source = s := by
      rw [toJson, Json.string.injEq]
      exact eq_comm
    rw [hread, compile_eq_ok_iff, hwritten]
  | _ => simp [ofJson, toJson]

/-- Reading a string that does not compile says what compiling it says. -/
theorem exists_message_of_error {f : PatternFault} (h : compile s = .error f) :
    ∃ d, ofJson (.string s) = .error d ∧ d.message = f.message := by
  refine ⟨.pattern f, ?_, rfl⟩
  rw [ofJson, h]
  rfl

theorem Way.source_eq (h : Way p s) : p.source = s := by
  cases h with
  | compiled h => exact source_of_compile h
  | literal h => exact source_of_compile h
  | read h =>
    have hwritten : Json.string s = .string p.source := ofJson_eq_ok_iff.1 h
    exact (Json.string.inj hwritten).symm
  | cached h => exact Cache.source_of_find? h

theorem roundTrips (p : Pattern) : p.RoundTrips :=
  ⟨rfl, ⟨p, compile_source p, .refl p⟩, ⟨p, ofJson_eq_ok_iff.2 rfl, .refl p⟩⟩

end Lemmas

/-- **A pattern is known by its source.**  However it was come by, it is written as its source, and
the source, compiled or read, gives a pattern that nothing tells apart from it.  A value is read as
a pattern if and only if it is a string that compiles; the pattern is written as that value, and
where the string does not compile, the message is that of compiling it.  Patterns are equal if and
only if their sources are. -/
theorem round_trip :
    (∀ p s, Way p s → p.source = s ∧ p.RoundTrips) ∧
    (∀ v, (∃ p, ofJson v = .ok p) ↔ ∃ s, v = .string s ∧ ∃ p, compile s = .ok p) ∧
    (∀ v p, ofJson v = .ok p → p.toJson = v) ∧
    (∀ s f, compile s = .error f → ∃ d, ofJson (.string s) = .error d ∧ d.message = f.message) ∧
    ∀ p q : Pattern, (p == q) = true ↔ p.source = q.source := by
  refine ⟨fun p s h => ⟨h.source_eq, roundTrips p⟩, fun v => ⟨?_, ?_⟩, fun v p h => ?_,
    fun s f h => exists_message_of_error h, fun p q => beq_iff_eq.trans eq_iff_source_eq⟩
  · rintro ⟨p, hp⟩
    exact ⟨p.source, ofJson_eq_ok_iff.1 hp, p, compile_source p⟩
  · rintro ⟨s, rfl, p, hp⟩
    obtain rfl := source_of_compile hp
    exact ⟨p, ofJson_eq_ok_iff.2 rfl⟩
  · exact (ofJson_eq_ok_iff.1 h).symm

/-- The pattern of the text `(` has another source, which stands for it in JSON; as a source the
text itself does not compile. -/
theorem round_trip_parenthesis : ∃ p f, literal ['('] = .ok p ∧ p.toJson = .string ['\\', '('] ∧
    p.RoundTrips ∧ ofJson (.string ['\\', '(']) = .ok p ∧ compile ['('] = .error f ∧
    ∃ d, ofJson (.string ['(']) = .error d ∧ d.message = f.message := by
  have hp : ∃ p, literal ['('] = .ok p := ⟨⟨['\\', '('], _, rfl⟩, rfl⟩
  have hf : ∃ f, compile ['('] = .error f := ⟨_, rfl⟩
  obtain ⟨p, hp⟩ := hp
  obtain ⟨f, hf⟩ := hf
  obtain ⟨hsource, htrips⟩ := round_trip.1 p _ (.literal hp)
  have hwritten : p.toJson = .string ['\\', '('] := congrArg Json.string hsource
  exact ⟨p, f, hp, hwritten, htrips, ofJson_eq_ok_iff.2 hwritten.symm, hf,
    round_trip.2.2.2.1 _ f hf⟩

end Pattern
end TextScan
