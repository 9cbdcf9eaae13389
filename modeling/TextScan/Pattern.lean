/-
# Patterns

A pattern is a regular expression together with the source that it was compiled from.  It holds the
proof of that, so a pattern is known by its source: two patterns with one source are equal.
-/

import TextScan.Regex.Compile
import TextScan.Text.Escaped

namespace TextScan

/-- A source and the regular expression that it compiles to. -/
structure Pattern where
  source : Text
  regex : Regex
  compiled : Regex.compile source = .ok regex

/-- A source that does not compile, and why. -/
structure PatternFault where
  source : Text
  refusal : Regex.Refusal
  deriving DecidableEq, Repr

/-- What a fault says: the source in quotes, and what is wrong with it. -/
def PatternFault.message (f : PatternFault) : Text :=
  ['\''] ++ f.source ++ "' ".toList ++ f.refusal.message f.source

namespace Pattern

/-- Patterns with one source are equal. -/
theorem eq_of_source_eq {p q : Pattern} (h : p.source = q.source) : p = q := by
  obtain ⟨s, r, hp⟩ := p
  obtain ⟨s', r', hq⟩ := q
  obtain rfl : s = s' := h
  obtain rfl : r = r' := Except.ok.inj (hp.symm.trans hq)
  rfl

theorem eq_iff_source_eq {p q : Pattern} : p = q ↔ p.source = q.source :=
  ⟨fun h => h ▸ rfl, eq_of_source_eq⟩

instance : DecidableEq Pattern := fun _ _ => decidable_of_iff _ eq_iff_source_eq.symm

instance : Hashable Pattern := ⟨fun p => hash (String.ofList p.source)⟩

/-- The pattern of a source. -/
def compile (source : Text) : Except PatternFault Pattern :=
  match h : Regex.compile source with
  | .ok r => .ok ⟨source, r, h⟩
  | .error e => .error ⟨source, e⟩

/-- Compiling keeps the source. -/
theorem source_of_compile {s : Text} {p : Pattern} (h : compile s = .ok p) : p.source = s := by
  unfold compile at h
  split at h
  · obtain rfl := Except.ok.inj h
    rfl
  · exact absurd h (by simp)

/-- The source of a pattern compiles to the pattern. -/
theorem compile_source (p : Pattern) : compile p.source = .ok p := by
  unfold compile
  split
  · exact congrArg Except.ok (eq_of_source_eq rfl)
  · rename_i h
    rw [p.compiled] at h
    exact absurd h (by simp)

/-- A text with a backslash before every character that means something in a source. -/
def literalSource (t : Text) : Text :=
  t.flatMap fun c => if Regex.isMeta c then ['\\', c] else [c]

/-- The pattern that matches a text and nothing else. -/
def literal (t : Text) : Except PatternFault Pattern := compile (literalSource t)

/-- The number of groups. -/
def groupCount (p : Pattern) : Nat := p.regex.names.length

/-- The escaped source, as it is shown in messages. -/
def display (p : Pattern) : Text := Text.escaped p.source

end Pattern
end TextScan
