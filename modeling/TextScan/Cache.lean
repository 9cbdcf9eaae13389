/-
# The cache of a scanner

A cache holds the patterns that were compiled from sources, each under its own source.  It only
grows, and a source that does not compile leaves it as it is.
-/

import TextScan.Pattern

namespace TextScan

/-- The patterns compiled so far, latest first. -/
structure Cache where
  patterns : List Pattern
  deriving DecidableEq

namespace Cache

/-- The cache before any source was compiled. -/
def empty : Cache := ⟨[]⟩

/-- The pattern of a source, if it was compiled. -/
def find? (c : Cache) (source : Text) : Option Pattern :=
  c.patterns.find? (·.source == source)

/-- One more pattern. -/
def insert (c : Cache) (p : Pattern) : Cache := ⟨p :: c.patterns⟩

/-- The number of patterns. -/
def size (c : Cache) : Nat := c.patterns.length

/-- A pattern is found under its own source. -/
theorem source_of_find? {c : Cache} {s : Text} {p : Pattern} (h : c.find? s = some p) :
    p.source = s := by
  simpa using List.find?_some h

/-- A pattern that is found is what its source compiles to. -/
theorem compile_of_find? {c : Cache} {s : Text} {p : Pattern} (h : c.find? s = some p) :
    Pattern.compile s = .ok p := by
  rw [← source_of_find? h]
  exact Pattern.compile_source p

end Cache
end TextScan
