/-
# Loops over a scanner

`findAll` finds the matches of a pattern one after the other; behind an empty match it goes on by
one character.  `tokens` takes a text apart: each token is a match of the first pattern that matches
at the cursor, or a single character if none does.
-/

import TextScan.Scanner.Basic

namespace TextScan

/-- A match with the texts of its groups. -/
structure Occurrence where
  span : Span
  captures : List (Option Text)
  deriving DecidableEq, Repr

/-- A piece of a text: the number of the pattern that it matches, if it matches one, its text, and
the texts of the groups. -/
structure Token where
  pattern : Option Nat
  text : Option Text
  captures : List (Option Text)
  deriving DecidableEq, Repr

namespace Scanner

/-- The matches of a pattern from the cursor on, at most as many as `fuel`. -/
def findUpTo (p : Pattern) : Nat → Scanner → List Occurrence × Scanner
  | 0, s => ([], s)
  | fuel + 1, s =>
    let a := s.scanUntil (.pattern p)
    match a.result with
    | .error _ => ([], a.scanner)
    | .ok none => ([], a.scanner)
    | .ok (some f) =>
      let o : Occurrence := ⟨f.span, a.scanner.captures⟩
      if f.span.isEmpty then
        let b := a.scanner.takeChar
        match b.result with
        | .ok (some _) =>
          let (os, s') := findUpTo p fuel b.scanner
          (o :: os, s')
        | _ => ([o], b.scanner)
      else
        let (os, s') := findUpTo p fuel a.scanner
        (o :: os, s')

/-- The matches of a pattern in a text, and the scanner after them.  Every match but the last takes
a character with it, so there is at most one for each character and one more. -/
def findAll (p : Pattern) (input : Option Text) : List Occurrence × Scanner :=
  findUpTo p (input.elim 0 List.length + 1) (new input)

/-- Tries queries in order until one matches; `index` is the number of the first. -/
def scanFirst (s : Scanner) (index : Nat) :
    List Query → Except PatternFault (Option (Nat × Found) × Scanner)
  | [] => .ok (none, s)
  | q :: qs =>
    let a := s.scan q
    match a.result with
    | .error e => .error e
    | .ok (some f) => .ok (some (index, f), a.scanner)
    | .ok none => scanFirst a.scanner (index + 1) qs

/-- The next token. -/
def token (s : Scanner) (qs : List Query) : Except PatternFault (Token × Scanner) := do
  let (hit, s) ← s.scanFirst 0 qs
  match hit with
  | some (i, f) => pure (⟨some i, s.slice? f.span, s.captures⟩, s)
  | none =>
    let a := s.takeChar
    let text := match a.result with
      | .ok (some f) => s.slice? f.span
      | _ => none
    pure (⟨none, text, []⟩, a.scanner)

/-- The tokens up to the end of the text, at most as many as `fuel`. -/
def tokens (qs : List Query) : Nat → Scanner → Except PatternFault (List Token × Scanner)
  | 0, s => .ok ([], s)
  | fuel + 1, s =>
    if s.isAtEnd then .ok ([], s)
    else do
      let (t, s) ← s.token qs
      let (ts, s) ← tokens qs fuel s
      pure (t :: ts, s)

end Scanner
end TextScan
