/-
# Faults of a regular expression

A fault has a cause, the extent of the source that it lies in, and sometimes an earlier extent that
it clashes with.
-/

import TextScan.Regex.Tree

namespace TextScan
namespace Regex

/-- What can be wrong with a regular expression. -/
inductive Cause where
  | setEscapeInvalid
  | rangeBackwards
  | rangeEndNotLiteral
  | setUnclosed
  | hexEmpty
  | hexNotCharacter
  | hexDigitInvalid
  | escapeUnfinished
  | escapeUnknown
  | negationDangling
  | flagRepeated
  | negationRepeated
  | flagsUnfinished
  | flagUnknown
  | nameRepeated
  | nameEmpty
  | nameInvalid
  | nameUnclosed
  | groupUnclosed
  | groupUnopened
  | nestedTooDeep
  | countBackwards
  | countEmpty
  | countTooLarge
  | countUnclosed
  | repetitionOfNothing
  | wordBoundaryUnclosed
  | wordBoundaryUnknown
  | wordBoundaryUnfinished
  | propertyInvalid
  | backreference
  | lookAround
  | unicodeNotAllowed
  | invalidUtf8
  | propertyUnknown
  | propertyValueUnknown
  deriving DecidableEq, Repr

/-- How deep the parts of an expression may lie. -/
def nestLimit : Nat := 250

/-- What a cause says. -/
def Cause.message : Cause → String
  | .setEscapeInvalid => "invalid escape sequence found in character class"
  | .rangeBackwards => "invalid character class range, the start must be <= the end"
  | .rangeEndNotLiteral => "invalid range boundary, must be a literal"
  | .setUnclosed => "unclosed character class"
  | .hexEmpty => "hexadecimal literal empty"
  | .hexNotCharacter => "hexadecimal literal is not a Unicode scalar value"
  | .hexDigitInvalid => "invalid hexadecimal digit"
  | .escapeUnfinished => "incomplete escape sequence, reached end of pattern prematurely"
  | .escapeUnknown => "unrecognized escape sequence"
  | .negationDangling => "dangling flag negation operator"
  | .flagRepeated => "duplicate flag"
  | .negationRepeated => "flag negation operator repeated"
  | .flagsUnfinished => "expected flag but got end of regex"
  | .flagUnknown => "unrecognized flag"
  | .nameRepeated => "duplicate capture group name"
  | .nameEmpty => "empty capture group name"
  | .nameInvalid => "invalid capture group character"
  | .nameUnclosed => "unclosed capture group name"
  | .groupUnclosed => "unclosed group"
  | .groupUnopened => "unopened group"
  | .nestedTooDeep => "exceed the maximum number of nested parentheses/brackets (250)"
  | .countBackwards => "invalid repetition count range, the start must be <= the end"
  | .countEmpty => "repetition quantifier expects a valid decimal"
  | .countTooLarge => "decimal literal invalid"
  | .countUnclosed => "unclosed counted repetition"
  | .repetitionOfNothing => "repetition operator missing expression"
  | .wordBoundaryUnclosed =>
    "special word boundary assertion is either unclosed or contains an invalid character"
  | .wordBoundaryUnknown =>
    "unrecognized special word boundary assertion, valid choices are: start, end, start-half or " ++
      "end-half"
  | .wordBoundaryUnfinished =>
    "found either the beginning of a special word boundary or a bounded repetition on a \\b " ++
      "with an opening brace, but no closing brace"
  | .propertyInvalid => "invalid Unicode character class"
  | .backreference => "backreferences are not supported"
  | .lookAround => "look-around, including look-ahead and look-behind, is not supported"
  | .unicodeNotAllowed => "Unicode not allowed here"
  | .invalidUtf8 => "pattern can match invalid UTF-8"
  | .propertyUnknown => "Unicode property not found"
  | .propertyValueUnknown => "Unicode property value not found"

/-- A cause, where it lies, and what it clashes with. -/
structure Fault where
  cause : Cause
  extent : Extent
  earlier : Option Extent := none
  deriving DecidableEq, Repr

/-- Fails for a cause in a range of characters. -/
def fail {α : Type} (cause : Cause) (first stop : Nat) : Except Fault α :=
  .error ⟨cause, ⟨first, stop⟩, none⟩

end Regex
end TextScan
