/-
# Events

What a scanner does can be followed as a series of events, each with a message of one line.
Patterns are shown in escaped form; the span of a match counts from the cursor.
-/

import TextScan.Pattern

namespace TextScan

/-- How much an event matters. -/
inductive Level where
  | trace
  | debug
  deriving DecidableEq, Repr

/-- The name of a level. -/
def Level.name : Level → Text
  | .trace => "TRACE".toList
  | .debug => "DEBUG".toList

/-- Something that a scanner did. -/
inductive Event where
  /-- A source was compiled for the first time. -/
  | cached (p : Pattern)
  /-- A search was started at a cursor. -/
  | started (m : Regex.Mode) (p : Pattern) (cursor : Nat)
  /-- A search found a match. -/
  | matched (m : Regex.Mode) (p : Pattern) (span : Span)
  /-- A search found nothing. -/
  | missed (m : Regex.Mode) (p : Pattern)
  /-- The cursor went to the start. -/
  | reset
  /-- The cursor went to the end. -/
  | terminated
  deriving DecidableEq

/-- The name of a mode. -/
def modeName : Regex.Mode → Text
  | .anchored => "Anchored".toList
  | .leftmost => "Leftmost".toList

namespace Event

/-- How much an event matters. -/
def level : Event → Level
  | .cached _ => .debug
  | _ => .trace

/-- A pattern in the quotes of a message. -/
def shown (p : Pattern) : Text := ['\''] ++ p.display ++ ['\'']

/-- What an event says. -/
def message : Event → Text
  | .cached p => "Caching pattern ".toList ++ shown p
  | .started m p n =>
    modeName m ++ " scan for ".toList ++ shown p ++ " at ".toList ++ Text.ofNat n
  | .matched m p s =>
    modeName m ++ " match of ".toList ++ shown p ++ " at Some(".toList ++ s.display ++ [')']
  | .missed m p => modeName m ++ " search for ".toList ++ shown p ++ " found no match".toList
  | .reset => "Reset".toList
  | .terminated => "Terminate".toList

/-- An event as a line of a log. -/
def line (e : Event) : Text := e.level.name ++ [' '] ++ e.message

end Event
end TextScan
