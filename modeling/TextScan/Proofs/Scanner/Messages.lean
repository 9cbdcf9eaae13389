/-
# Patterns in messages

A pattern is shown by the escaped form of its source, in quotes.  So it is known from a message
without doubt: patterns shown by one text are equal, no quote of a source ends the text too early,
and a message is one line, from which the source of its pattern can be cut out
(`display_unambiguous`).
-/

import TextScan.Proofs.Text.Escaping
import TextScan.Scanner.Event

namespace TextScan

namespace Pattern

variable {p q : Pattern}

theorem display_eq_iff : p.display = q.display ↔ p = q := by
  have hsource : p.display = q.display ↔ p.source = q.source := Text.escaped_inj
  rw [hsource, eq_iff_source_eq]

end Pattern

namespace Event

/-- The pattern that an event tells of. -/
def pattern? : Event → Option Pattern
  | .cached p => some p
  | .started _ p _ => some p
  | .matched _ p _ => some p
  | .missed _ p => some p
  | .reset => none
  | .terminated => none

/-- A text can lead to a pattern that is shown: it is printable and has no single quote. -/
def Leads (a : Text) : Prop := Text.Printable a ∧ '\'' ∉ a

instance (a : Text) : Decidable (Leads a) :=
  inferInstanceAs (Decidable (Text.Printable a ∧ '\'' ∉ a))

/-- A line that shows a pattern. -/
structure Shows (t : Text) (p : Pattern) : Prop where
  printable : Text.Printable t
  one_line : Text.lines t = [t]
  /-- What stands in escaped form between the first quotes is the source. -/
  source : Text.quotedText? t = some p.source

theorem Leads.append {a b : Text} (ha : Leads a) (hb : Leads b) : Leads (a ++ b) := by
  refine ⟨ha.1.append hb.1, fun hmem => ?_⟩
  rcases List.mem_append.1 hmem with hmem | hmem
  · exact ha.2 hmem
  · exact hb.2 hmem

theorem leads_modeName (m : Regex.Mode) : Leads (modeName m) := by
  cases m with
  | anchored => decide
  | leftmost => decide

theorem leads_name (l : Level) : Leads (l.name ++ [' ']) := by
  cases l with
  | trace => decide
  | debug => decide

/-- A pattern in quotes is shown by any line that it stands in. -/
theorem shows_of_leads {a b : Text} (ha : Leads a) (hb : Text.Printable b) (p : Pattern) :
    Shows (a ++ shown p ++ b) p := by
  have hquote : Text.Printable ['\''] := by decide
  have hshown : Text.Printable (shown p) :=
    (hquote.append (Text.printable_escaped p.source)).append hquote
  have hprintable : Text.Printable (a ++ shown p ++ b) := (ha.1.append hshown).append hb
  refine ⟨hprintable, Text.lines_of_printable (by simp [shown]) hprintable, ?_⟩
  have hopen : a ++ shown p ++ b = a ++ ['\''] ++ Text.escaped p.source ++ ['\''] ++ b := by
    simp only [shown, Pattern.display, List.append_assoc]
  rw [hopen]
  exact Text.quotedText?_append ha.2 p.source b

/-- The message of an event shows its pattern, whatever leads to the message. -/
theorem shows_of_pattern? {e : Event} {p : Pattern} (h : e.pattern? = some p) {a : Text}
    (ha : Leads a) : Shows (a ++ e.message) p := by
  cases e with
  | cached q =>
    obtain rfl := Option.some.inj h
    have hlead : Leads "Caching pattern ".toList := by decide
    have hend : Text.Printable [] := by decide
    have hshows := shows_of_leads (ha.append hlead) hend q
    rwa [List.append_nil, List.append_assoc] at hshows
  | started m q n =>
    obtain rfl := Option.some.inj h
    have hmessage : a ++ (started m q n).message =
        a ++ (modeName m ++ " scan for ".toList) ++ shown q ++ (" at ".toList ++ Text.ofNat n) := by
      unfold message
      simp only [List.append_assoc]
    have hlead : Leads " scan for ".toList := by decide
    have hend : Text.Printable " at ".toList := by decide
    rw [hmessage]
    exact shows_of_leads (ha.append ((leads_modeName m).append hlead))
      (hend.append (Text.printable_ofNat n)) q
  | matched m q span =>
    obtain rfl := Option.some.inj h
    have hmessage : a ++ (matched m q span).message =
        a ++ (modeName m ++ " match of ".toList) ++ shown q ++
          (" at Some(".toList ++ span.display ++ [')']) := by
      unfold message
      simp only [List.append_assoc]
    have hlead : Leads " match of ".toList := by decide
    have hopen : Text.Printable " at Some(".toList := by decide
    have hdots : Text.Printable "..".toList := by decide
    have hclose : Text.Printable [')'] := by decide
    have hspan : Text.Printable span.display :=
      ((Text.printable_ofNat span.start).append hdots).append (Text.printable_ofNat span.stop)
    rw [hmessage]
    exact shows_of_leads (ha.append ((leads_modeName m).append hlead))
      ((hopen.append hspan).append hclose) q
  | missed m q =>
    obtain rfl := Option.some.inj h
    have hmessage : a ++ (missed m q).message =
        a ++ (modeName m ++ " search for ".toList) ++ shown q ++ " found no match".toList := by
      unfold message
      simp only [List.append_assoc]
    have hlead : Leads " search for ".toList := by decide
    have hend : Text.Printable " found no match".toList := by decide
    rw [hmessage]
    exact shows_of_leads (ha.append ((leads_modeName m).append hlead)) hend q
  | reset => exact absurd h (by simp [pattern?])
  | terminated => exact absurd h (by simp [pattern?])

end Event

namespace Pattern

/-- **What shows a pattern shows no other.**  Patterns are equal if and only if they are shown by
one text.  Such a text is printable ASCII, every quote in it is escaped, and it is read back as the
source of the pattern.  A message about a pattern, and its line in the log, is one line, and the
source can be cut out of it. -/
theorem display_unambiguous :
    (∀ a b : Pattern, a.display = b.display ↔ (a == b) = true) ∧
    (∀ p : Pattern, Text.Printable p.display ∧
      (∀ a q b, p.display = a ++ q :: b → Text.isQuote q = true →
        Odd (Text.backslashesAtEnd a)) ∧
      Text.unescaped? p.display = some p.source) ∧
    ∀ (e : Event) (p : Pattern), e.pattern? = some p →
      Event.Shows e.message p ∧ Event.Shows e.line p := by
  refine ⟨fun a b => display_eq_iff.trans beq_iff_eq.symm, fun p => ⟨?_, ?_, ?_⟩, fun e p h => ?_⟩
  · exact Text.printable_escaped p.source
  · exact fun a q b ht hq => Text.odd_backslashes_of_escaped ht hq
  · exact Text.unescaped?_escaped p.source
  · have hempty : Event.Leads [] := by decide
    exact ⟨Event.shows_of_pattern? h hempty, Event.shows_of_pattern? h (Event.leads_name e.level)⟩

/-- A quote, a text that looks like an escaped character, and a character that is not ASCII. -/
theorem display_unambiguous_escapes : ∃ p : Pattern, p.source = "'\\u\x7b41\x7d\"é".toList ∧
    p.display = "\\'\\\\u\x7b41\x7d\\\"\\u\x7be9\x7d".toList ∧
    (Event.missed .leftmost p).pattern? = some p ∧
    Event.Shows (Event.missed .leftmost p).line p := by
  have hp : ∃ r, Regex.compile "'\\u\x7b41\x7d\"é".toList = .ok r := ⟨_, rfl⟩
  obtain ⟨r, hr⟩ := hp
  have hdisplay : Text.escaped "'\\u\x7b41\x7d\"é".toList =
      "\\'\\\\u\x7b41\x7d\\\"\\u\x7be9\x7d".toList := by decide
  refine ⟨⟨_, r, hr⟩, rfl, hdisplay, rfl, ?_⟩
  exact (display_unambiguous.2.2 (.missed .leftmost ⟨_, r, hr⟩) _ rfl).2

end Pattern
end TextScan
