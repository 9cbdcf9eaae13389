/-
# Faults leave nothing behind

A search comes to a fault exactly if it is asked for a source that does not compile, whatever text,
cursor, match and cache the scanner has (`fault_iff`).  The fault is the one that compiling the
source comes to, so it is the same each time and names the source (`Pattern.compile_eq_error_iff`).
The scanner behind it is the one before it, and nothing was told (`answer_of_fault`).  So a session
goes on as if it had never been asked (`fault_without_trace`).
-/

import TextScan.Proofs.Scanner.History
import TextScan.Scanner.Session

namespace TextScan

/-- A source does not compile where its regular expression does not; the fault holds the source. -/
theorem Pattern.compile_eq_error_iff {source : Text} {e : PatternFault} :
    compile source = .error e ↔ e.source = source ∧ Regex.compile source = .error e.refusal := by
  obtain ⟨source', refusal⟩ := e
  rw [compile]
  split
  · rename_i r hr
    simp [hr]
  · rename_i refusal' hr
    rw [hr]
    constructor
    · intro h
      obtain ⟨rfl, rfl⟩ := PatternFault.mk.inj (Except.error.inj h)
      exact ⟨rfl, rfl⟩
    · rintro ⟨rfl, h⟩
      rw [Except.error.inj h]

theorem Query.compiled_eq_error_iff {q : Query} {e : PatternFault} :
    q.compiled = .error e ↔ ∃ source, q = .source source ∧ Pattern.compile source = .error e := by
  cases q with
  | source s => simp [compiled]
  | pattern p => simp [compiled]

namespace Session

/-- The current scanner is in its place. -/
theorem set_scanner (S : Session) : S.scanners.set S.current S.scanner = S.scanners := by
  by_cases h : S.current < S.scanners.length
  · have hS : S.scanner = S.scanners[S.current] := by
      rw [scanner, List.getElem?_eq_getElem h, Option.getD_some]
    rw [hS, List.set_getElem_self]
  · exact List.set_eq_of_length_le (Nat.le_of_not_lt h)

/-- A request that leaves the current scanner as it is leaves the session as it is. -/
theorem take_ask_of_scanner_eq {S : Session} {r : Request}
    (h : (S.scanner.answer r).scanner = S.scanner) :
    S.take (.ask r) = ((S.scanner.answer r).reply, (S.scanner.answer r).events, S) := by
  simp only [take, h, set_scanner]

end Session

namespace Scanner

variable {s : Scanner} {r : Request} {m : Regex.Mode} {q : Query} {e : PatternFault}

/-- **A search comes to the fault of its query**, and to no other. -/
theorem fault_iff (hr : r.search? = some (m, q)) :
    (s.answer r).reply = .fault e ↔ q.compiled = .error e := by
  cases search_outcome (s := s) hr with
  | fault e' hq hanswer => simp [hanswer, hq]
  | absent p c hp _ hreply _ => simp [hreply, hp]
  | missed p c t hp _ _ hreply _ => simp [hreply, hp]
  | found p c t f u hp _ _ _ hreply _ => simp [hreply, hp, r.replyTo_ne]

/-- A search that comes to a fault changes nothing and tells nothing. -/
theorem answer_of_fault (hr : r.search? = some (m, q)) (he : (s.answer r).reply = .fault e) :
    s.answer r = ⟨.fault e, s, []⟩ := by
  cases search_outcome (s := s) hr with
  | fault e' _ hanswer =>
    obtain rfl : e' = e := by simpa [hanswer] using he
    exact hanswer
  | absent p c _ _ hreply _ => simp [hreply] at he
  | missed p c t _ _ _ hreply _ => simp [hreply] at he
  | found p c t f u _ _ _ _ hreply _ => exact absurd (hreply.symm.trans he) ((r.replyTo_ne ..).2 e)

/-- **Faults leave nothing behind.**  A search comes to a fault exactly if it is asked for a source
that does not compile, whatever the scanner is like; asked for a pattern it never does.  The fault
is that of compiling the source: it holds the source, it says what is wrong with it behind the
source in quotes, and so it is the same each time.  The scanner keeps its cursor, its match and its
cache, and no event is told; and a session that is asked for it takes all later steps as if it had
not been. -/
theorem fault_without_trace (s : Scanner) (hr : r.search? = some (m, q)) :
    (∀ e, (s.answer r).reply = .fault e ↔
      ∃ source, q = .source source ∧ Pattern.compile source = .error e) ∧
    (∀ p e, q = .pattern p → (s.answer r).reply ≠ .fault e) ∧
    (∀ source e, Pattern.compile source = .error e → e.source = source ∧
      Regex.compile source = .error e.refusal ∧
      e.message = ['\''] ++ source ++ "' ".toList ++ e.refusal.message source) ∧
    ∀ e, (s.answer r).reply = .fault e → (s.answer r).scanner = s ∧ (s.answer r).events = [] ∧
      ∀ S : Session, S.scanner = s → ∀ steps,
        S.run (.ask r :: steps) = ((.fault e, []) :: (S.run steps).1, (S.run steps).2) := by
  refine ⟨fun e => (fault_iff hr).trans Query.compiled_eq_error_iff, ?_, ?_, fun e he => ?_⟩
  · rintro p e rfl he
    exact absurd ((fault_iff hr).1 he) (by simp [Query.compiled])
  · intro source e he
    obtain ⟨rfl, hrefusal⟩ := Pattern.compile_eq_error_iff.1 he
    exact ⟨rfl, hrefusal, rfl⟩
  · have hanswer := answer_of_fault hr he
    refine ⟨by rw [hanswer], by rw [hanswer], ?_⟩
    rintro S rfl steps
    have hscanner : (S.scanner.answer r).scanner = S.scanner := by rw [hanswer]
    have htake := Session.take_ask_of_scanner_eq hscanner
    rw [hanswer] at htake
    simp only [Session.run, htake]

/-- A group that is not closed, with a match to keep and the cursor inside a character. -/
theorem fault_without_trace_unclosed :
    let s := (new (some "aé".toList)).after [.scan (.source "a".toList), .moveTo 2]
    let r := Request.skipUntil (.source "(".toList)
    r.search? = some (.leftmost, .source "(".toList) ∧
      ∃ e, Pattern.compile "(".toList = .error e ∧ (s.answer r).reply = .fault e ∧
        e.source = "(".toList ∧ (s.answer r).scanner = s ∧ (s.answer r).events = [] := by
  intro s r
  obtain ⟨hfault, -, hsource, htrace⟩ := fault_without_trace s (r := r) rfl
  obtain ⟨e, he⟩ : ∃ e, Pattern.compile "(".toList = .error e := ⟨_, rfl⟩
  have hreply := (hfault e).2 ⟨_, rfl, he⟩
  obtain ⟨hscanner, hevents, -⟩ := htrace e hreply
  exact ⟨rfl, e, he, hreply, (hsource _ e he).1, hscanner, hevents⟩

end Scanner
end TextScan
