/-
# The records of a session

A scanner of a session was new once, or it was copied from another one.  Its record holds the
requests that it has inherited, those of the scanner that it was copied from up to the copy, and its
own requests, each with the events on the way.  `Session.note` keeps the records next to a session
while it takes a step.

The records are true (`Session.records_tell`): a scanner is the one that a new scanner becomes under
the requests of its record, and the events of its own requests are those that this scanner tells.
-/

import Mathlib.Data.List.Forall2
import TextScan.Proofs.Scanner.History
import TextScan.Scanner.Session

namespace TextScan

/-- The requests that a scanner has inherited, and its own with the events on the way. -/
structure Record where
  inherited : List Request
  own : List (Request × List Event)

namespace Record

/-- The record of a scanner that was not asked for anything. -/
def blank : Record := ⟨[], []⟩

/-- All requests of a record. -/
def requests (l : Record) : List Request := l.inherited ++ l.own.map (·.1)

/-- The events of the own requests. -/
def events (l : Record) : List Event := l.own.flatMap (·.2)

/-- One more request. -/
def add (l : Record) (r : Request) (es : List Event) : Record :=
  { l with own := l.own ++ [(r, es)] }

/-- The record of a copy. -/
def copy (l : Record) : Record := ⟨l.requests, []⟩

end Record

namespace Session

/-- The records of the scanners of a session, behind a step. -/
def note (S : Session) (ls : List Record) : Step → List Record
  | .ask r => ls.modify S.current fun l => l.add r (S.take (.ask r)).2.1
  | .clone => ls ++ [((ls[S.current]?).getD Record.blank).copy]
  | .use _ => ls

/-- The records behind steps. -/
def notes (S : Session) (ls : List Record) : List Step → List Record
  | [] => ls
  | step :: steps => (S.take step).2.2.notes (S.note ls step) steps

/-- The records of a new session behind steps. -/
def records (input : Option Text) (steps : List Step) : List Record :=
  (new input).notes [Record.blank] steps

end Session

namespace Scanner

/-- A series of requests, each with the events on the way. -/
def told (s : Scanner) : List Request → List (Request × List Event)
  | [] => []
  | r :: rs => (r, (s.answer r).events) :: (s.answer r).scanner.told rs

theorem told_append (s : Scanner) (rs rs' : List Request) :
    s.told (rs ++ rs') = s.told rs ++ (s.after rs).told rs' := by
  induction rs generalizing s with
  | nil => rfl
  | cons r rs ih => simp only [List.cons_append, told, ih, after_cons]

theorem map_fst_told (s : Scanner) (rs : List Request) : (s.told rs).map (·.1) = rs := by
  induction rs generalizing s with
  | nil => rfl
  | cons r rs ih => simp only [told, List.map_cons, ih]

/-- The events of a request in a series are those of the scanner behind the requests before it. -/
theorem events_of_told_eq {s : Scanner} {rs : List Request} {pre post : List (Request × List Event)}
    {r : Request} {es : List Event} (h : s.told rs = pre ++ (r, es) :: post) :
    es = ((s.after (pre.map (·.1))).answer r).events := by
  induction pre generalizing s rs with
  | nil =>
    cases rs with
    | nil => exact absurd h (by simp [told])
    | cons r' rs =>
      obtain ⟨hr, -⟩ := List.cons.inj h
      obtain ⟨rfl, rfl⟩ := Prod.mk.inj hr
      rfl
  | cons a pre ih =>
    cases rs with
    | nil => exact absurd h (by simp [told])
    | cons r' rs =>
      obtain ⟨rfl, hrest⟩ := List.cons.inj h
      exact ih hrest

end Scanner

/-- A record tells of a scanner: a new scanner becomes it under the requests of the record, and the
events of the own requests are those that it tells. -/
def Record.TellsOf (l : Record) (s : Scanner) : Prop :=
  ∃ input, s = (Scanner.new input).after l.requests ∧
    l.own = ((Scanner.new input).after l.inherited).told (l.own.map (·.1))

namespace Record

variable {l : Record} {s : Scanner}

theorem tellsOf_blank (input : Option Text) : blank.TellsOf (Scanner.new input) := ⟨input, rfl, rfl⟩

theorem TellsOf.add (h : l.TellsOf s) (r : Request) :
    (l.add r (s.answer r).events).TellsOf (s.answer r).scanner := by
  obtain ⟨input, rfl, hown⟩ := h
  have hrequests : (l.add r (((Scanner.new input).after l.requests).answer r).events).requests =
      l.requests ++ [r] := by
    simp only [requests, Record.add, List.map_append, List.map_cons, List.map_nil,
      List.append_assoc]
  refine ⟨input, ?_, ?_⟩
  · rw [hrequests, Scanner.after_append]
    rfl
  · simp only [Record.add, List.map_append, List.map_cons, List.map_nil, Scanner.told_append]
    rw [← hown, ← Scanner.after_append]
    rfl

theorem TellsOf.copy (h : l.TellsOf s) : l.copy.TellsOf s := by
  obtain ⟨input, rfl, -⟩ := h
  refine ⟨input, ?_, rfl⟩
  simp only [Record.copy, requests, List.map_nil, List.append_nil]

end Record

namespace Session

/-- Two lists stay related where related entries of one place are put in place of others. -/
theorem forall₂_modify_set {α β : Type} {R : α → β → Prop} {as : List α} {bs : List β} {i : Nat}
    {f : α → α} {b : β} (h : List.Forall₂ R as bs)
    (hi : ∀ a b', bs[i]? = some b' → R a b' → R (f a) b) :
    List.Forall₂ R (as.modify i f) (bs.set i b) := by
  induction h generalizing i with
  | nil => simp
  | cons hab h ih =>
    cases i with
    | zero => exact .cons (hi _ _ rfl hab) h
    | succ i => exact .cons hab (ih hi)

theorem forall₂_getD {α β : Type} {R : α → β → Prop} {as : List α} {bs : List β} {a : α} {b : β}
    (h : List.Forall₂ R as bs) (hab : R a b) (i : Nat) :
    R ((as[i]?).getD a) ((bs[i]?).getD b) := by
  induction h generalizing i with
  | nil => exact hab
  | cons h₁ h ih =>
    cases i with
    | zero => exact h₁
    | succ i => exact ih i

/-- A step keeps the records true. -/
theorem note_tells {S : Session} {ls : List Record}
    (h : List.Forall₂ Record.TellsOf ls S.scanners) (step : Step) :
    List.Forall₂ Record.TellsOf (S.note ls step) (S.take step).2.2.scanners := by
  cases step with
  | ask r =>
    refine forall₂_modify_set h fun l s hs hl => ?_
    have hcurrent : S.scanner = s := by rw [scanner, hs, Option.getD_some]
    simp only [take, hcurrent]
    exact hl.add r
  | clone =>
    have hcopy := (forall₂_getD h (Record.tellsOf_blank none) S.current).copy
    exact List.rel_append h (.cons hcopy .nil)
  | use n => exact h

theorem notes_tell {S : Session} {ls : List Record}
    (h : List.Forall₂ Record.TellsOf ls S.scanners) (steps : List Step) :
    List.Forall₂ Record.TellsOf (S.notes ls steps) (S.run steps).2.scanners := by
  induction steps generalizing S ls with
  | nil => exact h
  | cons step steps ih => exact ih (note_tells h step)

/-- **The records are true**, whatever steps a new session takes. -/
theorem records_tell (input : Option Text) (steps : List Step) :
    List.Forall₂ Record.TellsOf (records input steps) ((new input).run steps).2.scanners :=
  notes_tell (.cons (Record.tellsOf_blank input) .nil) steps

end Session
end TextScan
