/-
# Scanners do not touch each other

In a session the requests to several scanners come in any order, scanners are copied, and new ones
are added (`Session.Move`).  A move changes at most the current scanner (`getElem?_move`), and an
added one starts as a new scanner or as what the current one is at that moment (`Session.Starts`).
So a scanner of a session becomes what it becomes alone: its requests, made one after the other
from the scanner that it starts as, get the same replies and lead to the same scanner
(`Starts.alone`).  Nothing else about the session shows in them.
-/

import TextScan.Proofs.Scanner.History
import TextScan.Scanner.Session

namespace TextScan
namespace Session

/-- What can be done in a session. -/
inductive Move where
  /-- To take a step. -/
  | step (step : Step)
  /-- To add a new scanner; the reply is its number. -/
  | add (input : Option Text)
  deriving DecidableEq

/-- Makes a move: the reply, the events on the way, and the session after it. -/
def move (S : Session) : Move → Reply × List Event × Session
  | .step step => S.take step
  | .add input =>
    (.number S.scanners.length, [], { S with scanners := S.scanners ++ [Scanner.new input] })

/-- Makes moves one after the other: the replies with their events, and the session after them. -/
def moves (S : Session) : List Move → List (Reply × List Event) × Session
  | [] => ([], S)
  | m :: ms =>
    let (reply, events, S') := S.move m
    let (replies, S'') := S'.moves ms
    ((reply, events) :: replies, S'')

/-- A request to a scanner of a session, with what came of it. -/
structure Exchange where
  number : Nat
  request : Request
  reply : Reply
  events : List Event
  deriving DecidableEq

/-- The exchange of a move, if the move is a request to a scanner of the session. -/
def exchange? (S : Session) : Move → Option Exchange
  | .step (.ask r) =>
    if S.current < S.scanners.length then
      some ⟨S.current, r, (S.take (.ask r)).1, (S.take (.ask r)).2.1⟩
    else none
  | _ => none

/-- The exchanges of moves. -/
def exchanges (S : Session) : List Move → List Exchange
  | [] => []
  | m :: ms => (S.exchange? m).toList ++ (S.move m).2.2.exchanges ms

/-- The exchanges with one scanner. -/
def exchangesWith (S : Session) (ms : List Move) (n : Nat) : List Exchange :=
  (S.exchanges ms).filter (·.number == n)

/-- The requests to one scanner. -/
def requestsTo (S : Session) (ms : List Move) (n : Nat) : List Request :=
  (S.exchangesWith ms n).map (·.request)

/-- The replies of one scanner, with the events on the way. -/
def repliesOf (S : Session) (ms : List Move) (n : Nat) : List (Reply × List Event) :=
  (S.exchangesWith ms n).map fun e => (e.reply, e.events)

/-- What the scanner with a number starts as: it is there from the beginning, or it is a copy of the
current scanner at the moment of copying, or it is new. -/
inductive Starts (S : Session) (ms : List Move) : Nat → Scanner → Prop where
  | there {n : Nat} {s : Scanner} (h : S.scanners[n]? = some s) : Starts S ms n s
  | copied (pre post : List Move) (h : ms = pre ++ .step .clone :: post) :
      Starts S ms (S.moves pre).2.scanners.length (S.moves pre).2.scanner
  | added (pre post : List Move) (input : Option Text) (h : ms = pre ++ .add input :: post) :
      Starts S ms (S.moves pre).2.scanners.length (Scanner.new input)

variable {S : Session} {m : Move} {ms : List Move} {n : Nat} {s c : Scanner}

/-- Moves that are steps are a run of the session. -/
theorem moves_map_step (S : Session) (steps : List Step) :
    S.moves (steps.map .step) = S.run steps := by
  induction steps generalizing S with
  | nil => rfl
  | cons step steps ih => simp only [List.map_cons, moves, run, move, ih]

/-! ## One move -/

theorem length_le_move (S : Session) (m : Move) :
    S.scanners.length ≤ (S.move m).2.2.scanners.length := by
  cases m with
  | add input => simp [move]
  | step step => cases step <;> simp [move, take]

/-- A request goes to the current scanner, which is one of the session. -/
theorem number_of_exchange? {e : Exchange} (h : S.exchange? m = some e) :
    e.number = S.current ∧ S.current < S.scanners.length := by
  unfold exchange? at h
  split at h
  · split at h
    · next hcurrent =>
      cases h
      exact ⟨rfl, hcurrent⟩
    · cases h
  · cases h

/-- **A move touches the scanner that it asks, and no other one.** -/
theorem getElem?_move (h : S.scanners[n]? = some s) (m : Move) :
    (∃ e, S.exchange? m = some e ∧ e.number = n ∧ e.reply = (s.answer e.request).reply ∧
      e.events = (s.answer e.request).events ∧
      (S.move m).2.2.scanners[n]? = some (s.answer e.request).scanner) ∨
    ((∀ e, S.exchange? m = some e → e.number ≠ n) ∧ (S.move m).2.2.scanners[n]? = some s) := by
  have hn := (List.getElem?_eq_some_iff.1 h).1
  cases m with
  | add input =>
    refine Or.inr ⟨fun e he => absurd he (by simp [exchange?]), ?_⟩
    rw [move, List.getElem?_append_left hn, h]
  | step step =>
    cases step with
    | use k => exact Or.inr ⟨fun e he => absurd he (by simp [exchange?]), h⟩
    | clone =>
      refine Or.inr ⟨fun e he => absurd he (by simp [exchange?]), ?_⟩
      rw [move, take, List.getElem?_append_left hn, h]
    | ask r =>
      by_cases hcurrent : S.current = n
      · subst hcurrent
        have hscanner : S.scanner = s := by rw [scanner, h, Option.getD_some]
        refine Or.inl ⟨_, if_pos hn, rfl, ?_, ?_, ?_⟩
        · simp only [take, hscanner]
        · simp only [take, hscanner]
        · simp only [move, take, hscanner, List.getElem?_set_self hn]
      · refine Or.inr ⟨fun e he hen => hcurrent ?_, ?_⟩
        · rw [← (number_of_exchange? he).1, hen]
        · simp only [move, take, List.getElem?_set_ne hcurrent, h]

/-- A scanner that is not there before a move but after it is a copy or new. -/
theorem created_of_move (hn : S.scanners.length ≤ n)
    (h : (S.move m).2.2.scanners[n]? = some c) : n = S.scanners.length ∧
    (m = .step .clone ∧ c = S.scanner ∨ ∃ input, m = .add input ∧ c = Scanner.new input) := by
  cases m with
  | add input =>
    rw [move, List.getElem?_append_right hn, List.getElem?_singleton] at h
    split at h
    · next hzero =>
      cases h
      exact ⟨by omega, Or.inr ⟨input, rfl, rfl⟩⟩
    · cases h
  | step step =>
    cases step with
    | use k => exact absurd (List.getElem?_eq_some_iff.1 h).1 (Nat.not_lt.2 hn)
    | clone =>
      rw [move, take, List.getElem?_append_right hn, List.getElem?_singleton] at h
      split at h
      · next hzero =>
        cases h
        exact ⟨by omega, Or.inl ⟨rfl, rfl⟩⟩
      · cases h
    | ask r =>
      have hlt := (List.getElem?_eq_some_iff.1 h).1
      rw [move, take, List.length_set] at hlt
      exact absurd hlt (Nat.not_lt.2 hn)

/-! ## Where a scanner starts -/

theorem length_le_moves (S : Session) (ms : List Move) :
    S.scanners.length ≤ (S.moves ms).2.scanners.length := by
  induction ms generalizing S with
  | nil => exact le_rfl
  | cons m ms ih => exact (length_le_move S m).trans (ih _)

theorem starts_nil_iff : S.Starts [] n c ↔ S.scanners[n]? = some c := by
  constructor
  · intro h
    cases h with
    | there h => exact h
    | copied pre post h => exact absurd h (by simp)
    | added pre post input h => exact absurd h (by simp)
  · exact .there

/-- A scanner is there, or it starts behind the first move. -/
theorem starts_cons_iff : S.Starts (m :: ms) n c ↔
    S.scanners[n]? = some c ∨ S.scanners.length ≤ n ∧ (S.move m).2.2.Starts ms n c := by
  constructor
  · intro h
    cases h with
    | there h => exact Or.inl h
    | copied pre post h =>
      cases pre with
      | nil =>
        obtain ⟨rfl, rfl⟩ := List.cons.inj h
        exact Or.inr ⟨le_rfl, .there List.getElem?_concat_length⟩
      | cons m' pre =>
        obtain ⟨rfl, rfl⟩ := List.cons.inj h
        exact Or.inr ⟨length_le_moves S (m :: pre), .copied pre post rfl⟩
    | added pre post input h =>
      cases pre with
      | nil =>
        obtain ⟨rfl, rfl⟩ := List.cons.inj h
        exact Or.inr ⟨le_rfl, .there List.getElem?_concat_length⟩
      | cons m' pre =>
        obtain ⟨rfl, rfl⟩ := List.cons.inj h
        exact Or.inr ⟨length_le_moves S (m :: pre), .added pre post input rfl⟩
  · rintro (h | ⟨hn, h⟩)
    · exact .there h
    · cases h with
      | there h =>
        obtain ⟨rfl, ⟨rfl, rfl⟩ | ⟨input, rfl, rfl⟩⟩ := created_of_move hn h
        · exact .copied [] ms rfl
        · exact .added [] ms input rfl
      | copied pre post h => exact .copied (m :: pre) post (congrArg (m :: ·) h)
      | added pre post input h => exact .added (m :: pre) post input (congrArg (m :: ·) h)

/-- **Every scanner starts once.** -/
theorem existsUnique_starts (h : n < (S.moves ms).2.scanners.length) : ∃! c, S.Starts ms n c := by
  induction ms generalizing S with
  | nil =>
    refine ⟨_, starts_nil_iff.2 (List.getElem?_eq_getElem h), fun c hc => ?_⟩
    exact (List.getElem?_eq_some_iff.1 (starts_nil_iff.1 hc)).2.symm
  | cons m ms ih =>
    rcases Nat.lt_or_ge n S.scanners.length with hn | hn
    · refine ⟨_, .there (List.getElem?_eq_getElem hn), fun c hc => ?_⟩
      rcases starts_cons_iff.1 hc with hc | ⟨hge, -⟩
      · exact (List.getElem?_eq_some_iff.1 hc).2.symm
      · omega
    · obtain ⟨c, hc, hunique⟩ := ih h
      refine ⟨c, starts_cons_iff.2 (Or.inr ⟨hn, hc⟩), fun c' hc' => ?_⟩
      rcases starts_cons_iff.1 hc' with hc' | ⟨-, hc'⟩
      · exact absurd (List.getElem?_eq_some_iff.1 hc').1 (Nat.not_lt.2 hn)
      · exact hunique c' hc'

/-! ## A scanner of a session, and a scanner alone -/

/-- Under its requests in moves a scanner alone becomes what it is behind them, with the same
replies. -/
def Alone (S : Session) (ms : List Move) (n : Nat) (c : Scanner) : Prop :=
  (S.moves ms).2.scanners[n]? = some (c.after (S.requestsTo ms n)) ∧
    S.repliesOf ms n = (c.answers (S.requestsTo ms n)).1.map fun a => (a.reply, a.events)

/-- A request to the scanner is its next exchange. -/
theorem exchangesWith_cons_self (ms : List Move) {e : Exchange} (h : S.exchange? m = some e)
    (hn : e.number = n) :
    S.exchangesWith (m :: ms) n = e :: (S.move m).2.2.exchangesWith ms n := by
  simp [exchangesWith, exchanges, h, hn]

/-- A move that does not ask the scanner is none of its exchanges. -/
theorem exchangesWith_cons_other (ms : List Move)
    (h : ∀ e, S.exchange? m = some e → e.number ≠ n) :
    S.exchangesWith (m :: ms) n = (S.move m).2.2.exchangesWith ms n := by
  cases he : S.exchange? m with
  | none => simp [exchangesWith, exchanges, he]
  | some e => simp [exchangesWith, exchanges, he, h e he]

theorem Alone.cons_self {e : Exchange} (h : S.exchange? m = some e) (hn : e.number = n)
    (hreply : e.reply = (s.answer e.request).reply)
    (hevents : e.events = (s.answer e.request).events)
    (halone : (S.move m).2.2.Alone ms n (s.answer e.request).scanner) : S.Alone (m :: ms) n s := by
  have hwith := exchangesWith_cons_self ms h hn
  have hrequests : S.requestsTo (m :: ms) n = e.request :: (S.move m).2.2.requestsTo ms n := by
    rw [requestsTo, hwith]
    rfl
  refine ⟨?_, ?_⟩
  · rw [hrequests, Scanner.after_cons, ← halone.1]
    rfl
  · rw [hrequests, repliesOf, hwith, List.map_cons, hreply, hevents]
    exact congrArg (_ :: ·) halone.2

theorem Alone.cons_other (h : ∀ e, S.exchange? m = some e → e.number ≠ n)
    (halone : (S.move m).2.2.Alone ms n s) : S.Alone (m :: ms) n s := by
  have hwith := exchangesWith_cons_other ms h
  have hrequests : S.requestsTo (m :: ms) n = (S.move m).2.2.requestsTo ms n := by
    rw [requestsTo, hwith, requestsTo]
  refine ⟨?_, ?_⟩
  · rw [hrequests, ← halone.1]
    rfl
  · rw [hrequests, repliesOf, hwith]
    exact halone.2

/-- A scanner that is there is alone, by induction on the moves. -/
theorem alone_of_there (h : S.scanners[n]? = some s) (ms : List Move) : S.Alone ms n s := by
  induction ms generalizing S s with
  | nil => exact ⟨h, rfl⟩
  | cons m ms ih =>
    obtain ⟨e, he, hn, hreply, hevents, hmove⟩ | ⟨hother, hmove⟩ := getElem?_move h m
    · exact .cons_self he hn hreply hevents (ih hmove)
    · exact .cons_other hother (ih hmove)

/-- Before a scanner is there it is not asked for anything. -/
theorem Starts.alone (h : S.Starts ms n c) : S.Alone ms n c := by
  induction ms generalizing S with
  | nil => exact alone_of_there (starts_nil_iff.1 h) []
  | cons m ms ih =>
    rcases starts_cons_iff.1 h with hthere | ⟨hn, hlater⟩
    · exact alone_of_there hthere (m :: ms)
    · refine .cons_other (fun e he => ?_) (ih hlater)
      have := number_of_exchange? he
      omega

/-- **Scanners do not touch each other.**  Whatever moves a session makes, every scanner starts
once, and from then on it is alone.  So in two sessions two scanners that start the same, and are
asked for the same, give the same replies and become the same, whatever the other scanners are asked
for in between. -/
theorem scanners_independent (S : Session) (ms : List Move) :
    (∀ n < (S.moves ms).2.scanners.length, ∃! c, S.Starts ms n c) ∧
      (∀ n c, S.Starts ms n c → S.Alone ms n c) ∧
      ∀ (S' : Session) (ms' : List Move) (n n' : Nat) (c : Scanner), S.Starts ms n c →
        S'.Starts ms' n' c → S.requestsTo ms n = S'.requestsTo ms' n' →
          S.repliesOf ms n = S'.repliesOf ms' n' ∧
            (S.moves ms).2.scanners[n]? = (S'.moves ms').2.scanners[n']? := by
  refine ⟨fun n hn => existsUnique_starts hn, fun n c h => h.alone, ?_⟩
  intro S' ms' n n' c hstarts hstarts' hrequests
  obtain ⟨hscanner, hreplies⟩ := hstarts.alone
  obtain ⟨hscanner', hreplies'⟩ := hstarts'.alone
  rw [hscanner, hscanner', hreplies, hreplies', hrequests]
  exact ⟨rfl, rfl⟩

/-- A copy and a new scanner, in two orders: the copy has another number, and what it is copied from
goes on before it or behind it. -/
theorem scanners_independent_copy :
    let S := Session.new (some "aab".toList)
    let a := Request.scan (.source "a".toList)
    let b := Request.scan (.source "b".toList)
    let ms : List Move := [.step (.ask a), .step .clone, .step (.ask a), .add (some ['b']),
      .step (.use 1), .step (.ask .takeChar), .step (.use 2), .step (.ask b), .step (.use 1),
      .step (.ask b), .step (.use 0), .step (.ask .reset)]
    let ms' : List Move := [.add (some ['b']), .step (.ask a), .step .clone, .step (.use 2),
      .step (.ask .takeChar), .step (.ask b), .step (.use 0), .step (.ask a), .step (.use 1),
      .step (.ask b)]
    let c := ((Scanner.new (some "aab".toList)).answer a).scanner
    (S.Starts ms 1 c ∧ S.Starts ms' 2 c ∧ S.requestsTo ms 1 = S.requestsTo ms' 2) ∧
      (∃! s, S.Starts ms 2 s) ∧ S.Alone ms 1 c ∧ S.repliesOf ms 1 = S.repliesOf ms' 2 ∧
      (S.repliesOf ms 1).map (·.1) = [.text ['a'], .text ['b']] ∧
      (S.moves ms).2.scanners[1]? = (S.moves ms').2.scanners[2]? := by
  intro S a b ms ms' c
  have hstarts : S.Starts ms 1 c := .copied [.step (.ask a)] _ rfl
  have hstarts' : S.Starts ms' 2 c := .copied [.add (some ['b']), .step (.ask a)] _ rfl
  have hrequests : S.requestsTo ms 1 = S.requestsTo ms' 2 := by decide
  obtain ⟨hexists, halone, hsame⟩ := scanners_independent S ms
  obtain ⟨hreplies, hscanners⟩ := hsame S ms' 1 2 c hstarts hstarts' hrequests
  exact ⟨⟨hstarts, hstarts', hrequests⟩, hexists 2 (by decide), halone 1 c hstarts, hreplies,
    by decide, hscanners⟩

end Session
end TextScan
