/-
# Pairs of numbers in JSON

A span and a position are read alike, as pairs of numbers with names: from an object that has
fields of both names, or from an array of just the two.  The fields may stand anywhere among others,
and the numbers may be in any order and may be zero.  Each has to be an integer that is not
negative; a number with a point, a number too large for an integer and every other value is refused.

| value | read as a span |
| --- | --- |
| an object with integers `start` and `end` from `0` up to `2 ^ 64 - 1` | these two |
| an array of two such integers | the first and the second |
| any other | refused |

What is read is written as the object of the two fields alone, which is read as the same again
(`pairs_roundTrip`).  That there is no integer beyond `2 ^ 64 - 1` in a value is a fact of how
numbers are read (`bounded_of_ofLiteral`).
-/

import TextScan.Json.Decode
import TextScan.Proofs.Regex.Reading

namespace TextScan
namespace Json

/-! ## Bounded values -/

/-- Every integer in a value is from `-2 ^ 63` up to `2 ^ 64 - 1`. -/
inductive Bounded : Json → Prop where
  | null : Bounded .null
  | bool (b : Bool) : Bounded (.bool b)
  | integer {n : Int} (hlow : -(Nat.pow 2 63 : Int) ≤ n) (hhigh : n < Nat.pow 2 64) :
      Bounded (.integer n)
  | float (x : Binary64) : Bounded (.float x)
  | string (t : Text) : Bounded (.string t)
  | array {items : List Json} (h : ∀ v ∈ items, Bounded v) : Bounded (.array items)
  | object {fields : List (Text × Json)} (h : ∀ f ∈ fields, Bounded f.2) : Bounded (.object fields)

theorem Significand.push_lt {s : Significand} (h : s.value < limit) (c : Char) :
    (s.push c).value < limit := by
  unfold push
  dsimp only
  split
  · rename_i hfits
    exact hfits.2
  · exact h

theorem Significand.ofDigits_lt {s : Significand} (h : s.value < limit) (t : Text) :
    (s.ofDigits t).value < limit := by
  unfold ofDigits
  induction t generalizing s with
  | nil => exact h
  | cons c t ih => exact ih (push_lt h c)

theorem bounded_of_decimal {negative : Bool} {n : Nat} {e : Int} {v : Json}
    (h : decimal negative n e = some v) : v.Bounded := by
  obtain ⟨x, -, rfl⟩ := Option.map_eq_some_iff.1 h
  exact .float x

/-- **A number is bounded**, however it is written. -/
theorem bounded_of_ofLiteral {l : Literal} {v : Json} (h : ofLiteral l = some v) : v.Bounded := by
  have hlt : (Significand.ofDigits ⟨0, 0⟩ l.whole).value < Significand.limit :=
    Significand.ofDigits_lt (by decide) l.whole
  have hlimit : Significand.limit = Nat.pow 2 64 := rfl
  have hhalf : Nat.pow 2 63 < Nat.pow 2 64 := by decide
  unfold ofLiteral at h
  dsimp only at h
  split at h
  · split at h
    · obtain rfl := Option.some.inj h
      exact .integer (by omega) (by omega)
    · split at h
      · rename_i hneg
        obtain ⟨-, -, hle⟩ := hneg
        obtain rfl := Option.some.inj h
        exact .integer (by omega) (by omega)
      · exact bounded_of_decimal h
  · exact bounded_of_decimal h

/-! ## Reading a pair -/

/-- A value holds two numbers, under the names of a type or as an array. -/
inductive Holds (t : PairType) (m n : Nat) : Json → Prop where
  | fields {fields : List (Text × Json)} (hfirst : field? fields t.first = some (.integer m))
      (hsecond : field? fields t.second = some (.integer n)) : Holds t m n (.object fields)
  | items : Holds t m n (.array [.integer m, .integer n])

variable {t : PairType} {v : Json} {m n : Nat} {fields : List (Text × Json)}

theorem toNat_eq_ok_iff : v.toNat = .ok n ↔ v = .integer n := by
  cases v with
  | integer k =>
    cases k with
    | ofNat k =>
      rw [toNat, Except.ok.injEq, integer.injEq]
      exact Int.natCast_inj.symm
    | negSucc k => simp [toNat]
  | _ => simp [toNat]

theorem pairOfItems_eq_ok_iff {items : List Json} :
    pairOfItems t items = .ok (m, n) ↔ items = [.integer m, .integer n] := by
  match items with
  | [] => simp [pairOfItems]
  | [a] =>
    have hno : pairOfItems t [a] ≠ .ok (m, n) := by
      rw [pairOfItems, ne_eq, Regex.bind_eq_ok]
      simp
    simp [hno]
  | a :: b :: rest =>
    rw [pairOfItems, Regex.bind_eq_ok]
    simp only [Regex.bind_eq_ok, toNat_eq_ok_iff]
    constructor
    · rintro ⟨m', rfl, n', rfl, h⟩
      cases rest with
      | nil =>
        obtain ⟨rfl, rfl⟩ := Prod.mk.inj (Except.ok.inj h)
        rfl
      | cons c rest => exact absurd h (by simp)
    · intro h
      obtain ⟨rfl, htail⟩ := List.cons.inj h
      obtain ⟨rfl, rfl⟩ := List.cons.inj htail
      exact ⟨m, rfl, n, rfl, rfl⟩

/-- A field is read if it is missing, or if it is a number. -/
theorem mapM_toNat_eq_ok_iff {a : Option Json} {b : Option Nat} :
    a.mapM toNat = .ok b ↔ a = b.map fun n => .integer n := by
  cases a with
  | none =>
    have hread : (none : Option Json).mapM toNat = .ok none := rfl
    rw [hread, Except.ok.injEq]
    cases b with
    | none => simp
    | some n => simp
  | some v =>
    have hread : (some v).mapM toNat = v.toNat.map some := rfl
    rw [hread, Regex.map_eq_ok]
    simp only [toNat_eq_ok_iff]
    cases b with
    | none => simp
    | some n => simp

theorem pairOfFields_eq_ok_iff : pairOfFields t fields = .ok (m, n) ↔
    field? fields t.first = some (.integer m) ∧ field? fields t.second = some (.integer n) := by
  rw [pairOfFields, Regex.bind_eq_ok]
  simp only [Regex.bind_eq_ok, mapM_toNat_eq_ok_iff]
  constructor
  · rintro ⟨b, hsecond, a, hfirst, h⟩
    cases a with
    | none => exact absurd h (by simp)
    | some m' =>
      cases b with
      | none => exact absurd h (by simp)
      | some n' =>
        obtain ⟨rfl, rfl⟩ := Prod.mk.inj (Except.ok.inj h)
        exact ⟨hfirst, hsecond⟩
  · rintro ⟨hfirst, hsecond⟩
    exact ⟨some n, hsecond, some m, hfirst, rfl⟩

/-- **Two numbers are read from a value if and only if it holds them.** -/
theorem toPair_eq_ok_iff : v.toPair t = .ok (m, n) ↔ Holds t m n v := by
  cases v with
  | array items =>
    rw [toPair, pairOfItems_eq_ok_iff]
    constructor
    · rintro rfl
      exact .items
    · rintro ⟨⟩
      rfl
  | object fields =>
    rw [toPair, pairOfFields_eq_ok_iff]
    constructor
    · rintro ⟨hfirst, hsecond⟩
      exact .fields hfirst hsecond
    · rintro (⟨hfirst, hsecond⟩ | ⟨⟩)
      exact ⟨hfirst, hsecond⟩
  | _ =>
    simp only [toPair, reduceCtorEq, false_iff]
    rintro ⟨⟩

/-- A field of a bounded object is bounded. -/
theorem Bounded.field? (h : (Json.object fields).Bounded) {name : String}
    (hv : Json.field? fields name = some v) : v.Bounded := by
  cases h with
  | object h =>
    obtain ⟨f, hf, rfl⟩ := Option.map_eq_some_iff.1 hv
    exact h f (List.mem_reverse.1 (List.mem_of_find?_eq_some hf))

theorem Bounded.lt (h : (Json.integer n).Bounded) : n < Nat.pow 2 64 := by
  cases h with
  | integer _ hhigh => omega

/-- The numbers in a bounded value are below `2 ^ 64`. -/
theorem Holds.lt (h : Holds t m n v) (hv : v.Bounded) : m < Nat.pow 2 64 ∧ n < Nat.pow 2 64 := by
  cases h with
  | fields hfirst hsecond => exact ⟨(hv.field? hfirst).lt, (hv.field? hsecond).lt⟩
  | items =>
    cases hv with
    | array h => exact ⟨(h (.integer m) (by simp)).lt, (h (.integer n) (by simp)).lt⟩

/-! ## Writing a pair -/

/-- The object of two numbers. -/
def ofPair (t : PairType) (m n : Nat) : Json :=
  .object [(t.first.toList, .integer m), (t.second.toList, .integer n)]

/-- Where the two names differ, the object of two numbers holds them. -/
theorem holds_ofPair (ht : t.first ≠ t.second) (m n : Nat) : Holds t m n (ofPair t m n) := by
  have hne : (t.second.toList == t.first.toList) = false :=
    beq_false_of_ne fun h => ht (String.toList_inj.1 h).symm
  refine .fields ?_ ?_
  · simp [Json.field?, hne]
  · simp [Json.field?]

/-- A type is read from the values that hold two numbers, and written as the object of the two. -/
structure PairType.Codes {α : Type} (t : PairType) (make : Nat → Nat → α)
    (read : Json → Except DecodeFault α) (write : α → Json) : Prop where
  /-- A value is read if and only if it holds two numbers, and what is read is made of these. -/
  read_iff : ∀ v, v.Bounded → ∀ a, read v = .ok a ↔
    ∃ m n, m < Nat.pow 2 64 ∧ n < Nat.pow 2 64 ∧ Holds t m n v ∧ a = make m n
  /-- What is written is read as the same. -/
  read_write : ∀ m n, read (write (make m n)) = .ok (make m n)
  /-- What is read is written as the object of its numbers. -/
  write_read : ∀ v m n, Holds t m n v →
    ∃ a, read v = .ok a ∧ write a = ofPair t m n

/-- A type with two names codes, if it is read by way of pairs. -/
theorem PairType.codes {α : Type} {t : PairType} {make : Nat → Nat → α}
    {read : Json → Except DecodeFault α} {write : α → Json} (ht : t.first ≠ t.second)
    (hread : ∀ v, read v = (v.toPair t).map fun p => make p.1 p.2)
    (hwrite : ∀ m n, write (make m n) = ofPair t m n) : t.Codes make read write := by
  have hok : ∀ v m n, Holds t m n v → read v = .ok (make m n) := by
    intro v m n h
    rw [hread, toPair_eq_ok_iff.2 h]
    rfl
  refine ⟨fun v hv a => ⟨fun h => ?_, ?_⟩, fun m n => ?_, fun v m n h => ?_⟩
  · rw [hread, Regex.map_eq_ok] at h
    obtain ⟨⟨m, n⟩, hp, rfl⟩ := h
    have hholds := toPair_eq_ok_iff.1 hp
    obtain ⟨hm, hn⟩ := hholds.lt hv
    exact ⟨m, n, hm, hn, hholds, rfl⟩
  · rintro ⟨m, n, -, -, hholds, rfl⟩
    exact hok v m n hholds
  · rw [hwrite]
    exact hok _ m n (holds_ofPair ht m n)
  · exact ⟨make m n, hok v m n h, hwrite m n⟩

/-- **Spans and positions are read from the values that hold their two numbers**, and from no
others: objects with fields of the two names, and arrays of two, with integers from zero up to
`2 ^ 64 - 1`.  The numbers are taken as they are, in any order, zero included.  What is written is
read as the same again, and what is read is written as the object of the two fields. -/
theorem pairs_roundTrip : spanType.Codes Span.mk Span.ofJson Span.toJson ∧
    positionType.Codes Position.mk Position.ofJson Position.toJson :=
  ⟨PairType.codes (by decide) (fun _ => rfl) fun _ _ => rfl,
    PairType.codes (by decide) (fun _ => rfl) fun _ _ => rfl⟩

/-- A span may end before it starts, and stand among other fields; a position may have zeros, but
nothing below zero. -/
theorem pairs_roundTrip_disordered :
    let v : Json := .object [("end".toList, .integer 2), ("step".toList, .null),
      ("start".toList, .integer 7)]
    let w : Json := .array [.integer (-1), .integer 3]
    (v.Bounded ∧ Span.ofJson v = .ok ⟨7, 2⟩ ∧
      ∃ s, Span.ofJson v = .ok s ∧ s.toJson = ofPair spanType 7 2) ∧
    (w.Bounded ∧ ∀ p, Position.ofJson w ≠ .ok p) ∧
    (∃ p, Position.ofJson (.array [.integer 0, .integer 3]) = .ok p ∧
      p.toJson = ofPair positionType 0 3) ∧
    Position.ofJson (Position.mk 0 (Nat.pow 2 64 - 1)).toJson = .ok ⟨0, Nat.pow 2 64 - 1⟩ := by
  intro v w
  obtain ⟨hspan, hposition⟩ := pairs_roundTrip
  have hv : v.Bounded := by
    refine .object fun f hf => ?_
    simp only [List.mem_cons, List.not_mem_nil, or_false] at hf
    rcases hf with rfl | rfl | rfl
    · exact .integer (by decide) (by decide)
    · exact .null
    · exact .integer (by decide) (by decide)
  have hw : w.Bounded := by
    refine .array fun u hu => ?_
    simp only [List.mem_cons, List.not_mem_nil, or_false] at hu
    rcases hu with rfl | rfl
    · exact .integer (by decide) (by decide)
    · exact .integer (by decide) (by decide)
  have hread : Span.ofJson v = .ok ⟨7, 2⟩ :=
    (hspan.read_iff v hv ⟨7, 2⟩).2 ⟨7, 2, by decide, by decide, .fields rfl rfl, rfl⟩
  have hno : ∀ p, Position.ofJson w ≠ .ok p := by
    intro p hp
    obtain ⟨m, n, -, -, hholds, -⟩ := (hposition.read_iff w hw p).1 hp
    have hpair : w.toPair positionType = .ok (m, n) := toPair_eq_ok_iff.2 hholds
    cases hpair
  refine ⟨⟨hv, hread, hspan.write_read _ 7 2 (.fields rfl rfl)⟩, ⟨hw, hno⟩,
    hposition.write_read _ 0 3 .items, ?_⟩
  exact hposition.read_write 0 (Nat.pow 2 64 - 1)

end Json
end TextScan
