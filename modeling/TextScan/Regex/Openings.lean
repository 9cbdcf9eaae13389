/-
# What matches open with

As far as it is known, the matches of an expression open with one of a few texts: those of
`(?:ab|c).` with `ab` or with `c`.  An opening is exact where the match is no more than it.  Where
all openings that are looked for are exact, they are all there is to look for, and no automaton is
built for the expression (`Expr.isTexts`).

`Expr.openings` collects the openings, the preferred ones first.  It gives up, `none`, where they
would be too many, and makes them inexact where they would be too long.

| limit | |
| --- | --- |
| members of a set | 10 |
| rounds of a repetition | 10 |
| bytes of an opening | 100 |
| openings | 250 |

`Opening.chosen` are the ones to look for.  Fewer and shorter openings are found faster, so some are
cut, which makes them inexact; if that does not help, exact openings are kept as they are.
-/

import TextScan.Regex.Expr

namespace TextScan
namespace Regex

/-- The bytes of a text. -/
def bytesOf (t : Text) : List UInt8 := t.flatMap String.utf8EncodeChar

/-- Bytes that matches open with. -/
structure Opening where
  bytes : List UInt8
  /-- Whether these matches are no more than the bytes. -/
  exact : Bool
  deriving DecidableEq, Repr

namespace Opening

/-- The opening of the empty match. -/
def empty : Opening := ⟨[], true⟩

/-- An opening with more behind it. -/
def inexact (p : Opening) : Opening := ⟨p.bytes, false⟩

/-- The first `n` bytes of an opening. -/
def cut (n : Nat) (p : Opening) : Opening :=
  if p.bytes.length ≤ n then p else ⟨p.bytes.take n, false⟩

/-- An opening right behind an exact one. -/
def append (p q : Opening) : Opening := ⟨p.bytes ++ q.bytes, q.exact⟩

/-- Equal openings side by side are one. -/
def joinEqual : List Opening → List Opening
  | [] => []
  | p :: ps =>
    match joinEqual ps with
    | [] => [p]
    | q :: qs =>
      if p.bytes = q.bytes then ⟨p.bytes, p.exact && q.exact⟩ :: qs else p :: q :: qs

end Opening

/-- The openings of an expression, if they are known. -/
abbrev Openings := Option (List Opening)

namespace Openings

/-- The greatest number of members of a set that are taken one by one. -/
def memberLimit : Nat := 10

/-- The greatest number of rounds of a repetition that are taken one by one. -/
def roundLimit : Nat := 10

/-- The greatest number of bytes of an opening. -/
def sizeLimit : Nat := 100

/-- The greatest number of openings. -/
def countLimit : Nat := 250

/-- The openings of what matches nothing but the empty text. -/
def ofEmpty : Openings := some [Opening.empty]

/-- The openings of a text. -/
def ofText (t : Text) : Openings := some [Opening.cut sizeLimit ⟨bytesOf t, true⟩]

/-- The openings of a set of characters. -/
def ofSet (s : CharSet) : Openings :=
  let members := s.ranges.foldl (fun n r => n + (r.high - r.low + 1)) 0
  if members ≤ memberLimit then
    some (s.ranges.flatMap fun r => (List.range' r.low (r.high - r.low + 1)).map fun n =>
      ⟨bytesOf [Char.ofNat n], true⟩)
  else none

/-- Inexact openings. -/
def inexact (s : Openings) : Openings := s.map fun ps => ps.map Opening.inexact

/-- The openings of one expression behind another: every exact opening of the first goes on with
those of the second.  If these are not known, or too many, it only has more behind it. -/
def cross (ps : List Opening) (t : Openings) : Openings :=
  match t.filter fun qs => decide (ps.length * qs.length ≤ countLimit) with
  | some qs =>
    some ((Opening.joinEqual (ps.flatMap fun p => if p.exact then qs.map p.append else [p])).map
      (Opening.cut sizeLimit))
  | none => if ps.any fun p => p.bytes.isEmpty then none else some (ps.map Opening.inexact)

/-- The openings of the parts of a sequence, with those of the next part.  It makes no difference if
none so far is exact. -/
def before (s t : Openings) : Openings :=
  s.bind fun ps => if ps.any Opening.exact then cross ps t else some ps

/-- The openings of one expression or another, the first preferred.  Too many of them are cut to
four bytes first. -/
def union : Openings → Openings → Openings
  | some ps, some qs =>
    if ps.length + qs.length ≤ countLimit then some (Opening.joinEqual (ps ++ qs))
    else
      let ps := Opening.joinEqual (ps.map (Opening.cut 4))
      let qs := Opening.joinEqual (qs.map (Opening.cut 4))
      if ps.length + qs.length ≤ countLimit then some (Opening.joinEqual (ps ++ qs)) else none
  | _, _ => none

/-- The openings of a repetition. -/
def repeated (least : Nat) (most : Option Nat) (greedy : Bool) (s : Openings) : Openings :=
  if least = 0 then
    let s := if most = some 1 then s else s.inexact
    if greedy then s.union ofEmpty else ofEmpty.union s
  else
    let rounds := Nat.repeat (fun t => before t s) (min least roundLimit) ofEmpty
    if most = some least ∧ least ≤ roundLimit then rounds else rounds.inexact

end Openings

/-- Where an expression stands among the parts of a sequence or the branches of alternatives. -/
inductive Place where
  /-- Apart from others. -/
  | alone
  /-- Behind parts with the openings. -/
  | behind (s : Openings)
  /-- After branches with the openings. -/
  | beside (s : Openings)

/-- The openings up to an expression and with it, which itself has the openings `t`. -/
def Place.put (t : Openings) : Place → Openings
  | alone => t
  | behind s => s.before t
  | beside s => s.union t

/-- The openings up to an expression and with it. -/
def Expr.openings : Expr → Place → Openings
  | .empty, p => p.put .ofEmpty
  | .text t, p => p.put (.ofText t)
  | .oneOf _ s, p => p.put (.ofSet s)
  | .anchor _, p => p.put .ofEmpty
  | .group _ _ e, p => p.put (e.openings .alone)
  | .times least most greedy e, p => p.put (.repeated least most greedy (e.openings .alone))
  | .seq a b, p =>
    match p with
    | .behind s => b.openings (.behind (a.openings (.behind s)))
    | p => p.put (b.openings (.behind (a.openings (.behind .ofEmpty))))
  | .alt a b, p =>
    match p with
    | .beside s => b.openings (.beside (a.openings (.beside s)))
    | p => p.put (b.openings (.beside (a.openings (.beside (some [])))))

/-! ## Openings to look for -/

namespace Opening

/-- One more opening, unless it starts with an earlier one. -/
def addMinimal (qs : List Opening) (p : Opening) : List Opening :=
  if qs.any fun q => q.bytes.isPrefixOf p.bytes then qs else qs ++ [p]

/-- The openings without those that start with an earlier one: what they open opens with that one.
-/
def minimal (ps : List Opening) : List Opening := ps.foldl addMinimal []

/-- What two strings of bytes start with. -/
def commonBytes : List UInt8 → List UInt8 → List UInt8
  | b :: bs, c :: cs => if b = c then b :: commonBytes bs cs else []
  | _, _ => []

/-- What all openings start with. -/
def sharedBytes : List Opening → List UInt8
  | [] => []
  | p :: ps => ps.foldl (fun bs q => commonBytes bs q.bytes) p.bytes

/-- Whether a byte is found so often that to look for it alone is of little use. -/
def isFrequent (b : UInt8) : Bool :=
  decide (0x80 ≤ b) ||
    "\n\r (),-./0129:_abcdefghilmnoprstuvxy|".toList.any fun c => c.toNat == b.toNat

/-- How many bytes of each opening to keep if there are more openings than a number. -/
def cuts : List (Nat × Nat) := [(5, 10), (4, 10), (3, 64), (2, 64), (1, 10)]

/-- Openings that are cut while they are too many. -/
def shortened : List (Nat × Nat) → List Opening → List Opening
  | [], ps => ps
  | (keep, limit) :: rest, ps =>
    if ps.length ≤ limit then ps else shortened rest (minimal (ps.map (cut keep)))

/-- What all openings start with in their place, if it is long, or if they are not few and exact. -/
def narrowed (ps : List Opening) : List Opening :=
  let n := (sharedBytes ps).length
  let few := ps.all Opening.exact && decide (ps.length ≤ 16)
  if 4 < n ∨ 1 < n ∧ ¬few then joinEqual (ps.map (cut n)) else ps

/-- The openings that are looked for. -/
def chosen (ps : List Opening) : List Opening :=
  let least := minimal ps
  let shared := sharedBytes least
  -- a byte that all start with, if it is found rarely
  if 1 < ps.length ∧ shared.length ≤ 3 ∧ shared.head?.any fun b => !isFrequent b then
    joinEqual (least.map (cut 1))
  else
    let narrow := narrowed least
    let short := shortened cuts narrow
    -- cut openings are no better if some are very short or if there are many of them
    if narrow.all Opening.exact ∧
      ((short.any fun p => decide (p.bytes.length ≤ 2)) ∨ 64 < short.length) then narrow else short

/-- Whether openings are all there is to look for. -/
def areTexts (ps : List Opening) : Bool :=
  !(ps.any fun p => p.bytes.isEmpty) && !(chosen ps).isEmpty && (chosen ps).all Opening.exact

end Opening

/-- The texts that alternatives are, if all are texts. -/
def textsOf? (es : List Expr) : Option (List Text) :=
  es.mapM fun e =>
    match e with
    | .text t => some t
    | _ => none

/-- The number of alternatives from which on, if they are texts, these are searched for. -/
def manyTexts : Nat := 3000

namespace Expr

/-- Whether an expression has neither groups nor anchors. -/
def isPlain : Expr → Bool
  | .empty => true
  | .text _ => true
  | .oneOf _ _ => true
  | .anchor _ => false
  | .group _ _ _ => false
  | .times _ _ _ e => e.isPlain
  | .seq a b => a.isPlain && b.isPlain
  | .alt a b => a.isPlain && b.isPlain

/-- Whether texts are searched for in the place of an expression: its openings, or very many
alternatives that are texts. -/
def isTexts (e : Expr) : Bool :=
  e.isPlain && ((e.openings .alone).any (fun ps => Opening.areTexts (Opening.joinEqual ps)) ||
    (textsOf? e.branches).any fun ts => decide (manyTexts ≤ ts.length))

end Expr
end Regex
end TextScan
