/-
# Compiling

`Regex.compile` takes a source to a regular expression that can be searched for.  It fails for a
fault of the source or for a regular expression that would be too large.
-/

import TextScan.Regex.Meaning
import TextScan.Regex.Report
import TextScan.Regex.Search
import TextScan.Regex.Weight

namespace TextScan
namespace Regex

/-- The groups of an expression in the order in which they are met, with their names. -/
def Expr.groups : Expr → List (Nat × Option Text)
  | .empty => []
  | .text _ => []
  | .oneOf _ _ => []
  | .anchor _ => []
  | .group i name e => (i, name) :: e.groups
  | .times _ _ _ e => e.groups
  | .seq a b => a.groups ++ b.groups
  | .alt a b => a.groups ++ b.groups

/-- The names of the groups from one on, in the order of their numbers; a number that no group has
any more stands for a group without a name. -/
def Expr.groupNames (e : Expr) : List (Option Text) :=
  let gs := e.groups
  let count := gs.foldl (fun n g => max n g.1) 0
  (List.range count).map fun i => (gs.find? (·.1 == i + 1)).bind (·.2)

/-- Why a source is refused. -/
inductive Refusal where
  /-- The source has a fault. -/
  | malformed (f : Fault)
  /-- The automaton would be too large. -/
  | tooLarge
  deriving DecidableEq, Repr

/-- What a refusal of a source says. -/
def Refusal.message (source : Text) : Refusal → Text
  | .malformed f => f.report source
  | .tooLarge => "error building NFA".toList

end Regex

/-- A regular expression with its program and the names of its groups. -/
structure Regex where
  expr : Regex.Expr
  program : Regex.Program
  names : List (Option Text)

namespace Regex

/-- An expression, ready to be searched for. -/
def ofExpr (e : Expr) : Regex := ⟨e, Program.ofExpr e, e.groupNames⟩

/-- The expression of a source. -/
def Expr.ofSource (source : Text) : Except Fault Expr := do
  let t ← Tree.ofSource source
  let (e, _) ← t.meaning {}
  pure e

/-- The regular expression of a source. -/
def compile (source : Text) : Except Refusal Regex :=
  match Expr.ofSource source with
  | .error f => .error (.malformed f)
  | .ok e => if e.isTooLarge then .error .tooLarge else .ok (ofExpr e)

theorem compile_of_expr {source : Text} {e : Expr} (he : Expr.ofSource source = .ok e)
    (h : e.isTooLarge = false) : compile source = .ok (ofExpr e) := by
  simp [compile, he, h]

/-- A match in a text. -/
def hit? (r : Regex) (m : Mode) (t : Text) : Option Hit := r.program.hit? m t

/-- The names and spans of the groups of a match. -/
def groupsOf (r : Regex) (h : Hit) : List (Option Text × Option Span) :=
  r.names.mapIdx fun i name => (name, h.group? (i + 1))

end Regex
end TextScan
