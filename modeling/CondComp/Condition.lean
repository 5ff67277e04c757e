import CondComp.Context
import CondComp.Expr
import CondComp.Inclusion

/-!
# Conditions

* `Test`: what a condition asks, which is a directive's query or the expression of a `static if`;
* `Condition`: a test at a position, with the cell that keeps its answer;
* `Cell`: an answer, and the number of guards held.
-/

namespace CondComp

/-- What a condition asks. -/
inductive Test
  | directive (ns : Namespace) (owner : ModuleId) (query : Query)
  | staticIf (expr : Expr)
  deriving DecidableEq, Repr

namespace Test

/-- A test as it is written. -/
def text : Test → String
  | directive ns _ query => ns.keyword ++ " (" ++ query.text ++ ")"
  | staticIf expr => "static if (" ++ expr.text ++ ")"

/-- The namespace of a directive. -/
def namespace? : Test → Option Namespace
  | directive ns _ _ => some ns
  | staticIf _ => none

/-- The identifier that a directive asks about. -/
def identifier? : Test → Option String
  | directive _ _ query => query.identifier?
  | staticIf _ => none

end Test

/-- Names a cell by its number. -/
abbrev CellId : Type := Nat

/-- Names a condition by its number. -/
abbrev ConditionId : Type := Nat

/-- A test at a position, with the cell of its answer. -/
structure Condition where
  test : Test
  source : Source
  cell : CellId
  deriving DecidableEq, Repr

/-- The answer to a condition, and the number of guards held on it. Each evaluation in flight holds
one. -/
structure Cell where
  state : Inclusion := .unresolved
  nesting : Nat := 0
  deriving DecidableEq, Repr

end CondComp
