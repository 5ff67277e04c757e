import CondComp.Condition
import CondComp.Dependency

/-!
# The journal

What happened during evaluations, in order.

* `Verdict`: how an evaluation of a `static if` ends, and `Verdict.answer?`, what it settles;
* `Event`: an entry of the journal.
-/

namespace CondComp

/-- How an evaluation of a `static if` ends. -/
inductive Verdict
  /-- The expression has a truth value. -/
  | value (b : Bool)
  /-- There was no scope to analyse the expression in. -/
  | noScope
  /-- Too many evaluations were in flight. -/
  | runaway
  /-- The expression has no truth value. -/
  | failed
  deriving DecidableEq, Repr

/-- The answer that a verdict settles. A failure in a trial settles nothing, so that the condition
can be tried again. -/
def Verdict.answer? (gagged : Bool) : Verdict → Option Bool
  | value b => some b
  | noScope => some false
  | runaway => some false
  | failed => if gagged then none else some false

/-- An entry of the journal. -/
inductive Event
  /-- A directive was answered for the first time. -/
  | answered (c : Condition) (answer : DirectiveAnswer) (scope : Option Scope)
  /-- The analysis of a condition's expression began, in a scope, after `depth` others in flight
  had; `nesting` and `balance` are counted with it. -/
  | entered (cell : CellId) (scope : Scope) (depth nesting : Nat) (balance : Int)
  /-- The analysis ended; `nesting` and `balance` are counted without it. -/
  | left (cell : CellId) (depth nesting : Nat) (balance : Int)
  /-- An evaluation of a condition came to a verdict. -/
  | concluded (cell : CellId) (verdict : Verdict)
  deriving DecidableEq, Repr

namespace Event

/-- The scope of an analysis that began. -/
def analysisScope? : Event → Option Scope
  | entered _ scope _ _ _ => some scope
  | _ => none

end Event

end CondComp
