import CondComp.Context
import CondComp.Expr

/-!
# Faults

What can be wrong with the condition of a `static if`.

* `Fault`, `Fault.message`;
* `Fault.runaway`: the fault when too many evaluations are in flight.
-/

namespace CondComp

/-- What is wrong with a condition or with its expression. -/
inductive Fault
  /-- There is no scope to analyse the expression in. -/
  | noScope
  /-- Too many evaluations are in flight. -/
  | circular
  /-- The expression is broken, or too many evaluations of the condition are in flight. -/
  | broken
  | undefinedName (name : String)
  | incompatibleTypes
  | notBoolean (e : Expr) (ty : Ty)
  | notInterpretable (e : Expr)
  | notConstant (v : Value)
  deriving DecidableEq, Repr

namespace Fault

/-- The message about a fault. -/
def message : Fault → String
  | noScope => "static if conditional cannot be at global scope"
  | circular => "unresolvable circular static if expression"
  | broken => "error evaluating static if expression"
  | undefinedName name => "undefined identifier " ++ name
  | incompatibleTypes => "incompatible types for =="
  | notBoolean e ty =>
    "expression " ++ e.text ++ " of type " ++ ty.name ++ " does not have a boolean value"
  | notInterpretable e => "cannot interpret " ++ e.text ++ " at compile time"
  | notConstant v => "expression " ++ v.text ++ " is not constant or does not evaluate to a bool"

/-- The fault when too many evaluations are in flight: of all conditions, or else of one. -/
def runaway (limits : Limits) (depth : Nat) : Fault :=
  if limits.depth < depth then circular else broken

end Fault

end CondComp
