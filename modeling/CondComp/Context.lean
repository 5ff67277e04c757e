import CondComp.Module

/-!
# Circumstances of an evaluation

* `Scope`: where an expression is analysed, and `Scope.child`, the scope in which a condition's
  expression is;
* `Limits`: how far evaluations may nest;
* `Context`: the limits, and whether errors are suppressed.
-/

namespace CondComp

/-- Names a symbol of the program by its number. -/
abbrev SymbolId : Type := Nat

/-- Where an expression is analysed. -/
structure Scope where
  /-- The module that the scope lies in. -/
  home : Option ModuleId := none
  /-- The module whose instantiation of a template led here. -/
  instantiating : Option ModuleId := none
  /-- The symbol that new members attach to. -/
  symbol : Option SymbolId := none
  /-- The scope belongs to the expression of a condition. -/
  staticIf : Bool := false
  /-- Constants are evaluated in the scope. -/
  evaluatesConstants : Bool := false
  deriving DecidableEq, Repr

namespace Scope

/-- The scope in which the expression of a condition is analysed. -/
def child (s : Scope) (symbol : Option SymbolId) : Scope :=
  { s with symbol := symbol, staticIf := true, evaluatesConstants := true }

/-- The module on whose behalf the scope is analysed: the instantiating one, else its own. -/
def referencing (s : Scope) : Option ModuleId := s.instantiating <|> s.home

/-- The module on whose behalf a directive of module `owner` is answered: outside of any scope it is
`owner` itself. -/
def referencing? (owner : ModuleId) : Option Scope → Option ModuleId
  | none => some owner
  | some s => s.referencing

/-- The scope carries a mark of the evaluation of a condition. -/
def isMarked (s : Scope) : Bool := s.evaluatesConstants || s.staticIf || s.symbol.isSome

end Scope

/-- How far evaluations may nest. -/
structure Limits where
  /-- The greatest number of evaluations of one condition in flight when another may start. -/
  reentry : Nat := 100
  /-- The greatest number of evaluations in flight when another may start. -/
  depth : Nat := 500
  deriving DecidableEq, Repr

/-- The circumstances of a question whether a condition is included. -/
structure Context where
  limits : Limits := {}
  /-- Errors are suppressed: the question is only a trial. -/
  gagged : Bool := false
  deriving DecidableEq, Repr

end CondComp
