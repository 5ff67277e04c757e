import CondComp.Evaluation.Typing

/-!
# Evaluation of conditions

Whether what a condition guards is part of the program. A directive is answered from the tables. The
expression of a `static if` is analysed and evaluated; its names may be declared under guards, which
are conditions in turn, so that one evaluation may start others, of the same condition too.

* `Program.evaluate`: one evaluation of a `static if`, which ends in a verdict;
* `Program.resolveAt`: the answer to a condition when a number of levels is left before the depth
  limit is passed;
* `Program.resolve`: the answer to a condition, asked from outside.
-/

namespace CondComp

namespace Program

variable (p : Program) (ctx : Context)

/-! ## One evaluation -/

/-- The analysis of the expression of a condition: its type, found in a child of the scope. -/
def analyse (depth : Nat) (guardHolds : Scope → ConditionId → EvalM Bool) (i : CellId) (e : Expr)
    (scope : Scope) (symbol : Option SymbolId) : EvalM (Option Ty) := do
  let child := scope.child symbol
  EvalM.change (·.enter i child depth)
  let ty ← (p.typeOf ctx (guardHolds child) e).run
  EvalM.change (·.leave i depth)
  return ty

/-- The verdict on an expression of a type: it has to be boolean, and its value a truth value. -/
def judge (source : Source) (e : Expr) (ty : Ty) : EvalM Verdict :=
  if ty = .bool then
    match e.eval p.decls with
    | some (.bool b) => pure (.value b)
    | some v => do
      EvalM.report ctx source (.notConstant v)
      return .failed
    | none => do
      EvalM.report ctx .internal (.notInterpretable e)
      return .failed
  else do
    EvalM.report ctx source (.notBoolean e ty)
    return .failed

/-- One evaluation of a `static if` with `depth` evaluations in flight. -/
def evaluate (depth : Nat) (guardHolds : Scope → ConditionId → EvalM Bool) (c : Condition)
    (e : Expr) (scope : Option Scope) (symbol : Option SymbolId) : EvalM Verdict :=
  match scope with
  | none => do
    EvalM.report ctx c.source .noScope
    return .noScope
  | some scope => do
    let nesting ← EvalM.read fun st => (st.cell c.cell).nesting
    if ctx.limits.reentry < nesting ∨ ctx.limits.depth < depth then
      EvalM.report ctx c.source (.runaway ctx.limits depth)
      return .runaway
    else if e = .poisoned then
      EvalM.report ctx c.source .broken
      return .failed
    else
      match ← p.analyse ctx depth guardHolds c.cell e scope symbol with
      | none => return .failed
      | some ty => p.judge ctx c.source e ty

/-! ## Answers -/

/-- The answer that an evaluation of a `static if` settles, if it settles one. -/
def staticIfAnswer (depth : Nat) (guardHolds : Scope → ConditionId → EvalM Bool) (c : Condition)
    (e : Expr) (scope : Option Scope) (symbol : Option SymbolId) : EvalM (Option Bool) := do
  let v ← p.evaluate ctx depth guardHolds c e scope symbol
  EvalM.change (·.conclude c.cell v)
  return v.answer? ctx.gagged

/-- The answer that a directive settles. Absence of a definition is an answer like any other. -/
def directiveAnswer (c : Condition) (ns : Namespace) (owner : ModuleId) (q : Query)
    (scope : Option Scope) : EvalM (Option Bool) := do
  let a ← EvalM.answer (·.answer p scope ns owner q)
  EvalM.change (·.note (.answered c a scope))
  return some a.included

/-- The answer that a condition settles with `depth` evaluations in flight. -/
def conditionAnswer (depth : Nat) (guardHolds : Scope → ConditionId → EvalM Bool) (c : Condition)
    (scope : Option Scope) (symbol : Option SymbolId) : EvalM (Option Bool) :=
  match c.test with
  | .directive ns owner q => p.directiveAnswer c ns owner q scope
  | .staticIf e => p.staticIfAnswer ctx depth guardHolds c e scope symbol

/-- The answer to a condition with `depth` evaluations in flight. It is computed on first use and
remembered. A number that names no condition is answered with `false`. -/
def resolveWith (depth : Nat) (guardHolds : Scope → ConditionId → EvalM Bool) (id : ConditionId)
    (scope : Option Scope) (symbol : Option SymbolId) : EvalM Bool :=
  match p.conditions[id]? with
  | none => pure false
  | some c =>
    answerOnce (EvalM.read fun st => (st.cell c.cell).state)
      (fun b => EvalM.change (·.settle c.cell b))
      (p.conditionAnswer ctx depth guardHolds c scope symbol)

/-- The answer to a condition when `room` levels are left. With none left, an evaluation of a
`static if` ends before it meets a guard. -/
def resolveAt : Nat → ConditionId → Option Scope → Option SymbolId → EvalM Bool
  | 0 => p.resolveWith ctx (ctx.limits.depth + 1) fun _ _ => EvalM.endless
  | room + 1 =>
    p.resolveWith ctx (ctx.limits.depth - room) fun scope g => resolveAt room g (some scope) none

/-- The answer to a condition. -/
def resolve (id : ConditionId) (scope : Option Scope) (symbol : Option SymbolId) : EvalM Bool :=
  p.resolveAt ctx (ctx.limits.depth + 1) id scope symbol

end Program

end CondComp
