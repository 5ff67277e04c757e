import CondComp.Evaluation.Fault
import CondComp.Store

/-!
# Types of expressions

The analysis of a constant expression. A name has to be declared, and the guard of its declaration
has to be included; then the name has the type of the expression that it stands for.

* `EvalM`: evaluations; `none` is an evaluation without end, which only names that stand for
  themselves can cause;
* `CheckM`: parts of an evaluation that may fail, after reporting why;
* `Expr.typeWith`, `Program.exprOf`, `Program.typeOfName`, `Program.typeOf`.
-/

namespace CondComp

/-- Evaluations: they change the store, and they may have no end. -/
abbrev EvalM : Type → Type := StateT Store Option

/-- Parts of an evaluation that may fail; the failure is already reported. -/
abbrev CheckM : Type → Type := OptionT EvalM

namespace EvalM

variable {α β : Type}

/-- The evaluation without end. -/
def endless : EvalM α := fun _ => none

/-- Makes a change to the store. -/
def change (f : Store → Store) : EvalM Unit := fun st => some ((), f st)

/-- Reads from the store. -/
def read (f : Store → α) : EvalM α := fun st => some (f st, st)

/-- Makes a change to the store that has an answer. -/
def answer (f : Store → α × Store) : EvalM α := fun st => some (f st)

/-- Reports a fault at a position. -/
def report (ctx : Context) (source : Source) (fault : Fault) : EvalM Unit :=
  change (·.report ctx source fault.message)

@[simp] theorem endless_apply (st : Store) : (endless : EvalM α) st = none := rfl

@[simp] theorem change_apply (f : Store → Store) (st : Store) : change f st = some ((), f st) := rfl

@[simp] theorem read_apply (f : Store → α) (st : Store) : read f st = some (f st, st) := rfl

@[simp] theorem answer_apply (f : Store → α × Store) (st : Store) : answer f st = some (f st) := rfl

@[simp] theorem report_apply (ctx : Context) (source : Source) (fault : Fault) (st : Store) :
    report ctx source fault st = some ((), st.report ctx source fault.message) := rfl

@[simp] theorem pure_apply (a : α) (st : Store) : (pure a : EvalM α) st = some (a, st) := rfl

theorem bind_apply (x : EvalM α) (f : α → EvalM β) (st : Store) :
    (x >>= f) st = (x st).bind fun r => f r.1 r.2 := rfl

end EvalM

namespace CheckM

variable {α : Type}

/-- Reports a fault in an expression and fails. -/
def refuse (ctx : Context) (fault : Fault) : CheckM α := do
  OptionT.lift (EvalM.report ctx .internal fault)
  failure

end CheckM

/-! ## The analysis -/

/-- The type of an expression whose names have types given by `lookup`. The first failure ends the
analysis. -/
def Expr.typeWith (ctx : Context) (lookup : String → CheckM Ty) : Expr → CheckM Ty
  | bool _ => pure .bool
  | runtime => pure .bool
  | trap => pure .bool
  | int _ => pure .int
  | poisoned => failure
  | ident name => lookup name
  | eq a b => do
    let s ← a.typeWith ctx lookup
    let t ← b.typeWith ctx lookup
    if s = t then pure .bool else CheckM.refuse ctx .incompatibleTypes
  | and a b => do
    let _ ← a.typeWith ctx lookup
    let _ ← b.typeWith ctx lookup
    pure .bool

namespace Program

variable (p : Program) (ctx : Context) (guardHolds : ConditionId → EvalM Bool)

/-- The expression that a name stands for, if the name is declared and the guard of its declaration
is included. -/
def exprOf (name : String) : CheckM Expr :=
  match firstDecl? p.decls name with
  | none => CheckM.refuse ctx (.undefinedName name)
  | some d =>
    match d.guard with
    | none => pure d.value
    | some g => do
      if ← OptionT.lift (guardHolds g) then pure d.value
      else CheckM.refuse ctx (.undefinedName name)

/-- The type of a name, found through at most `hops` declarations. A longer way repeats itself for
ever: it meets a declaration twice, and what was included the first time stays included. -/
def typeOfName : Nat → String → CheckM Ty
  | 0, _ => OptionT.lift EvalM.endless
  | hops + 1, name => do
    let e ← p.exprOf ctx guardHolds name
    e.typeWith ctx (typeOfName hops)

/-- The type of an expression. -/
def typeOf (e : Expr) : CheckM Ty :=
  e.typeWith ctx (p.typeOfName ctx guardHolds (hopLimit p.decls))

end Program

end CondComp
