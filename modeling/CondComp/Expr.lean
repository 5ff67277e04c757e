/-!
# Constant expressions

The expressions of `static if` conditions: a small language of truth values and integers with names,
equality and conjunction.

* `Expr`, `Expr.text`; `Ty`; `Value`;
* `Decl`, `firstDecl?`: a name stands for the value of its first declaration;
* `Expr.evalWith`, `valueOf`, `Expr.eval`: the value of an expression.
-/

namespace CondComp

/-- Constant expressions. A poisoned expression is known to be broken, a run-time one is well typed
but has no value yet, and a trap is well typed but cannot be evaluated. -/
inductive Expr
  | bool (b : Bool)
  | int (n : Int)
  | ident (name : String)
  | eq (a b : Expr)
  | and (a b : Expr)
  | poisoned
  | runtime
  | trap
  deriving DecidableEq, Repr

namespace Expr

/-- An expression as it is shown; operators are written without parentheses. -/
def text : Expr → String
  | bool b => if b then "true" else "false"
  | int n => toString n
  | ident name => name
  | eq a b => a.text ++ " == " ++ b.text
  | and a b => a.text ++ " && " ++ b.text
  | poisoned => "__error"
  | runtime => "__runtime"
  | trap => "__trap"

end Expr

/-- The types of expressions. -/
inductive Ty
  | bool
  | int
  deriving DecidableEq, Repr

/-- The name of a type. -/
def Ty.name : Ty → String
  | bool => "bool"
  | int => "int"

/-- The values of expressions; `runtime` is a value that is not known before the program runs. -/
inductive Value
  | bool (b : Bool)
  | int (n : Int)
  | runtime
  deriving DecidableEq, Repr

namespace Value

/-- The expression that stands for a value. -/
def toExpr : Value → Expr
  | bool b => .bool b
  | int n => .int n
  | runtime => .runtime

/-- A value as it is shown. -/
def text (v : Value) : String := v.toExpr.text

/-- Conjunction is known only for two truth values. -/
def and : Value → Value → Value
  | bool a, bool b => bool (a && b)
  | _, _ => runtime

end Value

/-! ## Declarations -/

/-- A named constant. Its guard, if it has one, is the number of a condition. -/
structure Decl where
  name : String
  value : Expr
  guard : Option Nat := none
  deriving DecidableEq, Repr

/-- The first declaration of a name. -/
def firstDecl? (decls : List Decl) (name : String) : Option Decl :=
  decls.find? fun d => d.name = name

/-! ## Values -/

/-- The value of an expression whose names have values given by `lookup`. -/
def Expr.evalWith (lookup : String → Option Value) : Expr → Option Value
  | bool b => some (.bool b)
  | int n => some (.int n)
  | runtime => some .runtime
  | ident name => lookup name
  | trap => none
  | poisoned => none
  | eq a b => do
    let v ← a.evalWith lookup
    let w ← b.evalWith lookup
    return .bool (v = w)
  | and a b => do
    let v ← a.evalWith lookup
    let w ← b.evalWith lookup
    return v.and w

/-- The value of a name, found through at most `hops` declarations; guards play no part. -/
def valueOf (decls : List Decl) : Nat → String → Option Value
  | 0, _ => none
  | hops + 1, name => do
    let d ← firstDecl? decls name
    d.value.evalWith (valueOf decls hops)

/-- The longest way through distinct declarations, and one step more. -/
def hopLimit (decls : List Decl) : Nat := decls.length + 1

/-- The value of an expression under declarations. -/
def Expr.eval (decls : List Decl) (e : Expr) : Option Value :=
  e.evalWith (valueOf decls (hopLimit decls))

end CondComp
