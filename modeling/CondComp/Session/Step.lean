import CondComp.Store

/-!
# Steps of a session

* `Place`, `Inquiry`, `Step`: what can be asked of a session;
* `ConditionView`, `Resolution`, `Answer`: what it answers;
* `News`: what a step adds to the diagnostics and to the dependency log.
-/

namespace CondComp

/-- Where something stands: at a location in the file of a module, or nowhere in particular. -/
structure Place where
  home : Option ModuleId := none
  location : Location := .start
  deriving DecidableEq, Repr

/-- A question whether a condition is included. -/
structure Inquiry where
  condition : ConditionId
  scope : Option Scope := none
  symbol : Option SymbolId := none
  gagged : Bool := false
  /-- The limits, if they are not those of the session. -/
  limits : Option Limits := none
  /-- More guards that are held on the condition while the question is answered. -/
  held : Nat := 0
  deriving DecidableEq, Repr

/-- The steps of a session. -/
inductive Step
  /-- Adds a module and its file. -/
  | addModule (name : String) (path : Path)
  /-- Defines an identifier everywhere, on behalf of the user. -/
  | request (ns : Namespace) (x : String)
  /-- Defines a version identifier everywhere, on behalf of the compiler. -/
  | predefine (x : String)
  | setGlobalLevel (ns : Namespace) (n : Nat)
  | globals (ns : Namespace)
  | isGlobal (ns : Namespace) (x : String)
  /-- Asks where an identifier is defined for a module. -/
  | lookup (m : ModuleId) (ns : Namespace) (x : String)
  /-- Asks whether an identifier is defined for a module. -/
  | isDefined (m : ModuleId) (ns : Namespace) (x : String)
  | levelHolds (m : ModuleId) (ns : Namespace) (n : Nat)
  | declare (m : ModuleId) (ns : Namespace) (x : String)
  | declareLevel (m : ModuleId) (ns : Namespace) (n : Nat)
  /-- Declares an identifier in a module without any check. -/
  | define (m : ModuleId) (ns : Namespace) (x : String)
  | inspectModule (m : ModuleId)
  | addDirective (ns : Namespace) (owner : ModuleId) (q : Query) (place : Place)
  | addStaticIf (e : Expr) (place : Place)
  /-- Adds a copy of a condition. -/
  | copy (c : ConditionId)
  | addDecl (d : Decl)
  | inspectCondition (c : ConditionId)
  /-- Settles a condition from outside, if it is open. -/
  | settle (c : ConditionId) (b : Bool)
  /-- Takes a guard on a condition. It is held until it is given back. -/
  | hold (c : ConditionId)
  /-- Gives back a guard on a condition. -/
  | free (c : ConditionId)
  /-- Reports an error from outside. -/
  | reportError (message : String) (place : Place) (gagged : Bool)
  | inspectLog
  /-- Asks for the states of all conditions. -/
  | states
  /-- Asks whether a condition is included. -/
  | resolve (inquiry : Inquiry)
  deriving DecidableEq

/-- What is seen of a condition. -/
structure ConditionView where
  test : Test
  state : Inclusion
  source : Source
  position : String
  deriving DecidableEq, Repr

/-- What is seen of an answered question. -/
structure Resolution where
  included : Bool
  state : Inclusion
  nesting : Nat
  /-- The scopes of the analyses made, in order. -/
  scopes : List Scope
  /-- Constant evaluations begun in the scope and its children, less those that ended. -/
  balance : Int
  /-- The given scope carries a mark of the evaluation. -/
  marked : Bool
  deriving DecidableEq, Repr

/-- The answers to steps. -/
inductive Answer
  | nothing
  | index (n : Nat)
  | truth (b : Bool)
  | accepted
  | refusedRequest (e : ConfigError)
  | refusedDeclaration (e : DeclareError)
  | globals (names : GlobalNames)
  | definition (d : Definition)
  | moduleView (name file : String) (declared : PerNamespace Declared) (count : Nat)
  | condition (view : ConditionView)
  | log (log : DependencyLog)
  | states (all : List Inclusion)
  | resolution (r : Resolution)
  deriving DecidableEq, Repr

/-- What a step added to the diagnostics and to the log, and the counts after it. -/
structure News where
  diagnostics : List String
  dependencies : List String
  errors : Nat
  gagged : Nat
  deriving DecidableEq, Repr

end CondComp
