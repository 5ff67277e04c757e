import CondComp.Globals

/-!
# Declarations of a module

What one module declares in one namespace. A module also remembers the identifiers that it asked
about in vain: they may not be declared afterwards, so that no answer ever changes.

* `Declared`: identifiers declared, identifiers asked about in vain, level;
* `Declared.lookup`: where an identifier is defined, a vain question being remembered;
* `Declared.declare`: declares an identifier, unless it is reserved or was asked about in vain.
-/

namespace CondComp

/-- What a module declares in one namespace. -/
structure Declared where
  defined : IdentifierSet := .empty
  missed : IdentifierSet := .empty
  level : Nat := 0
  deriving DecidableEq, Repr

/-- Where an identifier is defined. -/
inductive Definition
  | inModule
  | everywhere
  | nowhere
  deriving DecidableEq, Repr

namespace Definition

/-- The identifier is defined somewhere. -/
def isDefined (d : Definition) : Bool := d ≠ nowhere

end Definition

/-- Why a declaration is refused. -/
inductive DeclareError
  | reserved (x : String)
  | definedAfterUse (ns : Namespace) (x : String)
  deriving DecidableEq, Repr

/-- The message of a refusal. -/
def DeclareError.message : DeclareError → String
  | reserved x => reservedMessage x
  | definedAfterUse ns x => ns.keyword ++ " identifier '" ++ x ++ "' defined after use"

namespace Declared

/-- The identifier is declared. -/
def isDefined (d : Declared) (x : String) : Bool := x ∈ d.defined

/-- The identifier was asked about in vain. -/
def isMissed (d : Declared) (x : String) : Bool := x ∈ d.missed

/-- Declares an identifier without any check. -/
def define (d : Declared) (x : String) : Declared := { d with defined := d.defined.insert x }

/-- Declares an identifier without any check, and says whether it is new. -/
def defineNew (d : Declared) (x : String) : Bool × Declared := (!d.isDefined x, d.define x)

/-- Remembers that an identifier was asked about in vain. -/
def miss (d : Declared) (x : String) : Declared :=
  { d with missed := d.missed.insert x }

/-- Raises the level; a lower one changes nothing. -/
def raiseLevel (d : Declared) (n : Nat) : Declared := { d with level := max d.level n }

/-! ## Questions and declarations under global settings -/

/-- Where an identifier is defined: in the module, else everywhere, else nowhere. -/
def definition (d : Declared) (g : GlobalNames) (x : String) : Definition :=
  if x ∈ d.defined then .inModule else if x ∈ g.identifiers then .everywhere else .nowhere

/-- Where an identifier is defined; if nowhere, the question is remembered. -/
def lookup (d : Declared) (g : GlobalNames) (x : String) : Definition × Declared :=
  match d.definition g x with
  | .nowhere => (.nowhere, d.miss x)
  | found => (found, d)

/-- A level holds if it is at most the global level or at most the module's; either suffices. -/
def levelHolds (d : Declared) (g : GlobalNames) (n : Nat) : Bool := n ≤ g.level || n ≤ d.level

/-- Declares an identifier of a namespace, unless it is reserved or was asked about in vain. -/
def declare (d : Declared) (ns : Namespace) (x : String) : Except DeclareError Declared :=
  if isReserved ns x then .error (.reserved x)
  else if x ∈ d.missed then .error (.definedAfterUse ns x)
  else .ok (d.define x)

end Declared

end CondComp
