import CondComp.Build
import CondComp.Identifier
import CondComp.Reserved

/-!
# Global settings

The identifiers and levels that hold in every module. They are fixed before any module is looked
at, from what the compiler predefines and from what the build requests.

* `GlobalNames`: the identifiers and the level of one namespace; `Globals`: both namespaces;
* `Globals.request`: defines an identifier from outside, unless it is reserved;
* `Globals.ofBuild`: the settings of a build, or every request that is refused.
-/

namespace CondComp

/-- The identifiers and the level that hold everywhere in one namespace. -/
structure GlobalNames where
  identifiers : IdentifierSet := .empty
  level : Nat := 0
  deriving DecidableEq, Repr

/-- The global settings. -/
abbrev Globals : Type := PerNamespace GlobalNames

/-- The identifier belongs to the compiler; `debug` has no such identifiers. -/
def isReserved (ns : Namespace) (x : String) : Bool := ns = .version && isReservedVersion x

/-- Why a setting from outside is refused. -/
inductive ConfigError
  | reserved (x : String)
  deriving DecidableEq, Repr

/-- The message about a reserved identifier. -/
def reservedMessage (x : String) : String :=
  "version identifier '" ++ x ++ "' is reserved and cannot be set"

/-- The message of a refusal. -/
def ConfigError.message : ConfigError → String
  | reserved x => reservedMessage x

namespace GlobalNames

/-- Adds an identifier. -/
def define (g : GlobalNames) (x : String) : GlobalNames :=
  { g with identifiers := g.identifiers.insert x }

end GlobalNames

namespace Globals

/-- No identifiers, and level zero. -/
def empty : Globals := .both {}

/-- The identifier is defined in every module. -/
def isDefined (g : Globals) (ns : Namespace) (x : String) : Bool := x ∈ (g.get ns).identifiers

/-- The global level of a namespace. -/
def level (g : Globals) (ns : Namespace) : Nat := (g.get ns).level

/-- Defines a version identifier on behalf of the compiler, which may use reserved names. -/
def predefine (g : Globals) (x : String) : Globals := g.modify .version (·.define x)

/-- Defines an identifier on behalf of the user; reserved names are refused. -/
def request (g : Globals) (ns : Namespace) (x : String) : Except ConfigError Globals :=
  if isReserved ns x then .error (.reserved x) else .ok (g.modify ns (·.define x))

/-- Sets the level of a namespace. -/
def setLevel (g : Globals) (ns : Namespace) (n : Nat) : Globals :=
  g.modify ns fun names => { names with level := n }

/-! ## The settings of a build -/

/-- One request more: a refusal is noted and leaves the settings as they are. -/
def requestNext (ns : Namespace) (acc : List ConfigError × Globals) (x : String) :
    List ConfigError × Globals :=
  match acc.2.request ns x with
  | .ok g => (acc.1, g)
  | .error e => (acc.1 ++ [e], acc.2)

/-- All requests of a build in one namespace: the identifiers in order, then the level. -/
def requestAll (r : Request) (acc : List ConfigError × Globals) (ns : Namespace) :
    List ConfigError × Globals :=
  let (errors, g) := r.identifiers.foldl (requestNext ns) acc
  (errors, (r.level.map (g.setLevel ns)).getD g)

/-- The settings with what the compiler predefines for a build. -/
def predefinedFor (o : BuildOptions) : Globals := o.predefined.foldl predefine empty

/-- The settings of a build. All refusals are reported, not only the first one. -/
def ofBuild (o : BuildOptions) : Except (List ConfigError) Globals :=
  let (errors, g) :=
    Namespace.all.foldl (fun acc ns => requestAll (o.requests.get ns) acc ns) ([], predefinedFor o)
  if errors.isEmpty then .ok g else .error errors

end Globals

end CondComp
