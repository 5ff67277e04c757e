import CondComp.Declared
import CondComp.Query
import CondComp.Source

/-!
# Modules

* `Module`: a name, a file, and what the module declares in each namespace;
* `Modules`: the modules of a compilation; `Modules.lookup`, `Modules.levelHolds`,
  `Modules.declare`, `Modules.raiseLevel` act on one namespace of one of them;
* `Modules.answer`: the answer to a directive's query.
-/

namespace CondComp

/-- Names a module of the compilation by its number. -/
abbrev ModuleId : Type := Nat

/-- A module of the program. -/
structure Module where
  name : String
  file : FileId
  declared : PerNamespace Declared := .both {}
  deriving DecidableEq, Repr

/-- The answer to a query, and whether the module's own declaration gave it. -/
structure DirectiveAnswer where
  included : Bool
  ownDefinition : Bool
  deriving DecidableEq, Repr

/-- The modules of a compilation, in the order in which they were added. -/
structure Modules where
  entries : Array Module := #[]
  deriving DecidableEq, Repr

namespace Modules

variable (ms : Modules)

/-- The number of modules. -/
def count : Nat := ms.entries.size

/-- The module of a number. -/
def get? (m : ModuleId) : Option Module := ms.entries[m]?

/-- Adds a module, which gets the next number. -/
def add (entry : Module) : ModuleId × Modules := (ms.count, ⟨ms.entries.push entry⟩)

/-- What a module declares in a namespace. -/
def declared (m : ModuleId) (ns : Namespace) : Declared :=
  ((ms.get? m).map (·.declared.get ns)).getD {}

/-- Changes what a module declares in a namespace. -/
def modifyDeclared (m : ModuleId) (ns : Namespace) (f : Declared → Declared) : Modules :=
  ⟨ms.entries.modify m fun entry => { entry with declared := entry.declared.modify ns f }⟩

/-- Replaces what a module declares in a namespace. -/
def setDeclared (m : ModuleId) (ns : Namespace) (d : Declared) : Modules :=
  ms.modifyDeclared m ns fun _ => d

theorem declared_setDeclared (m m' : ModuleId) (ns ns' : Namespace) (d : Declared) :
    (ms.setDeclared m ns d).declared m' ns' =
      if m = m' ∧ ns' = ns ∧ m < ms.count then d else ms.declared m' ns' := by
  simp only [setDeclared, declared, get?, modifyDeclared, count, Array.getElem?_modify]
  by_cases h : m = m'
  · subst h
    by_cases hm : m < ms.entries.size <;> by_cases hn : ns' = ns <;> simp [hm, hn]
  · simp [h]

/-- Where an identifier is defined for a module; if nowhere, the module remembers the question. -/
def lookup (g : Globals) (ns : Namespace) (x : String) (m : ModuleId) : Definition × Modules :=
  let (found, d) := (ms.declared m ns).lookup (g.get ns) x
  (found, ms.setDeclared m ns d)

/-- A level holds for a module. -/
def levelHolds (g : Globals) (ns : Namespace) (n : Nat) (m : ModuleId) : Bool :=
  (ms.declared m ns).levelHolds (g.get ns) n

/-- Answers the query of a directive that stands in a module. -/
def answer (g : Globals) (ns : Namespace) (q : Query) (m : ModuleId) : DirectiveAnswer × Modules :=
  match q with
  | .identifier x =>
    let (found, ms) := ms.lookup g ns x m
    (⟨found.isDefined, found = .inModule⟩, ms)
  | .level n => (⟨ms.levelHolds g ns n m, false⟩, ms)

/-- Declares an identifier in a module. -/
def declare (m : ModuleId) (ns : Namespace) (x : String) : Except DeclareError Modules :=
  ((ms.declared m ns).declare ns x).map (ms.setDeclared m ns)

/-- Declares a level in a module. -/
def raiseLevel (m : ModuleId) (ns : Namespace) (n : Nat) : Modules :=
  ms.modifyDeclared m ns (·.raiseLevel n)

/-- Declares an identifier in a module without any check, and says whether it is new there. -/
def define (m : ModuleId) (ns : Namespace) (x : String) : Bool × Modules :=
  let (isNew, d) := (ms.declared m ns).defineNew x
  (isNew, ms.setDeclared m ns d)

end Modules

end CondComp
