/-!
# The two namespaces

Identifiers and levels live in two namespaces that never meet: one for `version` directives, one
for `debug` directives.

* `Namespace`, `Namespace.keyword`, `Namespace.ofKeyword?`;
* `PerNamespace`: one value for each namespace.
-/

namespace CondComp

/-- The namespaces of conditional compilation. -/
inductive Namespace
  | version
  | debug
  deriving DecidableEq, Repr

namespace Namespace

/-- The namespaces in the order in which settings are read. -/
def all : List Namespace := [.version, .debug]

/-- The keyword that opens a directive of the namespace. -/
def keyword : Namespace → String
  | version => "version"
  | debug => "debug"

/-- The namespace of a keyword. -/
def ofKeyword? (text : String) : Option Namespace :=
  if text = "version" then some version else if text = "debug" then some debug else none

@[simp] theorem ofKeyword?_keyword (ns : Namespace) : ofKeyword? ns.keyword = some ns := by
  cases ns <;> decide

end Namespace

/-- One value for each namespace. -/
structure PerNamespace (α : Type) where
  version : α
  debug : α
  deriving DecidableEq, Repr

namespace PerNamespace

variable {α : Type}

/-- The same value for both namespaces. -/
def both (a : α) : PerNamespace α := ⟨a, a⟩

/-- The value of a namespace. -/
def get (p : PerNamespace α) : Namespace → α
  | .version => p.version
  | .debug => p.debug

/-- Changes the value of one namespace. -/
def modify (p : PerNamespace α) (ns : Namespace) (f : α → α) : PerNamespace α :=
  match ns with
  | .version => { p with version := f p.version }
  | .debug => { p with debug := f p.debug }

@[simp] theorem get_both (a : α) (ns : Namespace) : (both a).get ns = a := by cases ns <;> rfl

@[simp] theorem get_modify (p : PerNamespace α) (ns ns' : Namespace) (f : α → α) :
    (p.modify ns f).get ns' = if ns' = ns then f (p.get ns) else p.get ns' := by
  cases ns <;> cases ns' <;> rfl

end PerNamespace

end CondComp
