import CondComp.Context

/-!
# Dependencies

A directive that is answered from outside its own module makes the program depend on how it is
built. Such dependencies are logged, one line for each.

* `Dependency`, `Dependency.ofDirective?`, `Dependency.render`;
* `escapeFileName`: a file name in a form that can stand in parentheses;
* `Query.isLogged`: the query says something about how the program is built;
* `DependencyLog`: the log of a compilation, which records nothing while it is off.
-/

namespace CondComp

/-- The word that opens the line of a dependency. -/
def Namespace.label : Namespace → String
  | version => "depsVersion "
  | debug => "depsDebug "

/-- A parenthesis or a backslash is preceded by a backslash. -/
def escapeChar (c : Char) : List Char :=
  if c = '(' ∨ c = ')' ∨ c = '\\' then ['\\', c] else [c]

/-- A file name in a form that can stand in parentheses. -/
def escapeFileName (s : String) : String := .ofList (s.toList.flatMap escapeChar)

/-- The query says something about how the program is built: it does not ask for an identifier that
belongs to the compiler. -/
def Query.isLogged (ns : Namespace) : Query → Bool
  | .identifier x => !(ns = .version && (isReservedVersion x || isTestingVersion x))
  | .level _ => true

/-- A dependency of a module on how the program is built. -/
structure Dependency where
  ns : Namespace
  moduleName : String
  file : String
  query : Query
  deriving DecidableEq, Repr

namespace Dependency

/-- The dependency that a directive of module `owner` makes: the module depends on whose behalf the
directive is answered. -/
def ofDirective? (fs : Files) (ms : Modules) (scope : Option Scope) (ns : Namespace)
    (owner : ModuleId) (q : Query) : Option Dependency := do
  let entry ← ms.get? (← Scope.referencing? owner scope)
  return ⟨ns, entry.name, fs.shown entry.file, q⟩

/-- A dependency as it stands in the log. -/
def render (d : Dependency) : String :=
  d.ns.label ++ d.moduleName ++ " (" ++ escapeFileName d.file ++ ") : " ++ d.query.text

end Dependency

/-- The log of dependencies. -/
structure DependencyLog where
  enabled : Bool
  records : Array Dependency := #[]
  deriving DecidableEq, Repr

namespace DependencyLog

/-- The empty log for a mode; it is on if the log is printed. -/
def forMode (mode : LogMode) : DependencyLog := { enabled := mode = .print }

/-- Adds a dependency if the log is on. -/
def record (log : DependencyLog) (d : Dependency) : DependencyLog :=
  if log.enabled then { log with records := log.records.push d } else log

/-- The lines of the log. -/
def lines (log : DependencyLog) : List String := log.records.toList.map Dependency.render

/-- The text of the log: every line is ended. -/
def text (log : DependencyLog) : String := String.join (log.lines.map (· ++ "\n"))

/-- The state of the log on one line. -/
def summary (log : DependencyLog) : String :=
  "DependencyReporter \x7b enabled: " ++ (if log.enabled then "true" else "false") ++
    ", lines: " ++ log.records.size.repr ++ " \x7d"

end DependencyLog

end CondComp
