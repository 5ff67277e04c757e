import CondComp.CommandLine.Command
import CondComp.Store

/-!
# Running a query

* `Directive.perform`: a question answers with a line, a declaration may be refused;
* `QueryReport`, `QueryCommand.run`: what a query prints, its diagnostics, and whether it succeeds.
-/

namespace CondComp

/-- The warnings about a target that is not supported. -/
def Target.warnings (t : Target) : List Diagnostic :=
  (if t.arch.isNone then
    [.plainWarning
      "Target architecture is not supported, no architecture identifiers will be predefined"]
  else []) ++
  (if t.os.isNone then
    [.plainWarning "Target os is not supported, no operating system identifiers will be predefined"]
  else [])

/-- The name of the file in which the directives of the command line stand. -/
def commandLineFile : String := "<command-line>"

/-- The name of the module that is asked. -/
def queriedModule : String := "__query"

/-! ## Directives -/

namespace Directive

/-- The line that answers a question. -/
def answerLine (ns : Namespace) (q : Query) (included : Bool) : String :=
  (Test.directive ns 0 q).text ++ ": " ++ (Inclusion.ofBool included).name ++ "\n"

/-- Performs a directive of module `m` at a position: the text printed, and the new store. -/
def perform (p : Program) (m : ModuleId) (source : Source) (st : Store) :
    Directive → String × Store
  | ask ns q =>
    let (a, st) := st.answer p (some { home := some m }) ns m q
    (answerLine ns q a.included, st)
  | declare ns (.identifier x) =>
    match st.modules.declare m ns x with
    | .ok ms => ("", { st with modules := ms })
    | .error e => ("", { st with sink := st.sink.push (.errorAt source e.message) })
  | declare ns (.level n) => ("", { st with modules := st.modules.raiseLevel m ns n })

/-- Performs directives from left to right; each stands on a line of its own, from `line` on. -/
def performAll (p : Program) (m : ModuleId) (file : FileId) : Nat → List Directive → Store →
    String × Store
  | _, [], st => ("", st)
  | line, d :: ds, st =>
    let (text, st) := d.perform p m ⟨file, ⟨line, 1⟩⟩ st
    let (rest, st) := performAll p m file (line + 1) ds st
    (text ++ rest, st)

end Directive

/-! ## Queries -/

/-- What a query prints, the diagnostics, and the files that these speak of. -/
structure QueryReport where
  output : String
  sink : Sink
  files : Files
  deriving DecidableEq

/-- The query succeeds if there is no error. -/
def QueryReport.succeeded (r : QueryReport) : Bool := r.sink.errors = 0

namespace QueryCommand

/-- Runs the directives under global settings, and prints the log if it is wanted. -/
def runUnder (g : Globals) (sink : Sink) (c : QueryCommand) : QueryReport :=
  let (file, files) := ({} : Files).add (.ofText commandLineFile)
  let (m, modules) := ({} : Modules).add { name := queriedModule, file := file }
  let p : Program := { files := files, globals := g }
  let st : Store := { modules := modules, sink := sink, log := .forMode c.options.log }
  let (answers, st) := Directive.performAll p m file 1 c.directives st
  { output := answers ++ st.log.text, sink := st.sink, files := files }

/-- Runs a query. If global settings are refused, no directive is performed. -/
def run (delivery : Delivery) (c : QueryCommand) : QueryReport :=
  let sink := ({ delivery := delivery } : Sink).pushAll c.options.target.warnings
  match Globals.ofBuild c.options with
  | .ok g => c.runUnder g sink
  | .error errors =>
    { output := ""
      sink := sink.pushAll (errors.map fun e => .plainError e.message)
      files := {} }

end QueryCommand

end CondComp
