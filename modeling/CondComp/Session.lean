import CondComp.Evaluation
import CondComp.Session.Step

/-!
# Sessions

A session is one compilation, driven step by step: modules, settings, declarations and conditions
are added, and conditions are answered.

* `Session`; `Session.inquire`: asks about a condition while guards are held on it;
* `Session.perform`: one step, which has no result if an evaluation in it has no end;
* `Session.newsSince`: what a step added to the diagnostics and to the dependency log;
* `Session.run`: the steps of a list.
-/

namespace CondComp

/-- A compilation in progress. -/
structure Session where
  program : Program := {}
  store : Store := {}
  limits : Limits := {}
  deriving DecidableEq

namespace Session

/-- The session before its first step. -/
def start (mode : LogMode) (limits : Limits) : Session :=
  { store := { log := .forMode mode }, limits := limits }

variable (s : Session)

/-- The position that a place denotes. -/
def source (place : Place) : Source :=
  match place.home.bind s.store.modules.get? with
  | none => .internal
  | some entry => ⟨entry.file, place.location⟩

/-- The state of a condition. -/
def stateOf (c : Condition) : Inclusion := s.store.state c.cell

/-- Adds an entry to the table of conditions. -/
def addEntry (c : Condition) : ConditionId × Session :=
  (s.program.conditions.size,
    { s with program := { s.program with conditions := s.program.conditions.push c } })

/-- Adds a condition with a cell of its own. -/
def addCondition (test : Test) (source : Source) : ConditionId × Session :=
  let entry : Condition := ⟨test, source, s.store.cells.size⟩
  { s with store := { s.store with cells := s.store.cells.push {} } }.addEntry entry

/-- Adds a copy of a condition. Copies of a directive share its cell, because the answer depends on
the module alone; a copy of a `static if` starts afresh. -/
def copyCondition (c : Condition) : ConditionId × Session :=
  match c.test with
  | .directive .. => s.addEntry c
  | .staticIf _ => s.addCondition c.test c.source

/-! ## Guards and inquiries -/

/-- The cell on which the guards of a condition are held; directives have none. -/
def guardedCell? (c : ConditionId) : Option CellId := do
  let entry ← s.program.conditions[c]?
  match entry.test with
  | .directive .. => none
  | .staticIf _ => some entry.cell

/-- The circumstances of an inquiry. -/
def contextOf (q : Inquiry) : Context := { limits := q.limits.getD s.limits, gagged := q.gagged }

/-- The store while the guards of an inquiry are held. -/
def holding (q : Inquiry) : Store :=
  (s.guardedCell? q.condition).elim s.store fun i => s.store.hold i q.held

/-- A store after the guards of an inquiry are given back. -/
def freeing (q : Inquiry) (after : Store) : Store :=
  (s.guardedCell? q.condition).elim after fun i => after.free i q.held

/-- What is seen of an inquiry on a condition that led to a store. -/
def resolution (q : Inquiry) (c : Condition) (b : Bool) (freed : Store) : Resolution where
  included := b
  state := freed.state c.cell
  nesting := freed.nesting c.cell
  scopes := (freed.journal.toList.drop s.store.journal.size).filterMap Event.analysisScope?
  balance := freed.balance - s.store.balance
  marked := q.scope.any Scope.isMarked

/-- Answers an inquiry: holds its guards, asks, and gives the guards back. -/
def inquire (q : Inquiry) : Option (Resolution × Session) := do
  let c ← s.program.conditions[q.condition]?
  let (b, after) ←
    s.program.resolve (s.contextOf q) q.condition q.scope q.symbol (s.holding q)
  let freed := s.freeing q after
  return (s.resolution q c b freed, { s with store := freed })

/-! ## Steps -/

/-- Replaces the global settings. -/
def withGlobals (g : Globals) : Session := { s with program := { s.program with globals := g } }

/-- Replaces the modules. -/
def withModules (ms : Modules) : Session := { s with store := { s.store with modules := ms } }

/-- One step. It has no result if it names what does not exist, gives back a guard where none is
held, or if an evaluation in it has no end. -/
def perform : Step → Option (Answer × Session)
  | .addModule name path =>
    let (file, files) := s.program.files.add path
    let (m, ms) := s.store.modules.add { name := name, file := file }
    some (.index m, { s.withModules ms with program := { s.program with files := files } })
  | .request ns x =>
    match s.program.globals.request ns x with
    | .error e => some (.refusedRequest e, s)
    | .ok g => some (.accepted, s.withGlobals g)
  | .predefine x => some (.nothing, s.withGlobals (s.program.globals.predefine x))
  | .setGlobalLevel ns n => some (.nothing, s.withGlobals (s.program.globals.setLevel ns n))
  | .globals ns => some (.globals (s.program.globals.get ns), s)
  | .isGlobal ns x => some (.truth (s.program.globals.isDefined ns x), s)
  | .lookup m ns x =>
    let (found, ms) := s.store.modules.lookup s.program.globals ns x m
    some (.definition found, s.withModules ms)
  | .isDefined m ns x =>
    let (found, ms) := s.store.modules.lookup s.program.globals ns x m
    some (.truth found.isDefined, s.withModules ms)
  | .levelHolds m ns n =>
    some (.truth (s.store.modules.levelHolds s.program.globals ns n m), s)
  | .declare m ns x =>
    match s.store.modules.declare m ns x with
    | .error e => some (.refusedDeclaration e, s)
    | .ok ms => some (.accepted, s.withModules ms)
  | .declareLevel m ns n => some (.nothing, s.withModules (s.store.modules.raiseLevel m ns n))
  | .define m ns x =>
    let (isNew, ms) := s.store.modules.define m ns x
    some (.truth isNew, s.withModules ms)
  | .inspectModule m => do
    let entry ← s.store.modules.get? m
    let file := s.program.files.shown entry.file
    return (.moduleView entry.name file entry.declared s.store.modules.count, s)
  | .addDirective ns owner q place =>
    let (c, s) := s.addCondition (.directive ns owner q) (s.source place)
    some (.index c, s)
  | .addStaticIf e place =>
    let (c, s) := s.addCondition (.staticIf e) (s.source place)
    some (.index c, s)
  | .copy c => do
    let (c, s) := s.copyCondition (← s.program.conditions[c]?)
    return (.index c, s)
  | .addDecl d =>
    some (.nothing, { s with program := { s.program with decls := s.program.decls ++ [d] } })
  | .inspectCondition c => do
    let entry ← s.program.conditions[c]?
    let position := entry.source.text s.program.files
    return (.condition ⟨entry.test, s.stateOf entry, entry.source, position⟩, s)
  | .settle c b => do
    let entry ← s.program.conditions[c]?
    let settled := { s with store := s.store.settle entry.cell b }
    return (.truth (settled.stateOf entry).isIncluded, settled)
  | .hold c => do
    let i ← s.guardedCell? c
    return (.nothing, { s with store := s.store.hold i 1 })
  | .free c => do
    let i ← s.guardedCell? c
    guard (0 < s.store.nesting i)
    return (.nothing, { s with store := s.store.free i 1 })
  | .reportError message place gagged =>
    let ctx : Context := { limits := s.limits, gagged := gagged }
    some (.nothing, { s with store := s.store.report ctx (s.source place) message })
  | .inspectLog => some (.log s.store.log, s)
  | .states => some (.states (s.program.conditions.toList.map s.stateOf), s)
  | .resolve q => do
    let (r, s) ← s.inquire q
    return (.resolution r, s)

/-! ## What a step adds -/

/-- What was added to the diagnostics and to the log since an earlier store. -/
def newsSince (before : Store) (s : Session) : News :=
  { diagnostics :=
      (s.store.sink.taken.toList.drop before.sink.taken.size).map (·.render s.program.files .plain)
    dependencies :=
      (s.store.log.records.toList.drop before.log.records.size).map Dependency.render
    errors := s.store.sink.errors
    gagged := s.store.sink.gagged }

/-- Performs the steps of a list. It ends at a step without result. -/
def run : List Step → Session → List (Answer × News)
  | [], _ => []
  | step :: steps, s =>
    match s.perform step with
    | none => []
    | some (answer, next) => (answer, next.newsSince s.store) :: run steps next

end Session

end CondComp
