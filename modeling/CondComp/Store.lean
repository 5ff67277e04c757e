import CondComp.Diagnostic
import CondComp.Journal

/-!
# The store

What the evaluation of conditions reads and what it changes.

* `Program`: what stays fixed during an evaluation;
* `Store`: what changes: the modules' tables, the cells of the conditions, the diagnostics, the
  dependency log, and a journal of the evaluations;
* the changes that an evaluation makes, each a function on stores: `Store.report`, `Store.settle`,
  `Store.enter`, `Store.leave`, `Store.conclude`, `Store.answer`;
* `Store.cell_modifyCell`: a change of one cell leaves the others as they are.
-/

namespace CondComp

/-- What stays fixed while conditions are evaluated. -/
structure Program where
  files : Files := {}
  globals : Globals := .empty
  conditions : Array Condition := #[]
  decls : List Decl := []
  deriving DecidableEq

/-! ## The store and its changes -/

/-- What the evaluation of conditions changes. -/
structure Store where
  modules : Modules := {}
  cells : Array Cell := #[]
  sink : Sink := {}
  log : DependencyLog := { enabled := false }
  journal : Array Event := #[]
  /-- Constant evaluations begun, less those that ended. -/
  balance : Int := 0
  deriving DecidableEq, Repr

namespace Store

variable (st : Store)

/-- The cell of a number. -/
def cell (i : CellId) : Cell := (st.cells[i]?).getD {}

/-- The answer that a cell holds. -/
def state (i : CellId) : Inclusion := (st.cell i).state

/-- The guards that are held on a cell, by evaluations in flight or by others. -/
def nesting (i : CellId) : Nat := (st.cell i).nesting

/-- Changes a cell. -/
def modifyCell (i : CellId) (f : Cell → Cell) : Store := { st with cells := st.cells.modify i f }

theorem cell_modifyCell (i j : CellId) (f : Cell → Cell) :
    (st.modifyCell i f).cell j =
      if i = j ∧ i < st.cells.size then f (st.cell j) else st.cell j := by
  simp only [cell, modifyCell, Array.getElem?_modify]
  by_cases h : i = j
  · subst h
    by_cases hi : i < st.cells.size <;> simp [hi]
  · simp [h]

/-- Adds an entry to the journal. -/
def note (e : Event) : Store := { st with journal := st.journal.push e }

/-- Reports an error; a suppressed one is only counted. -/
def report (ctx : Context) (source : Source) (message : String) : Store :=
  { st with
    sink := if ctx.gagged then st.sink.countGagged else st.sink.push (.errorAt source message) }

/-- Settles the answer of a cell, if it is open. -/
def settle (i : CellId) (b : Bool) : Store :=
  st.modifyCell i fun c => { c with state := c.state.settle b }

/-- Holds `k` more guards on a cell. -/
def hold (i : CellId) (k : Nat) : Store :=
  st.modifyCell i fun c => { c with nesting := c.nesting + k }

/-- Gives `k` guards on a cell back. -/
def free (i : CellId) (k : Nat) : Store :=
  st.modifyCell i fun c => { c with nesting := c.nesting - k }

/-- Begins the analysis of a condition's expression in a scope. -/
def enter (i : CellId) (scope : Scope) (depth : Nat) : Store :=
  let held := { st.hold i 1 with balance := st.balance + 1 }
  held.note (.entered i scope depth (held.cell i).nesting held.balance)

/-- Ends the analysis of a condition's expression. -/
def leave (i : CellId) (depth : Nat) : Store :=
  let freed := { st.free i 1 with balance := st.balance - 1 }
  freed.note (.left i depth (freed.cell i).nesting freed.balance)

/-- Notes the verdict on a condition. -/
def conclude (i : CellId) (v : Verdict) : Store := st.note (.concluded i v)

/-- Logs the dependency that a directive makes. -/
def logDependency (fs : Files) (scope : Option Scope) (ns : Namespace) (owner : ModuleId)
    (q : Query) : Store :=
  match Dependency.ofDirective? fs st.modules scope ns owner q with
  | none => st
  | some d => { st with log := st.log.record d }

/-- Answers a directive of module `owner`. An answer that does not come from the module itself is a
dependency. -/
def answer (p : Program) (scope : Option Scope) (ns : Namespace) (owner : ModuleId) (q : Query) :
    DirectiveAnswer × Store :=
  let (a, modules) := st.modules.answer p.globals ns q owner
  let answered := { st with modules := modules }
  if !a.ownDefinition && q.isLogged ns then
    (a, answered.logDependency p.files scope ns owner q)
  else
    (a, answered)

end Store

end CondComp
