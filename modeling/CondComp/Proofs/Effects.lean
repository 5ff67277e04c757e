import CondComp.Evaluation
import Mathlib.Tactic.SplitIfs

/-!
# What the changes to a store change

* `Store.runaways`: how often the recursion guard ended an evaluation;
* for each change of a store, what it does to this and to the cells, and that it leaves the rest
  alone;
* `Store.reportAny`, `Store.close`, `Store.finish`: the changes with which an evaluation ends.
-/

namespace CondComp

/-- The recursion guard ended an evaluation. -/
def Event.isRunaway : Event → Bool
  | concluded _ v => v = .runaway
  | _ => false

namespace Store

variable (st : Store) (i j : CellId)

/-- How often the recursion guard ended an evaluation. -/
def runaways : Nat := st.journal.countP Event.isRunaway

theorem drop_journal {st st' : Store} {es : List Event}
    (h : st'.journal.toList = st.journal.toList ++ es) :
    st'.journal.toList.drop st.journal.size = es := by
  rw [h, ← Array.length_toList, List.drop_left]

/-! ## Notes and reports -/

section Note

variable (e : Event)

@[simp] theorem state_note : (st.note e).state i = st.state i := rfl

@[simp] theorem nesting_note : (st.note e).nesting i = st.nesting i := rfl

@[simp] theorem cells_note : (st.note e).cells = st.cells := rfl

@[simp] theorem modules_note : (st.note e).modules = st.modules := rfl

@[simp] theorem sink_note : (st.note e).sink = st.sink := rfl

@[simp] theorem journal_note : (st.note e).journal = st.journal.push e := rfl

@[simp] theorem runaways_note :
    (st.note e).runaways = st.runaways + if e.isRunaway then 1 else 0 := by
  simp [runaways, Array.countP_push]

end Note

section Report

variable (ctx : Context) (source : Source) (message : String)

@[simp] theorem state_report : (st.report ctx source message).state i = st.state i := rfl

@[simp] theorem cells_report : (st.report ctx source message).cells = st.cells := rfl

@[simp] theorem runaways_report : (st.report ctx source message).runaways = st.runaways := rfl

end Report

/-! ## Cells -/

section Cells

variable (b : Bool) (k : Nat)

@[simp] theorem size_settle : (st.settle i b).cells.size = st.cells.size := by
  simp [settle, modifyCell]

@[simp] theorem modules_settle : (st.settle i b).modules = st.modules := rfl

@[simp] theorem sink_settle : (st.settle i b).sink = st.sink := rfl

@[simp] theorem runaways_settle : (st.settle i b).runaways = st.runaways := rfl

theorem state_settle : (st.settle i b).state j =
    if i = j ∧ i < st.cells.size then (st.state j).settle b else st.state j := by
  rw [state, settle, cell_modifyCell]
  split_ifs <;> rfl

@[simp] theorem nesting_settle : (st.settle i b).nesting j = st.nesting j := by
  rw [nesting, settle, cell_modifyCell]
  split_ifs <;> rfl

@[simp] theorem size_hold : (st.hold i k).cells.size = st.cells.size := by
  simp [hold, modifyCell]

@[simp] theorem state_hold : (st.hold i k).state j = st.state j := by
  rw [state, hold, cell_modifyCell]
  split_ifs <;> rfl

theorem nesting_hold : (st.hold i k).nesting j =
    if i = j ∧ i < st.cells.size then st.nesting j + k else st.nesting j := by
  rw [nesting, hold, cell_modifyCell]
  split_ifs <;> rfl

@[simp] theorem size_free : (st.free i k).cells.size = st.cells.size := by
  simp [free, modifyCell]

@[simp] theorem state_free : (st.free i k).state j = st.state j := by
  rw [state, free, cell_modifyCell]
  split_ifs <;> rfl

theorem nesting_free : (st.free i k).nesting j =
    if i = j ∧ i < st.cells.size then st.nesting j - k else st.nesting j := by
  rw [nesting, free, cell_modifyCell]
  split_ifs <;> rfl

/-- Guards that are given back leave no trace. -/
theorem free_hold : (st.hold i k).free i k = st := by
  have hcells : (st.hold i k).cells.modify i (fun c => { c with nesting := c.nesting - k }) =
      st.cells := by
    refine Array.ext_getElem? fun j => ?_
    rw [hold, modifyCell, Array.getElem?_modify, Array.getElem?_modify]
    split_ifs
    · cases st.cells[j]? <;> simp
    · rfl
  rw [free, modifyCell, hcells]
  rfl

end Cells

/-! ## Analyses -/

section Analysis

variable (scope : Scope) (depth : Nat)

@[simp] theorem size_enter : (st.enter i scope depth).cells.size = st.cells.size :=
  st.size_hold i 1

@[simp] theorem state_enter : (st.enter i scope depth).state j = st.state j := st.state_hold i j 1

theorem nesting_enter : (st.enter i scope depth).nesting j =
    if i = j ∧ i < st.cells.size then st.nesting j + 1 else st.nesting j :=
  st.nesting_hold i j 1

theorem journal_enter : (st.enter i scope depth).journal = st.journal.push
    (.entered i scope depth ((st.enter i scope depth).nesting i) (st.balance + 1)) := rfl

@[simp] theorem runaways_enter : (st.enter i scope depth).runaways = st.runaways := by
  simp [enter, runaways, Event.isRunaway, hold, modifyCell, note]

@[simp] theorem size_leave : (st.leave i depth).cells.size = st.cells.size :=
  st.size_free i 1

@[simp] theorem modules_leave : (st.leave i depth).modules = st.modules := rfl

@[simp] theorem sink_leave : (st.leave i depth).sink = st.sink := rfl

@[simp] theorem state_leave : (st.leave i depth).state j = st.state j := st.state_free i j 1

theorem nesting_leave : (st.leave i depth).nesting j =
    if i = j ∧ i < st.cells.size then st.nesting j - 1 else st.nesting j :=
  st.nesting_free i j 1

theorem journal_leave : (st.leave i depth).journal =
    st.journal.push (.left i depth ((st.leave i depth).nesting i) (st.balance - 1)) := rfl

@[simp] theorem runaways_leave : (st.leave i depth).runaways = st.runaways := by
  simp [leave, runaways, Event.isRunaway, free, modifyCell, note]

end Analysis

/-! ## Answers of directives -/

section Answer

variable (p : Program) (scope : Option Scope) (ns : Namespace) (owner : ModuleId) (q : Query)

theorem answer_eq : ∃ log, st.answer p scope ns owner q =
    ((st.modules.answer p.globals ns q owner).1,
      { st with modules := (st.modules.answer p.globals ns q owner).2, log := log }) := by
  simp only [answer, logDependency]
  split_ifs
  · split
    · exact ⟨_, rfl⟩
    · exact ⟨_, rfl⟩
  · exact ⟨_, rfl⟩

@[simp] theorem cells_answer : (st.answer p scope ns owner q).2.cells = st.cells := by
  obtain ⟨log, h⟩ := st.answer_eq p scope ns owner q
  rw [h]

@[simp] theorem sink_answer : (st.answer p scope ns owner q).2.sink = st.sink := by
  obtain ⟨log, h⟩ := st.answer_eq p scope ns owner q
  rw [h]

@[simp] theorem journal_answer : (st.answer p scope ns owner q).2.journal = st.journal := by
  obtain ⟨log, h⟩ := st.answer_eq p scope ns owner q
  rw [h]

@[simp] theorem modules_answer : (st.answer p scope ns owner q).2.modules =
    (st.modules.answer p.globals ns q owner).2 := by
  obtain ⟨log, h⟩ := st.answer_eq p scope ns owner q
  rw [h]

@[simp] theorem fst_answer : (st.answer p scope ns owner q).1 =
    (st.modules.answer p.globals ns q owner).1 := by
  obtain ⟨log, h⟩ := st.answer_eq p scope ns owner q
  rw [h]

@[simp] theorem state_answer : (st.answer p scope ns owner q).2.state i = st.state i := by
  rw [state, state, cell, cell, cells_answer]

@[simp] theorem nesting_answer : (st.answer p scope ns owner q).2.nesting i = st.nesting i := by
  rw [nesting, nesting, cell, cell, cells_answer]

@[simp] theorem runaways_answer : (st.answer p scope ns owner q).2.runaways = st.runaways := by
  rw [runaways, runaways, journal_answer]

end Answer

/-! ## The end of an evaluation -/

section Close

variable (ctx : Context)

/-- Reports a fault, if there is one. -/
def reportAny (fault : Option (Source × Fault)) : Store :=
  match fault with
  | none => st
  | some (source, f) => st.report ctx source f.message

/-- Notes a verdict and settles what it settles. -/
def close (v : Verdict) : Store :=
  match v.answer? ctx.gagged with
  | none => st.conclude i v
  | some b => (st.conclude i v).settle i b

/-- Ends the analysis of an evaluation, and with it the evaluation. -/
def finish (depth : Nat) (fault : Option (Source × Fault)) (v : Verdict) : Store :=
  ((st.leave i depth).reportAny ctx fault).close i ctx v

section ReportAny

variable (fault : Option (Source × Fault))

@[simp] theorem state_reportAny : (st.reportAny ctx fault).state i = st.state i := by
  cases fault <;> rfl

@[simp] theorem nesting_reportAny : (st.reportAny ctx fault).nesting i = st.nesting i := by
  cases fault <;> rfl

@[simp] theorem cells_reportAny : (st.reportAny ctx fault).cells = st.cells := by
  cases fault <;> rfl

@[simp] theorem modules_reportAny : (st.reportAny ctx fault).modules = st.modules := by
  cases fault <;> rfl

@[simp] theorem runaways_reportAny : (st.reportAny ctx fault).runaways = st.runaways := by
  cases fault <;> rfl

end ReportAny

section Verdict

variable (v : Verdict)

theorem state_close : (st.close i ctx v).state j =
    if i = j ∧ i < st.cells.size then (v.answer? ctx.gagged).elim (st.state j) (st.state j).settle
    else st.state j := by
  rw [close]
  cases v.answer? ctx.gagged with
  | none => simp [conclude]
  | some b => exact (st.conclude i v).state_settle i j b

@[simp] theorem nesting_close : (st.close i ctx v).nesting j = st.nesting j := by
  rw [close]
  cases v.answer? ctx.gagged <;> simp [conclude]

@[simp] theorem size_close : (st.close i ctx v).cells.size = st.cells.size := by
  rw [close]
  cases v.answer? ctx.gagged <;> simp [conclude]

@[simp] theorem modules_close : (st.close i ctx v).modules = st.modules := by
  rw [close]
  cases v.answer? ctx.gagged <;> rfl

@[simp] theorem log_close : (st.close i ctx v).log = st.log := by
  rw [close]
  cases v.answer? ctx.gagged <;> rfl

@[simp] theorem sink_close : (st.close i ctx v).sink = st.sink := by
  rw [close]
  cases v.answer? ctx.gagged <;> rfl

@[simp] theorem balance_close : (st.close i ctx v).balance = st.balance := by
  rw [close]
  cases v.answer? ctx.gagged <;> rfl

@[simp] theorem journal_close : (st.close i ctx v).journal = st.journal.push (.concluded i v) := by
  rw [close]
  cases v.answer? ctx.gagged <;> rfl

@[simp] theorem runaways_close :
    (st.close i ctx v).runaways = st.runaways + if v = .runaway then 1 else 0 := by
  rw [close]
  cases v.answer? ctx.gagged <;> simp [conclude, Event.isRunaway]

theorem state_finish (depth : Nat) (fault : Option (Source × Fault)) :
    (st.finish i ctx depth fault v).state j =
      if i = j ∧ i < st.cells.size then (v.answer? ctx.gagged).elim (st.state j) (st.state j).settle
      else st.state j := by
  simp [finish, state_close]

theorem journal_finish (depth : Nat) (fault : Option (Source × Fault)) :
    (st.finish i ctx depth fault v).journal = (st.leave i depth).journal.push (.concluded i v) := by
  rw [finish, journal_close]
  cases fault <;> rfl

theorem runaways_finish (depth : Nat) (fault : Option (Source × Fault)) :
    (st.finish i ctx depth fault v).runaways = st.runaways + if v = .runaway then 1 else 0 := by
  simp [finish]

end Verdict

end Close

end Store

end CondComp
