import CondComp.Proofs.Workload
import Mathlib.Data.Nat.Count

/-!
# Rows of conditions

A `static if` may consist of a name that another one guards, which may consist of such a name
again, and so on. The question about the first of them goes down the row to a condition that asks
no further, and its answer comes all the way up.

* `Row`, `Row.Leads`: conditions in a row, each of which asks about the next one;
* **`resolveAt_link`**: a question goes one condition down;
* `Row.Open`: a store in which a question has come down to a condition of the row;
* `Sink.takeAll`: a sink after errors that are reported or suppressed;
* `Row.Fell`, **`resolveAt_fall`**: the recursion guard strikes at the end of the row;
* `Row.Climbed`, **`resolveAt_climb`**: the last condition of the row is included.
-/

namespace CondComp

/-! ## Rows -/

/-- Conditions in a row, and the names that they guard. -/
structure Row where
  id : Nat → ConditionId
  condition : Nat → Condition
  name : Nat → String

/-- Each condition of a row up to the last one at `t` consists of the name that the next one
guards. The names stand for `true`. -/
structure Row.Leads (w : Row) (p : Program) (t : Nat) : Prop where
  condition (j : Nat) (hj : j ≤ t) : p.conditions[w.id j]? = some (w.condition j)
  test (j : Nat) (hj : j < t) : (w.condition j).test = .staticIf (.ident (w.name (j + 1)))
  last : ∃ e, (w.condition t).test = .staticIf e
  decl (j : Nat) (hj : j < t) : firstDecl? p.decls (w.name (j + 1)) =
    some ⟨w.name (j + 1), .bool true, some (w.id (j + 1))⟩

section Link

variable {p : Program} {ctx : Context} {st : Store} {id g : ConditionId} {c : Condition}
  {x : String}

theorem agenda_ident (hd : firstDecl? p.decls x = some ⟨x, .bool true, some g⟩) :
    (Expr.ident x).agenda p.decls = ⟨[(x, g)], .typed .bool⟩ := by
  rw [Expr.agenda, Expr.agendaWith, hopLimit, agendaOfName, hd]
  rfl

theorem eval_ident (hd : firstDecl? p.decls x = some ⟨x, .bool true, some g⟩) :
    (Expr.ident x).eval p.decls = some (.bool true) := by
  rw [Expr.eval, Expr.evalWith, hopLimit, valueOf, hd]
  rfl

/-- **A question goes one condition down.** A condition that consists of a guarded name is analysed
by one question about the guard. -/
theorem resolveAt_link {depth : Nat} (hdepth : depth ≤ ctx.limits.depth)
    (hc : p.conditions[id]? = some c) (ho : st.state c.cell = .unresolved)
    (ht : c.test = .staticIf (.ident x)) (hn : st.nesting c.cell ≤ ctx.limits.reentry)
    (hd : firstDecl? p.decls x = some ⟨x, .bool true, some g⟩) (s : Scope)
    (symbol : Option SymbolId) :
    p.resolveAt ctx (ctx.limits.depth + 1 - depth) id (some s) symbol st =
      (p.resolveAt ctx (ctx.limits.depth + 1 - (depth + 1)) g (some (s.child symbol)) none
        (st.enter c.cell (s.child symbol) depth)).map fun r =>
          let st' := if r.1 = true then r.2.finish c.cell ctx depth none (.value true)
            else r.2.finish c.cell ctx depth (some (.internal, .undefinedName x)) .failed
          ((st'.state c.cell).isIncluded, st') := by
  have hroom : ctx.limits.depth + 1 - depth = ctx.limits.depth - depth + 1 := by omega
  have hback : ctx.limits.depth + 1 - (ctx.limits.depth - depth + 1) = depth := by omega
  have hbar : c.bar? ctx depth (.ident x) (some s) st = none :=
    bar?_eq_none.mpr ⟨hn, hdepth, by simp⟩
  have hyes : p.ending c (.ident x) none = some { verdict := .value true } := by
    simp [Program.ending, agenda_ident hd, eval_ident hd]
  have hno : p.ending c (.ident x) (some x) =
      some ⟨some (.internal, .undefinedName x), .failed⟩ := rfl
  rw [hroom, Nat.add_sub_add_right, Program.resolveAt_eq, hback,
    resolveWith_analysed hc ho ht hbar, agenda_ident hd, askAll_cons, Option.bind_assoc,
    Option.map_eq_bind]
  refine Option.bind_congr fun r _ => ?_
  obtain ⟨b, st'⟩ := r
  cases b with
  | true => simp [askAll, hyes]
  | false => simp [hno]

end Link

/-! ## Errors on the way -/

namespace Sink

/-- A sink after errors that are reported, or suppressed and counted. -/
def takeAll (s : Sink) (gagged : Bool) (ds : List Diagnostic) : Sink :=
  if gagged then { s with gagged := s.gagged + ds.length } else s.pushAll ds

theorem takeAll_takeAll (s : Sink) (gagged : Bool) (ds es : List Diagnostic) :
    (s.takeAll gagged ds).takeAll gagged es = s.takeAll gagged (ds ++ es) := by
  cases gagged with
  | true => simp [takeAll, Nat.add_assoc]
  | false => simp [takeAll, pushAll]

end Sink

namespace Store

variable (st : Store) (i : CellId) (ctx : Context)

theorem sink_report (source : Source) (message : String) :
    (st.report ctx source message).sink =
      st.sink.takeAll ctx.gagged [.errorAt source message] := by
  rw [report, Sink.takeAll]
  cases ctx.gagged <;> rfl

theorem sink_finish (depth : Nat) (source : Source) (f : Fault) (v : Verdict) :
    (st.finish i ctx depth (some (source, f)) v).sink =
      st.sink.takeAll ctx.gagged [.errorAt source f.message] := by
  rw [finish, sink_close, reportAny, sink_report, sink_leave]

theorem sink_finish_none (depth : Nat) (v : Verdict) :
    (st.finish i ctx depth none v).sink = st.sink := by
  rw [finish, sink_close, reportAny, sink_leave]

end Store

/-! ## Down the row -/

namespace Row

variable {w : Row} {p : Program} {ctx : Context} {t j : Nat} {st st' : Store}

/-- How often the condition at `i` stands in a row before position `j`. -/
def visits (w : Row) (i j : Nat) : Nat := Nat.count (fun h => w.id h = w.id i) j

/-- The cells of `m` conditions of a row from position `j` on. -/
def cells (w : Row) (j m : Nat) : List CellId :=
  (List.range' j m).map fun h => (w.condition h).cell

theorem cells_succ (w : Row) (j m : Nat) :
    w.cells j (m + 1) = (w.condition j).cell :: w.cells (j + 1) m := by
  rw [cells, List.range'_succ, List.map_cons, cells]

/-- A question has come down to position `j` of a row: its conditions are not settled, and those
that it came across are in flight. -/
structure Open (w : Row) (t j : Nat) (st : Store) : Prop where
  state (i : Nat) (hi : i ≤ t) : st.state (w.condition i).cell = .unresolved
  nesting (i : Nat) (hi : i ≤ t) : st.nesting (w.condition i).cell = w.visits i j

theorem Leads.isStaticIf (hl : w.Leads p t) (hj : j ≤ t) :
    ∃ e, (w.condition j).test = .staticIf e := by
  rcases Nat.lt_or_eq_of_le hj with hj | rfl
  · exact ⟨_, hl.test j hj⟩
  · exact hl.last

theorem Leads.cell_eq_iff (hl : w.Leads p t) {size : Nat} (hw : p.WellFormed size) {i : Nat}
    (hi : i ≤ t) (hj : j ≤ t) :
    (w.condition i).cell = (w.condition j).cell ↔ w.id i = w.id j := by
  obtain ⟨e, he⟩ := hl.isStaticIf hi
  refine ⟨fun h => hw.own (hl.condition i hi) (hl.condition j hj) he h, fun h => ?_⟩
  have hsame : some (w.condition i) = some (w.condition j) := by
    rw [← hl.condition i hi, h, hl.condition j hj]
  rw [Option.some.inj hsame]

theorem Open.enter (h : w.Open t j st) (hw : p.WellFormed st.cells.size) (hl : w.Leads p t)
    (hj : j ≤ t) (s : Scope) (depth : Nat) :
    w.Open t (j + 1) (st.enter (w.condition j).cell s depth) where
  state i hi := by rw [Store.state_enter, h.state i hi]
  nesting i hi := by
    have hlt : (w.condition j).cell < st.cells.size := hw.cell_lt (hl.condition j hj)
    rw [Store.nesting_enter, h.nesting i hi, visits, visits, Nat.count_succ]
    by_cases hid : w.id j = w.id i
    · rw [if_pos ⟨(hl.cell_eq_iff hw hj hi).mpr hid, hlt⟩, if_pos hid]
    · rw [if_neg fun h => hid ((hl.cell_eq_iff hw hj hi).mp h.1), if_neg hid]
      rfl

/-! ## Falling -/

/-- The error at the end of a row that is too long. -/
def runaway (w : Row) (limits : Limits) (t : Nat) : Diagnostic :=
  .errorAt (w.condition t).source (Fault.runaway limits t).message

/-- The errors about the names of `m` conditions from position `j` on, on the way up. -/
def refusals (w : Row) (j m : Nat) : List Diagnostic :=
  (List.range' j m).reverse.map fun h => .errorAt .internal (Fault.undefinedName
    (w.name (h + 1))).message

theorem refusals_succ (w : Row) (j m : Nat) : w.refusals j (m + 1) = w.refusals (j + 1) m ++
    [.errorAt .internal (Fault.undefinedName (w.name (j + 1))).message] := by
  rw [refusals, List.range'_succ, List.reverse_cons, List.map_append, refusals]
  rfl

/-- What is left when the recursion guard struck `m` positions after `j`: it reports, and then every
condition on the way up does. The condition at the end is excluded in any case, and the others are
unless errors are suppressed. -/
structure Fell (w : Row) (ctx : Context) (j m : Nat) (st st' : Store) : Prop where
  sink : st'.sink =
    st.sink.takeAll ctx.gagged (w.runaway ctx.limits (j + m) :: w.refusals j m)
  state (i : CellId) : st'.state i =
    if i = (w.condition (j + m)).cell ∨ ctx.gagged = false ∧ i ∈ w.cells j m then .excluded
    else st.state i
  analysed : Analysed st (w.cells j m) st'

theorem fell_barred (hlt : (w.condition j).cell < st.cells.size)
    (ho : st.state (w.condition j).cell = .unresolved) :
    w.Fell ctx j 0 st ((st.report ctx (w.condition j).source
      (Fault.runaway ctx.limits j).message).close (w.condition j).cell ctx .runaway) where
  sink := by
    rw [Store.sink_close, Store.sink_report]
    rfl
  state i := by
    rw [Store.state_close, Store.state_report, Store.cells_report]
    by_cases hi : i = (w.condition j).cell
    · subst hi
      rw [if_pos ⟨rfl, hlt⟩, if_pos (.inl rfl), ho]
      rfl
    · have hno : ¬ (i = (w.condition (j + 0)).cell ∨ ctx.gagged = false ∧ i ∈ w.cells j 0) := by
        simp [cells, hi]
      rw [if_neg fun h => hi h.1.symm, if_neg hno]
  analysed := (Analysed.of_eq rfl).trans (analysed_close _ _ _)

theorem Fell.finish {m : Nat} {s : Scope}
    (h : w.Fell ctx (j + 1) m (st.enter (w.condition j).cell s j) st')
    (hlt : (w.condition j).cell < st'.cells.size)
    (ho : st.state (w.condition j).cell = .unresolved) :
    w.Fell ctx j (m + 1) st (st'.finish (w.condition j).cell ctx j
      (some (.internal, .undefinedName (w.name (j + 1)))) .failed) where
  sink := by
    rw [Store.sink_finish, h.sink, Sink.takeAll_takeAll, refusals_succ, Nat.add_right_comm]
    rfl
  state i := by
    have hend : j + (m + 1) = j + 1 + m := by omega
    rw [Store.state_finish, h.state, Store.state_enter, hend]
    simp only [cells_succ, List.mem_cons]
    by_cases hi : i = (w.condition j).cell
    · subst hi
      rw [if_pos ⟨rfl, hlt⟩, ho]
      cases ctx.gagged with
      | true => simp [Verdict.answer?]
      | false =>
        simp only [true_or, true_and, or_true, if_true]
        split_ifs <;> rfl
    · rw [if_neg fun h => hi h.1.symm]
      simp [hi]
  analysed := by
    have hran := ((analysed_enter _ _ _).trans h.analysed).trans
      (analysed_finish (w.condition j).cell ctx j
        (some (.internal, .undefinedName (w.name (j + 1)))) .failed)
    rwa [List.append_nil, List.singleton_append, ← cells_succ] at hran

theorem Fell.not_included {m : Nat} (h : w.Fell ctx j m st st')
    (ho : st.state (w.condition j).cell = .unresolved) :
    (st'.state (w.condition j).cell).isIncluded = false := by
  rw [h.state, ho]
  split_ifs <;> rfl

/-- **The recursion guard strikes at the end of the row**, if it does not strike before. -/
theorem resolveAt_fall (hw : p.WellFormed st.cells.size) (hl : w.Leads p t)
    (hfree : ∀ i < t, w.visits i i ≤ ctx.limits.reentry ∧ i ≤ ctx.limits.depth)
    (hstop : ctx.limits.reentry < w.visits t t ∨ ctx.limits.depth < t) {m : Nat} (hm : j + m = t)
    (ho : w.Open t j st) (s : Scope) (symbol : Option SymbolId) :
    ∃ st', p.resolveAt ctx (ctx.limits.depth + 1 - j) (w.id j) (some s) symbol st =
      some (false, st') ∧ w.Fell ctx j m st st' := by
  induction m generalizing j st s symbol with
  | zero =>
    obtain rfl : j = t := hm
    obtain ⟨e, he⟩ := hl.last
    have hdepth : j ≤ ctx.limits.depth + 1 := by
      by_contra hd
      have := (hfree (j - 1) (by omega)).2
      omega
    have hback : ctx.limits.depth + 1 - (ctx.limits.depth + 1 - j) = j := by omega
    have hopen := ho.state j (Nat.le_refl j)
    have hbar : (w.condition j).bar? ctx j e (some s) st =
        some (.runaway, .runaway ctx.limits j) := by
      have hr : ctx.limits.reentry < (st.cell (w.condition j).cell).nesting ∨
          ctx.limits.depth < j := by
        rwa [← Store.nesting, ho.nesting j (Nat.le_refl j)]
      simp [Condition.bar?, hr]
    have hfell : w.Fell ctx j 0 st _ :=
      fell_barred (hw.cell_lt (hl.condition j (Nat.le_refl j))) hopen
    refine ⟨_, ?_, hfell⟩
    rw [Program.resolveAt_eq, hback,
      resolveWith_barred (hl.condition j (Nat.le_refl j)) hopen he hbar]
    exact congrArg (fun b => some (b, _)) (hfell.not_included hopen)
  | succ m ih =>
    have hj : j < t := by omega
    have hopen := ho.state j hj.le
    have hc := hl.condition j hj.le
    have hn : st.nesting (w.condition j).cell ≤ ctx.limits.reentry := by
      rw [ho.nesting j hj.le]
      exact (hfree j hj).1
    have ho₁ : w.Open t (j + 1) (st.enter (w.condition j).cell (s.child symbol) j) :=
      ho.enter hw hl hj.le _ _
    obtain ⟨st₂, hres, hfell⟩ := ih (by simpa using hw) (by omega) ho₁ (s.child symbol) none
    have hlt : (w.condition j).cell < st₂.cells.size := by
      rw [(resolveAt_later hres).size, Store.size_enter]
      exact hw.cell_lt hc
    have hfell' := hfell.finish hlt hopen
    refine ⟨_, ?_, hfell'⟩
    rw [resolveAt_link (hfree j hj).2 hc hopen (hl.test j hj) hn (hl.decl j hj), hres,
      Option.map_some]
    exact congrArg (fun b => some (b, _)) (hfell'.not_included hopen)

/-! ## Climbing -/

/-- What is left when the last of `m` conditions from position `j` on is included: all of them
are. -/
structure Climbed (w : Row) (j m : Nat) (st st' : Store) : Prop where
  sink : st'.sink = st.sink
  state (i : CellId) : st'.state i = if i ∈ w.cells j m then .included else st.state i
  analysed : Analysed st (w.cells j m) st'

theorem Climbed.finish {m : Nat} {s : Scope}
    (h : w.Climbed (j + 1) m (st.enter (w.condition j).cell s j) st')
    (hlt : (w.condition j).cell < st'.cells.size)
    (ho : st.state (w.condition j).cell = .unresolved) :
    w.Climbed j (m + 1) st (st'.finish (w.condition j).cell ctx j none (.value true)) where
  sink := by
    rw [Store.sink_finish_none, h.sink]
    rfl
  state i := by
    rw [Store.state_finish, h.state, Store.state_enter]
    simp only [cells_succ, List.mem_cons]
    by_cases hi : i = (w.condition j).cell
    · subst hi
      rw [if_pos ⟨rfl, hlt⟩, ho]
      simp only [true_or, if_true]
      split_ifs <;> rfl
    · rw [if_neg fun h => hi h.1.symm]
      simp [hi]
  analysed := by
    have hran := ((analysed_enter _ _ _).trans h.analysed).trans
      (analysed_finish (w.condition j).cell ctx j none (.value true))
    rwa [List.append_nil, List.singleton_append, ← cells_succ] at hran

theorem Climbed.included {m : Nat} (h : w.Climbed j (m + 1) st st') :
    (st'.state (w.condition j).cell).isIncluded = true := by
  rw [h.state, if_pos (by rw [cells_succ]; exact List.mem_cons_self)]
  rfl

theorem climbed_nil : w.Climbed j 0 st st := ⟨rfl, fun _ => rfl, .of_eq rfl⟩

/-- **A row that is not too long is included**, if its last condition is. -/
theorem resolveAt_climb (hw : p.WellFormed st.cells.size) (hl : w.Leads p t)
    (hlast : (w.condition t).test = .staticIf (.bool true))
    (hfree : ∀ i ≤ t, w.visits i i ≤ ctx.limits.reentry ∧ i ≤ ctx.limits.depth) {m : Nat}
    (hm : j + m = t) (ho : w.Open t j st) (s : Scope) (symbol : Option SymbolId) :
    ∃ st', p.resolveAt ctx (ctx.limits.depth + 1 - j) (w.id j) (some s) symbol st =
      some (true, st') ∧ w.Climbed j (m + 1) st st' := by
  induction m generalizing j st s symbol with
  | zero =>
    obtain rfl : j = t := hm
    obtain ⟨hn, hdepth⟩ := hfree j (Nat.le_refl j)
    have hc := hl.condition j (Nat.le_refl j)
    have hopen := ho.state j (Nat.le_refl j)
    have hback : ctx.limits.depth + 1 - (ctx.limits.depth + 1 - j) = j := by omega
    have hbar : (w.condition j).bar? ctx j (.bool true) (some s) st = none := by
      rw [← ho.nesting j (Nat.le_refl j)] at hn
      exact bar?_eq_none.mpr ⟨hn, hdepth, by simp⟩
    have hnil : w.Climbed (j + 1) 0 (st.enter (w.condition j).cell (s.child symbol) j) _ :=
      climbed_nil
    have hclimbed : w.Climbed j 1 st (Store.finish _ (w.condition j).cell ctx j none _) :=
      hnil.finish (by simpa using hw.cell_lt hc) hopen
    have hnone : ((Expr.bool true).agenda p.decls).questions = [] := rfl
    have hyes : p.ending (w.condition j) (.bool true) none = some { verdict := .value true } := rfl
    refine ⟨_, ?_, hclimbed⟩
    rw [Program.resolveAt_eq, hback, resolveWith_analysed hc hopen hlast hbar, hnone]
    simp [askAll, hyes, hclimbed.included]
  | succ m ih =>
    have hj : j < t := by omega
    have hopen := ho.state j hj.le
    have hc := hl.condition j hj.le
    have hn : st.nesting (w.condition j).cell ≤ ctx.limits.reentry := by
      rw [ho.nesting j hj.le]
      exact (hfree j hj.le).1
    have ho₁ : w.Open t (j + 1) (st.enter (w.condition j).cell (s.child symbol) j) :=
      ho.enter hw hl hj.le _ _
    obtain ⟨st₂, hres, hclimbed⟩ := ih (by simpa using hw) (by omega) ho₁ (s.child symbol) none
    have hlt : (w.condition j).cell < st₂.cells.size := by
      rw [(resolveAt_later hres).size, Store.size_enter]
      exact hw.cell_lt hc
    have hclimbed' : w.Climbed j (m + 2) st (st₂.finish _ ctx j none _) :=
      hclimbed.finish hlt hopen
    refine ⟨_, ?_, hclimbed'⟩
    rw [resolveAt_link (hfree j hj.le).2 hc hopen (hl.test j hj) hn (hl.decl j hj), hres,
      Option.map_some]
    simp only [if_true, hclimbed'.included]

end Row

end CondComp
