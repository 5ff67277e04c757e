import CondComp.Evaluation

/-!
# The agenda of an analysis

What the analysis of an expression asks does not depend on the answers, as long as they are yes.

* `Finding`, `Agenda`: the guards that are asked about, in order, each with the name that it
  guards, and how the analysis ends if all of them hold;
* `Expr.agenda`: the agenda of an expression under declarations;
* `askAll`: asks until the first no; `Agenda.run`: an analysis that keeps to an agenda;
* **`typeOf_run`**: the analysis of an expression keeps to its agenda.
-/

namespace CondComp

/-! ## Agendas -/

/-- How an analysis ends if all guards hold. -/
inductive Finding
  | typed (ty : Ty)
  | faulty (fault : Fault)
  /-- The expression was broken before, which is not reported again. -/
  | broken
  | endless
  deriving DecidableEq, Repr

/-- What an analysis asks, and how it ends. -/
structure Agenda where
  questions : List (String × ConditionId) := []
  finding : Finding
  deriving DecidableEq, Repr

namespace Agenda

/-- Goes on with another agenda once there is a type. -/
def andThen (a : Agenda) (f : Ty → Agenda) : Agenda :=
  match a.finding with
  | .typed ty => ⟨a.questions ++ (f ty).questions, (f ty).finding⟩
  | _ => a

/-- Asks about a guard first. -/
def guarded (x : String) (guard : Option ConditionId) (a : Agenda) : Agenda :=
  match guard with
  | none => a
  | some g => ⟨(x, g) :: a.questions, a.finding⟩

end Agenda

/-- The agenda of an expression whose names have the agendas given by `lookup`. -/
def Expr.agendaWith (lookup : String → Agenda) : Expr → Agenda
  | bool _ => { finding := .typed .bool }
  | runtime => { finding := .typed .bool }
  | trap => { finding := .typed .bool }
  | int _ => { finding := .typed .int }
  | poisoned => { finding := .broken }
  | ident x => lookup x
  | eq a b => (a.agendaWith lookup).andThen fun s => (b.agendaWith lookup).andThen fun t =>
      { finding := if s = t then .typed .bool else .faulty .incompatibleTypes }
  | and a b => (a.agendaWith lookup).andThen fun _ => (b.agendaWith lookup).andThen fun _ =>
      { finding := .typed .bool }

/-- The agenda of a name, found through at most `hops` declarations. -/
def agendaOfName (decls : List Decl) : Nat → String → Agenda
  | 0, _ => { finding := .endless }
  | hops + 1, x =>
    match firstDecl? decls x with
    | none => { finding := .faulty (.undefinedName x) }
    | some d => (d.value.agendaWith (agendaOfName decls hops)).guarded x d.guard

/-- The agenda of an expression under declarations. -/
def Expr.agenda (decls : List Decl) (e : Expr) : Agenda :=
  e.agendaWith (agendaOfName decls (hopLimit decls))

/-! ## Keeping to an agenda -/

/-- Asks about guards in order. The first that does not hold ends it, and its name is returned. -/
def askAll (guardHolds : ConditionId → EvalM Bool) :
    List (String × ConditionId) → EvalM (Option String)
  | [] => pure none
  | (x, g) :: qs => do
    if ← guardHolds g then askAll guardHolds qs else return some x

/-- Ends an analysis whose guards all hold. -/
def Finding.run (ctx : Context) : Finding → EvalM (Option Ty)
  | typed ty => pure (some ty)
  | faulty fault => do
    EvalM.report ctx .internal fault
    return none
  | broken => pure none
  | endless => EvalM.endless

/-- An analysis that keeps to an agenda. -/
def Agenda.run (ctx : Context) (guardHolds : ConditionId → EvalM Bool) (a : Agenda) :
    EvalM (Option Ty) := do
  match ← askAll guardHolds a.questions with
  | none => a.finding.run ctx
  | some x => do
    EvalM.report ctx .internal (.undefinedName x)
    return none

section Run

variable (ctx : Context) (guardHolds : ConditionId → EvalM Bool)

theorem askAll_append (as bs : List (String × ConditionId)) :
    askAll guardHolds (as ++ bs) = do
      match ← askAll guardHolds as with
      | none => askAll guardHolds bs
      | some x => return some x := by
  induction as with
  | nil => simp [askAll]
  | cons q as ih =>
    rw [List.cons_append, askAll, askAll, ih, bind_assoc]
    refine bind_congr fun holds => ?_
    cases holds <;> simp

theorem run_andThen (a : Agenda) (f : Ty → Agenda) :
    (a.andThen f).run ctx guardHolds = do
      match ← a.run ctx guardHolds with
      | some ty => (f ty).run ctx guardHolds
      | none => return none := by
  obtain ⟨qs, finding⟩ := a
  cases finding with
  | typed ty =>
    simp only [Agenda.andThen, Agenda.run, askAll_append, bind_assoc]
    refine bind_congr fun r => ?_
    cases r <;> simp [Finding.run]
  | faulty fault | broken =>
    simp only [Agenda.andThen, Agenda.run, bind_assoc]
    refine bind_congr fun r => ?_
    cases r <;> simp [Finding.run]
  | endless =>
    simp only [Agenda.andThen, Agenda.run, bind_assoc]
    refine bind_congr fun r => ?_
    cases r with
    | none => rfl
    | some x => simp

theorem run_guarded (x : String) (g : ConditionId) (a : Agenda) :
    (a.guarded x (some g)).run ctx guardHolds = do
      if ← guardHolds g then a.run ctx guardHolds
      else do
        EvalM.report ctx .internal (.undefinedName x)
        return none := by
  simp only [Agenda.guarded, Agenda.run, askAll, bind_assoc]
  refine bind_congr fun holds => ?_
  cases holds <;> simp

end Run

/-! ## The analysis keeps to the agenda -/

section Analysis

variable (ctx : Context)

@[simp] theorem run_refuse {α : Type} (fault : Fault) :
    (CheckM.refuse ctx fault : CheckM α).run =
      (EvalM.report ctx .internal fault >>= fun _ => pure none : EvalM (Option α)) := by
  simp [CheckM.refuse, Option.elimM]

theorem typeWith_run (guardHolds : ConditionId → EvalM Bool) {lookup : String → CheckM Ty}
    {agendas : String → Agenda} (h : ∀ x, (lookup x).run = (agendas x).run ctx guardHolds)
    (e : Expr) : (e.typeWith ctx lookup).run = (e.agendaWith agendas).run ctx guardHolds := by
  induction e with
  | bool _ | int _ | runtime | trap | poisoned =>
    simp [Expr.typeWith, Expr.agendaWith, Agenda.run, askAll, Finding.run]
  | ident x => exact h x
  | eq a b iha ihb =>
    rw [Expr.typeWith, Expr.agendaWith, run_andThen, OptionT.run_bind, iha]
    refine bind_congr fun s => ?_
    cases s with
    | none => rfl
    | some s =>
      simp only [Option.elim_some, run_andThen, OptionT.run_bind, ihb]
      refine bind_congr fun t => ?_
      cases t with
      | none => rfl
      | some t => by_cases hst : s = t <;> simp [hst, Agenda.run, askAll, Finding.run]
  | and a b iha ihb =>
    rw [Expr.typeWith, Expr.agendaWith, run_andThen, OptionT.run_bind, iha]
    refine bind_congr fun s => ?_
    cases s with
    | none => rfl
    | some s =>
      simp only [Option.elim_some, run_andThen, OptionT.run_bind, ihb]
      refine bind_congr fun t => ?_
      cases t <;> simp [Agenda.run, askAll, Finding.run]

variable (p : Program) (guardHolds : ConditionId → EvalM Bool)

theorem typeOfName_run (hops : Nat) (x : String) : (p.typeOfName ctx guardHolds hops x).run =
    (agendaOfName p.decls hops x).run ctx guardHolds := by
  induction hops generalizing x with
  | zero => rfl
  | succ hops ih =>
    rw [Program.typeOfName, agendaOfName, OptionT.run_bind, Program.exprOf]
    cases hd : firstDecl? p.decls x with
    | none => simp [Option.elimM, Agenda.run, askAll, Finding.run]
    | some d =>
      have hv := typeWith_run ctx guardHolds ih d.value
      cases hg : d.guard with
      | none => simpa [Option.elimM, hg, Agenda.guarded] using hv
      | some g =>
        simp only [hg, run_guarded, OptionT.run_bind, OptionT.run_lift, Option.elimM, bind_assoc,
          pure_bind]
        refine bind_congr fun holds => ?_
        cases holds with
        | true => simpa using hv
        | false => simp

/-- **The analysis of an expression keeps to its agenda.** -/
theorem typeOf_run (e : Expr) :
    (p.typeOf ctx guardHolds e).run = (e.agenda p.decls).run ctx guardHolds :=
  typeWith_run ctx guardHolds (typeOfName_run ctx p guardHolds (hopLimit p.decls)) e

end Analysis

end CondComp
