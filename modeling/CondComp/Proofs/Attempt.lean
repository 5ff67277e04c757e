import CondComp.Proofs.Effects
import CondComp.Proofs.Naming

/-!
# How an answer comes about

* `Condition.bar?`: what keeps a condition from being analysed;
* `Ending`, `Program.ending`: the fault and the verdict with which an analysis leaves an evaluation;
  `Ends`: all the ways in which that may be; `ends_of_ending`;
* `Stage`, `stage`: the five ways in which a question is dealt with, and for each of them an
  equation: `resolveWith_absent`, `resolveWith_settled`, `resolveWith_directive`,
  `resolveWith_barred`, `resolveWith_analysed`;
* `resolveAt_eq`: the questions of an evaluation are answered one level further down.
-/

namespace CondComp

/-- What keeps a `static if` from being analysed: the verdict, and the fault that is reported. -/
def Condition.bar? (ctx : Context) (depth : Nat) (c : Condition) (e : Expr) (scope : Option Scope)
    (st : Store) : Option (Verdict × Fault) :=
  if scope = none then some (.noScope, .noScope)
  else if ctx.limits.reentry < (st.cell c.cell).nesting ∨ ctx.limits.depth < depth then
    some (.runaway, .runaway ctx.limits depth)
  else if e = .poisoned then some (.failed, .broken)
  else none

/-- How an evaluation ends after its analysis. -/
structure Ending where
  fault : Option (Source × Fault) := none
  verdict : Verdict

namespace Program

variable (p : Program)

/-- How an evaluation ends after the first guard of a name that does not hold, or after all guards
held. It may have no end. -/
def ending (c : Condition) (e : Expr) (refused : Option String) : Option Ending :=
  match refused, (e.agenda p.decls).finding with
  | some x, _ => some ⟨some (.internal, .undefinedName x), .failed⟩
  | none, .endless => none
  | none, .broken => some { verdict := .failed }
  | none, .faulty f => some ⟨some (.internal, f), .failed⟩
  | none, .typed .int => some ⟨some (c.source, .notBoolean e .int), .failed⟩
  | none, .typed .bool =>
    match e.eval p.decls with
    | some (.bool b) => some { verdict := .value b }
    | some v => some ⟨some (c.source, .notConstant v), .failed⟩
    | none => some ⟨some (.internal, .notInterpretable e), .failed⟩

/-- The question of a guard when `room` levels are left above it. -/
def below (ctx : Context) : Nat → Scope → ConditionId → EvalM Bool
  | 0 => fun _ _ => EvalM.endless
  | room + 1 => fun scope g => p.resolveAt ctx room g (some scope) none

variable (ctx : Context)

theorem resolveAt_eq (room : Nat) : p.resolveAt ctx room =
    p.resolveWith ctx (ctx.limits.depth + 1 - room) (p.below ctx room) := by
  cases room with
  | zero => rfl
  | succ room => rw [Nat.add_sub_add_right]; rfl

end Program

/-! ## The five ways -/

section Stages

variable (p : Program) (ctx : Context) (depth : Nat)

/-- The ways in which a question is dealt with. -/
inductive Stage (id : ConditionId) (scope : Option Scope) (st : Store) : Prop
  | absent (h : p.conditions[id]? = none)
  | settled (c : Condition) (hc : p.conditions[id]? = some c) (hs : st.state c.cell ≠ .unresolved)
  | directive (c : Condition) (ns : Namespace) (owner : ModuleId) (q : Query)
      (hc : p.conditions[id]? = some c) (ho : st.state c.cell = .unresolved)
      (ht : c.test = .directive ns owner q)
  | barred (c : Condition) (e : Expr) (v : Verdict) (f : Fault) (hc : p.conditions[id]? = some c)
      (ho : st.state c.cell = .unresolved) (ht : c.test = .staticIf e)
      (hb : c.bar? ctx depth e scope st = some (v, f))
  | analysed (c : Condition) (e : Expr) (s : Scope) (hc : p.conditions[id]? = some c)
      (ho : st.state c.cell = .unresolved) (ht : c.test = .staticIf e) (hs : scope = some s)
      (hb : c.bar? ctx depth e (some s) st = none)

theorem stage (id : ConditionId) (scope : Option Scope) (st : Store) :
    Stage p ctx depth id scope st := by
  cases hc : p.conditions[id]? with
  | none => exact .absent hc
  | some c =>
    by_cases ho : st.state c.cell = .unresolved
    · cases ht : c.test with
      | directive ns owner q => exact .directive c ns owner q hc ho ht
      | staticIf e =>
        cases hb : c.bar? ctx depth e scope st with
        | some vf => exact .barred c e vf.1 vf.2 hc ho ht hb
        | none =>
          cases scope with
          | none => simp [Condition.bar?] at hb
          | some s => exact .analysed c e s hc ho ht rfl hb
    · exact .settled c hc ho

variable {p ctx depth} {G : Scope → ConditionId → EvalM Bool} {id : ConditionId} {c : Condition}
  {scope : Option Scope} {symbol : Option SymbolId} {st : Store}

theorem resolveWith_absent (h : p.conditions[id]? = none) :
    p.resolveWith ctx depth G id scope symbol st = some (false, st) := by
  rw [Program.resolveWith, h]
  rfl

theorem resolveWith_settled (hc : p.conditions[id]? = some c)
    (hs : st.state c.cell ≠ .unresolved) : p.resolveWith ctx depth G id scope symbol st =
      some ((st.state c.cell).isIncluded, st) := by
  have hs' : (st.cell c.cell).state.isSettled = true := decide_eq_true hs
  simp only [Program.resolveWith, hc, answerOnce, EvalM.bind_apply, EvalM.read_apply,
    Option.bind_some, hs', if_true]
  rfl

theorem resolveWith_open (hc : p.conditions[id]? = some c) (ho : st.state c.cell = .unresolved) :
    p.resolveWith ctx depth G id scope symbol st =
      (p.conditionAnswer ctx depth G c scope symbol st).map fun r =>
        let st' := r.1.elim r.2 (r.2.settle c.cell)
        ((st'.state c.cell).isIncluded, st') := by
  have ho' : (st.cell c.cell).state.isSettled = false := by
    rw [Store.state] at ho
    rw [ho]
    rfl
  simp only [Program.resolveWith, hc, answerOnce, EvalM.bind_apply, EvalM.read_apply,
    Option.bind_some, ho', Bool.false_eq_true, if_false]
  cases p.conditionAnswer ctx depth G c scope symbol st with
  | none => rfl
  | some r =>
    obtain ⟨answer?, st'⟩ := r
    cases answer? <;> rfl

theorem resolveWith_directive {ns : Namespace} {owner : ModuleId} {q : Query}
    (hc : p.conditions[id]? = some c) (ho : st.state c.cell = .unresolved)
    (ht : c.test = .directive ns owner q) : p.resolveWith ctx depth G id scope symbol st =
      let a := (st.answer p scope ns owner q).1
      let st' := ((st.answer p scope ns owner q).2.note (.answered c a scope)).settle c.cell
        a.included
      some ((st'.state c.cell).isIncluded, st') := by
  rw [resolveWith_open hc ho, Program.conditionAnswer, ht]
  rfl

theorem resolveWith_staticIf {e : Expr} (hc : p.conditions[id]? = some c)
    (ho : st.state c.cell = .unresolved) (ht : c.test = .staticIf e) :
    p.resolveWith ctx depth G id scope symbol st =
      (p.evaluate ctx depth G c e scope symbol st).map fun r =>
        let st' := r.2.close c.cell ctx r.1
        ((st'.state c.cell).isIncluded, st') := by
  rw [resolveWith_open hc ho, Program.conditionAnswer, ht]
  simp only [Program.staticIfAnswer, EvalM.bind_apply]
  cases p.evaluate ctx depth G c e scope symbol st with
  | none => rfl
  | some r =>
    simp only [Option.bind_some, Option.map_some, EvalM.change_apply, EvalM.pure_apply, Store.close]
    cases r.1.answer? ctx.gagged <;> rfl

theorem resolveWith_barred {e : Expr} {v : Verdict} {f : Fault} (hc : p.conditions[id]? = some c)
    (ho : st.state c.cell = .unresolved) (ht : c.test = .staticIf e)
    (hb : c.bar? ctx depth e scope st = some (v, f)) :
    p.resolveWith ctx depth G id scope symbol st =
      let st' := (st.report ctx c.source f.message).close c.cell ctx v
      some ((st'.state c.cell).isIncluded, st') := by
  rw [resolveWith_staticIf hc ho ht]
  cases scope with
  | none =>
    cases hb
    rfl
  | some s =>
    simp only [Condition.bar?, reduceCtorEq, if_false] at hb
    simp only [Program.evaluate, EvalM.bind_apply, EvalM.read_apply, Option.bind_some]
    by_cases hr : ctx.limits.reentry < (st.cell c.cell).nesting ∨ ctx.limits.depth < depth
    · rw [if_pos hr] at hb ⊢
      cases hb
      rfl
    · rw [if_neg hr] at hb ⊢
      by_cases he : e = .poisoned
      · rw [if_pos he] at hb ⊢
        cases hb
        rfl
      · rw [if_neg he] at hb
        cases hb

theorem judge_apply (c : Condition) (e : Expr) (t : Ty) (h : (e.agenda p.decls).finding = .typed t)
    (st : Store) : p.judge ctx c.source e t st =
      (p.ending c e none).map fun k => (k.verdict, st.reportAny ctx k.fault) := by
  simp only [Program.judge, Program.ending, h]
  cases t with
  | int => rfl
  | bool =>
    cases e.eval p.decls with
    | none => rfl
    | some v => cases v <;> rfl

theorem evaluate_analysed {e : Expr} {s : Scope} (hb : c.bar? ctx depth e (some s) st = none) :
    p.evaluate ctx depth G c e (some s) symbol st =
      (askAll (G (s.child symbol)) (e.agenda p.decls).questions
        (st.enter c.cell (s.child symbol) depth)).bind fun r =>
          (p.ending c e r.1).map fun k =>
            (k.verdict, (r.2.leave c.cell depth).reportAny ctx k.fault) := by
  simp only [Condition.bar?, reduceCtorEq, if_false] at hb
  obtain ⟨hr, he⟩ : ¬ (ctx.limits.reentry < (st.cell c.cell).nesting ∨ ctx.limits.depth < depth) ∧
      e ≠ .poisoned := by
    constructor
    · intro hr
      rw [if_pos hr] at hb
      cases hb
    · intro he
      rw [if_pos he] at hb
      split_ifs at hb
  simp only [Program.evaluate, EvalM.bind_apply, EvalM.read_apply, Option.bind_some, if_neg hr,
    if_neg he, Program.analyse, EvalM.change_apply, typeOf_run, Agenda.run]
  cases askAll (G (s.child symbol)) (e.agenda p.decls).questions
    (st.enter c.cell (s.child symbol) depth) with
  | none => rfl
  | some r =>
    obtain ⟨refused, st'⟩ := r
    cases refused with
    | some x => rfl
    | none =>
      simp only [Option.bind_some]
      cases h : (e.agenda p.decls).finding with
      | typed t => exact judge_apply c e t h _
      | faulty f | broken | endless =>
        simp only [Program.ending, h]
        rfl

theorem resolveWith_analysed {e : Expr} {s : Scope} (hc : p.conditions[id]? = some c)
    (ho : st.state c.cell = .unresolved) (ht : c.test = .staticIf e)
    (hb : c.bar? ctx depth e (some s) st = none) :
    p.resolveWith ctx depth G id (some s) symbol st =
      (askAll (G (s.child symbol)) (e.agenda p.decls).questions
        (st.enter c.cell (s.child symbol) depth)).bind fun r =>
          (p.ending c e r.1).map fun k =>
            let st' := r.2.finish c.cell ctx depth k.fault k.verdict
            ((st'.state c.cell).isIncluded, st') := by
  rw [resolveWith_staticIf hc ho ht, evaluate_analysed hb, Option.map_bind]
  refine Option.bind_congr fun r _ => ?_
  rw [Function.comp_apply]
  cases p.ending c e r.1 <;> rfl

end Stages

/-! ## What bars an evaluation, and how one ends -/

section Ways

variable {p : Program} {ctx : Context} {depth : Nat} {c : Condition} {e : Expr} {st : Store}

theorem bar?_eq_none {s : Scope} : c.bar? ctx depth e (some s) st = none ↔
    st.nesting c.cell ≤ ctx.limits.reentry ∧ depth ≤ ctx.limits.depth ∧ e ≠ .poisoned := by
  simp only [Condition.bar?, Store.nesting, reduceCtorEq, if_false]
  split_ifs with hr he
  · simp only [false_iff]
    omega
  · simp [he]
  · simp only [true_iff]
    exact ⟨by omega, by omega, he⟩

theorem bar?_eq_some {scope : Option Scope} {v : Verdict} {f : Fault}
    (h : c.bar? ctx depth e scope st = some (v, f)) : (v = .noScope ∧ scope = none) ∨
      (v = .runaway ∧ (ctx.limits.reentry < st.nesting c.cell ∨ ctx.limits.depth < depth)) ∨
      (v = .failed ∧ e = .poisoned) := by
  simp only [Condition.bar?] at h
  split_ifs at h with hs hr he
  · cases h
    exact .inl ⟨rfl, hs⟩
  · cases h
    exact .inr (.inl ⟨rfl, hr⟩)
  · cases h
    exact .inr (.inr ⟨rfl, he⟩)

theorem bar?_not_value {scope : Option Scope} {v : Verdict} {f : Fault}
    (h : c.bar? ctx depth e scope st = some (v, f)) (b : Bool) : v ≠ .value b := by
  rcases bar?_eq_some h with ⟨rfl, _⟩ | ⟨rfl, _⟩ | ⟨rfl, _⟩ <;> simp

theorem ending_eq_none {refused : Option String} : p.ending c e refused = none ↔
    refused = none ∧ (e.agenda p.decls).finding = .endless := by
  unfold Program.ending
  split <;> simp_all
  split <;> simp

/-- The ways in which an evaluation ends after its analysis. -/
inductive Ends (p : Program) (c : Condition) (e : Expr) : Option String → Ending → Prop
  | refused (x : String) : Ends p c e (some x) ⟨some (.internal, .undefinedName x), .failed⟩
  | broken (hf : (e.agenda p.decls).finding = .broken) : Ends p c e none { verdict := .failed }
  | faulty (f : Fault) (hf : (e.agenda p.decls).finding = .faulty f) :
      Ends p c e none ⟨some (.internal, f), .failed⟩
  | notBoolean (hf : (e.agenda p.decls).finding = .typed .int) :
      Ends p c e none ⟨some (c.source, .notBoolean e .int), .failed⟩
  | value (b : Bool) (hf : (e.agenda p.decls).finding = .typed .bool)
      (hv : e.eval p.decls = some (.bool b)) : Ends p c e none { verdict := .value b }
  | notConstant (v : Value) (hf : (e.agenda p.decls).finding = .typed .bool)
      (hv : e.eval p.decls = some v) (hb : ∀ b, v ≠ .bool b) :
      Ends p c e none ⟨some (c.source, .notConstant v), .failed⟩
  | notInterpretable (hf : (e.agenda p.decls).finding = .typed .bool)
      (hv : e.eval p.decls = none) :
      Ends p c e none ⟨some (.internal, .notInterpretable e), .failed⟩

theorem ends_of_ending {refused : Option String} {k : Ending} (h : p.ending c e refused = some k) :
    Ends p c e refused k := by
  unfold Program.ending at h
  split at h
  · cases h
    exact .refused _
  · cases h
  · next hf =>
    cases h
    exact .broken hf
  · next hf =>
    cases h
    exact .faulty _ hf
  · next hf =>
    cases h
    exact .notBoolean hf
  · next hf =>
    split at h
    · next hv =>
      cases h
      exact .value _ hf hv
    · next hb hv =>
      cases h
      exact .notConstant _ hf hv hb
    · next hv =>
      cases h
      exact .notInterpretable hf hv

/-- **An evaluation ends with a value if all guards held and the expression has a truth value, and
fails otherwise.** -/
theorem ending_cases {refused : Option String} {k : Ending} (h : p.ending c e refused = some k) :
    (∃ b, k = { verdict := .value b } ∧ refused = none ∧
      (e.agenda p.decls).finding = .typed .bool ∧ e.eval p.decls = some (.bool b)) ∨
    (k.verdict = .failed ∧ ∀ b, refused = none → (e.agenda p.decls).finding = .typed .bool →
      e.eval p.decls ≠ some (.bool b)) := by
  cases ends_of_ending h with
  | refused => exact .inr ⟨rfl, fun _ hr => nomatch hr⟩
  | broken hf | faulty _ hf | notBoolean hf =>
    refine .inr ⟨rfl, fun _ _ ht => ?_⟩
    rw [hf] at ht
    cases ht
  | value b hf hv => exact .inl ⟨b, rfl, rfl, hf, hv⟩
  | notConstant v _ hv hb =>
    refine .inr ⟨rfl, fun b _ _ he => hb b ?_⟩
    exact Option.some.inj (hv.symm.trans he)
  | notInterpretable _ hv =>
    refine .inr ⟨rfl, fun b _ _ he => ?_⟩
    rw [hv] at he
    cases he

end Ways

end CondComp
