import CondComp.CommandLine.Report
import CondComp.Proofs.DependencyTrail

/-!
# The log on the side

Dependencies are logged in the middle of evaluations. It makes no difference whether the log is
taken away before an evaluation or after it, so nothing that happens depends on it.

* `Store.muted`, `Session.muted`: a store and a session without their log; `Answer.muted`,
  `News.muted`: what is seen of a step, less what is seen of the log;
* `EvalM.Oblivious`: an evaluation takes no notice of the log; **`resolveAt_oblivious`**;
* **`Session.perform_muted`**, **`Session.run_muted`**, **`Directive.performAll_muted`**: nor do
  steps, lists of steps, and directives;
* `QueryCommand.inMode`, `QueryCommand.log`: a query in a mode of the log, and its log;
* **`same_in_every_mode`**: sessions and queries do the same in every mode of the log.
-/

namespace CondComp

/-! ## Stores -/

namespace Store

variable (st : Store)

/-- The store without its log. -/
def muted : Store := { st with log := .forMode .disabled }

@[simp] theorem state_muted (i : CellId) : st.muted.state i = st.state i := rfl

@[simp] theorem modules_muted : st.muted.modules = st.modules := rfl

@[simp] theorem muted_enter (i : CellId) (scope : Scope) (depth : Nat) :
    (st.enter i scope depth).muted = st.muted.enter i scope depth := rfl

@[simp] theorem muted_reportAny (ctx : Context) (fault : Option (Source × Fault)) :
    (st.reportAny ctx fault).muted = st.muted.reportAny ctx fault := by
  cases fault <;> rfl

@[simp] theorem muted_close (i : CellId) (ctx : Context) (v : Verdict) :
    (st.close i ctx v).muted = st.muted.close i ctx v := by
  rw [close, close]
  cases v.answer? ctx.gagged <;> rfl

@[simp] theorem muted_finish (i : CellId) (ctx : Context) (depth : Nat)
    (fault : Option (Source × Fault)) (v : Verdict) :
    (st.finish i ctx depth fault v).muted = st.muted.finish i ctx depth fault v := by
  rw [finish, muted_close, muted_reportAny]
  rfl

/-- **An answer to a directive takes no notice of the log.** -/
theorem answer_muted (p : Program) (scope : Option Scope) (ns : Namespace) (owner : ModuleId)
    (q : Query) : st.muted.answer p scope ns owner q =
      ((st.answer p scope ns owner q).1, (st.answer p scope ns owner q).2.muted) := by
  obtain ⟨log, h⟩ := st.answer_eq p scope ns owner q
  obtain ⟨log', h'⟩ := st.muted.answer_eq p scope ns owner q
  -- a log that is off records nothing
  have hoff : log' = .forMode .disabled := by
    have hlog := st.muted.log_answer p scope ns owner q
    rw [h', DependencyLog.recordAll_eq] at hlog
    exact hlog
  rw [h, h', hoff]
  rfl

end Store

/-! ## Evaluations -/

/-- An evaluation takes no notice of the log: without it, the evaluation comes to the same. -/
def EvalM.Oblivious {α : Type} (x : EvalM α) : Prop :=
  ∀ st, x st.muted = (x st).map fun r => (r.1, r.2.muted)

section Questions

variable {p : Program} {ctx : Context}

theorem askAll_oblivious {G : ConditionId → EvalM Bool} (h : ∀ g, (G g).Oblivious)
    (qs : List (String × ConditionId)) : (askAll G qs).Oblivious := by
  intro st
  induction qs generalizing st with
  | nil => rfl
  | cons q qs ih =>
    obtain ⟨x, g⟩ := q
    rw [askAll_cons, askAll_cons, h g st, Option.bind_map, Option.map_bind]
    refine Option.bind_congr fun r _ => ?_
    obtain ⟨b, st₁⟩ := r
    cases b with
    | true => exact ih st₁
    | false => rfl

theorem resolveAt_oblivious_of {room : Nat}
    (hbelow : ∀ child g, (p.below ctx room child g).Oblivious) (id : ConditionId)
    (scope : Option Scope) (symbol : Option SymbolId) :
    (p.resolveAt ctx room id scope symbol).Oblivious := by
  intro st
  rw [Program.resolveAt_eq]
  cases stage p ctx (ctx.limits.depth + 1 - room) id scope st with
  | absent hc =>
    rw [resolveWith_absent hc, resolveWith_absent hc]
    rfl
  | settled c hc hs =>
    have hs' : st.muted.state c.cell ≠ .unresolved := hs
    rw [resolveWith_settled hc hs, resolveWith_settled hc hs']
    rfl
  | directive c ns owner q hc ho ht =>
    have ho' : st.muted.state c.cell = .unresolved := ho
    rw [resolveWith_directive hc ho ht, resolveWith_directive hc ho' ht, Store.answer_muted]
    rfl
  | barred c e v f hc ho ht hb =>
    have ho' : st.muted.state c.cell = .unresolved := ho
    have hb' : c.bar? ctx (ctx.limits.depth + 1 - room) e scope st.muted = some (v, f) := hb
    have hclose : ((st.report ctx c.source f.message).close c.cell ctx v).muted =
        (st.muted.report ctx c.source f.message).close c.cell ctx v := Store.muted_close _ _ _ _
    rw [resolveWith_barred hc ho ht hb, resolveWith_barred hc ho' ht hb', ← hclose]
    rfl
  | analysed c e s hc ho ht hs hb =>
    subst hs
    have ho' : st.muted.state c.cell = .unresolved := ho
    have hb' : c.bar? ctx (ctx.limits.depth + 1 - room) e (some s) st.muted = none := hb
    rw [resolveWith_analysed hc ho ht hb, resolveWith_analysed hc ho' ht hb',
      ← Store.muted_enter, askAll_oblivious (hbelow _), Option.bind_map, Option.map_bind]
    refine Option.bind_congr fun r _ => ?_
    rw [Function.comp_apply, Function.comp_apply, Option.map_map]
    refine Option.map_congr fun k _ => ?_
    simp [← Store.muted_finish]

/-- **Questions take no notice of the log.** -/
theorem resolveAt_oblivious (room : Nat) (id : ConditionId) (scope : Option Scope)
    (symbol : Option SymbolId) : (p.resolveAt ctx room id scope symbol).Oblivious := by
  induction room generalizing id scope symbol with
  | zero =>
    have hbelow : ∀ child g, (p.below ctx 0 child g).Oblivious := fun _ _ _ => rfl
    exact resolveAt_oblivious_of hbelow id scope symbol
  | succ room ih =>
    have hbelow : ∀ child g, (p.below ctx (room + 1) child g).Oblivious :=
      fun child g => ih g (some child) none
    exact resolveAt_oblivious_of hbelow id scope symbol

end Questions

/-! ## Sessions -/

/-- What is seen of an answer, less what is seen of the log. -/
def Answer.muted : Answer → Answer
  | .log _ => .log (.forMode .disabled)
  | a => a

/-- What a step adds, less what it adds to the log. -/
def News.muted (n : News) : News := { n with dependencies := [] }

namespace Session

variable (s : Session)

/-- The session without its log. -/
def muted : Session := { s with store := s.store.muted }

@[simp] theorem program_muted : s.muted.program = s.program := rfl

@[simp] theorem store_muted : s.muted.store = s.store.muted := rfl

theorem holding_muted (q : Inquiry) : s.muted.holding q = (s.holding q).muted := by
  unfold holding
  change (s.guardedCell? q.condition).elim _ _ = _
  cases s.guardedCell? q.condition <;> rfl

theorem freeing_muted (q : Inquiry) (after : Store) :
    s.muted.freeing q after.muted = (s.freeing q after).muted := by
  unfold freeing
  change (s.guardedCell? q.condition).elim _ _ = _
  cases s.guardedCell? q.condition <;> rfl

theorem inquire_muted (q : Inquiry) :
    s.muted.inquire q = (s.inquire q).map fun r => (r.1, r.2.muted) := by
  have hres : s.program.resolve (s.contextOf q) q.condition q.scope q.symbol (s.holding q).muted =
      _ := resolveAt_oblivious _ _ _ _ (s.holding q)
  rw [inquire_eq, inquire_eq, Option.map_bind]
  refine Option.bind_congr fun c _ => ?_
  rw [holding_muted, Function.comp_apply, Option.map_map]
  change ((s.program.resolve (s.contextOf q) q.condition q.scope q.symbol
    (s.holding q).muted).map _) = _
  rw [hres, Option.map_map]
  refine Option.map_congr fun r _ => ?_
  simp only [Function.comp_apply, freeing_muted]
  rfl

/-- **A step takes no notice of the log**, unless it looks at it. -/
theorem perform_muted (step : Step) :
    s.muted.perform step = (s.perform step).map fun r => (r.1.muted, r.2.muted) := by
  cases step with
  | addModule | predefine | setGlobalLevel | globals | isGlobal | lookup | isDefined | levelHolds
  | declareLevel | define | reportError | inspectLog | states | addDirective | addStaticIf
  | addDecl => rfl
  | request ns x =>
    rw [perform, perform, program_muted]
    cases s.program.globals.request ns x <;> rfl
  | declare m ns x =>
    rw [perform, perform, store_muted, Store.modules_muted]
    cases s.store.modules.declare m ns x <;> rfl
  | inspectModule m =>
    change ((s.store.modules.get? m).bind _) = Option.map _ ((s.store.modules.get? m).bind _)
    cases s.store.modules.get? m <;> rfl
  | inspectCondition c | settle c b =>
    change ((s.program.conditions[c]?).bind _) =
      Option.map _ ((s.program.conditions[c]?).bind _)
    cases s.program.conditions[c]? <;> rfl
  | copy c =>
    change ((s.program.conditions[c]?).bind _) =
      Option.map _ ((s.program.conditions[c]?).bind _)
    cases s.program.conditions[c]? with
    | none => rfl
    | some c =>
      obtain ⟨test, source, cell⟩ := c
      cases test <;> rfl
  | hold c =>
    change ((s.guardedCell? c).bind _) = Option.map _ ((s.guardedCell? c).bind _)
    cases s.guardedCell? c <;> rfl
  | free c =>
    change ((s.guardedCell? c).bind _) = Option.map _ ((s.guardedCell? c).bind _)
    cases s.guardedCell? c with
    | none => rfl
    | some i =>
      change (guard (0 < s.store.nesting i) : Option Unit).bind _ =
        Option.map _ ((guard (0 < s.store.nesting i) : Option Unit).bind _)
      cases (guard (0 < s.store.nesting i) : Option Unit) <;> rfl
  | resolve q =>
    change ((s.muted.inquire q).bind _) = Option.map _ ((s.inquire q).bind _)
    rw [inquire_muted]
    cases s.inquire q <;> rfl

theorem newsSince_muted (before : Store) :
    s.muted.newsSince before.muted = (s.newsSince before).muted := by
  simp [newsSince, News.muted, muted, Store.muted, DependencyLog.forMode]

/-- **Lists of steps take no notice of the log.** -/
theorem run_muted (steps : List Step) :
    run steps s.muted = (run steps s).map fun r => (r.1.muted, r.2.muted) := by
  induction steps generalizing s with
  | nil => rfl
  | cons step steps ih =>
    rw [run, run, perform_muted]
    cases s.perform step with
    | none => rfl
    | some r => simp only [Option.map_some, List.map_cons, ih, ← newsSince_muted]; rfl

theorem performAll_muted (steps : List Step) :
    performAll steps s.muted = (performAll steps s).map muted := by
  induction steps generalizing s with
  | nil => rfl
  | cons step steps ih =>
    rw [performAll, performAll, perform_muted, Option.bind_map, Option.map_bind]
    exact Option.bind_congr fun r _ => ih r.2

theorem muted_start {mode : LogMode} (h : mode ≠ .print) (limits : Limits) :
    (start .print limits).muted = start mode limits := by
  cases mode with
  | print => exact absurd rfl h
  | disabled | file => rfl

end Session

/-! ## Queries -/

namespace Directive

variable {p : Program} {m : ModuleId}

theorem perform_muted (source : Source) (st : Store) (d : Directive) :
    d.perform p m source st.muted =
      ((d.perform p m source st).1, (d.perform p m source st).2.muted) := by
  cases d with
  | ask ns q =>
    rw [perform, Store.answer_muted]
    rfl
  | declare ns q =>
    cases q with
    | level n => rfl
    | identifier x =>
      rw [perform, perform, Store.modules_muted]
      cases st.modules.declare m ns x <;> rfl

/-- **Directives take no notice of the log.** -/
theorem performAll_muted (file : FileId) (line : Nat) (ds : List Directive) (st : Store) :
    performAll p m file line ds st.muted =
      ((performAll p m file line ds st).1, (performAll p m file line ds st).2.muted) := by
  induction ds generalizing line st with
  | nil => rfl
  | cons d ds ih => simp only [performAll, perform_muted, ih]

end Directive

namespace QueryCommand

variable (c : QueryCommand)

/-- The query in another mode of the log. -/
def inMode (mode : LogMode) : QueryCommand := { c with options := { c.options with log := mode } }

/-- The store before the first directive. -/
def before (sink : Sink) (mode : LogMode) : Store :=
  { modules := ⟨#[{ name := queriedModule, file := .added 0 }]⟩
    sink := sink
    log := .forMode mode }

/-- What the directives of a query print, and the store that they leave. -/
def performed (g : Globals) (sink : Sink) : String × Store :=
  Directive.performAll { files := ⟨#[.ofText commandLineFile]⟩, globals := g } 0 (.added 0) 1
    c.directives (before sink c.options.log)

theorem runUnder_performed (g : Globals) (sink : Sink) : c.runUnder g sink =
    { output := (c.performed g sink).1 ++ (c.performed g sink).2.log.text
      sink := (c.performed g sink).2.sink
      files := ⟨#[.ofText commandLineFile]⟩ } := rfl

/-- The log of a query after its last directive. -/
def log (delivery : Delivery) : DependencyLog :=
  match Globals.ofBuild c.options with
  | .ok g => (c.performed g (({ delivery := delivery } : Sink).pushAll
      c.options.target.warnings)).2.log
  | .error _ => .forMode c.options.log

variable {mode : LogMode}

theorem performed_inMode (h : mode ≠ .print) (g : Globals) (sink : Sink) :
    (c.inMode mode).performed g sink =
      (((c.inMode .print).performed g sink).1, ((c.inMode .print).performed g sink).2.muted) := by
  have hbefore : before sink mode = (before sink .print).muted := by
    cases mode with
    | print => exact absurd rfl h
    | disabled | file => rfl
  simp only [performed, inMode, hbefore, Directive.performAll_muted]

/-- A query prints the log after what it prints anyway, and nothing else depends on the mode. -/
theorem run_inMode (h : mode ≠ .print) (delivery : Delivery) :
    (c.inMode .print).run delivery =
      { (c.inMode mode).run delivery with
        output := ((c.inMode mode).run delivery).output ++
          ((c.inMode .print).log delivery).text } := by
  -- global settings do not depend on the mode
  have hprint : Globals.ofBuild (c.inMode .print).options = Globals.ofBuild c.options := rfl
  have hmode : Globals.ofBuild (c.inMode mode).options = Globals.ofBuild c.options := rfl
  simp only [run, log, hprint, hmode]
  cases Globals.ofBuild c.options with
  | error errors => rfl
  | ok g =>
    have htext : (DependencyLog.forMode .disabled).text = "" := rfl
    simp only [runUnder_performed, performed_inMode c h, Store.muted, htext, String.append_empty]
    rfl

end QueryCommand

/-- **Logging is on the side.** A session or a query without a log does what it does with one, and
the log alone is missing. -/
theorem same_in_every_mode {mode : LogMode} (h : mode ≠ .print) :
    (∀ steps limits,
      Session.run steps (.start mode limits) =
        (Session.run steps (.start .print limits)).map (fun r => (r.1.muted, r.2.muted)) ∧
      Session.performAll steps (.start mode limits) =
        (Session.performAll steps (.start .print limits)).map Session.muted ∧
      ∀ s, Session.performAll steps (.start mode limits) = some s →
        s.store.log = { enabled := false, records := #[] }) ∧
    ∀ (c : QueryCommand) (delivery : Delivery),
      (c.inMode .print).run delivery =
        { (c.inMode mode).run delivery with
          output := ((c.inMode mode).run delivery).output ++
            ((c.inMode .print).log delivery).text } ∧
      ((c.inMode .print).run delivery).succeeded = ((c.inMode mode).run delivery).succeeded := by
  refine ⟨fun steps limits => ?_, fun c delivery => ?_⟩
  · have hfinal : Session.performAll steps (.start mode limits) =
        (Session.performAll steps (.start .print limits)).map Session.muted := by
      rw [← Session.muted_start h, Session.performAll_muted]
    refine ⟨by rw [← Session.muted_start h, Session.run_muted], hfinal, fun s hs => ?_⟩
    rw [hfinal] at hs
    obtain ⟨s, _, rfl⟩ := Option.map_eq_some_iff.mp hs
    rfl
  · have hrun := c.run_inMode h delivery
    exact ⟨hrun, by rw [hrun]; rfl⟩

/-- An errand with a look at its log, and a query that asks, declares too late and asks a level. -/
theorem same_in_every_mode_errand :
    (LogMode.file "deps" ≠ .print) ∧
    Session.run (Session.errandSteps ++ [.inspectLog]) (.start (.file "deps") {}) =
      (Session.run (Session.errandSteps ++ [.inspectLog]) (.start .print {})).map
        (fun r => (r.1.muted, r.2.muted)) ∧
    (Session.performAll Session.errandSteps (.start .print {})).map (·.store.log.lines) =
      some ["depsVersion app (app.d) : Fast"] ∧
    (let c : QueryCommand :=
      ⟨[.ask .version (.identifier "Fast"), .declare .version (.identifier "Fast"),
        .ask .debug (.level 1)], {}⟩
    ((c.inMode (.file "deps")).run .collect).output =
        "version (Fast): excluded\ndebug (1): excluded\n" ∧
      ((c.inMode .print).run .collect).output =
        ((c.inMode (.file "deps")).run .collect).output ++
          "depsVersion __query (<command-line>) : Fast\ndepsDebug __query (<command-line>) : 1\n" ∧
      ((c.inMode .print).run .collect).succeeded =
        ((c.inMode (.file "deps")).run .collect).succeeded) := by
  have h : LogMode.file "deps" ≠ .print := by decide
  obtain ⟨hsession, hquery⟩ := same_in_every_mode h
  refine ⟨h, (hsession _ _).1, by decide +kernel, ?_⟩
  intro c
  obtain ⟨hrun, hsucceeded⟩ := hquery c .collect
  have htext : ((c.inMode .print).log .collect).text =
      "depsVersion __query (<command-line>) : Fast\ndepsDebug __query (<command-line>) : 1\n" := by
    decide +kernel
  refine ⟨by decide +kernel, ?_, hsucceeded⟩
  rw [hrun, htext]

end CondComp
