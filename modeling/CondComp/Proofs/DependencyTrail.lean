import CondComp.Proofs.FirstAnswers

/-!
# The trail of dependencies

What a session logs can be told from the directives that its inquiries answered for the first time:
one line for each of them, in order, unless the directive makes no dependency.

* `FirstAnswer`: a directive that an inquiry answered for the first time; `FirstAnswer.line?`;
* `Session.firstAnswers`: the observer who sees these, and `Session.Trail`, what is known of a
  session from what was seen; **`trail_perform`**: a step preserves it;
* **`log_lines_eq`**: the log of a session.
-/

namespace CondComp

/-! ## First answers -/

/-- A directive that an inquiry met and answered for the first time, with the sessions before and
after the inquiry. -/
structure FirstAnswer where
  before : Session
  inquiry : Inquiry
  condition : Condition
  after : Session

namespace FirstAnswer

variable (a : FirstAnswer)

/-- The module that the answer concerns: the instantiating one of the scope of the inquiry, else the
module of that scope. Without a scope it is the module that the directive stands in. -/
def concerned? (owner : ModuleId) : Option ModuleId :=
  match a.inquiry.scope with
  | none => some owner
  | some s => s.instantiating.or s.home

/-- The dependency that the answer makes: none if the module of the directive declares the
identifier itself, and none for identifiers of the compiler and of builds with tests. -/
def dependency? : Option Dependency :=
  match a.condition.test with
  | .staticIf _ => none
  | .directive ns owner q =>
    let ms := a.before.store.modules
    if ms.Declares ns owner q ∨ ns = .version ∧
        q.identifier?.any (fun x => isReservedVersion x || isTestingVersion x) = true then none
    else
      (a.concerned? owner).bind fun m =>
        (ms.label? m).map fun l => ⟨ns, l.1, a.before.program.files.shown l.2, q⟩

theorem dependency?_eq : a.dependency? =
    a.condition.dependency? a.before.program.files a.before.store.modules a.inquiry.scope := by
  have hconcerned : ∀ owner, a.concerned? owner = Scope.referencing? owner a.inquiry.scope := by
    intro owner
    unfold concerned? Scope.referencing?
    cases a.inquiry.scope with
    | none => rfl
    | some s => cases hs : s.instantiating <;> simp [Scope.referencing, hs]
  cases ht : a.condition.test with
  | staticIf e => simp only [dependency?, Condition.dependency?, ht]
  | directive ns owner q =>
    simp only [dependency?, Condition.dependency?, ht, Dependency.ofAnswer?,
      Dependency.ofDirective?_eq, Query.isLogged_eq_false_iff, hconcerned]

/-- The line of the dependency. -/
def line? : Option String := a.dependency?.map Dependency.render

/-- The condition is a directive, which was open before the inquiry and is settled after it. -/
structure IsFirst : Prop where
  mem : a.condition ∈ a.before.program.conditions
  isDirective : a.condition.IsDirective
  before_eq : a.before.stateOf a.condition = .unresolved
  after_ne : a.after.stateOf a.condition ≠ .unresolved

end FirstAnswer

namespace Session

/-- Who sees the first answers of every inquiry; nothing may be settled from outside. -/
def firstAnswers : Observer FirstAnswer where
  allows
    | _, .settle _ _ => false
    | _, _ => true
  sees s step _ s' :=
    match step with
    | .resolve q => (s.answeredSince s').map fun c => ⟨s, q, c, s'⟩
    | _ => []

variable {s s' : Session} {seen : List FirstAnswer}

theorem log_perform {step : Step} {a : Answer} (h : s.perform step = some (a, s'))
    (hstep : ∀ q, step ≠ .resolve q) : s'.store.log = s.store.log := by
  cases step with
  | addModule | predefine | setGlobalLevel | globals | isGlobal | lookup | isDefined | levelHolds
  | declareLevel | define | reportError | inspectLog | states | addDirective | addStaticIf
  | addDecl =>
    cases h
    rfl
  | request ns x =>
    rw [perform] at h
    split at h <;> cases h <;> rfl
  | declare m ns x =>
    rw [perform] at h
    split at h <;> cases h <;> rfl
  | inspectModule | inspectCondition | settle =>
    obtain ⟨_, _, h⟩ := Option.bind_eq_some_iff.mp h
    cases h
    rfl
  | copy c =>
    obtain ⟨c, _, h⟩ := Option.bind_eq_some_iff.mp h
    cases h
    split <;> rfl
  | hold c | free c =>
    obtain ⟨cells, rfl⟩ := cells_of_guard (c := c) (by simp) h
    rfl
  | resolve q => exact absurd rfl (hstep q)

/-! ## The trail -/

/-- What is known of a session from the first answers seen. -/
structure Trail (seen : List FirstAnswer) (s : Session) : Prop where
  wellFormed : s.program.WellFormed s.store.cells.size
  log : s.store.log =
    (DependencyLog.forMode .print).recordAll (seen.filterMap FirstAnswer.dependency?)
  nodup : (seen.map (·.condition.cell)).Nodup
  settled_iff : ∀ c ∈ s.program.conditions, c.IsDirective →
    (s.stateOf c ≠ .unresolved ↔ c.cell ∈ seen.map (·.condition.cell))
  cell_lt : ∀ a ∈ seen, a.condition.cell < s.store.cells.size
  isFirst : ∀ a ∈ seen, a.IsFirst

theorem trail_start (limits : Limits) : Trail [] (.start .print limits) where
  wellFormed := .empty rfl _
  log := rfl
  nodup := List.nodup_nil
  settled_iff c hc := by simp [start] at hc
  cell_lt a ha := by simp at ha
  isFirst a ha := by simp at ha

theorem Trail.not_mem_cells (h : Trail seen s) :
    s.store.cells.size ∉ seen.map (·.condition.cell) := by
  intro hm
  obtain ⟨a, ha, he⟩ := List.mem_map.mp hm
  exact Nat.lt_irrefl _ (he ▸ h.cell_lt a ha)

theorem Trail.move (h : Trail seen s) {step : Step} (hm : s.Move step s')
    (hlog : s'.store.log = s.store.log) (hsettle : ∀ c b, step ≠ .settle c b)
    (hresolve : ∀ q, step ≠ .resolve q) : Trail seen s' where
  wellFormed := wellFormed_move hm h.wellFormed
  log := hlog.trans h.log
  nodup := h.nodup
  settled_iff c hc hd := by
    obtain ⟨ns, owner, q, ht⟩ := hd
    rw [stateOf_eq, state_move hm hsettle hresolve]
    rcases mem_conditions_move hm hc ht with hc | ⟨hcell, _⟩
    · exact h.settled_iff c hc ⟨ns, owner, q, ht⟩
    · have hopen : s.store.state s.store.cells.size = .unresolved := by
        simp [Store.state, Store.cell]
      simpa [hcell, hopen] using h.not_mem_cells
  cell_lt a ha := Nat.lt_of_lt_of_le (h.cell_lt a ha) (size_le_move hm)
  isFirst := h.isFirst

theorem Trail.inquire (h : Trail seen s) {q : Inquiry} {r : Resolution}
    (hi : s.inquire q = some (r, s')) :
    Trail (seen ++ (s.answeredSince s').map fun c => ⟨s, q, c, s'⟩) s' := by
  obtain ⟨hprog, cs, hp⟩ := inquire_progress h.wellFormed hi
  obtain ⟨hnodup, hopen⟩ := hp.fresh h.wellFormed
  have hcells : (cs.map fun c => (⟨s, q, c, s'⟩ : FirstAnswer)).map (·.condition.cell) =
      cs.map (·.cell) := by simp [Function.comp_def]
  rw [answeredSince_eq hp]
  constructor
  · rw [hprog, hp.size]
    exact h.wellFormed
  · have hdep : (FirstAnswer.dependency? ∘ fun c => ⟨s, q, c, s'⟩) =
        fun c => c.dependency? s.program.files s.store.modules q.scope :=
      funext fun c => FirstAnswer.dependency?_eq _
    rw [hp.log, h.log, List.filterMap_append, DependencyLog.recordAll_append, List.filterMap_map,
      hdep]
  · rw [List.map_append, hcells, List.nodup_append]
    refine ⟨h.nodup, hnodup, ?_⟩
    -- what is answered now was open, and what was seen before was settled
    rintro i hi j hj rfl
    obtain ⟨c, hc, rfl⟩ := List.mem_map.mp hj
    exact (h.settled_iff c (hp.mem hc).1 (hp.mem hc).2).mpr hi (hopen c hc)
  · intro c hc hd
    rw [hprog] at hc
    rw [stateOf_eq, hp.settled_iff h.wellFormed hc hd, ← stateOf_eq, h.settled_iff c hc hd,
      List.map_append, List.mem_append, hcells]
  · intro a ha
    rw [hp.size]
    rcases List.mem_append.mp ha with ha | ha
    · exact h.cell_lt a ha
    · obtain ⟨c, hc, rfl⟩ := List.mem_map.mp ha
      exact Progress.cell_lt h.wellFormed (hp.mem hc).1
  · intro a ha
    rcases List.mem_append.mp ha with ha | ha
    · exact h.isFirst a ha
    · obtain ⟨c, hc, rfl⟩ := List.mem_map.mp ha
      obtain ⟨hmem, hd⟩ := hp.mem hc
      refine ⟨hmem, hd, hopen c hc, ?_⟩
      exact (hp.settled_iff h.wellFormed hmem hd).mpr (.inr (List.mem_map_of_mem hc))

/-- **A step adds what is seen of it to the trail.** -/
theorem trail_perform {step : Step} {a : Answer} (h : Trail seen s)
    (ha : firstAnswers.allows s step = true) (hp : s.perform step = some (a, s')) :
    Trail (seen ++ firstAnswers.sees s step a s') s' := by
  have hsettle : ∀ c b, step ≠ .settle c b := by
    rintro c b rfl
    cases ha
  rcases inquiry_or_not hp with ⟨q, r, rfl, rfl, hi⟩ | hresolve
  · exact h.inquire hi
  · have hnone : firstAnswers.sees s step a s' = [] := by
      cases step with
      | resolve q => exact absurd rfl (hresolve q)
      | _ => rfl
    rw [hnone, List.append_nil]
    exact h.move (move_of_perform hp) (log_perform hp hresolve) hsettle hresolve

theorem Trail.lines (h : Trail seen s) : s.store.log.lines = seen.filterMap FirstAnswer.line? := by
  have hlines : ∀ ds, ((DependencyLog.forMode .print).recordAll ds).lines =
      ds.map Dependency.render := by
    intro ds
    simp [DependencyLog.recordAll_eq, DependencyLog.forMode, DependencyLog.lines]
  rw [h.log, hlines, List.map_filterMap]
  rfl

theorem copy_directive {i j : ConditionId} {c : Condition}
    (hc : s.program.conditions[i]? = some c) (hd : c.IsDirective)
    (hp : s.perform (.copy i) = some (.index j, s')) : s'.program.conditions[j]? = some c := by
  obtain ⟨ns, owner, q, ht⟩ := hd
  obtain ⟨d, hd, hp⟩ := Option.bind_eq_some_iff.mp hp
  obtain rfl := Option.some.inj (hc.symm.trans hd)
  simp only [copyCondition, ht] at hp
  cases hp
  exact mem_addEntry.mpr (.inr ⟨rfl, rfl⟩)

/-- **The log of a session** has one line for each first answer that makes a dependency, in order. A
directive is answered for the first time once at most, together with its copies. -/
theorem log_lines_eq {limits : Limits} {steps more : List Step} {seen new : List FirstAnswer}
    {s s' : Session} (h : observe firstAnswers steps (.start .print limits) = some (seen, s))
    (h' : observe firstAnswers more s = some (new, s')) :
    s.store.log.lines = seen.filterMap FirstAnswer.line? ∧
    s'.store.log.lines = s.store.log.lines ++ new.filterMap FirstAnswer.line? ∧
    (∀ a ∈ seen ++ new, a.IsFirst) ∧
    (∀ c ∈ s'.program.conditions, c.IsDirective →
      (s'.stateOf c ≠ .unresolved ↔ c.cell ∈ (seen ++ new).map (·.condition.cell))) ∧
    ((seen ++ new).map (·.condition.cell)).Nodup ∧
    (∀ i j c s'', s'.program.conditions[i]? = some c → c.IsDirective →
      s'.perform (.copy i) = some (.index j, s'') → s''.program.conditions[j]? = some c) := by
  have hstep : ∀ seen s step a s', Trail seen s → firstAnswers.allows s step = true →
      s.perform step = some (a, s') → Trail (seen ++ firstAnswers.sees s step a s') s' :=
    fun _ _ _ _ _ ht ha hp => trail_perform ht ha hp
  have htrail : Trail seen s := observe_induction hstep h (trail_start limits)
  have htrail' : Trail (seen ++ new) s' := observe_induction hstep h' htrail
  refine ⟨htrail.lines, ?_, htrail'.isFirst, htrail'.settled_iff, htrail'.nodup, ?_⟩
  · rw [htrail'.lines, htrail.lines, List.filterMap_append]
  · intro i j c s'' hc hd hp
    exact copy_directive hc hd hp

/-- A library that declares one identifier and asks about two, of which the other one guards a name;
a trial on behalf of an application needs the name. -/
def errandSteps : List Step :=
  [.addModule "app" (.ofText "app.d"), .addModule "lib" (.ofText "lib.d"),
    .declare 1 .version "Own", .addDirective .version 1 (.identifier "Own") {},
    .addDirective .version 1 (.identifier "Fast") {}, .copy 1,
    .addDecl ⟨"k", .bool true, some 1⟩, .addStaticIf (.ident "k") {},
    .resolve { condition := 3, scope := some { home := some 1, instantiating := some 0 },
               gagged := true }]

/-- The copy is asked about, then what the library declares, then a level without a scope. -/
def errandRest : List Step :=
  [.addDirective .debug 1 (.level 2) {}, .resolve { condition := 2 }, .resolve { condition := 0 },
    .resolve { condition := 4 }]

theorem log_lines_eq_errand : ∃ seen s new s',
    observe firstAnswers errandSteps (.start .print {}) = some (seen, s) ∧
    observe firstAnswers errandRest s = some (new, s') ∧
    s.store.log.lines = ["depsVersion app (app.d) : Fast"] ∧
    s'.store.log.lines = s.store.log.lines ++ new.filterMap FirstAnswer.line? ∧
    new.filterMap FirstAnswer.line? = ["depsDebug lib (lib.d) : 2"] ∧
    (seen ++ new).map (·.condition.cell) = [1, 0, 3] := by
  obtain ⟨⟨seen, s⟩, h⟩ := Option.isSome_iff_exists.mp (by decide +kernel :
    (observe firstAnswers errandSteps (.start .print {})).isSome = true)
  have hsome : ((observe firstAnswers errandSteps (.start .print {})).bind fun r =>
      (observe firstAnswers errandRest r.2).map fun r' =>
        (r.1.filterMap FirstAnswer.line?, r'.1.filterMap FirstAnswer.line?,
          (r.1 ++ r'.1).map (·.condition.cell))) =
      some (["depsVersion app (app.d) : Fast"], ["depsDebug lib (lib.d) : 2"], [1, 0, 3]) := by
    decide +kernel
  rw [h] at hsome
  obtain ⟨⟨new, s'⟩, h', he⟩ := Option.map_eq_some_iff.mp hsome
  obtain ⟨hseen, he⟩ := Prod.mk.inj he
  obtain ⟨hnew, hcells⟩ := Prod.mk.inj he
  obtain ⟨hlines, hlines', _⟩ := log_lines_eq h h'
  exact ⟨seen, s, new, s', h, h', hlines.trans hseen, hlines', hnew, hcells⟩

end Session

end CondComp
