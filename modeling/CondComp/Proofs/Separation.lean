import CondComp.Proofs.FirstAnswers
import CondComp.Proofs.Permanence

/-!
# Separate tables

Every namespace of every module has a table of its own. Questions, declarations and directives read
and change one table each, so what they say does not depend on what is done to the other ones.

* `TableId`; `Program.table?`: the table that a step is about;
* `Declared.apply`: what a question or a declaration makes of its table; `perform_eq_apply`;
* `Session.Alike`: sessions that agree on a table and on the directives that ask it;
* **`alike_perform`**: a step about another table leaves an alike session; **`Alike.perform`**: a
  step about the table is answered alike, and leaves alike sessions;
* **`tables_separate`**: so the steps about a table are answered as if there were no others.
-/

namespace CondComp

/-! ## Tables -/

/-- Names the table of a namespace of a module. -/
structure TableId where
  owner : ModuleId
  ns : Namespace
  deriving DecidableEq, Repr

/-- The table that a directive asks. -/
def Condition.table? (c : Condition) : Option TableId :=
  match c.test with
  | .directive ns owner _ => some ⟨owner, ns⟩
  | .staticIf _ => none

theorem Condition.table?_eq_some {c : Condition} {t : TableId} :
    c.table? = some t ↔ ∃ q, c.test = .directive t.ns t.owner q := by
  rw [table?]
  cases c.test with
  | staticIf e => simp
  | directive ns owner q =>
    constructor
    · intro h
      cases h
      exact ⟨q, rfl⟩
    · rintro ⟨q', h⟩
      cases h
      rfl

/-- The table that a question or a declaration is about. -/
def Step.table? : Step → Option TableId
  | .lookup m ns _ => some ⟨m, ns⟩
  | .isDefined m ns _ => some ⟨m, ns⟩
  | .levelHolds m ns _ => some ⟨m, ns⟩
  | .declare m ns _ => some ⟨m, ns⟩
  | .declareLevel m ns _ => some ⟨m, ns⟩
  | _ => none

/-- The table that a step is about: that of a question, of a declaration, or of a directive that is
inquired about. -/
def Program.table? (p : Program) : Step → Option TableId
  | .resolve q => (p.conditions[q.condition]?).bind Condition.table?
  | step => step.table?

namespace Declared

/-- The answer to a query, and what it leaves of the table. -/
def answer (d : Declared) (g : GlobalNames) : Query → Bool × Declared
  | .identifier x => ((d.lookup g x).1.isDefined, (d.lookup g x).2)
  | .level n => (d.levelHolds g n, d)

/-- The answer to a question or to a declaration, and what it leaves of the table. -/
def apply (d : Declared) (g : GlobalNames) : Step → Answer × Declared
  | .lookup _ _ x => (.definition (d.lookup g x).1, (d.lookup g x).2)
  | .isDefined _ _ x => (.truth (d.lookup g x).1.isDefined, (d.lookup g x).2)
  | .levelHolds _ _ n => (.truth (d.levelHolds g n), d)
  | .declare _ ns x =>
    match d.declare ns x with
    | .error e => (.refusedDeclaration e, d)
    | .ok d' => (.accepted, d')
  | .declareLevel _ _ n => (.nothing, d.raiseLevel n)
  | _ => (.nothing, d)

end Declared

namespace Modules

variable (ms : Modules) (m : ModuleId) (ns : Namespace)

theorem modifyDeclared_eq (f : Declared → Declared) :
    ms.modifyDeclared m ns f = ms.setDeclared m ns (f (ms.declared m ns)) := by
  refine congrArg Modules.mk (Array.ext_getElem? fun i => ?_)
  simp only [Array.getElem?_modify]
  split_ifs with h
  · subst h
    rw [declared, get?]
    cases hi : ms.entries[m]? with
    | none => rfl
    | some entry => cases ns <;> rfl
  · rfl

theorem setDeclared_declared : ms.setDeclared m ns (ms.declared m ns) = ms := by
  have hid : ms.modifyDeclared m ns id = ms := by
    refine congrArg Modules.mk (Array.ext_getElem? fun i => ?_)
    rw [Array.getElem?_modify]
    split_ifs
    · cases ms.entries[i]? <;> cases ns <;> rfl
    · rfl
  exact (ms.modifyDeclared_eq m ns id).symm.trans hid

theorem answer_eq_table (g : Globals) (q : Query) :
    (ms.answer g ns q m).1.included = ((ms.declared m ns).answer (g.get ns) q).1 ∧
      (ms.answer g ns q m).2 =
        ms.setDeclared m ns ((ms.declared m ns).answer (g.get ns) q).2 := by
  cases q with
  | level n => exact ⟨rfl, (ms.setDeclared_declared m ns).symm⟩
  | identifier x => exact ⟨rfl, rfl⟩

end Modules

namespace Store

variable (st : Store) (i : CellId) (p : Program) (scope noted : Option Scope) (c : Condition)
  (ns : Namespace) (owner : ModuleId) (q : Query)

@[simp] theorem nesting_answerFirst :
    (st.answerFirst p scope c ns owner q noted).nesting i = st.nesting i := by
  simp [answerFirst]

@[simp] theorem balance_answerFirst :
    (st.answerFirst p scope c ns owner q noted).balance = st.balance := by
  obtain ⟨log, h⟩ := st.answer_eq p scope ns owner q
  rw [answerFirst, h]
  rfl

theorem journal_answerFirst : (st.answerFirst p scope c ns owner q noted).journal =
    st.journal.push (.answered c (st.answer p scope ns owner q).1 noted) :=
  congrArg (fun j => Array.push j _) (st.journal_answer p scope ns owner q)

end Store

namespace Session

variable {s s' s₁ : Session} {t t' : TableId}

/-- A table of a session. -/
def table (s : Session) (t : TableId) : Declared := s.store.modules.declared t.owner t.ns

/-- The session with another table. -/
def withTable (s : Session) (t : TableId) (d : Declared) : Session :=
  s.withModules (s.store.modules.setDeclared t.owner t.ns d)

/-- **Questions and declarations** read their table and replace it, and no more. -/
theorem perform_eq_apply {step : Step} (h : step.table? = some t) :
    s.perform step =
      let r := (s.table t).apply (s.program.globals.get t.ns) step
      some (r.1, s.withTable t r.2) := by
  have hsame : s.withTable t (s.table t) = s := by
    rw [withTable, table, Modules.setDeclared_declared]
    rfl
  cases step with
  | lookup | isDefined =>
    cases h
    rfl
  | levelHolds m ns n =>
    cases h
    exact congrArg (fun s' => some (_, s')) hsame.symm
  | declare m ns x =>
    cases h
    cases hd : (s.store.modules.declared m ns).declare ns x with
    | error e =>
      simp only [perform, Modules.declare, Declared.apply, table, hd, Except.map]
      exact congrArg (fun s' => some (_, s')) hsame.symm
    | ok d =>
      simp only [perform, Modules.declare, Declared.apply, table, hd, Except.map]
      rfl
  | declareLevel m ns n =>
    cases h
    rw [perform, Modules.raiseLevel, Modules.modifyDeclared_eq]
    rfl
  | _ => cases h

/-! ## Inquiries about directives -/

/-- **An inquiry about a directive** reads its cell and its table. If the cell is open, it settles
the cell and replaces the table, and no more. -/
theorem inquire_eq_answer (hw : s.program.WellFormed s.store.cells.size) {q : Inquiry}
    {c : Condition} (hc : s.program.conditions[q.condition]? = some c) {query : Query}
    (ht : c.test = .directive t.ns t.owner query) :
    let a := (s.table t).answer (s.program.globals.get t.ns) query
    let v := (s.stateOf c).settle a.1
    ∃ s', s.inquire q = some (⟨v.isIncluded, v, s.store.nesting c.cell, [], 0,
        q.scope.any Scope.isMarked⟩, s') ∧
      s'.program = s.program ∧ s'.store.cells.size = s.store.cells.size ∧
      (∀ i, s'.store.nesting i = s.store.nesting i) ∧
      (∀ i, s'.store.state i = if i = c.cell then v else s.store.state i) ∧
      s'.store.modules = if s.stateOf c = .unresolved then
        s.store.modules.setDeclared t.owner t.ns a.2 else s.store.modules := by
  intro a v
  by_cases ho : s.stateOf c = .unresolved
  · obtain ⟨hincluded, hmodules⟩ :=
      s.store.modules.answer_eq_table t.owner t.ns s.program.globals query
    have hguard : s.guardedCell? q.condition = none := by simp [guardedCell?, hc, ht]
    have hhold : s.holding q = s.store := by rw [holding, hguard]; rfl
    let after := s.store.answerFirst s.program q.scope c t.ns t.owner query q.scope
    have hfree : s.freeing q after = after := by rw [freeing, hguard]; rfl
    have hstate : ∀ i, after.state i = if i = c.cell then v else s.store.state i := by
      intro i
      rw [Store.state_answerFirst, hincluded]
      by_cases hi : i = c.cell
      · subst hi
        rw [if_pos ⟨rfl, hw.cell_lt hc⟩, if_pos rfl]
        rfl
      · rw [if_neg fun h => hi h.1.symm, if_neg hi]
    have hscopes : (after.journal.toList.drop s.store.journal.size).filterMap
        Event.analysisScope? = [] := by
      rw [Store.journal_answerFirst, Array.toList_push, ← Array.length_toList, List.drop_left]
      rfl
    have hres : s.program.resolve (s.contextOf q) q.condition q.scope q.symbol (s.holding q) =
        some ((after.state c.cell).isIncluded, after) := by
      rw [hhold, Program.resolve, Program.resolveAt_eq]
      exact resolveWith_directive hc ho ht
    refine ⟨{ s with store := after }, ?_, rfl, ?_, ?_, hstate, ?_⟩
    · rw [inquire_of_resolve hc hres, hfree, resolution, hscopes, Store.balance_answerFirst,
        Store.nesting_answerFirst, hstate, if_pos rfl, Int.sub_self]
    · exact Store.size_answerFirst _ _ _ _ _ _ _ _
    · exact fun i => Store.nesting_answerFirst _ i _ _ _ _ _ _ _
    · rw [if_pos ho]
      exact (Store.modules_answerFirst _ _ _ _ _ _ _ _).trans hmodules
  · have hv : v = s.stateOf c := if_pos (decide_eq_true ho)
    refine ⟨s, ?_, rfl, rfl, fun _ => rfl, fun i => ?_, (if_neg ho).symm⟩
    · rw [hv]
      exact inquire_of_settled hc ho
    · split_ifs with hi
      · rw [hv, hi]
        rfl
      · rfl

/-! ## Sessions that agree on a table -/

/-- Two sessions of one program agree on a table and on the directives that ask it. -/
structure Alike (t : TableId) (s s₁ : Session) : Prop where
  program : s₁.program = s.program
  count : s₁.store.modules.count = s.store.modules.count
  size : s₁.store.cells.size = s.store.cells.size
  nesting (i : CellId) : s₁.store.nesting i = s.store.nesting i
  table : s₁.table t = s.table t
  state (c : Condition) (hc : c ∈ s.program.conditions) (ht : c.table? = some t) :
    s₁.stateOf c = s.stateOf c

theorem Alike.refl (t : TableId) (s : Session) : s.Alike t s :=
  ⟨rfl, rfl, rfl, fun _ => rfl, rfl, fun _ _ _ => rfl⟩

theorem Alike.symm (h : s.Alike t s₁) : s₁.Alike t s :=
  ⟨h.program.symm, h.count.symm, h.size.symm, fun i => (h.nesting i).symm, h.table.symm,
    fun c hc ht => (h.state c (h.program ▸ hc) ht).symm⟩

theorem Alike.trans (h : s.Alike t s₁) {s₂ : Session} (h' : s₁.Alike t s₂) : s.Alike t s₂ where
  program := h'.program.trans h.program
  count := h'.count.trans h.count
  size := h'.size.trans h.size
  nesting i := (h'.nesting i).trans (h.nesting i)
  table := h'.table.trans h.table
  state c hc ht := (h'.state c (h.program ▸ hc) ht).trans (h.state c hc ht)

theorem Alike.wellFormed (h : s.Alike t s₁) (hw : s.program.WellFormed s.store.cells.size) :
    s₁.program.WellFormed s₁.store.cells.size := by
  rwa [h.program, h.size]

theorem declared_setTable (ms : Modules) (d : Declared) :
    (ms.setDeclared t'.owner t'.ns d).declared t.owner t.ns =
      if t' = t ∧ t'.owner < ms.count then d else ms.declared t.owner t.ns := by
  obtain ⟨m, ns⟩ := t
  obtain ⟨m', ns'⟩ := t'
  simp only [Modules.declared_setDeclared, TableId.mk.injEq, and_assoc, eq_comm (a := ns)]

theorem alike_withTable (hne : t' ≠ t) (d : Declared) : s.Alike t (s.withTable t' d) where
  program := rfl
  count := s.store.modules.count_setDeclared _ _ _
  size := rfl
  nesting _ := rfl
  table := (declared_setTable _ d).trans (if_neg fun h => hne h.1)
  state _ _ _ := rfl

theorem Alike.withTable (h : s.Alike t s₁) (d : Declared) :
    (s.withTable t d).Alike t (s₁.withTable t d) := by
  refine ⟨h.program, ?_, h.size, h.nesting, ?_, h.state⟩
  · exact ((Modules.count_setDeclared _ _ _ _).trans h.count).trans
      (Modules.count_setDeclared _ _ _ _).symm
  · refine (declared_setTable _ d).trans (Eq.trans ?_ (declared_setTable _ d).symm)
    rw [h.count]
    exact if_congr Iff.rfl rfl h.table

/-! ## Steps -/

theorem table?_cases {p : Program} {step : Step} (h : p.table? step = some t) :
    step.table? = some t ∨ ∃ q c query, step = .resolve q ∧
      p.conditions[q.condition]? = some c ∧ c.test = .directive t.ns t.owner query := by
  cases step with
  | resolve q =>
    obtain ⟨c, hc, ht⟩ := Option.bind_eq_some_iff.mp h
    obtain ⟨query, ht⟩ := Condition.table?_eq_some.mp ht
    exact .inr ⟨q, c, query, rfl, hc, ht⟩
  | _ => exact .inl h

theorem cell_ne (hw : s.program.WellFormed s.store.cells.size) {id : ConditionId} {c d : Condition}
    (hc : s.program.conditions[id]? = some c) (ht : c.table? = some t')
    (hd : d ∈ s.program.conditions) (htd : d.table? = some t) (hne : t' ≠ t) :
    d.cell ≠ c.cell := by
  obtain ⟨j, hj⟩ := Array.mem_iff_getElem?.mp hd
  intro hcell
  refine hne (Option.some.inj ?_)
  rw [← ht, ← htd, Condition.table?, Condition.table?, hw.test_eq hc hj hcell.symm]

/-- **A step about a table** has a result, adds neither conditions nor cells, and leaves a session
that is alike on every other table. -/
theorem alike_perform (hw : s.program.WellFormed s.store.cells.size) {step : Step}
    (h : s.program.table? step = some t') :
    ∃ a s', s.perform step = some (a, s') ∧ s'.program = s.program ∧
      s'.store.cells.size = s.store.cells.size ∧ ∀ t, t' ≠ t → s.Alike t s' := by
  rcases table?_cases h with h | ⟨q, c, query, rfl, hc, ht⟩
  · exact ⟨_, _, perform_eq_apply h, rfl, rfl, fun t hne => alike_withTable hne _⟩
  · obtain ⟨s', hi, hp, hsize, hnesting, hstate, hmodules⟩ := inquire_eq_answer hw hc ht
    refine ⟨_, s', by rw [perform, hi]; rfl, hp, hsize, fun t hne => ?_⟩
    refine ⟨hp, ?_, hsize, hnesting, ?_, ?_⟩
    · rw [hmodules]
      split_ifs <;> simp
    · rw [table, hmodules]
      split_ifs
      · exact (declared_setTable _ _).trans (if_neg fun h => hne h.1)
      · rfl
    · intro d hd htd
      rw [stateOf_eq, hstate, if_neg]
      · rfl
      · exact cell_ne hw hc (Condition.table?_eq_some.mpr ⟨query, ht⟩) hd htd hne

/-- **A step about a table** is answered alike by sessions that are alike on it, and leaves them
alike. -/
theorem Alike.perform (ha : s.Alike t s₁) (hw : s.program.WellFormed s.store.cells.size)
    {step : Step} (h : s.program.table? step = some t) :
    ∃ a s' s₁', s.perform step = some (a, s') ∧ s₁.perform step = some (a, s₁') ∧
      s'.Alike t s₁' := by
  rcases table?_cases h with h | ⟨q, c, query, rfl, hc, ht⟩
  · have h₁ := perform_eq_apply (s := s₁) h
    rw [ha.table, ha.program] at h₁
    exact ⟨_, _, _, perform_eq_apply h, h₁, ha.withTable _⟩
  · have hmem : c ∈ s.program.conditions := Array.mem_of_getElem? hc
    have hstate := ha.state c hmem (Condition.table?_eq_some.mpr ⟨query, ht⟩)
    obtain ⟨s', hi, hp, hsize, hnesting, hstates, hmodules⟩ := inquire_eq_answer hw hc ht
    obtain ⟨s₁', hi₁, hp₁, hsize₁, hnesting₁, hstates₁, hmodules₁⟩ :=
      inquire_eq_answer (ha.wellFormed hw) (by rwa [ha.program]) ht
    rw [ha.table, ha.program, hstate, ha.nesting] at hi₁
    refine ⟨_, s', s₁', by rw [Session.perform, hi]; rfl, by rw [Session.perform, hi₁]; rfl,
      ?_, ?_, ?_, ?_, ?_, ?_⟩
    · rw [hp₁, hp, ha.program]
    · rw [hmodules₁, hmodules, hstate, ha.table, ha.program]
      split_ifs
      · exact (ha.withTable _).count
      · exact ha.count
    · rw [hsize₁, hsize, ha.size]
    · exact fun i => by rw [hnesting₁, hnesting, ha.nesting]
    · rw [Session.table, Session.table, hmodules₁, hmodules, hstate, ha.table, ha.program]
      split_ifs
      · exact (ha.withTable _).table
      · exact ha.table
    · intro d hd htd
      rw [hp] at hd
      rw [stateOf_eq, stateOf_eq, hstates₁, hstates, ha.table, ha.program, hstate]
      split_ifs
      · rfl
      · exact ha.state d hd htd

/-! ## Lists of steps -/

/-- Sees the answers to the steps about a table, where every step has to be about some table. -/
def answersAbout (t : TableId) : Observer Answer where
  allows s step := (s.program.table? step).isSome
  sees s step a _ := if s.program.table? step = some t then [a] else []

theorem observe_cons {step : Step} {a : Answer} (ht : s.program.table? step = some t')
    (hp : s.perform step = some (a, s')) (steps : List Step) :
    observe (answersAbout t) (step :: steps) s =
      (observe (answersAbout t) steps s').map fun r =>
        ((if t' = t then [a] else []) ++ r.1, r.2) := by
  have hallows : (answersAbout t).allows s step = true := by simp [answersAbout, ht]
  have hsees : (answersAbout t).sees s step a s' = if t' = t then [a] else [] := by
    simp [answersAbout, ht]
  rw [observe, if_pos hallows, hp, Option.bind_some, hsees]

/-- The steps of a list that are about a table. -/
def stepsAbout (p : Program) (t : TableId) (steps : List Step) : List Step :=
  steps.filter fun step => p.table? step = some t

/-- **Without the steps about other tables** a list of steps has the same answers, and leaves an
alike session. -/
theorem observe_stepsAbout {steps : List Step} (hw : s.program.WellFormed s.store.cells.size)
    (h : ∀ step ∈ steps, (s.program.table? step).isSome) (ha : s.Alike t s₁) :
    ∃ answers s' s₁', observe (answersAbout t) steps s = some (answers, s') ∧
      observe (answersAbout t) (stepsAbout s.program t steps) s₁ = some (answers, s₁') ∧
      s'.Alike t s₁' := by
  induction steps generalizing s s₁ with
  | nil => exact ⟨[], s, s₁, rfl, rfl, ha⟩
  | cons step steps ih =>
    obtain ⟨t', ht⟩ := Option.isSome_iff_exists.mp (h step List.mem_cons_self)
    obtain ⟨a, s', hp, hprogram, hsize, hother⟩ := alike_perform hw ht
    have hw' : s'.program.WellFormed s'.store.cells.size := by rwa [hprogram, hsize]
    have h' : ∀ step ∈ steps, (s'.program.table? step).isSome := by
      rw [hprogram]
      exact fun step hm => h step (List.mem_cons_of_mem _ hm)
    by_cases heq : t' = t
    · subst heq
      obtain ⟨a', s₂, s₁', hp', hp₁, ha'⟩ := ha.perform hw ht
      obtain ⟨rfl, rfl⟩ := Prod.mk.inj (Option.some.inj (hp.symm.trans hp'))
      obtain ⟨answers, s'', s₁'', hrun, hrun₁, ha''⟩ := ih hw' h' ha'
      rw [hprogram] at hrun₁
      refine ⟨a :: answers, s'', s₁'', ?_, ?_, ha''⟩
      · rw [observe_cons ht hp, hrun, if_pos rfl]
        rfl
      · rw [stepsAbout, List.filter_cons_of_pos (by simpa using ht), ← stepsAbout,
          observe_cons (by rwa [ha.program]) hp₁, hrun₁, if_pos rfl]
        rfl
    · obtain ⟨answers, s'', s₁', hrun, hrun₁, ha'⟩ := ih hw' h' ((hother t heq).symm.trans ha)
      rw [hprogram] at hrun₁
      refine ⟨answers, s'', s₁', ?_, ?_, ha'⟩
      · rw [observe_cons ht hp, hrun, if_neg heq]
        rfl
      · rwa [stepsAbout, List.filter_cons_of_neg (by simpa [ht] using heq)]

/-- **Tables are separate.** The answers of the steps about one table, and what is in it in the end,
are what they are without the steps about other tables. -/
theorem tables_separate (hs : s.Reachable fun _ => True) {steps : List Step}
    (h : ∀ step ∈ steps, (s.program.table? step).isSome) (t : TableId) :
    ∃ answers s' s'', observe (answersAbout t) steps s = some (answers, s') ∧
      observe (answersAbout t) (stepsAbout s.program t steps) s = some (answers, s'') ∧
      s'.store.modules.declared t.owner t.ns = s''.store.modules.declared t.owner t.ns ∧
      ∀ others, (∀ step ∈ others, (s.program.table? step).isSome) →
        stepsAbout s.program t others = stepsAbout s.program t steps →
        ∃ s₁, observe (answersAbout t) others s = some (answers, s₁) ∧
          s₁.store.modules.declared t.owner t.ns = s'.store.modules.declared t.owner t.ns := by
  obtain ⟨answers, s', s'', hrun, habout, ha⟩ := observe_stepsAbout hs.wellFormed h (.refl t s)
  refine ⟨answers, s', s'', hrun, habout, ha.table.symm, fun others hothers hsame => ?_⟩
  obtain ⟨answers₁, s₁, s₁'', hrun₁, habout₁, ha₁⟩ :=
    observe_stepsAbout hs.wellFormed hothers (.refl t s)
  rw [hsame, habout] at habout₁
  cases habout₁
  exact ⟨s₁, hrun₁, ha₁.table.symm.trans ha.table⟩

/-- Two modules, and directives of the first one about one name in both namespaces. -/
def market : Session :=
  (performAll [.addModule "a" (.ofText "a.d"), .addModule "b" (.ofText "b.d"),
    .addDirective .version 0 (.identifier "X") {}, .addDirective .debug 0 (.identifier "X") {},
    .copy 0] (.start .print {})).get (by decide +kernel)

/-- A name is asked about in vain and then declared, between steps about other tables. -/
def marketSteps : List Step :=
  [.declare 1 .version "X", .declare 0 .debug "X", .resolve { condition := 0 },
    .resolve { condition := 1 }, .declare 0 .version "X", .declareLevel 1 .version 7,
    .levelHolds 0 .version 1, .isDefined 0 .version "Y", .lookup 1 .version "X",
    .resolve { condition := 2, scope := some { home := some 1 } }]

/-- The steps about other tables come last, and others are among them. -/
def marketOthers : List Step :=
  [.resolve { condition := 0 }, .declare 0 .version "X", .levelHolds 0 .version 1,
    .isDefined 0 .version "Y", .resolve { condition := 2, scope := some { home := some 1 } },
    .declare 1 .version "Y", .resolve { condition := 1 }, .declare 0 .debug "X"]

theorem tables_separate_market : ∃ answers s' s₁,
    observe (answersAbout ⟨0, .version⟩) marketSteps market = some (answers, s') ∧
    observe (answersAbout ⟨0, .version⟩) marketOthers market = some (answers, s₁) ∧
    s₁.store.modules.declared 0 .version = s'.store.modules.declared 0 .version ∧
    answers = [.resolution ⟨false, .excluded, 0, [], 0, false⟩,
      .refusedDeclaration (.definedAfterUse .version "X"), .truth false, .truth false,
      .resolution ⟨false, .excluded, 0, [], 0, false⟩] := by
  have hs : market.Reachable fun _ => True :=
    (Session.Reachable.start _ _).performAll (Option.some_get _).symm fun _ _ => trivial
  obtain ⟨answers, s', s'', hrun, _, _, hothers⟩ := tables_separate hs
    (by decide +kernel : ∀ step ∈ marketSteps, (market.program.table? step).isSome) ⟨0, .version⟩
  obtain ⟨s₁, hrun₁, htable⟩ := hothers marketOthers (by decide +kernel) (by decide +kernel)
  have hsome : (observe (answersAbout ⟨0, .version⟩) marketSteps market).map (·.1) =
      some [.resolution ⟨false, .excluded, 0, [], 0, false⟩,
        .refusedDeclaration (.definedAfterUse .version "X"), .truth false, .truth false,
        .resolution ⟨false, .excluded, 0, [], 0, false⟩] := by decide +kernel
  rw [hrun] at hsome
  exact ⟨answers, s', s₁, hrun, hrun₁, htable, Option.some.inj hsome⟩

end Session

end CondComp
