import CondComp.Proofs.FirstAnswers

/-!
# Answers that do not change

A module may not declare an identifier that it was asked about in vain. That is why answers about
identifiers stay the same for a whole compilation, however questions and declarations are mixed,
and why a level that holds never ceases to hold.

* `Declared.Grown`, `Modules.Grown`: what declarations and questions may change;
  **`grown_perform`**: steps change no more than that;
* `Told`: an answer that was given; `Told.Stands`: it is true, and will stay so;
* `Session.Faithful`: what conditions remember stands; **`faithful_perform`**;
* `Session.answers`: the observer who sees all answers; **`answers_agree`**: they agree.
-/

namespace CondComp

/-! ## Tables that grow -/

/-- What declarations and questions may make of a table. What is newly declared is neither reserved
nor was it asked about in vain. -/
structure Declared.Grown (ns : Namespace) (d d' : Declared) : Prop where
  defined : ∀ x ∈ d.defined, x ∈ d'.defined
  level : d.level ≤ d'.level
  missed : ∀ x ∈ d.missed, x ∈ d'.missed
  declared : ∀ x ∈ d'.defined, x ∉ d.defined → isReserved ns x = false ∧ x ∉ d.missed

/-- What declarations and questions may make of the modules. -/
structure Modules.Grown (ms ms' : Modules) : Prop where
  count : ms.count ≤ ms'.count
  table : ∀ m ns, (ms.declared m ns).Grown ns (ms'.declared m ns)

namespace Declared

variable {ns : Namespace} {d d' : Declared} {x : String}

theorem Grown.refl (ns : Namespace) (d : Declared) : d.Grown ns d :=
  ⟨fun _ h => h, Nat.le_refl _, fun _ h => h, fun _ h hno => absurd h hno⟩

theorem grown_raiseLevel (ns : Namespace) (d : Declared) (n : Nat) : d.Grown ns (d.raiseLevel n) :=
  ⟨fun _ h => h, Nat.le_max_left _ _, fun _ h => h, fun _ h hno => absurd h hno⟩

theorem declare_eq_ok (h : d.declare ns x = .ok d') :
    isReserved ns x = false ∧ x ∉ d.missed ∧ d' = d.define x := by
  unfold declare at h
  split_ifs at h with hr hm
  cases h
  exact ⟨by simpa using hr, hm, rfl⟩

theorem grown_define (hr : isReserved ns x = false) (hm : x ∉ d.missed) :
    d.Grown ns (d.define x) := by
  refine ⟨fun y hy => ?_, Nat.le_refl _, fun _ hy => hy, fun y hy hno => ?_⟩
  · exact IdentifierSet.mem_insert.mpr (.inl hy)
  · rcases IdentifierSet.mem_insert.mp hy with hy | rfl
    · exact absurd hy hno
    · exact ⟨hr, hm⟩

end Declared

namespace Modules

variable {ms ms' : Modules} {m : ModuleId} {ns : Namespace}

theorem Grown.refl (ms : Modules) : ms.Grown ms := ⟨Nat.le_refl _, fun _ _ => .refl _ _⟩

theorem Consulted.grown (h : ms.Consulted ms') : ms.Grown ms' where
  count := Nat.le_of_eq h.count.symm
  table m ns := by
    obtain ⟨hdefined, hlevel⟩ := h.declarations m ns
    exact ⟨fun x hx => hdefined ▸ hx, Nat.le_of_eq hlevel.symm, h.missed m ns,
      fun x hx hno => absurd (hdefined ▸ hx) hno⟩

theorem grown_modifyDeclared {f : Declared → Declared}
    (h : (ms.declared m ns).Grown ns (f (ms.declared m ns))) :
    ms.Grown (ms.modifyDeclared m ns f) where
  count := Nat.le_of_eq (ms.count_modifyDeclared m ns f).symm
  table m' ns' := by
    rw [declared_modifyDeclared]
    split_ifs with hm
    · obtain ⟨rfl, rfl, _⟩ := hm
      exact h
    · exact .refl _ _

theorem declare_eq_ok {x : String} (h : ms.declare m ns x = .ok ms') :
    isReserved ns x = false ∧ x ∉ (ms.declared m ns).missed ∧
      ms' = ms.setDeclared m ns ((ms.declared m ns).define x) := by
  unfold declare at h
  cases hd : (ms.declared m ns).declare ns x with
  | error e => simp [hd, Except.map] at h
  | ok d =>
    obtain ⟨hr, hm, rfl⟩ := Declared.declare_eq_ok hd
    simp only [hd, Except.map, Except.ok.injEq] at h
    exact ⟨hr, hm, h.symm⟩

theorem grown_declare {x : String} (h : ms.declare m ns x = .ok ms') : ms.Grown ms' := by
  obtain ⟨hr, hm, rfl⟩ := declare_eq_ok h
  exact grown_modifyDeclared (Declared.grown_define hr hm)

theorem declared_add (ms : Modules) (entry : Module) (m : ModuleId) (ns : Namespace) :
    (ms.add entry).2.declared m ns =
      if m = ms.count then entry.declared.get ns else ms.declared m ns := by
  by_cases hm : m = ms.count
  · simp [add, declared, get?, count, hm]
  · have hne : m ≠ ms.entries.size := hm
    simp [add, declared, get?, Array.getElem?_push, hm, hne]

theorem grown_add (ms : Modules) (name : String) (file : FileId) :
    ms.Grown (ms.add { name := name, file := file }).2 where
  count := by simp [add, count]
  table m ns := by
    rw [declared_add]
    split_ifs with hm
    · have hnone : ms.declared m ns = {} := by simp [declared, get?, hm, count]
      rw [hnone, PerNamespace.get_both]
      exact .refl _ _
    · exact .refl _ _

/-- What the tables satisfied they go on to satisfy. -/
theorem Grown.satisfy (h : ms.Grown ms') {g : Globals} {owner : ModuleId} {q : Query}
    (hq : ms.Satisfy g ns owner q) : ms'.Satisfy g ns owner q := by
  cases q with
  | level n => exact hq.imp id fun hn => Nat.le_trans hn (h.table owner ns).level
  | identifier x => exact hq.imp_left ((h.table owner ns).defined x)

/-- What a module was asked about in vain stays undefined. -/
theorem Grown.not_satisfy (h : ms.Grown ms') {g : Globals} {owner : ModuleId} {x : String}
    (hx : x ∈ (ms.declared owner ns).missed) (hno : ¬ ms.Satisfy g ns owner (.identifier x)) :
    ¬ ms'.Satisfy g ns owner (.identifier x) := by
  rintro (hd | hg)
  · exact ((h.table owner ns).declared x hd fun hd => hno (.inl hd)).2 hx
  · exact hno (.inr hg)

end Modules

/-! ## Answers that were given -/

/-- An answer to a question about an identifier or a level of a module. -/
structure Told where
  ns : Namespace
  owner : ModuleId
  query : Query
  answer : Bool
  deriving DecidableEq, Repr

namespace Told

/-- Two answers agree. About an identifier they are the same; if a level holds, so does every level
up to it that is asked about afterwards. -/
def Agrees (t t' : Told) : Prop :=
  t.ns = t'.ns → t.owner = t'.owner →
    (∀ x, t.query = .identifier x → t'.query = .identifier x → t.answer = t'.answer) ∧
    (∀ n n', t.query = .level n → t'.query = .level n' → n' ≤ n → t.answer = true →
      t'.answer = true)

section Truth

variable (t : Told) (ms : Modules) (g : Globals)

/-- The answer is what the tables say. -/
def Correct : Prop := t.answer = true ↔ ms.Satisfy g t.ns t.owner t.query

/-- The answer is true and stays so: no declaration can undo it. -/
structure Stands : Prop where
  yes : t.answer = true → ms.Satisfy g t.ns t.owner t.query
  no : ∀ x, t.query = .identifier x → t.answer = false →
    x ∈ (ms.declared t.owner t.ns).missed ∧ ¬ ms.Satisfy g t.ns t.owner t.query

end Truth

variable {t t' : Told} {ms ms' : Modules} {g : Globals}

theorem Stands.grown (h : t.Stands ms g) (hg : ms.Grown ms') : t.Stands ms' g where
  yes ha := hg.satisfy (h.yes ha)
  no x hx ha := by
    obtain ⟨hmiss, hno⟩ := h.no x hx ha
    rw [hx] at hno ⊢
    exact ⟨(hg.table _ _).missed x hmiss, hg.not_satisfy hmiss hno⟩

theorem Stands.correct (h : t.Stands ms g) {x : String} (hx : t.query = .identifier x) :
    t.Correct ms g := by
  refine ⟨h.yes, fun hs => ?_⟩
  by_contra ha
  exact (h.no x hx (by simpa using ha)).2 hs

theorem Stands.agrees (h : t.Stands ms g) (h' : t'.Correct ms g) : t.Agrees t' := by
  intro hns howner
  refine ⟨fun x hx hx' => ?_, fun n n' hn hn' hle ha => ?_⟩
  · have hcorrect := h.correct hx
    rw [Correct, hns, howner, hx, ← hx'] at hcorrect
    exact Bool.eq_iff_iff.mpr (hcorrect.trans h'.symm)
  · have hs := h.yes ha
    rw [hns, howner, hn] at hs
    refine h'.mpr ?_
    rw [hn']
    exact hs.imp (Nat.le_trans hle) (Nat.le_trans hle)

theorem stands_answer {ns : Namespace} {owner : ModuleId} {q : Query} {b : Bool}
    (howner : owner < ms.count) (hb : b = (ms.answer g ns q owner).1.included) :
    Stands ⟨ns, owner, q, b⟩ (ms.answer g ns q owner).2 g ∧
      Correct ⟨ns, owner, q, b⟩ (ms.answer g ns q owner).2 g := by
  have hsame := (ms.sameDeclarations_answer g ns q owner).satisfy g ns owner q
  have hcorrect : b = true ↔ ms.Satisfy g ns owner q := by rw [hb, included_answer]
  refine ⟨⟨fun ha => hsame.mpr (hcorrect.mp ha), ?_⟩, hcorrect.trans hsame.symm⟩
  rintro x rfl (ha : b = false)
  have hno : ¬ ms.Satisfy g ns owner (.identifier x) := by
    rw [← hcorrect, ha]
    decide
  exact ⟨Modules.mem_missed_answer howner hno, fun h => hno (hsame.mp h)⟩

end Told

/-! ## Steps -/

/-- The step leaves the global settings alone, declares nothing unchecked and settles nothing from
outside. -/
def Step.isPlain : Step → Bool
  | .request .. | .predefine .. | .setGlobalLevel .. | .define .. | .settle .. => false
  | _ => true

/-- The module that a question, a declaration or a new directive is about. -/
def Step.module? : Step → Option ModuleId
  | .lookup m .. | .isDefined m .. | .levelHolds m .. | .declare m .. | .declareLevel m ..
  | .addDirective _ m .. => some m
  | _ => none

namespace Session

variable {s s' : Session} {step : Step} {a : Answer}

/-- **What a step makes of the modules**, if it is plain: they grow. -/
theorem grown_perform (hw : s.program.WellFormed s.store.cells.size) (hplain : step.isPlain = true)
    (hp : s.perform step = some (a, s')) :
    s.store.modules.Grown s'.store.modules ∧ s'.program.globals = s.program.globals := by
  cases step with
  | request | predefine | setGlobalLevel | define | settle => cases hplain
  | globals | isGlobal | levelHolds | reportError | inspectLog | states | addDecl | addDirective
  | addStaticIf =>
    cases hp
    exact ⟨.refl _, rfl⟩
  | addModule name path =>
    cases hp
    exact ⟨Modules.grown_add _ _ _, rfl⟩
  | lookup m ns x | isDefined m ns x =>
    cases hp
    exact ⟨(Modules.consulted_answer _ s.program.globals ns (.identifier x) m).grown, rfl⟩
  | declare m ns x =>
    rw [perform] at hp
    split at hp
    · cases hp
      exact ⟨.refl _, rfl⟩
    · next hd =>
      cases hp
      exact ⟨Modules.grown_declare hd, rfl⟩
  | declareLevel m ns n =>
    cases hp
    exact ⟨Modules.grown_modifyDeclared (Declared.grown_raiseLevel _ _ n), rfl⟩
  | inspectModule | inspectCondition =>
    obtain ⟨_, _, hp⟩ := Option.bind_eq_some_iff.mp hp
    cases hp
    exact ⟨.refl _, rfl⟩
  | copy c =>
    obtain ⟨c, _, hp⟩ := Option.bind_eq_some_iff.mp hp
    cases hp
    split
    · exact ⟨.refl _, rfl⟩
    · exact ⟨.refl _, rfl⟩
  | hold c | free c =>
    obtain ⟨cells, rfl⟩ := cells_of_guard (c := c) (by simp) hp
    exact ⟨.refl _, rfl⟩
  | resolve q =>
    obtain ⟨r, _, hi⟩ := inquire_of_perform hp
    obtain ⟨hprog, cs, h⟩ := inquire_progress hw hi
    exact ⟨h.consulted.grown, congrArg Program.globals hprog⟩

/-! ## What conditions remember -/

/-- The answer that a directive remembers. -/
def remembered (s : Session) (c : Condition) (ns : Namespace) (owner : ModuleId) (q : Query) :
    Told := ⟨ns, owner, q, (s.stateOf c).isIncluded⟩

/-- An answer stands in a session. -/
abbrev Upholds (s : Session) (t : Told) : Prop := t.Stands s.store.modules s.program.globals

/-- What the directives of a session remember stands, and they stand in modules that exist. -/
structure Faithful (s : Session) : Prop where
  wellFormed : s.program.WellFormed s.store.cells.size
  owner_lt : ∀ c ∈ s.program.conditions, ∀ ns owner q, c.test = .directive ns owner q →
    owner < s.store.modules.count
  upholds : ∀ c ∈ s.program.conditions, ∀ ns owner q, c.test = .directive ns owner q →
    s.stateOf c ≠ .unresolved → s.Upholds (s.remembered c ns owner q)

theorem faithful_start (hs : s.program.conditions = #[]) : s.Faithful where
  wellFormed := .empty hs _
  owner_lt c hc := by simp [hs] at hc
  upholds c hc := by simp [hs] at hc

theorem Faithful.inquire (h : s.Faithful) {q : Inquiry} {r : Resolution}
    (hi : s.inquire q = some (r, s')) : s'.Faithful := by
  obtain ⟨hprog, cs, hp⟩ := inquire_progress h.wellFormed hi
  have hsame := hp.consulted.declarations.satisfy s.program.globals
  constructor
  · rw [hprog, hp.size]
    exact h.wellFormed
  · rw [hprog, hp.consulted.count]
    exact h.owner_lt
  · intro c hc ns owner q ht hset
    rw [Upholds, hprog]
    rw [hprog] at hc
    rw [stateOf_eq, hp.settled_iff h.wellFormed hc ⟨ns, owner, q, ht⟩] at hset
    rcases hset with hset | hset
    · have hstate := hp.state_eq hc ⟨ns, owner, q, ht⟩ hset
      rw [remembered, stateOf_eq, hstate]
      exact (h.upholds c hc ns owner q ht hset).grown hp.consulted.grown
    · obtain ⟨d, hd, hcell, htest⟩ := hp.exists_of_cell_mem h.wellFormed hc hset
      have htd : d.test = .directive ns owner q := htest.trans ht
      have hiff := hp.state_iff h.wellFormed hd htd
      have hincluded : (s'.stateOf c).isIncluded = true ↔
          s.store.modules.Satisfy s.program.globals ns owner q := by
        rw [← hiff, hcell, stateOf_eq]
        exact decide_eq_true_iff
      refine ⟨fun ha => (hsame _ _ _).mpr (hincluded.mp ha), ?_⟩
      rintro x rfl ha
      have hno : ¬ s.store.modules.Satisfy s.program.globals ns owner (.identifier x) := by
        rw [← hincluded]
        exact Bool.not_eq_true _ ▸ ha
      exact ⟨hp.mem_missed hd htd (h.owner_lt c hc ns owner _ ht) hno,
        fun hs => hno ((hsame _ _ _).mp hs)⟩

/-! ## Answers seen -/

/-- The answer that a condition remembers, if it is a directive. -/
def told? (s : Session) (c : Condition) : Option Told :=
  match c.test with
  | .directive ns owner q => some (s.remembered c ns owner q)
  | .staticIf _ => none

/-- The answer that an inquiry returns, if it is about a directive on an identifier. -/
def returned? (s : Session) (q : Inquiry) (b : Bool) : Option Told := do
  let c ← s.program.conditions[q.condition]?
  match c.test with
  | .directive ns owner (.identifier x) => some ⟨ns, owner, .identifier x, b⟩
  | _ => none

/-- Who sees all answers of plain steps in modules that exist: to questions, to directives that are
answered for the first time, be it as a guard, and to inquiries about identifiers. A directive asks
about a level only once; what it says later is remembered, and no new answer. -/
def answers : Observer Told where
  allows s step := step.isPlain && step.module?.all (· < s.store.modules.count)
  sees s step a s' :=
    match step, a with
    | .lookup m ns x, .definition d => [⟨ns, m, .identifier x, d.isDefined⟩]
    | .isDefined m ns x, .truth b => [⟨ns, m, .identifier x, b⟩]
    | .levelHolds m ns n, .truth b => [⟨ns, m, .level n, b⟩]
    | .resolve q, .resolution r =>
      (s.answeredSince s').filterMap s'.told? ++ (s.returned? q r.included).toList
    | _, _ => []

/-- **What conditions remember goes on to stand**, whatever step is taken. -/
theorem faithful_perform (h : s.Faithful) (ha : answers.allows s step = true)
    (hp : s.perform step = some (a, s')) : s'.Faithful := by
  obtain ⟨hplain, hmodule⟩ := Bool.and_eq_true_iff.mp ha
  have hm : s.Move step s' := move_of_perform hp
  obtain ⟨hgrown, hglobals⟩ := grown_perform h.wellFormed hplain hp
  rcases inquiry_or_not hp with ⟨q, r, rfl, rfl, hi⟩ | hresolve
  · exact h.inquire hi
  have hsettle : ∀ c b, step ≠ .settle c b := by
    rintro c b rfl
    cases hplain
  refine ⟨wellFormed_move hm h.wellFormed, fun c hc ns owner q ht => ?_,
    fun c hc ns owner q ht hset => ?_⟩
  · rcases mem_conditions_move hm hc ht with hc | ⟨_, place, rfl⟩
    · exact Nat.lt_of_lt_of_le (h.owner_lt c hc ns owner q ht) hgrown.count
    · exact Nat.lt_of_lt_of_le (by simpa [Step.module?] using hmodule) hgrown.count
  · have hstate : s'.stateOf c = s.stateOf c := state_move hm hsettle hresolve c.cell
    rw [hstate] at hset
    rw [Upholds, hglobals, remembered, hstate]
    rcases mem_conditions_move hm hc ht with hc | ⟨hcell, _⟩
    · exact (h.upholds c hc ns owner q ht hset).grown hgrown
    · exact absurd (by simp [stateOf_eq, Store.state, Store.cell, hcell]) hset

theorem told_inquire (h : s.Faithful) {q : Inquiry} {r : Resolution}
    (hi : s.inquire q = some (r, s')) {t : Told}
    (ht : t ∈ (s.answeredSince s').filterMap s'.told? ++ (s.returned? q r.included).toList) :
    s'.Upholds t ∧ t.Correct s'.store.modules s'.program.globals := by
  obtain ⟨hprog, cs, hp⟩ := inquire_progress h.wellFormed hi
  have hupholds := (h.inquire hi).upholds
  rcases List.mem_append.mp ht with ht | ht
  · obtain ⟨c, hc, ht⟩ := List.mem_filterMap.mp ht
    rw [answeredSince_eq hp] at hc
    obtain ⟨hmem, ns, owner, query, htest⟩ := hp.mem hc
    rw [told?, htest] at ht
    cases ht
    have hset : s'.stateOf c ≠ .unresolved :=
      (hp.settled_iff h.wellFormed hmem ⟨ns, owner, query, htest⟩).mpr
        (.inr (List.mem_map_of_mem hc))
    refine ⟨hupholds c (hprog ▸ hmem) ns owner query htest hset, ?_⟩
    rw [Told.Correct, hprog]
    refine Iff.trans ?_ (hp.consulted.declarations.satisfy s.program.globals ns owner query).symm
    rw [← hp.state_iff h.wellFormed hc htest]
    exact decide_eq_true_iff
  · obtain ⟨c, hc, ht⟩ := Option.bind_eq_some_iff.mp (Option.mem_toList.mp ht)
    split at ht
    · next ns owner x htest =>
      cases ht
      obtain ⟨hset, hb⟩ := inquire_directive h.wellFormed hi hc ⟨ns, owner, .identifier x, htest⟩
      have hmem := Array.mem_of_getElem? hc
      have hstands := hupholds c (hprog ▸ hmem) ns owner (.identifier x) htest hset
      rw [remembered, ← hb] at hstands
      exact ⟨hstands, hstands.correct rfl⟩
    · cases ht

/-- **What is seen of a step stands.** -/
theorem told_perform (h : s.Faithful) (ha : answers.allows s step = true)
    (hp : s.perform step = some (a, s')) {t : Told} (ht : t ∈ answers.sees s step a s') :
    s'.Upholds t ∧ t.Correct s'.store.modules s'.program.globals := by
  obtain ⟨_, hmodule⟩ := Bool.and_eq_true_iff.mp ha
  cases step with
  | lookup m ns x | isDefined m ns x =>
    cases hp
    obtain rfl := List.mem_singleton.mp ht
    exact Told.stands_answer (by simpa [Step.module?] using hmodule) rfl
  | levelHolds m ns n =>
    cases hp
    obtain rfl := List.mem_singleton.mp ht
    exact Told.stands_answer (q := .level n) (by simpa [Step.module?] using hmodule) rfl
  | resolve q =>
    obtain ⟨r, rfl, hi⟩ := inquire_of_perform hp
    exact told_inquire h hi ht
  | _ => simp [answers] at ht

/-- The answers that were given agree with each other and stand, and so does what conditions
remember. -/
structure Constant (seen : List Told) (s : Session) : Prop where
  faithful : s.Faithful
  upholds : ∀ t ∈ seen, s.Upholds t
  agrees : seen.Pairwise Told.Agrees

theorem constant_perform {seen : List Told} (h : Constant seen s)
    (ha : answers.allows s step = true) (hp : s.perform step = some (a, s')) :
    Constant (seen ++ answers.sees s step a s') s' := by
  obtain ⟨hplain, _⟩ := Bool.and_eq_true_iff.mp ha
  obtain ⟨hgrown, hglobals⟩ := grown_perform h.faithful.wellFormed hplain hp
  have hnew : ∀ t ∈ answers.sees s step a s', s'.Upholds t ∧
      t.Correct s'.store.modules s'.program.globals := fun t ht => told_perform h.faithful ha hp ht
  have hold : ∀ t ∈ seen, s'.Upholds t := by
    intro t ht
    rw [Upholds, hglobals]
    exact (h.upholds t ht).grown hgrown
  refine ⟨faithful_perform h.faithful ha hp, ?_, ?_⟩
  · intro t ht
    rcases List.mem_append.mp ht with ht | ht
    · exact hold t ht
    · exact (hnew t ht).1
  · refine List.pairwise_append.mpr ⟨h.agrees, ?_, fun t ht t' ht' => ?_⟩
    · exact List.pairwise_of_forall_mem_list fun t ht t' ht' => (hnew t ht).1.agrees (hnew t' ht').2
    · exact (hold t ht).agrees (hnew t' ht').2

theorem constant_observe {steps : List Step} {seen : List Told} (hs : s.program.conditions = #[])
    (h : observe answers steps s = some (seen, s')) : Constant seen s' := by
  have hstart : Constant [] s := ⟨faithful_start hs, by simp, .nil⟩
  have hrun : Constant ([] ++ seen) s' :=
    observe_induction (fun _ _ _ _ _ hc ha hp => constant_perform hc ha hp) h hstart
  exact hrun

/-- **Answers agree for a whole compilation** under fixed global settings, whatever the modules
declare in between, and levels that hold go on to hold. -/
theorem answers_agree {steps : List Step} {seen : List Told} {s s' : Session}
    (hs : s.program.conditions = #[]) (h : observe answers steps s = some (seen, s')) :
    seen.Pairwise Told.Agrees ∧
    ∀ c ∈ s'.program.conditions, ∀ ns owner x, c.test = .directive ns owner (.identifier x) →
      s'.stateOf c ≠ .unresolved →
      ∀ t ∈ seen, t.Agrees (s'.remembered c ns owner (.identifier x)) := by
  have hconstant := constant_observe hs h
  refine ⟨hconstant.agrees, fun c hc ns owner x ht hset t hmem => ?_⟩
  have hstands := hconstant.faithful.upholds c hc ns owner (.identifier x) ht hset
  exact (hconstant.upholds t hmem).agrees (hstands.correct rfl)

/-- A module is asked about what it does not declare, as a guard too, and may not declare it then;
it declares what is defined everywhere, and a level. -/
def quarrelSteps : List Step :=
  [.addModule "m" (.ofText "m.d"), .addDirective .version 0 (.identifier "A") {},
    .addDecl ⟨"k", .bool true, some 0⟩, .addStaticIf (.ident "k") {},
    .resolve { condition := 1, scope := some { home := some 0 }, gagged := true },
    .declare 0 .version "A", .isDefined 0 .version "A", .resolve { condition := 0 },
    .lookup 0 .version "B", .declare 0 .version "B", .lookup 0 .version "B",
    .levelHolds 0 .debug 2, .declareLevel 0 .debug 3, .levelHolds 0 .debug 3,
    .levelHolds 0 .debug 2]

theorem answers_agree_quarrel : ∃ seen s',
    observe answers quarrelSteps ((start .disabled {}).withGlobals
      (Globals.empty.predefine "B")) = some (seen, s') ∧
    seen.Pairwise Told.Agrees ∧
    seen = [⟨.version, 0, .identifier "A", false⟩, ⟨.version, 0, .identifier "A", false⟩,
      ⟨.version, 0, .identifier "A", false⟩, ⟨.version, 0, .identifier "B", true⟩,
      ⟨.version, 0, .identifier "B", true⟩, ⟨.debug, 0, .level 2, false⟩,
      ⟨.debug, 0, .level 3, true⟩, ⟨.debug, 0, .level 2, true⟩] := by
  have hseen : (observe answers quarrelSteps ((start .disabled {}).withGlobals
      (Globals.empty.predefine "B"))).map Prod.fst =
      some [⟨.version, 0, .identifier "A", false⟩, ⟨.version, 0, .identifier "A", false⟩,
        ⟨.version, 0, .identifier "A", false⟩, ⟨.version, 0, .identifier "B", true⟩,
        ⟨.version, 0, .identifier "B", true⟩, ⟨.debug, 0, .level 2, false⟩,
        ⟨.debug, 0, .level 3, true⟩, ⟨.debug, 0, .level 2, true⟩] := by decide +kernel
  obtain ⟨⟨seen, s'⟩, h, hseen⟩ := Option.map_eq_some_iff.mp hseen
  exact ⟨seen, s', h, (answers_agree rfl h).1, hseen⟩

end Session

end CondComp
