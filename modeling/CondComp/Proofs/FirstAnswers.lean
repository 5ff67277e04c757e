import CondComp.Proofs.Dependencies
import CondComp.Proofs.Reachable
import CondComp.Proofs.Truth

/-!
# First answers

A directive is answered when a question meets it for the first time, and the answer is remembered.
A question may meet many directives: the one that it is about, or the guards of the declarations
that an analysis comes across.

* `Modules.Consulted`: the modules after questions, which declare what they declared before;
* `Store.answered`: the directives answered so far, in order;
* `Still`: a change that concerns no directive; `Progress`: still changes and first answers;
* **`resolveAt_progress`**: a question is such a progress;
* **`Progress.log`**, **`Progress.settled_iff`**, **`Progress.state_iff`**: what a progress logs,
  which directives it settles, and how;
* **`inquire_progress`**: so is an inquiry.
-/

namespace CondComp

/-! ## Modules that are asked -/

/-- The modules after questions: they declare what they declared before, and remember what was asked
about in vain. -/
structure Modules.Consulted (ms ms' : Modules) : Prop where
  label : ∀ m, ms'.label? m = ms.label? m
  count : ms'.count = ms.count
  declarations : ms.SameDeclarations ms'
  missed : ∀ m ns x, x ∈ (ms.declared m ns).missed → x ∈ (ms'.declared m ns).missed

namespace Modules

variable {ms ms₁ ms₂ : Modules} {ns : Namespace} {owner : ModuleId} {q : Query}

theorem Consulted.refl (ms : Modules) : ms.Consulted ms :=
  ⟨fun _ => rfl, rfl, fun _ _ => ⟨rfl, rfl⟩, fun _ _ _ h => h⟩

theorem Consulted.trans (h : ms.Consulted ms₁) (h' : ms₁.Consulted ms₂) : ms.Consulted ms₂ where
  label m := (h'.label m).trans (h.label m)
  count := h'.count.trans h.count
  declarations := h.declarations.trans h'.declarations
  missed m ns x hx := h'.missed m ns x (h.missed m ns x hx)

theorem mem_missed_lookup (d : Declared) (g : GlobalNames) (x y : String) :
    y ∈ (d.lookup g x).2.missed ↔
      y ∈ d.missed ∨ y = x ∧ x ∉ d.defined ∧ x ∉ g.identifiers := by
  unfold Declared.lookup Declared.definition
  by_cases hd : x ∈ d.defined
  · simp [hd]
  · by_cases hg : x ∈ g.identifiers
    · simp [hd, hg]
    · simp [hd, hg, Declared.miss]

theorem consulted_answer (ms : Modules) (g : Globals) (ns : Namespace) (q : Query)
    (owner : ModuleId) : ms.Consulted (ms.answer g ns q owner).2 where
  label := ms.label?_answer g ns q owner
  count := ms.count_answer g ns q owner
  declarations := ms.sameDeclarations_answer g ns q owner
  missed m ns' y hy := by
    cases q with
    | level n => exact hy
    | identifier x =>
      simp only [answer, lookup, declared_setDeclared]
      split_ifs with h
      · obtain ⟨rfl, rfl, _⟩ := h
        exact (mem_missed_lookup _ _ _ _).mpr (.inl hy)
      · exact hy

theorem mem_missed_answer {g : Globals} {x : String} (howner : owner < ms.count)
    (h : ¬ ms.Satisfy g ns owner (.identifier x)) :
    x ∈ ((ms.answer g ns (.identifier x) owner).2.declared owner ns).missed := by
  rw [Satisfy, not_or] at h
  simp only [answer, lookup, declared_setDeclared, howner, and_self, if_true]
  exact (mem_missed_lookup _ _ _ _).mpr (.inr ⟨rfl, h⟩)

theorem Consulted.declares (h : ms.Consulted ms₁) (ns : Namespace) (owner : ModuleId) (q : Query) :
    ms₁.Declares ns owner q ↔ ms.Declares ns owner q := by
  cases q with
  | level n => rfl
  | identifier x => rw [Declares, Declares, (h.declarations owner ns).1]

end Modules

/-! ## The directives answered -/

/-- The directive that an entry of the journal says was answered. -/
def Event.answered? : Event → Option Condition
  | answered c _ _ => some c
  | _ => none

/-- The condition is a directive. -/
def Condition.IsDirective (c : Condition) : Prop := ∃ ns owner q, c.test = .directive ns owner q

/-- The dependency that the first answer to a condition logs, under the modules before it. -/
def Condition.dependency? (fs : Files) (ms : Modules) (scope : Option Scope) (c : Condition) :
    Option Dependency :=
  match c.test with
  | .directive ns owner q => Dependency.ofAnswer? fs ms scope ns owner q
  | .staticIf _ => none

theorem Modules.Consulted.dependency? {ms ms' : Modules} (h : ms.Consulted ms') (fs : Files)
    (scope : Option Scope) (c : Condition) :
    c.dependency? fs ms' scope = c.dependency? fs ms scope := by
  unfold Condition.dependency?
  split
  · simp only [Dependency.ofAnswer?, Dependency.ofDirective?_eq, h.declares, h.label]
  · rfl

namespace Store

variable (st : Store) (i : CellId) (ctx : Context) (p : Program)

/-- The directives answered so far, in order. -/
def answered : List Condition := st.journal.toList.filterMap Event.answered?

theorem answered_note (e : Event) :
    (st.note e).answered = st.answered ++ e.answered?.toList := by
  rw [answered, journal_note, Array.toList_push, List.filterMap_append, answered]
  cases h : e.answered? <;> simp [h]

/-- Answers a directive for the first time. -/
def answerFirst (scope : Option Scope) (c : Condition) (ns : Namespace) (owner : ModuleId)
    (q : Query) (noted : Option Scope) : Store :=
  ((st.answer p scope ns owner q).2.note
    (.answered c (st.answer p scope ns owner q).1 noted)).settle c.cell
      (st.answer p scope ns owner q).1.included

section AnswerFirst

variable (scope noted : Option Scope) (c : Condition) (ns : Namespace) (owner : ModuleId)
  (q : Query)

@[simp] theorem modules_answerFirst : (st.answerFirst p scope c ns owner q noted).modules =
    (st.modules.answer p.globals ns q owner).2 := by
  simp [answerFirst]

@[simp] theorem size_answerFirst :
    (st.answerFirst p scope c ns owner q noted).cells.size = st.cells.size := by
  simp [answerFirst]

theorem log_answerFirst : (st.answerFirst p scope c ns owner q noted).log =
    st.log.recordAll (Dependency.ofAnswer? p.files st.modules scope ns owner q).toList :=
  st.log_answer p scope ns owner q

theorem answered_answerFirst :
    (st.answerFirst p scope c ns owner q noted).answered = st.answered ++ [c] := by
  change (((st.answer p scope ns owner q).2.note _).answered) = _
  rw [answered_note, answered, journal_answer]
  rfl

theorem state_answerFirst : (st.answerFirst p scope c ns owner q noted).state i =
    if c.cell = i ∧ c.cell < st.cells.size then
      (st.state i).settle (st.modules.answer p.globals ns q owner).1.included
    else st.state i := by
  simp [answerFirst, state_settle]

theorem answerFirst_child (s : Scope) (symbol : Option SymbolId) :
    st.answerFirst p (some (s.child symbol)) c ns owner q noted =
      st.answerFirst p (some s) c ns owner q noted := rfl

end AnswerFirst

end Store

/-! ## Progress -/

/-- A change that concerns no directive. -/
structure Still (p : Program) (st st' : Store) : Prop where
  modules : st'.modules = st.modules
  log : st'.log = st.log
  answered : st'.answered = st.answered
  size : st'.cells.size = st.cells.size
  state : ∀ c ∈ p.conditions, c.IsDirective → st'.state c.cell = st.state c.cell

/-- Still changes and first answers, under the modules of a scope. The directives answered are
listed in order. -/
inductive Progress (p : Program) (scope : Option Scope) (st : Store) : List Condition → Store → Prop
  | refl : Progress p scope st [] st
  | still {cs : List Condition} {st₁ st₂ : Store} (h : Progress p scope st cs st₁)
      (hs : Still p st₁ st₂) : Progress p scope st cs st₂
  | answer {cs : List Condition} {st₁ : Store} {c : Condition} {ns : Namespace} {owner : ModuleId}
      {q : Query} (h : Progress p scope st cs st₁) (hc : c ∈ p.conditions)
      (ht : c.test = .directive ns owner q) (ho : st₁.state c.cell = .unresolved)
      (noted : Option Scope) :
      Progress p scope st (cs ++ [c]) (st₁.answerFirst p scope c ns owner q noted)

section Still

variable {p : Program} {ctx : Context} {st st₁ st₂ : Store}

theorem Still.trans (h : Still p st st₁) (h' : Still p st₁ st₂) : Still p st st₂ where
  modules := h'.modules.trans h.modules
  log := h'.log.trans h.log
  answered := h'.answered.trans h.answered
  size := h'.size.trans h.size
  state c hc hd := (h'.state c hc hd).trans (h.state c hc hd)

theorem still_enter (i : CellId) (scope : Scope) (depth : Nat) :
    Still p st (st.enter i scope depth) where
  modules := rfl
  log := rfl
  answered := (Store.answered_note _ _).trans (List.append_nil _)
  size := st.size_enter i scope depth
  state c _ _ := st.state_enter i c.cell scope depth

theorem still_leave (i : CellId) (depth : Nat) : Still p st (st.leave i depth) where
  modules := rfl
  log := rfl
  answered := (Store.answered_note _ _).trans (List.append_nil _)
  size := st.size_leave i depth
  state c _ _ := st.state_leave i c.cell depth

theorem still_reportAny (fault : Option (Source × Fault)) :
    Still p st (st.reportAny ctx fault) := by
  cases fault with
  | none => exact ⟨rfl, rfl, rfl, rfl, fun _ _ _ => rfl⟩
  | some f => exact ⟨rfl, rfl, rfl, rfl, fun _ _ _ => rfl⟩

/-- The end of an evaluation concerns no directive, because a `static if` has a cell of its own. -/
theorem still_close {id : ConditionId} {c : Condition} {e : Expr}
    (hw : p.WellFormed st.cells.size) (hc : p.conditions[id]? = some c) (ht : c.test = .staticIf e)
    (v : Verdict) : Still p st (st.close c.cell ctx v) where
  modules := st.modules_close c.cell ctx v
  log := st.log_close c.cell ctx v
  answered := by
    rw [Store.answered, Store.journal_close, Array.toList_push, List.filterMap_append]
    exact List.append_nil _
  size := st.size_close c.cell ctx v
  state d hd hdir := by
    obtain ⟨id', hd⟩ := Array.mem_iff_getElem?.mp hd
    obtain ⟨ns, owner, q, htd⟩ := hdir
    rw [Store.state_close, if_neg]
    intro h
    have := hw.test_eq hc hd h.1
    rw [ht, htd] at this
    cases this

end Still

namespace Progress

variable {p : Program} {ctx : Context} {scope : Option Scope} {cs ds : List Condition}
  {st st₁ st' : Store} {c : Condition} {ns : Namespace} {owner : ModuleId} {q : Query}

theorem trans (h : Progress p scope st cs st₁) (h' : Progress p scope st₁ ds st') :
    Progress p scope st (cs ++ ds) st' := by
  induction h' with
  | refl =>
    rw [List.append_nil]
    exact h
  | still _ hs ih => exact ih.still hs
  | answer _ hc ht ho noted ih =>
    rw [← List.append_assoc]
    exact ih.answer hc ht ho noted

theorem of_child {s : Scope} {symbol : Option SymbolId}
    (h : Progress p (some (s.child symbol)) st cs st') : Progress p (some s) st cs st' := by
  induction h with
  | refl => exact .refl
  | still _ hs ih => exact ih.still hs
  | answer _ hc ht ho noted ih =>
    rw [Store.answerFirst_child]
    exact ih.answer hc ht ho noted

theorem size (h : Progress p scope st cs st') : st'.cells.size = st.cells.size := by
  induction h with
  | refl => rfl
  | still _ hs ih => exact hs.size.trans ih
  | answer _ _ _ _ _ ih => rw [Store.size_answerFirst, ih]

theorem answered (h : Progress p scope st cs st') : st'.answered = st.answered ++ cs := by
  induction h with
  | refl => exact (List.append_nil _).symm
  | still _ hs ih => exact hs.answered.trans ih
  | answer _ _ _ _ _ ih => rw [Store.answered_answerFirst, ih, List.append_assoc]

theorem consulted (h : Progress p scope st cs st') : st.modules.Consulted st'.modules := by
  induction h with
  | refl => exact .refl _
  | still _ hs ih =>
    rw [hs.modules]
    exact ih
  | answer _ _ _ _ _ ih =>
    rw [Store.modules_answerFirst]
    exact ih.trans (Modules.consulted_answer _ _ _ _ _)

/-- **What a progress logs**: the dependencies of the directives answered, in order, as they are
under the modules before it. -/
theorem log (h : Progress p scope st cs st') :
    st'.log = st.log.recordAll (cs.filterMap (·.dependency? p.files st.modules scope)) := by
  induction h with
  | refl => rfl
  | still _ hs ih => exact hs.log.trans ih
  | @answer cs st₁ c ns owner q h _ ht _ _ ih =>
    have hdep : c.dependency? p.files st.modules scope =
        Dependency.ofAnswer? p.files st₁.modules scope ns owner q := by
      rw [← h.consulted.dependency?, Condition.dependency?, ht]
    rw [Store.log_answerFirst, ih, List.filterMap_append, DependencyLog.recordAll_append,
      List.filterMap_cons, hdep]
    cases Dependency.ofAnswer? p.files st₁.modules scope ns owner q <;> rfl

theorem mem (h : Progress p scope st cs st') (hc : c ∈ cs) :
    c ∈ p.conditions ∧ c.IsDirective := by
  induction h with
  | refl => simp at hc
  | still _ _ ih => exact ih hc
  | answer _ hd ht _ _ ih =>
    rcases List.mem_append.mp hc with hc | hc
    · exact ih hc
    · obtain rfl := List.mem_singleton.mp hc
      exact ⟨hd, _, _, _, ht⟩

/-! ### Cells -/

theorem cell_lt (hw : p.WellFormed st.cells.size) (hc : c ∈ p.conditions) :
    c.cell < st.cells.size := by
  obtain ⟨_, hc⟩ := Array.mem_iff_getElem?.mp hc
  exact hw.cell_lt hc

/-- **Which directives a progress settles**: those on the cells of the directives answered. -/
theorem settled_iff (h : Progress p scope st cs st') (hw : p.WellFormed st.cells.size)
    (hc : c ∈ p.conditions) (hd : c.IsDirective) : st'.state c.cell ≠ .unresolved ↔
      st.state c.cell ≠ .unresolved ∨ c.cell ∈ cs.map (·.cell) := by
  induction h with
  | refl => simp
  | still _ hs ih => rw [hs.state c hc hd, ih]
  | @answer cs st₁ d ns owner q h hd' _ _ _ ih =>
    have hlt : d.cell < st₁.cells.size := h.size ▸ cell_lt hw hd'
    rw [Store.state_answerFirst, List.map_append, List.mem_append, ← or_assoc, ← ih]
    by_cases he : d.cell = c.cell
    · simp [he, he ▸ hlt, settle_ne_unresolved]
    · simp [he, Ne.symm he]

theorem exists_of_cell_mem (h : Progress p scope st cs st') (hw : p.WellFormed st.cells.size)
    (hc : c ∈ p.conditions) (hcell : c.cell ∈ cs.map (·.cell)) :
    ∃ d ∈ cs, d.cell = c.cell ∧ d.test = c.test := by
  obtain ⟨d, hd, he⟩ := List.mem_map.mp hcell
  obtain ⟨i, hci⟩ := Array.mem_iff_getElem?.mp hc
  obtain ⟨j, hdj⟩ := Array.mem_iff_getElem?.mp (h.mem hd).1
  exact ⟨d, hd, he, hw.test_eq hdj hci he⟩

theorem state_eq (h : Progress p scope st cs st') (hc : c ∈ p.conditions) (hd : c.IsDirective)
    (hs : st.state c.cell ≠ .unresolved) : st'.state c.cell = st.state c.cell := by
  induction h with
  | refl => rfl
  | still _ hst ih => rw [hst.state c hc hd, ih]
  | answer _ _ _ ho _ ih =>
    rw [Store.state_answerFirst, if_neg, ih]
    rintro ⟨he, _⟩
    rw [he, ih] at ho
    exact hs ho

theorem fresh (h : Progress p scope st cs st') (hw : p.WellFormed st.cells.size) :
    (cs.map (·.cell)).Nodup ∧ ∀ c ∈ cs, st.state c.cell = .unresolved := by
  induction h with
  | refl => simp
  | still _ _ ih => exact ih
  | @answer cs st₁ c ns owner q h hc ht ho _ ih =>
    have hopen := (not_congr (h.settled_iff hw hc ⟨_, _, _, ht⟩)).mp (not_not.mpr ho)
    rw [not_or, not_not] at hopen
    refine ⟨?_, fun d hd => ?_⟩
    · rw [List.map_append, List.nodup_append]
      refine ⟨ih.1, List.pairwise_singleton _ _, fun i hi j hj => ?_⟩
      rw [List.mem_singleton.mp hj]
      rintro rfl
      exact hopen.2 hi
    · rcases List.mem_append.mp hd with hd | hd
      · exact ih.2 d hd
      · rw [List.mem_singleton.mp hd]
        exact hopen.1

/-- **How a directive is settled**: as the modules before the progress say. -/
theorem state_iff (h : Progress p scope st cs st') (hw : p.WellFormed st.cells.size) (hc : c ∈ cs)
    (ht : c.test = .directive ns owner q) :
    st'.state c.cell = .included ↔ st.modules.Satisfy p.globals ns owner q := by
  induction h with
  | refl => simp at hc
  | still h hs ih => rw [hs.state c (h.mem hc).1 (h.mem hc).2, ih hc]
  | @answer cs st₁ d ns' owner' q' h hd htd ho noted ih =>
    rcases List.mem_append.mp hc with hc | hc
    · have hset : st₁.state c.cell ≠ .unresolved :=
        (h.settled_iff hw (h.mem hc).1 (h.mem hc).2).mpr (.inr (List.mem_map_of_mem hc))
      have := (Progress.answer .refl hd htd ho noted : Progress p scope st₁ ([] ++ [d]) _).state_eq
        (h.mem hc).1 (h.mem hc).2 hset
      rw [this, ih hc]
    · obtain rfl := List.mem_singleton.mp hc
      obtain ⟨rfl, rfl, rfl⟩ := Test.directive.inj (ht.symm.trans htd)
      rw [Store.state_answerFirst, if_pos ⟨rfl, h.size ▸ cell_lt hw hd⟩, ho,
        ← h.consulted.declarations.satisfy p.globals, ← included_answer]
      cases (st₁.modules.answer p.globals ns q owner).1.included <;> decide

theorem mem_missed {x : String} (h : Progress p scope st cs st') (hc : c ∈ cs)
    (ht : c.test = .directive ns owner (.identifier x)) (howner : owner < st.modules.count)
    (hno : ¬ st.modules.Satisfy p.globals ns owner (.identifier x)) :
    x ∈ (st'.modules.declared owner ns).missed := by
  induction h with
  | refl => simp at hc
  | still _ hs ih =>
    rw [hs.modules]
    exact ih hc
  | @answer cs st₁ d ns' owner' q' h hd htd ho noted ih =>
    rw [Store.modules_answerFirst]
    rcases List.mem_append.mp hc with hc | hc
    · exact (Modules.consulted_answer _ _ _ _ _).missed _ _ _ (ih hc)
    · obtain rfl := List.mem_singleton.mp hc
      obtain ⟨rfl, rfl, rfl⟩ := Test.directive.inj (ht.symm.trans htd)
      refine Modules.mem_missed_answer (h.consulted.count ▸ howner) ?_
      rwa [h.consulted.declarations.satisfy]

end Progress

/-! ## Questions -/

section Questions

variable {p : Program} {ctx : Context} {scope : Option Scope} {st st' : Store}

theorem Asked.progress {qs : List (String × ConditionId)} {r : Option String}
    (h : Asked (fun _ st _ st' => p.WellFormed st.cells.size → ∃ cs, Progress p scope st cs st')
      qs st r st') (hw : p.WellFormed st.cells.size) : ∃ cs, Progress p scope st cs st' := by
  induction h with
  | done => exact ⟨[], .refl⟩
  | yes hq _ ih =>
    obtain ⟨cs, h₁⟩ := hq hw
    obtain ⟨ds, h₂⟩ := ih (h₁.size ▸ hw)
    exact ⟨cs ++ ds, h₁.trans h₂⟩
  | no hq => exact hq hw

/-- **A question is a progress.** -/
theorem resolveAt_progress {room : Nat} {id : ConditionId} {symbol : Option SymbolId} {b : Bool}
    (h : p.resolveAt ctx room id scope symbol st = some (b, st'))
    (hw : p.WellFormed st.cells.size) : ∃ cs, Progress p scope st cs st' := by
  refine resolveAt_induction (R := fun _ _ scope st _ st' => p.WellFormed st.cells.size →
    ∃ cs, Progress p scope st cs st') ?_ ?_ ?_ ?_ ?_ h hw
  · intro _ _ _ _ _ _
    exact ⟨[], .refl⟩
  · intro _ _ _ _ _ _ _ _
    exact ⟨[], .refl⟩
  · intro _ _ scope st c ns owner q st' hc ho ht hst _
    rw [hst]
    exact ⟨[c], Progress.refl.answer (Array.mem_of_getElem? hc) ht ho scope⟩
  · intro _ _ _ st c e v f st' hc _ ht _ hst hw
    have hreport : Still p st (st.report ctx c.source f.message) :=
      still_reportAny (some (c.source, f))
    rw [hst]
    exact ⟨[], Progress.refl.still (hreport.trans (still_close (hreport.size ▸ hw) hc ht v))⟩
  · intro room _ s symbol st c e r st₂ k st' hc _ ht _ ha _ hst hw
    have henter : Still p st (st.enter c.cell (s.child symbol) (ctx.limits.depth - room)) :=
      still_enter _ _ _
    obtain ⟨cs, hasked⟩ := (ha.imp fun _ _ _ _ hq => hq.2).progress (henter.size ▸ hw)
    have hleave : Still p st₂
        ((st₂.leave c.cell (ctx.limits.depth - room)).reportAny ctx k.fault) :=
      (still_leave _ _).trans (still_reportAny _)
    have hw₂ : p.WellFormed st₂.cells.size := by rwa [hasked.size, henter.size]
    rw [hst]
    refine ⟨[] ++ cs, ((Progress.refl.still henter).trans hasked.of_child).still ?_⟩
    exact hleave.trans (still_close (hleave.size ▸ hw₂) hc ht k.verdict)

theorem settled_of_directive {room : Nat} {id : ConditionId} {symbol : Option SymbolId} {b : Bool}
    (h : p.resolveAt ctx room id scope symbol st = some (b, st'))
    (hw : p.WellFormed st.cells.size) {c : Condition} (hc : p.conditions[id]? = some c)
    {ns : Namespace} {owner : ModuleId} {q : Query} (ht : c.test = .directive ns owner q) :
    st'.state c.cell ≠ .unresolved := by
  rw [Program.resolveAt_eq] at h
  by_cases ho : st.state c.cell = .unresolved
  · rw [resolveWith_directive hc ho ht] at h
    cases h
    rw [Store.state_settle, if_pos ⟨rfl, by simpa using hw.cell_lt hc⟩]
    exact settle_ne_unresolved _ _
  · rw [resolveWith_settled hc ho] at h
    cases h
    exact ho

end Questions

namespace Session

variable {s s' : Session} {q : Inquiry} {r : Resolution}

theorem still_holding (s : Session) (q : Inquiry) : Still s.program s.store (s.holding q) where
  modules := s.modules_holding
  log := s.log_holding
  answered := by rw [Store.answered, journal_holding, Store.answered]
  size := s.size_holding
  state c _ _ := s.state_holding c.cell

theorem still_freeing (s : Session) (q : Inquiry) (after : Store) :
    Still s.program after (s.freeing q after) where
  modules := s.modules_freeing
  log := s.log_freeing
  answered := by rw [Store.answered, journal_freeing, Store.answered]
  size := s.size_freeing
  state c _ _ := s.state_freeing c.cell

/-- **An inquiry is a progress** in the scope that it is made in. -/
theorem inquire_progress (hw : s.program.WellFormed s.store.cells.size)
    (h : s.inquire q = some (r, s')) :
    s'.program = s.program ∧ ∃ cs, Progress s.program q.scope s.store cs s'.store := by
  obtain ⟨c, b, after, _, hres, _, rfl⟩ := inquire_eq_some h
  have hhold := s.still_holding q
  obtain ⟨cs, hp⟩ := resolveAt_progress hres (hhold.size ▸ hw)
  refine ⟨rfl, [] ++ cs, ?_⟩
  exact ((Progress.refl.still hhold).trans hp).still (s.still_freeing q after)

/-- The directives that a step answered for the first time, in order. -/
def answeredSince (s s' : Session) : List Condition :=
  s'.store.answered.drop s.store.answered.length

theorem answeredSince_eq {scope : Option Scope} {cs : List Condition}
    (h : Progress s.program scope s.store cs s'.store) : s.answeredSince s' = cs := by
  rw [answeredSince, h.answered, List.drop_left]

/-- An inquiry about a directive returns what the directive remembers from then on. -/
theorem inquire_directive (hw : s.program.WellFormed s.store.cells.size)
    (h : s.inquire q = some (r, s')) {c : Condition}
    (hc : s.program.conditions[q.condition]? = some c) (hd : c.IsDirective) :
    s'.stateOf c ≠ .unresolved ∧ r.included = (s'.stateOf c).isIncluded := by
  obtain ⟨ns, owner, query, ht⟩ := hd
  obtain ⟨d, b, after, _, hres, rfl, rfl⟩ := inquire_eq_some h
  have hb : b = (s.program.stateIn after q.condition).isIncluded := answer_eq hres
  rw [stateOf_eq, state_freeing]
  refine ⟨?_, by rw [resolution, hb, stateIn_eq hc]⟩
  exact settled_of_directive hres ((s.still_holding q).size ▸ hw) hc ht

end Session

end CondComp
