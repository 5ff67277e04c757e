import CondComp.Proofs.Reservation

/-!
# The history of the tables

What a module declares, and what it remembers to have been asked about in vain, is the history of
the questions and declarations that concern it: nothing is lost, and nothing else gets in.

* `Deed`: what is done to one table; `Act`: a deed done to the table of a module in a namespace;
* `Declared.Chronicle`: deeds that lead from a table to another; `Modules.Chronicle`: acts;
* `Declared.Recounts`: what is known of a table that deeds lead to; **`Chronicle.recounts`**;
* `Session.history`: the observer who sees all acts; **`chronicle_perform`**: the acts of a step;
* **`tables_recount`**: the tables of a compilation recount its history.
-/

namespace CondComp

/-! ## Deeds -/

/-- What is done to a table. -/
inductive Deed
  /-- An identifier was declared. -/
  | declared (x : String)
  /-- An identifier was asked about in vain. -/
  | missed (x : String)
  /-- A level was declared. -/
  | raised (n : Nat)
  deriving DecidableEq, Repr

namespace Deed

/-- The identifier that was declared. -/
def declared? : Deed → Option String
  | declared x => some x
  | _ => none

/-- The identifier that was asked about in vain. -/
def missed? : Deed → Option String
  | missed x => some x
  | _ => none

/-- The level that was declared. -/
def raised? : Deed → Option Nat
  | raised n => some n
  | _ => none

/-- What a module that is asked does: it remembers an identifier that is not defined. -/
def ofAnswer : Query → Bool → List Deed
  | .identifier x, false => [missed x]
  | _, _ => []

end Deed

theorem filterMap_concat_none {α β : Type} {f : α → Option β} {a : α} (h : f a = none)
    (as : List α) : (as ++ [a]).filterMap f = as.filterMap f := by
  rw [List.filterMap_append, List.filterMap_cons_none h, List.filterMap_nil, List.append_nil]

namespace Declared

/-- Deeds, in order, that lead from a table to another. A declaration is neither reserved nor was it
asked about in vain, and what is asked about in vain is defined nowhere. -/
inductive Chronicle (g : GlobalNames) (ns : Namespace) (d : Declared) : List Deed → Declared → Prop
  | start : Chronicle g ns d [] d
  | declared {deeds : List Deed} {d' : Declared} {x : String} (h : Chronicle g ns d deeds d')
      (hr : isReserved ns x = false) (hm : x ∉ d'.missed) :
      Chronicle g ns d (deeds ++ [.declared x]) (d'.define x)
  | missed {deeds : List Deed} {d' : Declared} {x : String} (h : Chronicle g ns d deeds d')
      (hd : x ∉ d'.defined) (hg : x ∉ g.identifiers) :
      Chronicle g ns d (deeds ++ [.missed x]) (d'.miss x)
  | raised {deeds : List Deed} {d' : Declared} (h : Chronicle g ns d deeds d') (n : Nat) :
      Chronicle g ns d (deeds ++ [.raised n]) (d'.raiseLevel n)

/-- The table is what deeds make of an empty one. Each list of names is that of the deeds, without
repetition and in order of the first. -/
structure Recounts (d : Declared) (g : GlobalNames) (ns : Namespace) (deeds : List Deed) :
    Prop where
  defined : d.defined.toList = (deeds.filterMap Deed.declared?).eraseDups
  missed : d.missed.toList = (deeds.filterMap Deed.missed?).eraseDups
  level : d.level = (deeds.filterMap Deed.raised?).foldl max 0
  nodup_defined : d.defined.toList.Nodup
  nodup_missed : d.missed.toList.Nodup
  disjoint : ∀ x ∈ d.missed, x ∉ d.defined
  not_global : ∀ x ∈ d.missed, x ∉ g.identifiers
  unreserved : ∀ x ∈ d.defined, isReserved ns x = false

variable {g : GlobalNames} {ns : Namespace} {d d₁ d' : Declared} {deeds more : List Deed}

theorem Chronicle.trans (h : d.Chronicle g ns deeds d₁) (h' : d₁.Chronicle g ns more d') :
    d.Chronicle g ns (deeds ++ more) d' := by
  induction h' with
  | start =>
    rw [List.append_nil]
    exact h
  | declared _ hr hm ih =>
    rw [← List.append_assoc]
    exact ih.declared hr hm
  | missed _ hd hg ih =>
    rw [← List.append_assoc]
    exact ih.missed hd hg
  | raised _ n ih =>
    rw [← List.append_assoc]
    exact ih.raised n

/-- A question leaves a table alone, or adds to what was asked about in vain. -/
theorem chronicle_lookup (d : Declared) (g : GlobalNames) (ns : Namespace) (x : String) :
    d.Chronicle g ns (Deed.ofAnswer (.identifier x) (d.lookup g x).1.isDefined)
      (d.lookup g x).2 := by
  unfold lookup definition
  by_cases hd : x ∈ d.defined
  · simpa [hd, Definition.isDefined, Deed.ofAnswer] using Chronicle.start
  · by_cases hg : x ∈ g.identifiers
    · simpa [hd, hg, Definition.isDefined, Deed.ofAnswer] using Chronicle.start
    · simpa [hd, hg, Definition.isDefined, Deed.ofAnswer] using Chronicle.start.missed hd hg

theorem recounts_empty (g : GlobalNames) (ns : Namespace) : Recounts {} g ns [] := by
  refine ⟨rfl, rfl, rfl, .nil, .nil, ?_, ?_, ?_⟩ <;>
    simp [IdentifierSet.mem_iff, IdentifierSet.empty]

namespace Recounts

variable {x : String}

theorem declared (h : d.Recounts g ns deeds) (hr : isReserved ns x = false) (hm : x ∉ d.missed) :
    (d.define x).Recounts g ns (deeds ++ [.declared x]) where
  defined := by
    rw [List.filterMap_append]
    exact IdentifierSet.toList_insert_of_eraseDups h.defined x
  missed := by
    rw [filterMap_concat_none rfl]
    exact h.missed
  level := by
    rw [filterMap_concat_none rfl]
    exact h.level
  nodup_defined := IdentifierSet.nodup_insert h.nodup_defined x
  nodup_missed := h.nodup_missed
  disjoint y hy hd := by
    rcases IdentifierSet.mem_insert.mp hd with hd | rfl
    · exact h.disjoint y hy hd
    · exact hm hy
  not_global := h.not_global
  unreserved y hy := by
    rcases IdentifierSet.mem_insert.mp hy with hy | rfl
    · exact h.unreserved y hy
    · exact hr

theorem missed_in_vain (h : d.Recounts g ns deeds) (hd : x ∉ d.defined) (hg : x ∉ g.identifiers) :
    (d.miss x).Recounts g ns (deeds ++ [.missed x]) where
  defined := by
    rw [filterMap_concat_none rfl]
    exact h.defined
  missed := by
    rw [List.filterMap_append]
    exact IdentifierSet.toList_insert_of_eraseDups h.missed x
  level := by
    rw [filterMap_concat_none rfl]
    exact h.level
  nodup_defined := h.nodup_defined
  nodup_missed := IdentifierSet.nodup_insert h.nodup_missed x
  disjoint y hy := by
    rcases IdentifierSet.mem_insert.mp hy with hy | rfl
    · exact h.disjoint y hy
    · exact hd
  not_global y hy := by
    rcases IdentifierSet.mem_insert.mp hy with hy | rfl
    · exact h.not_global y hy
    · exact hg
  unreserved := h.unreserved

theorem raised (h : d.Recounts g ns deeds) (n : Nat) :
    (d.raiseLevel n).Recounts g ns (deeds ++ [.raised n]) where
  defined := by
    rw [filterMap_concat_none rfl]
    exact h.defined
  missed := by
    rw [filterMap_concat_none rfl]
    exact h.missed
  level := by
    rw [List.filterMap_append, List.foldl_append, ← h.level]
    rfl
  nodup_defined := h.nodup_defined
  nodup_missed := h.nodup_missed
  disjoint := h.disjoint
  not_global := h.not_global
  unreserved := h.unreserved

end Recounts

/-- **A table recounts the deeds that led to it.** -/
theorem Chronicle.recounts (h : Chronicle g ns {} deeds d) : d.Recounts g ns deeds := by
  induction h with
  | start => exact recounts_empty g ns
  | declared _ hr hm ih => exact ih.declared hr hm
  | missed _ hd hg ih => exact ih.missed_in_vain hd hg
  | raised _ n ih => exact ih.raised n

end Declared

/-! ## Acts -/

/-- A deed done to the table of a module in a namespace. -/
structure Act where
  owner : ModuleId
  ns : Namespace
  deed : Deed
  deriving DecidableEq, Repr

/-- The deed, if it is done to a given table. -/
def Act.deedOn? (m : ModuleId) (ns : Namespace) (a : Act) : Option Deed :=
  if a.owner = m ∧ a.ns = ns then some a.deed else none

/-- What a module that is asked about a namespace does. -/
def Act.ofAnswer (ns : Namespace) (owner : ModuleId) (q : Query) (b : Bool) : List Act :=
  (Deed.ofAnswer q b).map (Act.mk owner ns)

/-- The deeds done to one table. -/
def deedsOn (m : ModuleId) (ns : Namespace) (acts : List Act) : List Deed :=
  acts.filterMap (Act.deedOn? m ns)

theorem deedsOn_map_mk (m m' : ModuleId) (ns ns' : Namespace) (deeds : List Deed) :
    deedsOn m' ns' (deeds.map (Act.mk m ns)) = if m = m' ∧ ns = ns' then deeds else [] := by
  rw [deedsOn, List.filterMap_map]
  split_ifs with h
  · simp [Act.deedOn?, h]
  · simp [Function.comp_def, Act.deedOn?, h]

namespace Modules

/-- Acts, in order, that lead from modules to what they are later. -/
def Chronicle (g : Globals) (ms : Modules) (acts : List Act) (ms' : Modules) : Prop :=
  ∀ m ns, (ms.declared m ns).Chronicle (g.get ns) ns (deedsOn m ns acts) (ms'.declared m ns)

variable {g : Globals} {ms ms₁ ms' : Modules} {acts more : List Act} {m : ModuleId}
  {ns : Namespace} {x : String}

theorem Chronicle.refl (g : Globals) (ms : Modules) : ms.Chronicle g [] ms := fun _ _ => .start

theorem Chronicle.trans (h : ms.Chronicle g acts ms₁) (h' : ms₁.Chronicle g more ms') :
    ms.Chronicle g (acts ++ more) ms' := by
  intro m ns
  rw [deedsOn, List.filterMap_append]
  exact (h m ns).trans (h' m ns)

theorem chronicle_modifyDeclared {f : Declared → Declared} {deeds : List Deed}
    (hm : m < ms.count)
    (h : (ms.declared m ns).Chronicle (g.get ns) ns deeds (f (ms.declared m ns))) :
    ms.Chronicle g (deeds.map (Act.mk m ns)) (ms.modifyDeclared m ns f) := by
  intro m' ns'
  rw [declared_modifyDeclared, deedsOn_map_mk]
  by_cases hsame : m = m' ∧ ns = ns'
  · obtain ⟨rfl, rfl⟩ := hsame
    rw [if_pos ⟨rfl, rfl⟩, if_pos ⟨rfl, rfl, hm⟩]
    exact h
  · rw [if_neg hsame, if_neg fun h => hsame ⟨h.1, h.2.1.symm⟩]
    exact .start

/-- **What a question does**: an identifier that is defined nowhere is remembered. -/
theorem chronicle_answer (g : Globals) (ms : Modules) (ns : Namespace) (q : Query)
    (hm : m < ms.count) : ms.Chronicle g (Act.ofAnswer ns m q (ms.answer g ns q m).1.included)
      (ms.answer g ns q m).2 := by
  cases q with
  | level n => exact .refl g ms
  | identifier x => exact chronicle_modifyDeclared hm (Declared.chronicle_lookup _ _ ns x)

/-- **What a declaration does**, if it is accepted. -/
theorem chronicle_declare (hm : m < ms.count) (h : ms.declare m ns x = .ok ms') :
    ms.Chronicle g [⟨m, ns, .declared x⟩] ms' := by
  obtain ⟨hr, hmissed, rfl⟩ := declare_eq_ok h
  have hdeed : (ms.declared m ns).Chronicle (g.get ns) ns [.declared x]
      ((ms.declared m ns).define x) := Declared.Chronicle.start.declared hr hmissed
  exact chronicle_modifyDeclared (f := fun _ => (ms.declared m ns).define x) hm hdeed

theorem chronicle_raiseLevel (hm : m < ms.count) (n : Nat) :
    ms.Chronicle g [⟨m, ns, .raised n⟩] (ms.raiseLevel m ns n) := by
  have hdeed : (ms.declared m ns).Chronicle (g.get ns) ns [.raised n]
      ((ms.declared m ns).raiseLevel n) := Declared.Chronicle.start.raised n
  exact chronicle_modifyDeclared (f := (·.raiseLevel n)) hm hdeed

theorem chronicle_add (g : Globals) (ms : Modules) (name : String) (file : FileId) :
    ms.Chronicle g [] (ms.add { name := name, file := file }).2 := by
  intro m ns
  rw [declared_add]
  split_ifs with hm
  · have hnone : ms.declared m ns = {} := by simp [declared, get?, hm, count]
    rw [hnone, PerNamespace.get_both]
    exact .start
  · exact .start

end Modules

/-! ## First answers -/

/-- What the module of a directive does when the directive is answered. -/
def Condition.acts (c : Condition) (b : Bool) : List Act :=
  match c.test with
  | .directive ns owner q => Act.ofAnswer ns owner q b
  | .staticIf _ => []

/-- The directives of the program stand in modules that exist. -/
def Program.Housed (p : Program) (ms : Modules) : Prop :=
  ∀ c ∈ p.conditions, ∀ ns owner q, c.test = .directive ns owner q → owner < ms.count

namespace Progress

variable {p : Program} {scope : Option Scope} {cs : List Condition} {st st' : Store}

/-- **What a progress does**: each directive that is answered with no adds to what its module was
asked about in vain, in order. -/
theorem chronicle (h : Progress p scope st cs st') (hw : p.WellFormed st.cells.size)
    (howner : p.Housed st.modules) : st.modules.Chronicle p.globals
      (cs.flatMap fun c => c.acts (st'.state c.cell).isIncluded) st'.modules := by
  induction h with
  | refl => exact .refl _ _
  | @still cs st₁ st₂ h hs ih =>
    have hsame : cs.flatMap (fun c => c.acts (st₂.state c.cell).isIncluded) =
        cs.flatMap fun c => c.acts (st₁.state c.cell).isIncluded :=
      List.flatMap_congr fun c hc => by rw [hs.state c (h.mem hc).1 (h.mem hc).2]
    rw [hsame, hs.modules]
    exact ih
  | @answer cs st₁ c ns owner q h hc ht ho noted ih =>
    have hnext : Progress p scope st₁ [c] (st₁.answerFirst p scope c ns owner q noted) :=
      Progress.refl.answer hc ht ho noted
    have hw₁ : p.WellFormed st₁.cells.size := h.size ▸ hw
    have hsame : cs.flatMap (fun d => d.acts
          ((st₁.answerFirst p scope c ns owner q noted).state d.cell).isIncluded) =
        cs.flatMap fun d => d.acts (st₁.state d.cell).isIncluded := by
      refine List.flatMap_congr fun d hd => ?_
      have hset : st₁.state d.cell ≠ .unresolved :=
        (h.settled_iff hw (h.mem hd).1 (h.mem hd).2).mpr (.inr (List.mem_map_of_mem hd))
      rw [hnext.state_eq (h.mem hd).1 (h.mem hd).2 hset]
    have hanswer : ((st₁.answerFirst p scope c ns owner q noted).state c.cell).isIncluded =
        (st₁.modules.answer p.globals ns q owner).1.included := by
      rw [Bool.eq_iff_iff, included_answer, ← hnext.state_iff hw₁ List.mem_cons_self ht]
      exact decide_eq_true_iff
    rw [List.flatMap_append, hsame, List.flatMap_singleton, hanswer, Condition.acts, ht,
      Store.modules_answerFirst]
    refine ih.trans (Modules.chronicle_answer _ _ _ _ ?_)
    exact h.consulted.count ▸ howner c hc ns owner q ht

end Progress

/-! ## Steps -/

namespace Session

variable {s s' : Session} {step : Step} {a : Answer}

/-- Who sees what plain steps in modules that exist do to the tables. -/
def history : Observer Act where
  allows := answers.allows
  sees s step a s' :=
    match step, a with
    | .lookup m ns x, .definition d => Act.ofAnswer ns m (.identifier x) d.isDefined
    | .isDefined m ns x, .truth b => Act.ofAnswer ns m (.identifier x) b
    | .declare m ns x, .accepted => [⟨m, ns, .declared x⟩]
    | .declareLevel m ns n, _ => [⟨m, ns, .raised n⟩]
    | .resolve _, _ => (s.answeredSince s').flatMap fun c => c.acts (s'.stateOf c).isIncluded
    | _, _ => []

theorem chronicle_inquire (h : s.Faithful) {q : Inquiry} {r : Resolution}
    (hi : s.inquire q = some (r, s')) : s.store.modules.Chronicle s.program.globals
      ((s.answeredSince s').flatMap fun c => c.acts (s'.stateOf c).isIncluded)
      s'.store.modules := by
  obtain ⟨_, cs, hp⟩ := inquire_progress h.wellFormed hi
  rw [answeredSince_eq hp]
  exact hp.chronicle h.wellFormed h.owner_lt

/-- **What a step does to the tables.** -/
theorem chronicle_perform (h : s.Faithful) (ha : history.allows s step = true)
    (hp : s.perform step = some (a, s')) : s.store.modules.Chronicle s.program.globals
      (history.sees s step a s') s'.store.modules := by
  obtain ⟨hplain, hmodule⟩ := Bool.and_eq_true_iff.mp ha
  cases step with
  | request | predefine | setGlobalLevel | define | settle => cases hplain
  | globals | isGlobal | levelHolds | reportError | inspectLog | states | addDecl | addDirective
  | addStaticIf =>
    cases hp
    exact .refl _ _
  | addModule name path =>
    cases hp
    exact Modules.chronicle_add _ _ _ _
  | lookup m ns x | isDefined m ns x =>
    cases hp
    exact Modules.chronicle_answer _ _ ns (.identifier x) (by simpa [Step.module?] using hmodule)
  | declare m ns x =>
    rw [perform] at hp
    split at hp
    · cases hp
      exact .refl _ _
    · next hd =>
      cases hp
      exact Modules.chronicle_declare (by simpa [Step.module?] using hmodule) hd
  | declareLevel m ns n =>
    cases hp
    exact Modules.chronicle_raiseLevel (by simpa [Step.module?] using hmodule) n
  | inspectModule | inspectCondition =>
    obtain ⟨_, _, hp⟩ := Option.bind_eq_some_iff.mp hp
    cases hp
    exact .refl _ _
  | copy c =>
    obtain ⟨c, _, hp⟩ := Option.bind_eq_some_iff.mp hp
    cases hp
    split
    · exact .refl _ _
    · exact .refl _ _
  | hold c | free c =>
    obtain ⟨cells, rfl⟩ := cells_of_guard (c := c) (by simp) hp
    exact .refl _ _
  | resolve q =>
    obtain ⟨r, rfl, hi⟩ := inquire_of_perform hp
    exact chronicle_inquire h hi

/-! ## Compilations -/

/-- What is known of a compilation under given settings from the acts seen. -/
structure Chronicled (g : Globals) (acts : List Act) (s : Session) : Prop where
  faithful : s.Faithful
  globals : s.program.globals = g
  chronicle : ∀ m ns, Declared.Chronicle (g.get ns) ns {} (deedsOn m ns acts)
    (s.store.modules.declared m ns)

theorem chronicled_observe {g : Globals} (hs : s.IsFresh g) {steps : List Step} {acts : List Act}
    (h : observe history steps s = some (acts, s')) : Chronicled g acts s' := by
  have hstart : Chronicled g [] s := by
    refine ⟨faithful_start hs.conditions, hs.globals, fun m ns => ?_⟩
    rw [hs.declared]
    exact .start
  have hnext : ∀ acts s step a s', Chronicled g acts s → history.allows s step = true →
      s.perform step = some (a, s') → Chronicled g (acts ++ history.sees s step a s') s' := by
    intro acts s step a s' hc ha hp
    obtain ⟨hplain, _⟩ := Bool.and_eq_true_iff.mp ha
    have hglobals := (grown_perform hc.faithful.wellFormed hplain hp).2
    refine ⟨faithful_perform hc.faithful ha hp, hglobals.trans hc.globals, fun m ns => ?_⟩
    have hstep := chronicle_perform hc.faithful ha hp m ns
    rw [hc.globals] at hstep
    rw [deedsOn, List.filterMap_append]
    exact (hc.chronicle m ns).trans hstep
  have hrun : Chronicled g ([] ++ acts) s' := observe_induction hnext h hstart
  exact hrun

/-- **The tables of a compilation recount its history**: what was declared and what was asked about
in vain, once and in order, and the greatest level. -/
theorem tables_recount {g : Globals} (hs : s.IsFresh g) {steps : List Step} {acts : List Act}
    (h : observe history steps s = some (acts, s')) :
    (∀ m ns, (s'.store.modules.declared m ns).Recounts (g.get ns) ns (deedsOn m ns acts)) ∧
    ∀ m ns x e s'', s'.perform (.declare m ns x) = some (.refusedDeclaration e, s'') →
      s'' = s' := by
  refine ⟨fun m ns => ((chronicled_observe hs h).chronicle m ns).recounts, ?_⟩
  intro m ns x e s'' hp
  rw [perform] at hp
  split at hp
  · cases hp
    rfl
  · cases hp

/-- In the quarrel about `A`, the module misses it twice and its declaration is refused; what it
declares is `B` and a level. -/
theorem tables_recount_quarrel : ∃ acts s',
    observe history quarrelSteps ((start .disabled {}).withGlobals
      (Globals.empty.predefine "B")) = some (acts, s') ∧
    acts = [⟨0, .version, .missed "A"⟩, ⟨0, .version, .missed "A"⟩, ⟨0, .version, .declared "B"⟩,
      ⟨0, .debug, .raised 3⟩] ∧
    (s'.store.modules.declared 0 .version).missed.toList = ["A"] ∧
    (s'.store.modules.declared 0 .version).defined.toList = ["B"] ∧
    (s'.store.modules.declared 0 .debug).level = 3 := by
  have hrun : (observe history quarrelSteps ((start .disabled {}).withGlobals
      (Globals.empty.predefine "B"))).map Prod.fst =
      some [⟨0, .version, .missed "A"⟩, ⟨0, .version, .missed "A"⟩,
        ⟨0, .version, .declared "B"⟩, ⟨0, .debug, .raised 3⟩] := by decide +kernel
  obtain ⟨⟨acts, s'⟩, h, rfl⟩ := Option.map_eq_some_iff.mp hrun
  obtain ⟨hrecount, _⟩ := tables_recount ⟨rfl, rfl, fun _ _ => rfl⟩ h
  exact ⟨_, s', h, rfl, (hrecount 0 .version).missed, (hrecount 0 .version).defined,
    (hrecount 0 .debug).level⟩

end Session

end CondComp
