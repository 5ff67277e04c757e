import CondComp.Proofs.Effects

/-!
# What an answer logs

* `Modules.label?`: the name and the file of a module, which no answer changes;
* `Modules.Declares`: the module itself declares what a query asks about;
* `Dependency.ofAnswer?`: the dependency that the answer to a directive logs;
* **`log_answer`**: an answer adds this dependency to the log, and nothing else.
-/

namespace CondComp

/-! ## Modules -/

namespace Modules

variable (ms : Modules)

/-- The name and the file of a module. -/
def label? (m : ModuleId) : Option (String × FileId) :=
  (ms.get? m).map fun entry => (entry.name, entry.file)

@[simp] theorem label?_modifyDeclared (m m' : ModuleId) (ns : Namespace)
    (f : Declared → Declared) : (ms.modifyDeclared m ns f).label? m' = ms.label? m' := by
  simp only [label?, get?, modifyDeclared, Array.getElem?_modify]
  split_ifs
  · simp [Function.comp_def]
  · rfl

theorem declared_modifyDeclared (m m' : ModuleId) (ns ns' : Namespace) (f : Declared → Declared) :
    (ms.modifyDeclared m ns f).declared m' ns' =
      if m = m' ∧ ns' = ns ∧ m < ms.count then f (ms.declared m ns) else ms.declared m' ns' := by
  simp only [declared, get?, modifyDeclared, count, Array.getElem?_modify]
  by_cases h : m = m'
  · subst h
    by_cases hm : m < ms.entries.size <;> by_cases hn : ns' = ns <;> simp [hm, hn]
  · simp [h]

@[simp] theorem label?_setDeclared (m m' : ModuleId) (ns : Namespace) (d : Declared) :
    (ms.setDeclared m ns d).label? m' = ms.label? m' := ms.label?_modifyDeclared m m' ns _

@[simp] theorem count_modifyDeclared (m : ModuleId) (ns : Namespace) (f : Declared → Declared) :
    (ms.modifyDeclared m ns f).count = ms.count := Array.size_modify

@[simp] theorem count_setDeclared (m : ModuleId) (ns : Namespace) (d : Declared) :
    (ms.setDeclared m ns d).count = ms.count := ms.count_modifyDeclared m ns _

variable (g : Globals) (ns : Namespace) (q : Query) (owner : ModuleId)

@[simp] theorem label?_answer (m : ModuleId) :
    (ms.answer g ns q owner).2.label? m = ms.label? m := by
  cases q with
  | level n => rfl
  | identifier x => exact ms.label?_setDeclared owner m ns _

@[simp] theorem count_answer : (ms.answer g ns q owner).2.count = ms.count := by
  cases q with
  | level n => rfl
  | identifier x => exact ms.count_setDeclared owner ns _

/-- The module itself declares the identifier that is asked about. -/
def Declares (ns : Namespace) (owner : ModuleId) : Query → Prop
  | .identifier x => x ∈ (ms.declared owner ns).defined
  | .level _ => False

instance : Decidable (ms.Declares ns owner q) :=
  match q with
  | .identifier x => inferInstanceAs (Decidable (x ∈ (ms.declared owner ns).defined))
  | .level _ => inferInstanceAs (Decidable False)

theorem ownDefinition_answer :
    (ms.answer g ns q owner).1.ownDefinition = true ↔ ms.Declares ns owner q := by
  cases q with
  | level n => simp [answer, Declares]
  | identifier x =>
    simp only [answer, lookup, Declared.lookup, Declared.definition, Declares]
    by_cases hd : x ∈ (ms.declared owner ns).defined
    · simp [hd]
    · by_cases hg : x ∈ (g.get ns).identifiers
      · simp [hd, hg]
      · simp [hd, hg]

end Modules

/-! ## Dependencies -/

theorem Query.isLogged_eq_false_iff (ns : Namespace) (q : Query) : q.isLogged ns = false ↔
    ns = .version ∧
      q.identifier?.any (fun x => isReservedVersion x || isTestingVersion x) = true := by
  cases q with
  | level n => simp [isLogged, identifier?]
  | identifier x => cases hx : isReservedVersion x <;> simp [isLogged, identifier?, hx]

section Dependency

variable (fs : Files) (ms : Modules) (scope : Option Scope) (ns : Namespace) (owner : ModuleId)
  (q : Query)

theorem Dependency.ofDirective?_eq : Dependency.ofDirective? fs ms scope ns owner q =
    (Scope.referencing? owner scope).bind fun m =>
      (ms.label? m).map fun l => ⟨ns, l.1, fs.shown l.2, q⟩ := by
  unfold Dependency.ofDirective?
  cases Scope.referencing? owner scope with
  | none => rfl
  | some m =>
    simp only [Option.bind_eq_bind, Option.bind_some, Modules.label?, Option.map_map]
    cases ms.get? m <;> rfl

/-- The dependency that the answer to a directive of module `owner` logs: none if the module itself
declares the identifier or if the query is not logged. -/
def Dependency.ofAnswer? : Option Dependency :=
  if ms.Declares ns owner q ∨ q.isLogged ns = false then none
  else Dependency.ofDirective? fs ms scope ns owner q

/-- Adds the dependencies of a list to a log. -/
def DependencyLog.recordAll (log : DependencyLog) (ds : List Dependency) : DependencyLog :=
  ds.foldl record log

theorem DependencyLog.recordAll_append (log : DependencyLog) (ds es : List Dependency) :
    log.recordAll (ds ++ es) = (log.recordAll ds).recordAll es := List.foldl_append

theorem DependencyLog.recordAll_eq (log : DependencyLog) (ds : List Dependency) :
    log.recordAll ds =
      if log.enabled = true then { log with records := log.records ++ ds } else log := by
  induction ds generalizing log with
  | nil => simp [recordAll]
  | cons d ds ih =>
    rw [recordAll, List.foldl_cons, ← recordAll, ih, record]
    by_cases h : log.enabled = true
    · simp [h]
    · simp [h]

end Dependency

/-- **An answer adds its dependency to the log, and nothing else.** -/
theorem Store.log_answer (st : Store) (p : Program) (scope : Option Scope) (ns : Namespace)
    (owner : ModuleId) (q : Query) : (st.answer p scope ns owner q).2.log =
      st.log.recordAll (Dependency.ofAnswer? p.files st.modules scope ns owner q).toList := by
  have hown := st.modules.ownDefinition_answer p.globals ns q owner
  have hdep : Dependency.ofDirective? p.files (st.modules.answer p.globals ns q owner).2 scope ns
      owner q = Dependency.ofDirective? p.files st.modules scope ns owner q := by
    simp [Dependency.ofDirective?_eq]
  simp only [answer, Dependency.ofAnswer?, logDependency, hdep]
  by_cases hd : st.modules.Declares ns owner q
  · simp [hd, hown.mpr hd, DependencyLog.recordAll]
  · have hno : (st.modules.answer p.globals ns q owner).1.ownDefinition = false := by
      simpa [hd] using hown
    cases hl : q.isLogged ns with
    | false => simp [DependencyLog.recordAll]
    | true =>
      simp only [hno, hd, Bool.not_false, Bool.and_self, if_true, Bool.true_eq_false, or_self,
        if_false]
      cases Dependency.ofDirective? p.files st.modules scope ns owner q <;> rfl

end CondComp
