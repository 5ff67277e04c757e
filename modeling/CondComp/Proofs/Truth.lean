import CondComp.Proofs.InFlight

/-!
# When conditions hold

* `Modules.Satisfy`: what the tables say to the query of a directive;
* `Holds`: the least set of conditions that hold: directives whose query is satisfied, and
  `static if`s whose names are declared under guards that hold and whose expression is true;
* **`holds_staticIf`**: a `static if` holds if and only if its agenda ends with a truth value, all
  questions on it hold, and the value is true;
* **`not_holds_of_mem`**: conditions that wait for each other do not hold.
-/

namespace CondComp

/-! ## Directives -/

/-- The tables satisfy a query of a module: it or the build defines the identifier, or the level is
at most the global one or at most the module's. -/
def Modules.Satisfy (ms : Modules) (g : Globals) (ns : Namespace) (owner : ModuleId) : Query → Prop
  | .identifier x => x ∈ (ms.declared owner ns).defined ∨ x ∈ (g.get ns).identifiers
  | .level n => n ≤ (g.get ns).level ∨ n ≤ (ms.declared owner ns).level

theorem included_answer (ms : Modules) (g : Globals) (ns : Namespace) (q : Query)
    (owner : ModuleId) :
    (ms.answer g ns q owner).1.included = true ↔ ms.Satisfy g ns owner q := by
  cases q with
  | level n => simp [Modules.answer, Modules.levelHolds, Declared.levelHolds, Modules.Satisfy]
  | identifier x =>
    simp only [Modules.answer, Modules.lookup, Modules.Satisfy]
    unfold Declared.lookup Declared.definition
    by_cases hd : x ∈ (ms.declared owner ns).defined
    · simp [hd, Definition.isDefined]
    · by_cases hg : x ∈ (g.get ns).identifiers
      · simp [hd, hg, Definition.isDefined]
      · simp [hd, hg, Definition.isDefined]

theorem Modules.SameDeclarations.satisfy {ms ms' : Modules} (h : ms.SameDeclarations ms')
    (g : Globals) (ns : Namespace) (owner : ModuleId) (q : Query) :
    ms'.Satisfy g ns owner q ↔ ms.Satisfy g ns owner q := by
  obtain ⟨hd, hl⟩ := h owner ns
  cases q with
  | level n => rw [Satisfy, Satisfy, hl]
  | identifier x => rw [Satisfy, Satisfy, hd]

/-! ## Conditions that hold -/

/-- The least set of conditions that hold. -/
inductive Holds (p : Program) (ms : Modules) : ConditionId → Prop
  | directive {id : ConditionId} {c : Condition} {ns : Namespace} {owner : ModuleId} {q : Query}
      (hc : p.conditions[id]? = some c) (ht : c.test = .directive ns owner q)
      (hq : ms.Satisfy p.globals ns owner q) : Holds p ms id
  | staticIf {id : ConditionId} {c : Condition} {e : Expr} (hc : p.conditions[id]? = some c)
      (ht : c.test = .staticIf e)
      (hd : ∀ x, Reaches p.decls e x → ∃ d, firstDecl? p.decls x = some d)
      (hg : ∀ x d g, Reaches p.decls e x → firstDecl? p.decls x = some d → d.guard = some g →
        Holds p ms g)
      (hty : HasType p.decls e .bool) (hv : e.eval p.decls = some (.bool true)) : Holds p ms id

section Holds

variable {p : Program} {ms : Modules} {id : ConditionId} {c : Condition}

theorem holds_directive {ns : Namespace} {owner : ModuleId} {q : Query}
    (hc : p.conditions[id]? = some c) (ht : c.test = .directive ns owner q) :
    Holds p ms id ↔ ms.Satisfy p.globals ns owner q := by
  constructor
  · intro h
    cases h with
    | directive hd htd hq =>
      obtain rfl := Option.some.inj (hc.symm.trans hd)
      rw [ht] at htd
      cases htd
      exact hq
    | staticIf hd htd => exact absurd ht (not_directive_of_staticIf hd htd hc)
  · exact .directive hc ht

/-- **A `static if` holds if and only if its agenda ends with a truth value, all questions on it
hold, and the value is true.** -/
theorem holds_staticIf (hac : NamesAcyclic p.decls) {e : Expr} (hc : p.conditions[id]? = some c)
    (ht : c.test = .staticIf e) : Holds p ms id ↔
      (e.agenda p.decls).finding = .typed .bool ∧
        (∀ q ∈ (e.agenda p.decls).questions, Holds p ms q.2) ∧
        e.eval p.decls = some (.bool true) := by
  constructor
  · intro h
    cases h with
    | directive hd htd => exact absurd htd (not_directive_of_staticIf hc ht hd)
    | staticIf hd htd _ hg hty hv =>
      obtain ⟨rfl, rfl⟩ := eq_of_staticIf hc ht hd htd
      refine ⟨(typed_iff hac).mpr hty, fun q hq => ?_, hv⟩
      obtain ⟨hx, d, hfirst, hguard⟩ := reaches_of_mem hq
      exact hg _ d _ hx hfirst hguard
  · rintro ⟨hf, hq, hv⟩
    refine .staticIf hc ht (fun x hx => ?_) (fun x d g hx hd hguard => ?_)
      ((typed_iff hac).mp hf) hv
    · obtain ⟨d, hd, _⟩ := exists_decl_of_reaches hx hf
      exact ⟨d, hd⟩
    · obtain ⟨d', hd', hmem⟩ := exists_decl_of_reaches hx hf
      obtain rfl := Option.some.inj (hd.symm.trans hd')
      exact hq _ (hmem g hguard)

/-- **Conditions that wait for each other do not hold.** -/
theorem not_holds_of_mem {frames : List ConditionId}
    (h : ∀ X ∈ frames, ∃ Y ∈ frames, p.Asks X Y) (hid : id ∈ frames) : ¬ Holds p ms id := by
  intro hholds
  induction hholds with
  | @directive id c ns owner q hc ht _ =>
    obtain ⟨Y, _, d, e, x, hd, hte, _⟩ := h id hid
    exact absurd ht (not_directive_of_staticIf hd hte hc)
  | @staticIf id c e hc ht _ _ _ _ ih =>
    obtain ⟨Y, hY, d, e', x, hd, hte, hq⟩ := h id hid
    obtain ⟨rfl, rfl⟩ := eq_of_staticIf hc ht hd hte
    obtain ⟨hx, d', hfirst, hguard⟩ := reaches_of_mem hq
    exact ih x d' Y hx hfirst hguard hY

end Holds

end CondComp
