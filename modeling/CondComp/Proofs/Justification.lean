import CondComp.Proofs.Reachable

/-!
# Inclusions are justified

* `Justified`: a condition is included for a reason, which rests on no circle: the guards that its
  expression needs are justified in turn;
* **`resolveAt_justified`**: a question includes conditions that are justified only;
* **`Reachable.justified`**: so does every session in which no condition is settled from outside;
* `Program.GuardedBy`, `Session.RestsOn`: an included `static if` reaches a name that another one
  guards; **`inclusion_grounded`**.
-/

namespace CondComp

/-- A condition is included for a reason. -/
inductive Justified (p : Program) (st : Store) : ConditionId → Prop
  | directive {id : ConditionId} {c : Condition} {ns : Namespace} {owner : ModuleId} {q : Query}
      (hc : p.conditions[id]? = some c) (ht : c.test = .directive ns owner q)
      (hi : st.state c.cell = .included) : Justified p st id
  | staticIf {id : ConditionId} {c : Condition} {e : Expr} (hc : p.conditions[id]? = some c)
      (ht : c.test = .staticIf e) (hi : st.state c.cell = .included)
      (hf : (e.agenda p.decls).finding = .typed .bool)
      (hq : ∀ q ∈ (e.agenda p.decls).questions, Justified p st q.2)
      (hv : e.eval p.decls = some (.bool true)) : Justified p st id

/-- Every inclusion has a reason. -/
def AllJustified (p : Program) (st : Store) : Prop :=
  ∀ id, p.stateIn st id = .included → Justified p st id

section Questions

variable {p : Program} {ctx : Context} {st st' : Store}

theorem Justified.mono {p' : Program} (ds : List Decl)
    (hc : ∀ (id : ConditionId) (c : Condition), p.conditions[id]? = some c →
      p'.conditions[id]? = some c)
    (hd : p'.decls = p.decls ++ ds)
    (hs : ∀ (id : ConditionId) (c : Condition), p.conditions[id]? = some c →
      st.state c.cell = .included → st'.state c.cell = .included)
    {id : ConditionId} (h : Justified p st id) : Justified p' st' id := by
  induction h with
  | directive hid ht hi => exact .directive (hc _ _ hid) ht (hs _ _ hid hi)
  | staticIf hid ht hi hf _ hv ih =>
    have ha := agenda_append ds hf
    rw [← hd] at ha
    refine .staticIf (hc _ _ hid) ht (hs _ _ hid hi) (by rw [ha, hf]) (by rwa [ha]) ?_
    rw [hd]
    exact eval_append ds hv

theorem Justified.later {id : ConditionId} (h : Justified p st id)
    (hs : ∀ X, p.stateIn st X = .included → p.stateIn st' X = .included) :
    Justified p st' id := by
  refine h.mono [] (fun _ _ hc => hc) (by simp) fun id c hc hi => ?_
  rw [← stateIn_eq hc] at hi ⊢
  exact hs id hi

theorem Justified.included {id : ConditionId} (h : Justified p st id) :
    p.stateIn st id = .included := by
  cases h with
  | directive hc _ hi | staticIf hc _ hi => rw [stateIn_eq hc, hi]

theorem AllJustified.of_eq (h : AllJustified p st) (hs : ∀ i, st'.state i = st.state i) :
    AllJustified p st' := by
  intro id hi
  rw [stateIn_congr hs] at hi
  exact (h id hi).later fun X hX => by rwa [stateIn_congr hs]

theorem asked_justified {qs : List (String × ConditionId)} {r : Option String}
    (h : Asked (fun _ st _ st' => Later st st' ∧
      (p.WellFormed st.cells.size → AllJustified p st → AllJustified p st')) qs st r st')
    (hw : p.WellFormed st.cells.size) (hj : AllJustified p st) : AllJustified p st' :=
  h.preserves hw hj

/-- An evaluation that ends with a value keeps inclusions justified, because all guards are
included by then. -/
theorem justified_finish {id : ConditionId} {c : Condition} {e : Expr} {depth : Nat} {k : Ending}
    {r : Option String} (hw : p.WellFormed st.cells.size) (hc : p.conditions[id]? = some c)
    (ht : c.test = .staticIf e) (hk : p.ending c e r = some k)
    (hall : r = none → ∀ q ∈ (e.agenda p.decls).questions, p.stateIn st q.2 = .included)
    (hj : AllJustified p st) :
    AllJustified p (st.finish c.cell ctx depth k.fault k.verdict) := by
  have hne : ∀ X, X ≠ id →
      p.stateIn (st.finish c.cell ctx depth k.fault k.verdict) X = p.stateIn st X :=
    fun X hX => stateIn_finish_ne hw hc ht hX _ _
  have hinc : ∀ X, p.stateIn st X = .included →
      p.stateIn (st.finish c.cell ctx depth k.fault k.verdict) X = .included :=
    fun X hX => stateIn_finish_included hw hc ht hX _ _
  intro X hX
  by_cases hst : p.stateIn st X = .included
  · exact (hj X hst).later hinc
  · obtain rfl : X = id := by
      by_contra hXi
      exact hst (hne X hXi ▸ hX)
    rcases ending_cases hk with ⟨b, rfl, rfl, hf, hv⟩ | ⟨hfail, _⟩
    · obtain rfl : b = true := by
        have := stateIn_finish_value hw hc b ▸ hX
        cases b with
        | true => rfl
        | false => exact absurd this (settle_false_ne_included hst)
      refine .staticIf hc ht ?_ hf ?_ hv
      · rwa [← stateIn_eq hc]
      · exact fun q hq => (hj q.2 (hall rfl q hq)).later hinc
    · exact absurd hX (stateIn_finish_failed hw hc hst _ (by simp [hfail]))

/-- **A question includes conditions that are justified only.** -/
theorem resolveAt_justified {room : Nat} {id : ConditionId} {scope : Option Scope}
    {symbol : Option SymbolId} {b : Bool}
    (h : p.resolveAt ctx room id scope symbol st = some (b, st'))
    (hw : p.WellFormed st.cells.size) (hj : AllJustified p st) : AllJustified p st' := by
  refine resolveAt_induction (R := fun _ _ _ st _ st' => p.WellFormed st.cells.size →
    AllJustified p st → AllJustified p st') ?_ ?_ ?_ ?_ ?_ h hw hj
  · intro _ _ _ _ _ _ hj
    exact hj
  · intro _ _ _ _ _ _ _ _ hj
    exact hj
  · intro _ id scope st c ns owner q st' hc _ ht hst _ hj X hX
    have hother : ∀ j, c.cell ≠ j → st'.state j = st.state j := by
      intro j hne
      rw [hst, Store.state_settle, if_neg fun h => hne h.1]
      simp
    cases hd : p.conditions[X]? with
    | none => simp [Program.stateIn, hd] at hX
    | some d =>
      rw [stateIn_eq hd] at hX
      by_cases hcell : c.cell = d.cell
      · -- a condition on the cell of the directive is a directive
        exact .directive hd (hw.test_eq hc hd hcell ▸ ht) hX
      · rw [hother _ hcell, ← stateIn_eq hd] at hX
        refine (hj X hX).mono [] (fun _ _ h => h) (by simp) fun Y d' _ hi => ?_
        rw [hst, Store.state_settle]
        split_ifs
        · simp [hi, Inclusion.settle, Inclusion.isSettled]
        · simpa using hi
  · intro _ id scope st c e v f st' hc ho ht hb hst hw hj X hX
    have hopen : p.stateIn st id ≠ .included := ne_included_of_open hc ho
    have hother : ∀ Y, Y ≠ id → p.stateIn st' Y = p.stateIn st Y := by
      intro Y hY
      rw [hst, stateIn_barred_ne hw hc ht hY]
    have hXi : X ≠ id := by
      rintro rfl
      rw [hst] at hX
      exact stateIn_barred_failed hw hc hopen f (bar?_not_value hb) hX
    rw [hother X hXi] at hX
    refine (hj X hX).later fun Y hY => ?_
    rw [hother Y, hY]
    rintro rfl
    exact hopen hY
  · intro room id s symbol st c e r st₂ k st' hc _ ht _ ha hk hst hw hj
    have hl : Later (st.enter c.cell (s.child symbol) (ctx.limits.depth - room)) st₂ :=
      ha.later_of_answers
    have hj₂ : AllJustified p st₂ := by
      refine asked_justified (ha.imp fun _ _ _ _ hq => ⟨resolveAt_later hq.1, hq.2⟩) ?_ ?_
      · simpa using hw
      · exact hj.of_eq fun i => by simp
    rw [hst]
    exact justified_finish (by rwa [hl.size, Store.size_enter]) hc ht hk ha.all_included hj₂

end Questions

/-! ## Sessions -/

section Sessions

variable {s : Session}

theorem justified_move {step : Step} {s' : Session} (h : s.Move step s')
    (hstep : ∀ c b, step ≠ .settle c b) (hw : s.program.WellFormed s.store.cells.size)
    (hj : AllJustified s.program s.store) : AllJustified s'.program s'.store := by
  cases h with
  | idle hc hd hs =>
    have hst : ∀ i, s'.store.state i = s.store.state i := by
      intro i
      rw [Store.state, Store.cell, hs]
      rfl
    intro id hi
    have hi' : s.program.stateIn s.store id = .included := by
      rw [← hi, Program.stateIn, Program.stateIn, hc]
      simp only [hst]
    refine (hj id hi').mono [] (fun X c hX => by rwa [hc]) (by simp [hd]) ?_
    intro X c _ hX
    rw [hst, hX]
  | fresh test source =>
    intro id hi
    cases hc : (s.addCondition test source).2.program.conditions[id]? with
    | none => simp [Program.stateIn, hc] at hi
    | some c =>
      rw [stateIn_eq hc, Session.state_addCondition] at hi
      rcases Session.mem_addEntry.mp hc with hc | ⟨_, rfl⟩
      · refine (hj id (by rw [stateIn_eq hc, hi])).mono [] ?_ ?_ ?_
        · exact fun _ _ h => Session.mem_addEntry.mpr (.inl h)
        · exact (List.append_nil _).symm
        · intro X d _ hX
          rw [Session.state_addCondition, hX]
      · simp [Store.state, Store.cell] at hi
  | @shared c ns owner q hc ht =>
    intro id hi
    cases hd : (s.addEntry c).2.program.conditions[id]? with
    | none => simp [Program.stateIn, hd] at hi
    | some d =>
      rw [stateIn_eq hd] at hi
      rcases Session.mem_addEntry.mp hd with hd₀ | ⟨_, rfl⟩
      · rw [← stateIn_eq hd₀] at hi
        refine (hj id hi).mono [] ?_ ?_ ?_
        · exact fun _ _ h => Session.mem_addEntry.mpr (.inl h)
        · exact (List.append_nil _).symm
        · exact fun _ _ _ hX => hX
      · exact .directive hd ht hi
  | declared d =>
    intro id hi
    refine (hj id hi).mono [d] ?_ rfl ?_
    · exact fun _ _ hc => hc
    · exact fun _ _ _ hX => hX
  | settled c b _ h => exact absurd h (hstep c b)
  | held | freed => exact hj.of_eq fun i => by simp
  | answered _ hi =>
    obtain ⟨c, b, after, _, hres, _, rfl⟩ := Session.inquire_eq_some hi
    have hafter : AllJustified s.program after := by
      refine resolveAt_justified hres ?_ (hj.of_eq fun i => by simp)
      simpa using hw
    exact hafter.of_eq fun i => by simp

/-- **Every inclusion has a reason**, unless a condition was settled from outside. -/
theorem Session.Reachable.justified
    (h : Session.Reachable (fun step => ∀ c b, step ≠ .settle c b) s) :
    AllJustified s.program s.store := by
  induction h with
  | start mode limits =>
    intro id hi
    simp [Session.start, Program.stateIn] at hi
  | step hr hk hp ih => exact justified_move (Session.move_of_perform hp) hk hr.wellFormed ih

/-- A name that is reached from the expression of the first condition is guarded by the second
one. -/
def Program.GuardedBy (p : Program) (X Y : ConditionId) : Prop :=
  ∃ c e x d, p.conditions[X]? = some c ∧ c.test = .staticIf e ∧ Reaches p.decls e x ∧
    firstDecl? p.decls x = some d ∧ d.guard = some Y

/-- The condition is a `static if` and included. -/
def Session.IncludesStaticIf (s : Session) (X : ConditionId) : Prop :=
  ∃ c e, s.program.conditions[X]? = some c ∧ c.test = .staticIf e ∧ s.stateOf c = .included

/-- Among the `static if`s that are included, the first one needs the second one. -/
def Session.RestsOn (s : Session) (X Y : ConditionId) : Prop :=
  s.IncludesStaticIf X ∧ s.IncludesStaticIf Y ∧ s.program.GuardedBy X Y

theorem acc_restsOn {X : ConditionId} (h : Justified s.program s.store X) :
    Acc (Function.swap s.RestsOn) X := by
  induction h with
  | @directive id c ns owner q hc ht _ =>
    refine ⟨_, fun Y hY => ?_⟩
    obtain ⟨⟨d, e, hd, hte, _⟩, _⟩ := hY
    exact absurd ht (not_directive_of_staticIf hd hte hc)
  | @staticIf id c e hc ht _ hf _ _ ih =>
    refine ⟨_, fun Y hY => ?_⟩
    obtain ⟨_, _, d, e', x, d', hd, hte, hx, hd', hg⟩ := hY
    obtain ⟨rfl, rfl⟩ := eq_of_staticIf hc ht hd hte
    obtain ⟨d₂, hd₂, hquestion⟩ := exists_decl_of_reaches hx hf
    obtain rfl := Option.some.inj (hd'.symm.trans hd₂)
    exact ih _ (hquestion Y hg)

/-- **Inclusions are grounded.** An included `static if` has a boolean and true expression, reaches
declared names with included guards only, and does not need itself. -/
theorem inclusion_grounded (h : Session.Reachable (fun step => ∀ c b, step ≠ .settle c b) s) :
    (∀ (id : ConditionId) (c : Condition) (e : Expr), s.program.conditions[id]? = some c →
      c.test = .staticIf e → s.stateOf c = .included →
      (∀ x, Reaches s.program.decls e x → ∃ d, firstDecl? s.program.decls x = some d ∧
        ∀ g, d.guard = some g → s.program.stateIn s.store g = .included) ∧
      HasType s.program.decls e .bool ∧ e.eval s.program.decls = some (.bool true)) ∧
    ∀ id, ¬ Relation.TransGen s.RestsOn id id := by
  constructor
  · intro id c e hc ht hi
    cases h.justified id (by rw [stateIn_eq hc]; exact hi) with
    | directive hd htd => exact absurd htd (not_directive_of_staticIf hc ht hd)
    | staticIf hd hte _ hf hq hv =>
      obtain ⟨rfl, rfl⟩ := eq_of_staticIf hc ht hd hte
      refine ⟨fun x hx => ?_, hasType_of_agendaWith (fun _ _ => hasType_of_agendaOfName) hf, hv⟩
      obtain ⟨d, hfirst, hguard⟩ := exists_decl_of_reaches hx hf
      exact ⟨d, hfirst, fun g hg => (hq _ (hguard g hg)).included⟩
  · intro id hcyc
    obtain ⟨Y, ⟨⟨c, e, hc, _, hi⟩, _⟩, _⟩ := Relation.TransGen.head'_iff.mp hcyc
    have hid : s.program.stateIn s.store id = .included := by
      rw [stateIn_eq hc]
      exact hi
    exact not_transGen_self (acc_restsOn (h.justified id hid)) hcyc

/-- Two `static if`s, the first of which needs the second one, which needs a directive, and a third
one that needs itself. -/
def relaySteps : List Step :=
  [.addStaticIf (.ident "a") {}, .addStaticIf (.and (.ident "b") (.ident "b")) {},
    .addDirective .version 0 (.level 0) {}, .addStaticIf (.ident "x") {},
    .addDecl ⟨"a", .ident "c", some 1⟩, .addDecl ⟨"b", .bool true, some 2⟩,
    .addDecl ⟨"x", .bool true, some 3⟩,
    .resolve { condition := 3, scope := some {}, gagged := true },
    .resolve { condition := 0, scope := some {}, gagged := true },
    .addDecl ⟨"c", .eq (.int 1) (.int 1), none⟩, .resolve { condition := 0, scope := some {} }]

/-- The session after these steps. -/
def relay : Session :=
  (Session.performAll relaySteps (.start .disabled {})).get (by decide +kernel)

theorem inclusion_grounded_relay :
    Session.Reachable (fun step => ∀ c b, step ≠ .settle c b) relay ∧ relay.RestsOn 0 1 ∧
      (∀ x, Reaches relay.program.decls (.ident "a") x →
        ∃ d, firstDecl? relay.program.decls x = some d ∧
          ∀ g, d.guard = some g → relay.program.stateIn relay.store g = .included) ∧
      ∀ id, ¬ Relation.TransGen relay.RestsOn id id := by
  have hr : Session.Reachable (fun step => ∀ c b, step ≠ .settle c b) relay :=
    (Session.Reachable.start .disabled {}).performAll (Option.some_get _).symm
      (by simp [relaySteps])
  have h₀ : relay.program.conditions[0]? = some ⟨.staticIf (.ident "a"), .internal, 0⟩ := by
    decide +kernel
  have h₁ : relay.program.conditions[1]? =
      some ⟨.staticIf (.and (.ident "b") (.ident "b")), .internal, 1⟩ := by decide +kernel
  have ha : firstDecl? relay.program.decls "a" = some ⟨"a", .ident "c", some 1⟩ := by
    decide +kernel
  have hi₀ : relay.stateOf ⟨.staticIf (.ident "a"), .internal, 0⟩ = .included := by decide +kernel
  have hi₁ : relay.stateOf ⟨.staticIf (.and (.ident "b") (.ident "b")), .internal, 1⟩ =
      .included := by decide +kernel
  have hall := inclusion_grounded hr
  refine ⟨hr, ⟨⟨_, _, h₀, rfl, hi₀⟩, ⟨_, _, h₁, rfl, hi₁⟩, ?_⟩, (hall.1 0 _ _ h₀ rfl hi₀).1, hall.2⟩
  exact ⟨_, _, "a", _, h₀, rfl, .occurs (List.mem_singleton_self _), ha, rfl⟩

end Sessions

end CondComp
