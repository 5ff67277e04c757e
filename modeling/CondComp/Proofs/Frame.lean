import CondComp.Proofs.FirstAnswers
import CondComp.Proofs.Justification

/-!
# What an inquiry leaves alone

An inquiry settles its own condition and conditions that are reached from it through guards. To the
modules it does no more than to add, in each of them, what the module was asked about in vain.

* `Program.ReachesCell`: the cells of the conditions reached; **`resolveAt_reaches`**: a question
  changes no other answers;
* `IdentifierSet.Extends`: a set is another one with new names at its end;
* **`Progress.extends`**: what a progress adds to a module's list of what it was asked about in
  vain;
* **`Session.inquire_frame`**: what an inquiry changes, and what it leaves alone.
-/

namespace CondComp

/-! ## Answers -/

/-- The cell is that of a condition which is reached from another one through guards. -/
def Program.ReachesCell (p : Program) (id : ConditionId) (i : CellId) : Prop :=
  ∃ X c, Relation.ReflTransGen p.GuardedBy id X ∧ p.conditions[X]? = some c ∧ c.cell = i

section Answers

variable {p : Program} {ctx : Context} {id : ConditionId} {c : Condition} {i : CellId}

theorem Program.ReachesCell.self (hc : p.conditions[id]? = some c) : p.ReachesCell id c.cell :=
  ⟨id, c, .refl, hc, rfl⟩

theorem Program.ReachesCell.of_question {e : Expr} {q : String × ConditionId}
    (hc : p.conditions[id]? = some c) (ht : c.test = .staticIf e)
    (hq : q ∈ (e.agenda p.decls).questions) (h : p.ReachesCell q.2 i) : p.ReachesCell id i := by
  obtain ⟨X, d, hX, hd, hcell⟩ := h
  obtain ⟨hx, d', hfirst, hguard⟩ := reaches_of_mem hq
  exact ⟨X, d, .head ⟨c, e, q.1, d', hc, ht, hx, hfirst, hguard⟩ hX, hd, hcell⟩

theorem Asked.exists_changed {qs : List (String × ConditionId)} {st st' : Store}
    {r : Option String} (h : Asked (fun g st _ st' => ∀ i, st'.state i ≠ st.state i →
      p.ReachesCell g i) qs st r st') (hi : st'.state i ≠ st.state i) :
    ∃ q ∈ qs, p.ReachesCell q.2 i := by
  induction h with
  | done => exact absurd rfl hi
  | @yes x g qs st st₁ st₂ r hq _ ih =>
    by_cases hfirst : st₁.state i = st.state i
    · obtain ⟨q, hm, hreach⟩ := ih (by rwa [hfirst])
      exact ⟨q, List.mem_cons_of_mem _ hm, hreach⟩
    · exact ⟨(x, g), List.mem_cons_self, hq i hfirst⟩
  | @no x g qs st st₁ hq => exact ⟨(x, g), List.mem_cons_self, hq i hi⟩

/-- **A question changes the answers of conditions that are reached through guards, and no
others.** -/
theorem resolveAt_reaches {room : Nat} {scope : Option Scope} {symbol : Option SymbolId}
    {st st' : Store} {b : Bool} (h : p.resolveAt ctx room id scope symbol st = some (b, st')) :
    ∀ i, st'.state i ≠ st.state i → p.ReachesCell id i := by
  refine resolveAt_induction (R := fun _ id _ st _ st' =>
    ∀ i, st'.state i ≠ st.state i → p.ReachesCell id i) ?_ ?_ ?_ ?_ ?_ h
  · intro _ _ _ _ _ i hi
    exact absurd rfl hi
  · intro _ _ _ _ _ _ _ i hi
    exact absurd rfl hi
  · intro _ _ scope st c ns owner q st' hc _ _ hst i hi
    by_cases hcell : c.cell = i
    · exact hcell ▸ .self hc
    · rw [hst, Store.state_settle, if_neg fun h => hcell h.1] at hi
      exact absurd (by simp) hi
  · intro _ _ _ st c e v f st' hc _ _ _ hst i hi
    by_cases hcell : c.cell = i
    · exact hcell ▸ .self hc
    · rw [hst, Store.state_close, if_neg fun h => hcell h.1] at hi
      exact absurd (by simp) hi
  · intro room _ s symbol st c e r st₂ k st' hc _ ht _ ha _ hst i hi
    by_cases hcell : c.cell = i
    · exact hcell ▸ .self hc
    · rw [hst, Store.state_finish, if_neg fun h => hcell h.1,
        ← st.state_enter c.cell i (s.child symbol) (ctx.limits.depth - room)] at hi
      obtain ⟨q, hq, hreach⟩ := (ha.imp fun _ _ _ _ hq => hq.2).exists_changed hi
      exact .of_question hc ht hq hreach

end Answers

/-! ## What modules are asked about in vain -/

/-- The second set is the first one, and at its end the names with a property that are new. -/
def IdentifierSet.Extends (s s' : IdentifierSet) (P : String → Prop) : Prop :=
  ∃ added : List String, s'.toList = s.toList ++ added ∧ added.Nodup ∧
    ∀ x, x ∈ added ↔ x ∉ s ∧ P x

namespace IdentifierSet.Extends

variable {s s' : IdentifierSet} {P Q : String → Prop}

theorem refl (s : IdentifierSet) (h : ∀ x, ¬ P x) : s.Extends s P :=
  ⟨[], (List.append_nil _).symm, .nil, fun x => by simp [h x]⟩

theorem congr (h : s.Extends s' P) (hPQ : ∀ x, P x ↔ Q x) : s.Extends s' Q := by
  obtain ⟨added, hs, hn, hmem⟩ := h
  exact ⟨added, hs, hn, fun x => by rw [hmem, hPQ]⟩

theorem insert (h : s.Extends s' P) (x : String) (hQ : ∀ y, Q y ↔ P y ∨ y = x) :
    s.Extends (s'.insert x) Q := by
  obtain ⟨added, hs, hn, hmem⟩ := h
  have hx : x ∈ s' ↔ x ∈ s ∨ x ∈ added := by rw [mem_iff, hs, List.mem_append, ← mem_iff]
  rw [Extends, toList_insert]
  split_ifs with hold
  · refine ⟨added, hs, hn, fun y => ?_⟩
    rw [hmem, hQ]
    refine and_congr_right fun hy => (or_iff_left_of_imp ?_).symm
    rintro rfl
    exact ((hmem y).mp ((hx.mp hold).resolve_left hy)).2
  · have hnew : x ∉ s ∧ x ∉ added := not_or.mp (mt hx.mpr hold)
    refine ⟨added ++ [x], by rw [hs, List.append_assoc], ?_, fun y => ?_⟩
    · refine List.nodup_append.mpr ⟨hn, List.pairwise_singleton _ x, fun y hy z hz => ?_⟩
      rw [List.mem_singleton.mp hz]
      rintro rfl
      exact hnew.2 hy
    · rw [List.mem_append, List.mem_singleton, hmem, hQ, and_or_left]
      refine or_congr_right ⟨?_, And.right⟩
      rintro rfl
      exact ⟨hnew.1, rfl⟩

end IdentifierSet.Extends

section Missed

variable {p : Program} {scope : Option Scope} {cs : List Condition} {st st' : Store}
  {m : ModuleId} {ns : Namespace}

theorem Modules.missed_answer (ms : Modules) (g : Globals) (ns' : Namespace) (owner : ModuleId)
    (q : Query) (hm : m < ms.count) :
    ((ms.answer g ns' q owner).2.declared m ns).missed = (ms.declared m ns).missed ∧
        (∀ x, q = .identifier x → owner = m → ns' = ns → ms.Satisfy g ns m q) ∨
      ∃ x, q = .identifier x ∧ owner = m ∧ ns' = ns ∧ ¬ ms.Satisfy g ns m q ∧
        ((ms.answer g ns' q owner).2.declared m ns).missed =
          (ms.declared m ns).missed.insert x := by
  cases q with
  | level n => exact .inl ⟨rfl, fun _ h => nomatch h⟩
  | identifier x =>
    by_cases hsame : owner = m ∧ ns' = ns
    · obtain ⟨rfl, rfl⟩ := hsame
      have hdeclared : ((ms.answer g ns' (.identifier x) owner).2.declared owner ns') =
          ((ms.declared owner ns').lookup (g.get ns') x).2 := by
        simp [answer, lookup, declared_setDeclared, hm]
      rw [hdeclared, Declared.lookup, Declared.definition, Satisfy]
      by_cases hd : x ∈ (ms.declared owner ns').defined
      · exact .inl ⟨by simp [hd], fun _ _ _ _ => .inl hd⟩
      · by_cases hg : x ∈ (g.get ns').identifiers
        · exact .inl ⟨by simp [hd, hg], fun _ _ _ _ => .inr hg⟩
        · exact .inr ⟨x, rfl, rfl, rfl, by simp [hd, hg], by simp [hd, hg, Declared.miss]⟩
    · refine .inl ⟨?_, fun _ _ ho hn => absurd ⟨ho, hn⟩ hsame⟩
      have hother : ¬ (owner = m ∧ ns = ns' ∧ owner < ms.count) :=
        fun h => hsame ⟨h.1, h.2.1.symm⟩
      simp only [answer, lookup, declared_setDeclared, if_neg hother]

/-- **What a progress adds to what a module was asked about in vain**: the identifiers of the
module's own directives that are answered with no, if they are new. -/
theorem Progress.extends (h : Progress p scope st cs st') (hm : m < st.modules.count) :
    (st.modules.declared m ns).missed.Extends (st'.modules.declared m ns).missed fun x =>
      ∃ c ∈ cs, c.test = .directive ns m (.identifier x) ∧
        ¬ st.modules.Satisfy p.globals ns m (.identifier x) := by
  induction h with
  | refl => exact .refl _ fun _ ⟨_, hc, _⟩ => nomatch hc
  | still _ hs ih =>
    rw [hs.modules]
    exact ih
  | @answer cs st₁ c ns' owner q h _ ht _ _ ih =>
    have hsatisfy := h.consulted.declarations.satisfy p.globals ns m
    rw [Store.modules_answerFirst]
    rcases @Modules.missed_answer m ns st₁.modules p.globals ns' owner q
      (h.consulted.count ▸ hm) with ⟨hsame, hyes⟩ | ⟨x, rfl, rfl, rfl, hno, hadded⟩
    · rw [hsame]
      refine ih.congr fun x => ⟨?_, ?_⟩
      · rintro ⟨d, hd, hx⟩
        exact ⟨d, List.mem_append_left _ hd, hx⟩
      · rintro ⟨d, hd, htd, hx⟩
        rcases List.mem_append.mp hd with hd | hd
        · exact ⟨d, hd, htd, hx⟩
        · rw [List.mem_singleton.mp hd, ht] at htd
          cases htd
          exact absurd ((hsatisfy _).mp (hyes x rfl rfl rfl)) hx
    · rw [hadded]
      rw [hsatisfy] at hno
      refine ih.insert x fun y => ⟨?_, ?_⟩
      · rintro ⟨d, hd, htd, hy⟩
        rcases List.mem_append.mp hd with hd | hd
        · exact .inl ⟨d, hd, htd, hy⟩
        · rw [List.mem_singleton.mp hd, ht] at htd
          cases htd
          exact .inr rfl
      · rintro (⟨d, hd, hy⟩ | rfl)
        · exact ⟨d, List.mem_append_left _ hd, hy⟩
        · exact ⟨c, List.mem_append_right _ (List.mem_singleton_self c), ht, hno⟩

theorem Progress.exists_refused (h : Progress p scope st cs st')
    (hw : p.WellFormed st.cells.size) (q : Query) :
    (∃ c ∈ cs, c.test = .directive ns m q ∧ ¬ st.modules.Satisfy p.globals ns m q) ↔
      ∃ c ∈ p.conditions, c.test = .directive ns m q ∧ st.state c.cell = .unresolved ∧
        st'.state c.cell = .excluded := by
  constructor
  · rintro ⟨c, hc, ht, hno⟩
    have hset : st'.state c.cell ≠ .unresolved :=
      (h.settled_iff hw (h.mem hc).1 (h.mem hc).2).mpr (.inr (List.mem_map_of_mem hc))
    have hne : st'.state c.cell ≠ .included := mt (h.state_iff hw hc ht).mp hno
    refine ⟨c, (h.mem hc).1, ht, (h.fresh hw).2 c hc, ?_⟩
    cases hstate : st'.state c.cell with
    | unresolved => exact absurd hstate hset
    | included => exact absurd hstate hne
    | excluded => rfl
  · rintro ⟨c, hc, ht, hopen, hno⟩
    have hset : st'.state c.cell ≠ .unresolved := by
      rw [hno]
      decide
    have hcell := ((h.settled_iff hw hc ⟨_, _, _, ht⟩).mp hset).resolve_left (not_not.mpr hopen)
    obtain ⟨d, hd, he, htest⟩ := h.exists_of_cell_mem hw hc hcell
    refine ⟨d, hd, htest.trans ht, fun hyes => ?_⟩
    have := (h.state_iff hw hd (htest.trans ht)).mpr hyes
    rw [he, hno] at this
    cases this

end Missed

/-! ## Inquiries -/

namespace Session

variable {s s' : Session} {q : Inquiry} {r : Resolution}

/-- **What an inquiry changes**: answers of conditions that are reached through guards, and what
modules were asked about in vain, to which it adds what their own directives missed. -/
theorem inquire_frame (hs : s.Reachable fun _ => True) (h : s.inquire q = some (r, s')) :
    s'.program = s.program ∧ s'.limits = s.limits ∧
    s'.store.modules.count = s.store.modules.count ∧
    (∀ m, s'.store.modules.label? m = s.store.modules.label? m) ∧
    (∀ m ns, (s'.store.modules.declared m ns).defined = (s.store.modules.declared m ns).defined ∧
      (s'.store.modules.declared m ns).level = (s.store.modules.declared m ns).level) ∧
    (∀ (id : ConditionId) c, s.program.conditions[id]? = some c → s'.stateOf c ≠ s.stateOf c →
      ∃ X d, Relation.ReflTransGen s.program.GuardedBy q.condition X ∧
        s.program.conditions[X]? = some d ∧
        (X = id ∨ c.IsDirective ∧ d.test = c.test ∧ d.cell = c.cell)) ∧
    ∀ m ns, m < s.store.modules.count →
      (s.store.modules.declared m ns).missed.Extends (s'.store.modules.declared m ns).missed
        fun x => ∃ c ∈ s.program.conditions, c.test = .directive ns m (.identifier x) ∧
          s.stateOf c = .unresolved ∧ s'.stateOf c = .excluded := by
  have hw := hs.wellFormed
  obtain ⟨hp, cs, hprogress⟩ := inquire_progress hw h
  have hconsulted := hprogress.consulted
  refine ⟨hp, ?_, hconsulted.count, hconsulted.label, hconsulted.declarations, ?_, ?_⟩
  · obtain ⟨_, _, _, _, _, _, rfl⟩ := inquire_eq_some h
    rfl
  · intro id c hc hne
    obtain ⟨_, b, after, _, hres, _, rfl⟩ := inquire_eq_some h
    rw [stateOf_eq, stateOf_eq, state_freeing, ← s.state_holding (q := q)] at hne
    obtain ⟨X, d, hX, hd, hcell⟩ := resolveAt_reaches hres _ hne
    refine ⟨X, d, hX, hd, ?_⟩
    cases ht : c.test with
    | staticIf e => exact .inl (hw.own hc hd ht hcell.symm).symm
    | directive ns owner query =>
      exact .inr ⟨⟨ns, owner, query, ht⟩, ht ▸ hw.test_eq hd hc hcell, hcell⟩
  · intro m ns hm
    exact (hprogress.extends hm).congr fun x => hprogress.exists_refused hw (.identifier x)

/-- Two modules with a directive about `Foo` each. The directive of the first one guards a name that
a `static if` needs, which guards a name of another one. -/
def outpostSteps : List Step :=
  [.addModule "near" (.ofText "near"), .addModule "far" (.ofText "far"),
    .addDirective .version 0 (.identifier "Foo") {},
    .addDirective .version 1 (.identifier "Foo") {},
    .addStaticIf (.and (.ident "x") (.ident "y")) {}, .addStaticIf (.ident "z") {}, .copy 0,
    .addDecl ⟨"x", .ident "y", none⟩, .addDecl ⟨"y", .bool true, some 3⟩,
    .addDecl ⟨"z", .bool true, some 0⟩, .lookup 0 .version "Bar"]

/-- The session after these steps. -/
def outpost : Session := (performAll outpostSteps (.start .disabled {})).get (by decide +kernel)

/-- The directive of the first module. -/
def outpostDirective : Condition := ⟨.directive .version 0 (.identifier "Foo"), .internal, 0⟩

/-- The inquiry about the `static if` that is furthest from the directives, made in the second
module. -/
def outpostInquiry : Inquiry := { condition := 2, scope := some { home := some 1 } }

/-- The inquiry reaches the directive of the first module, and that module remembers that `Foo` was
asked about in vain. The second module does not. -/
theorem inquire_frame_outpost : ∃ r s', outpost.inquire outpostInquiry = some (r, s') ∧
    s'.program = outpost.program ∧
    (∃ X d, Relation.ReflTransGen outpost.program.GuardedBy 2 X ∧
      outpost.program.conditions[X]? = some d ∧ d.cell = outpostDirective.cell) ∧
    (outpost.store.modules.declared 0 .version).missed.Extends
      (s'.store.modules.declared 0 .version).missed (fun x =>
        ∃ c ∈ outpost.program.conditions, c.test = .directive .version 0 (.identifier x) ∧
          outpost.stateOf c = .unresolved ∧ s'.stateOf c = .excluded) ∧
    (outpost.program.conditions.map s'.stateOf).toList =
      [.excluded, .unresolved, .excluded, .excluded, .excluded] ∧
    (s'.store.modules.declared 0 .version).missed.toList = ["Bar", "Foo"] ∧
    (s'.store.modules.declared 1 .version).missed.toList = [] := by
  have hs : outpost.Reachable fun _ => True :=
    (Session.Reachable.start _ _).performAll (Option.some_get _).symm fun _ _ => trivial
  have hc : outpost.program.conditions[0]? = some outpostDirective := by decide +kernel
  have hopen : outpost.stateOf outpostDirective = .unresolved := by decide +kernel
  have hseen : (outpost.inquire outpostInquiry).map (fun r =>
      (r.2.stateOf outpostDirective, (outpost.program.conditions.map r.2.stateOf).toList,
        (r.2.store.modules.declared 0 .version).missed.toList,
        (r.2.store.modules.declared 1 .version).missed.toList)) =
      some (.excluded, [.excluded, .unresolved, .excluded, .excluded, .excluded], ["Bar", "Foo"],
        []) := by decide +kernel
  obtain ⟨⟨r, s'⟩, h, hs'⟩ := Option.map_eq_some_iff.mp hseen
  simp only [Prod.mk.injEq] at hs'
  obtain ⟨hstate, hall, hfirst, hsecond⟩ := hs'
  obtain ⟨hp, _, _, _, _, hanswers, hmissed⟩ := inquire_frame hs h
  obtain ⟨X, d, hX, hd, hsame⟩ := hanswers 0 _ hc (by rw [hstate, hopen]; decide)
  refine ⟨r, s', h, hp, ⟨X, d, hX, hd, ?_⟩, hmissed 0 .version (by decide +kernel), hall, hfirst,
    hsecond⟩
  rcases hsame with rfl | ⟨_, _, hcell⟩
  · rw [Option.some.inj (hd.symm.trans hc)]
  · exact hcell

end Session

end CondComp
