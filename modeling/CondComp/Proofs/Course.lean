import CondComp.Proofs.Attempt

/-!
# The course of a question

* `Asked`: the questions of an agenda, answered in order until the first no;
* **`resolveAt_symbol_induction`**, **`resolveAt_induction`**: what holds of every way to deal with
  a question holds of its answer;
* `Later`: settled answers stay, and the counts of evaluations in flight come back;
  **`resolveAt_later`**;
* `Program.stateIn`: the answer of a condition; `answer_eq`: what a question returns.
-/

namespace CondComp

/-! ## Questions in order -/

/-- The questions of an agenda, answered in order until the first no, where `Q` relates a question
and the stores before and after it. -/
inductive Asked (Q : ConditionId → Store → Bool → Store → Prop) :
    List (String × ConditionId) → Store → Option String → Store → Prop
  | done {st : Store} : Asked Q [] st none st
  | yes {x : String} {g : ConditionId} {qs : List (String × ConditionId)} {st st₁ st₂ : Store}
      {r : Option String} (hq : Q g st true st₁) (hr : Asked Q qs st₁ r st₂) :
      Asked Q ((x, g) :: qs) st r st₂
  | no {x : String} {g : ConditionId} {qs : List (String × ConditionId)} {st st₁ : Store}
      (hq : Q g st false st₁) : Asked Q ((x, g) :: qs) st (some x) st₁

theorem askAll_cons (G : ConditionId → EvalM Bool) (x : String) (g : ConditionId)
    (qs : List (String × ConditionId)) (st : Store) : askAll G ((x, g) :: qs) st =
      (G g st).bind fun r => if r.1 then askAll G qs r.2 else some (some x, r.2) := by
  rw [askAll, EvalM.bind_apply]
  refine Option.bind_congr fun r _ => ?_
  cases r.1 <;> rfl

theorem asked_of_askAll {G : ConditionId → EvalM Bool} {qs : List (String × ConditionId)}
    {st st' : Store} {r : Option String} (h : askAll G qs st = some (r, st')) :
    Asked (fun g st b st' => G g st = some (b, st')) qs st r st' := by
  induction qs generalizing st with
  | nil =>
    cases h
    exact .done
  | cons q qs ih =>
    obtain ⟨x, g⟩ := q
    rw [askAll_cons] at h
    obtain ⟨⟨b, st₁⟩, hg, h⟩ := Option.bind_eq_some_iff.mp h
    cases b with
    | true => exact .yes hg (ih h)
    | false =>
      cases h
      exact .no hg

theorem Asked.imp {Q Q' : ConditionId → Store → Bool → Store → Prop}
    (h : ∀ g st b st', Q g st b st' → Q' g st b st') {qs : List (String × ConditionId)}
    {st st' : Store} {r : Option String} (ha : Asked Q qs st r st') : Asked Q' qs st r st' := by
  induction ha with
  | done => exact .done
  | yes hq _ ih => exact .yes (h _ _ _ _ hq) ih
  | no hq => exact .no (h _ _ _ _ hq)

/-- What relates the stores before and after each question relates those before and after all. -/
theorem Asked.chain {P : Store → Store → Prop} (refl : ∀ st, P st st)
    (trans : ∀ {st₀ st₁ st₂}, P st₀ st₁ → P st₁ st₂ → P st₀ st₂)
    {qs : List (String × ConditionId)} {st st' : Store} {r : Option String}
    (h : Asked (fun _ st _ st' => P st st') qs st r st') : P st st' := by
  induction h with
  | done => exact refl _
  | yes hq _ ih => exact trans hq ih
  | no hq => exact hq

/-! ## Induction on a question -/

section Induction

variable {p : Program} {ctx : Context}

theorem exists_room {c : Condition} {e : Expr} {s : Scope} {st : Store} {room : Nat}
    (hb : c.bar? ctx (ctx.limits.depth + 1 - room) e (some s) st = none) :
    ∃ k, room = k + 1 := by
  have := (bar?_eq_none.mp hb).2.1
  exact ⟨room - 1, by omega⟩

/-- What holds of every way to deal with a question holds of its answer. -/
theorem resolveWith_cases {depth : Nat} {G : Scope → ConditionId → EvalM Bool}
    {R : ConditionId → Option Scope → Option SymbolId → Store → Bool → Store → Prop}
    (absent : ∀ id scope symbol st, p.conditions[id]? = none → R id scope symbol st false st)
    (settled : ∀ id scope symbol st c, p.conditions[id]? = some c →
      st.state c.cell ≠ .unresolved →
      R id scope symbol st (st.state c.cell).isIncluded st)
    (directive : ∀ id scope symbol st c ns owner q st', p.conditions[id]? = some c →
      st.state c.cell = .unresolved → c.test = .directive ns owner q →
      st' = ((st.answer p scope ns owner q).2.note
        (.answered c (st.answer p scope ns owner q).1 scope)).settle c.cell
          (st.answer p scope ns owner q).1.included →
      R id scope symbol st (st'.state c.cell).isIncluded st')
    (barred : ∀ id scope symbol st c e v f st', p.conditions[id]? = some c →
      st.state c.cell = .unresolved → c.test = .staticIf e →
      c.bar? ctx depth e scope st = some (v, f) →
      st' = (st.report ctx c.source f.message).close c.cell ctx v →
      R id scope symbol st (st'.state c.cell).isIncluded st')
    (analysed : ∀ id s symbol st c e r st₂ k st', p.conditions[id]? = some c →
      st.state c.cell = .unresolved → c.test = .staticIf e →
      c.bar? ctx depth e (some s) st = none →
      Asked (fun g st b st' => G (s.child symbol) g st = some (b, st'))
          (e.agenda p.decls).questions (st.enter c.cell (s.child symbol) depth) r st₂ →
      p.ending c e r = some k → st' = st₂.finish c.cell ctx depth k.fault k.verdict →
      R id (some s) symbol st (st'.state c.cell).isIncluded st')
    {id : ConditionId} {scope : Option Scope} {symbol : Option SymbolId} {st st' : Store} {b : Bool}
    (h : p.resolveWith ctx depth G id scope symbol st = some (b, st')) :
    R id scope symbol st b st' := by
  cases stage p ctx depth id scope st with
  | absent hc =>
    rw [resolveWith_absent hc] at h
    cases h
    exact absent _ _ _ _ hc
  | settled c hc hs =>
    rw [resolveWith_settled hc hs] at h
    cases h
    exact settled _ _ _ _ c hc hs
  | directive c ns owner q hc ho ht =>
    rw [resolveWith_directive hc ho ht] at h
    cases h
    exact directive _ _ _ _ c ns owner q _ hc ho ht rfl
  | barred c e v f hc ho ht hb =>
    rw [resolveWith_barred hc ho ht hb] at h
    cases h
    exact barred _ _ _ _ c e v f _ hc ho ht hb rfl
  | analysed c e s hc ho ht hs hb =>
    subst hs
    rw [resolveWith_analysed hc ho ht hb] at h
    obtain ⟨⟨r, st₂⟩, ha, h⟩ := Option.bind_eq_some_iff.mp h
    obtain ⟨k, hk, h⟩ := Option.map_eq_some_iff.mp h
    cases h
    exact analysed _ _ _ _ c e r st₂ k _ hc ho ht hb (asked_of_askAll ha) hk rfl

/-- **What holds of every way to deal with a question about a symbol holds of its answer.** In an
analysis it may be assumed of the questions asked, which are about none. -/
theorem resolveAt_symbol_induction
    {R : Nat → ConditionId → Option Scope → Option SymbolId → Store → Bool → Store → Prop}
    (absent : ∀ room id scope symbol st, p.conditions[id]? = none →
      R room id scope symbol st false st)
    (settled : ∀ room id scope symbol st c, p.conditions[id]? = some c →
      st.state c.cell ≠ .unresolved →
      R room id scope symbol st (st.state c.cell).isIncluded st)
    (directive : ∀ room id scope symbol st c ns owner q st', p.conditions[id]? = some c →
      st.state c.cell = .unresolved → c.test = .directive ns owner q →
      st' = ((st.answer p scope ns owner q).2.note
        (.answered c (st.answer p scope ns owner q).1 scope)).settle c.cell
          (st.answer p scope ns owner q).1.included →
      R room id scope symbol st (st'.state c.cell).isIncluded st')
    (barred : ∀ room id scope symbol st c e v f st', p.conditions[id]? = some c →
      st.state c.cell = .unresolved → c.test = .staticIf e →
      c.bar? ctx (ctx.limits.depth + 1 - room) e scope st = some (v, f) →
      st' = (st.report ctx c.source f.message).close c.cell ctx v →
      R room id scope symbol st (st'.state c.cell).isIncluded st')
    (analysed : ∀ room id s symbol st c e r st₂ k st', p.conditions[id]? = some c →
      st.state c.cell = .unresolved → c.test = .staticIf e →
      c.bar? ctx (ctx.limits.depth - room) e (some s) st = none →
      Asked (fun g st b st' =>
        p.resolveAt ctx room g (some (s.child symbol)) none st = some (b, st') ∧
          R room g (some (s.child symbol)) none st b st') (e.agenda p.decls).questions
          (st.enter c.cell (s.child symbol) (ctx.limits.depth - room)) r st₂ →
      p.ending c e r = some k →
      st' = st₂.finish c.cell ctx (ctx.limits.depth - room) k.fault k.verdict →
      R (room + 1) id (some s) symbol st (st'.state c.cell).isIncluded st')
    {room : Nat} {id : ConditionId} {scope : Option Scope} {symbol : Option SymbolId}
    {st st' : Store} {b : Bool} (h : p.resolveAt ctx room id scope symbol st = some (b, st')) :
    R room id scope symbol st b st' := by
  induction room generalizing id scope symbol st b st' with
  | zero =>
    rw [Program.resolveAt_eq] at h
    refine resolveWith_cases (absent _) (settled _) (directive _) (barred _) ?_ h
    intro id s symbol st c e r st₂ k st' hc ho ht hb
    obtain ⟨k, hk⟩ := exists_room hb
    cases hk
  | succ room ih =>
    rw [Program.resolveAt_eq] at h
    refine resolveWith_cases (absent _) (settled _) (directive _) (barred _) ?_ h
    rw [Nat.add_sub_add_right]
    intro id s symbol st c e r st₂ k st' hc ho ht hb ha
    exact analysed room id s symbol st c e r st₂ k st' hc ho ht hb
      (ha.imp fun g st b st' hg => ⟨hg, ih hg⟩)

/-- **What holds of every way to deal with a question holds of its answer.** In an analysis it may
be assumed of the questions asked. -/
theorem resolveAt_induction {R : Nat → ConditionId → Option Scope → Store → Bool → Store → Prop}
    (absent : ∀ room id scope st, p.conditions[id]? = none → R room id scope st false st)
    (settled : ∀ room id scope st c, p.conditions[id]? = some c → st.state c.cell ≠ .unresolved →
      R room id scope st (st.state c.cell).isIncluded st)
    (directive : ∀ room id scope st c ns owner q st', p.conditions[id]? = some c →
      st.state c.cell = .unresolved → c.test = .directive ns owner q →
      st' = ((st.answer p scope ns owner q).2.note
        (.answered c (st.answer p scope ns owner q).1 scope)).settle c.cell
          (st.answer p scope ns owner q).1.included →
      R room id scope st (st'.state c.cell).isIncluded st')
    (barred : ∀ room id scope st c e v f st', p.conditions[id]? = some c →
      st.state c.cell = .unresolved → c.test = .staticIf e →
      c.bar? ctx (ctx.limits.depth + 1 - room) e scope st = some (v, f) →
      st' = (st.report ctx c.source f.message).close c.cell ctx v →
      R room id scope st (st'.state c.cell).isIncluded st')
    (analysed : ∀ room id s symbol st c e r st₂ k st', p.conditions[id]? = some c →
      st.state c.cell = .unresolved → c.test = .staticIf e →
      c.bar? ctx (ctx.limits.depth - room) e (some s) st = none →
      Asked (fun g st b st' =>
        p.resolveAt ctx room g (some (s.child symbol)) none st = some (b, st') ∧
          R room g (some (s.child symbol)) st b st') (e.agenda p.decls).questions
          (st.enter c.cell (s.child symbol) (ctx.limits.depth - room)) r st₂ →
      p.ending c e r = some k →
      st' = st₂.finish c.cell ctx (ctx.limits.depth - room) k.fault k.verdict →
      R (room + 1) id (some s) st (st'.state c.cell).isIncluded st')
    {room : Nat} {id : ConditionId} {scope : Option Scope} {symbol : Option SymbolId}
    {st st' : Store} {b : Bool} (h : p.resolveAt ctx room id scope symbol st = some (b, st')) :
    R room id scope st b st' :=
  resolveAt_symbol_induction (R := fun room id scope _ => R room id scope)
    (fun room id scope _ => absent room id scope) (fun room id scope _ => settled room id scope)
    (fun room id scope _ => directive room id scope) (fun room id scope _ => barred room id scope)
    analysed h

end Induction

/-! ## Later stores -/

/-- The modules declare the same identifiers and levels. -/
def Modules.SameDeclarations (ms ms' : Modules) : Prop :=
  ∀ m ns, (ms'.declared m ns).defined = (ms.declared m ns).defined ∧
    (ms'.declared m ns).level = (ms.declared m ns).level

theorem Declared.lookup_snd (d : Declared) (g : GlobalNames) (x : String) :
    (d.lookup g x).2.defined = d.defined ∧ (d.lookup g x).2.level = d.level := by
  unfold Declared.lookup
  split
  · exact ⟨rfl, rfl⟩
  · exact ⟨rfl, rfl⟩

theorem Modules.SameDeclarations.trans {ms₀ ms₁ ms₂ : Modules} (h : ms₀.SameDeclarations ms₁)
    (h' : ms₁.SameDeclarations ms₂) : ms₀.SameDeclarations ms₂ := by
  intro m ns
  obtain ⟨hd, hl⟩ := h m ns
  obtain ⟨hd', hl'⟩ := h' m ns
  exact ⟨hd'.trans hd, hl'.trans hl⟩

theorem Modules.sameDeclarations_answer (ms : Modules) (g : Globals) (ns : Namespace) (q : Query)
    (m : ModuleId) : ms.SameDeclarations (ms.answer g ns q m).2 := by
  intro m' ns'
  cases q with
  | level n => exact ⟨rfl, rfl⟩
  | identifier x =>
    simp only [Modules.answer, Modules.lookup, Modules.declared_setDeclared]
    split_ifs with h
    · obtain ⟨rfl, rfl, _⟩ := h
      exact Declared.lookup_snd _ _ _
    · exact ⟨rfl, rfl⟩

/-- What no evaluation changes: settled answers, the counts of evaluations in flight, and what the
modules declare. -/
structure Later (st st' : Store) : Prop where
  size : st'.cells.size = st.cells.size
  settled : ∀ i, st.state i ≠ .unresolved → st'.state i = st.state i
  nesting : ∀ i, st'.nesting i = st.nesting i
  runaways : st.runaways ≤ st'.runaways
  declarations : st.modules.SameDeclarations st'.modules

namespace Later

variable {st st₁ st₂ : Store}

theorem refl (st : Store) : Later st st :=
  ⟨rfl, fun _ _ => rfl, fun _ => rfl, Nat.le_refl _, fun _ _ => ⟨rfl, rfl⟩⟩

theorem trans (h : Later st st₁) (h' : Later st₁ st₂) : Later st st₂ where
  size := h'.size.trans h.size
  settled i hi := by
    have h₁ := h.settled i hi
    rw [← h₁] at hi ⊢
    exact h'.settled i hi
  nesting i := (h'.nesting i).trans (h.nesting i)
  runaways := Nat.le_trans h.runaways h'.runaways
  declarations := h.declarations.trans h'.declarations

theorem report (st : Store) (ctx : Context) (source : Source) (message : String) :
    Later st (st.report ctx source message) :=
  ⟨rfl, fun _ _ => rfl, fun _ => rfl, Nat.le_refl _, fun _ _ => ⟨rfl, rfl⟩⟩

theorem included (h : Later st st₁) {i : CellId} (hi : st.state i = .included) :
    st₁.state i = .included := by
  rw [h.settled i (by rw [hi]; decide), hi]

theorem close (h : Later st st₁) (i : CellId) (ctx : Context) (v : Verdict) :
    Later st (st₁.close i ctx v) where
  size := by rw [Store.size_close, h.size]
  settled j hj := by
    rw [Store.state_close, h.settled j hj]
    split_ifs
    · cases v.answer? ctx.gagged with
      | none => rfl
      | some b => cases hs : st.state j <;> simp_all [Inclusion.settle, Inclusion.isSettled]
    · rfl
  nesting j := by rw [Store.nesting_close, h.nesting]
  runaways := by rw [Store.runaways_close]; have := h.runaways; omega
  declarations := by rw [Store.modules_close]; exact h.declarations

theorem finish {i : CellId} {scope : Scope} {depth : Nat} (h : Later (st.enter i scope depth) st₁)
    (ctx : Context) (fault : Option (Source × Fault)) (v : Verdict) :
    Later st (st₁.finish i ctx depth fault v) := by
  refine Later.close ?_ i ctx v
  constructor
  · rw [Store.cells_reportAny, Store.size_leave, h.size, Store.size_enter]
  · intro j hj
    rw [Store.state_reportAny, Store.state_leave, h.settled j (by rwa [Store.state_enter]),
      Store.state_enter]
  · intro j
    rw [Store.nesting_reportAny, Store.nesting_leave, h.nesting, h.size, Store.nesting_enter,
      Store.size_enter]
    split_ifs
    · rfl
    · rfl
  · rw [Store.runaways_reportAny, Store.runaways_leave, ← st.runaways_enter i scope depth]
    exact h.runaways
  · rw [Store.modules_reportAny, Store.modules_leave]
    exact h.declarations

end Later

theorem Asked.later {qs : List (String × ConditionId)} {st st' : Store} {r : Option String}
    (h : Asked (fun _ st _ st' => Later st st') qs st r st') : Later st st' :=
  h.chain Later.refl Later.trans

section Answers

variable {p : Program} {ctx : Context} {room : Nat} {id : ConditionId} {scope : Option Scope}
  {symbol : Option SymbolId} {st st' : Store} {b : Bool}

/-- **A question leads to a later store.** -/
theorem resolveAt_later (h : p.resolveAt ctx room id scope symbol st = some (b, st')) :
    Later st st' := by
  refine resolveAt_induction (R := fun _ _ _ st _ st' => Later st st') ?_ ?_ ?_ ?_ ?_ h
  · intro _ _ _ st _
    exact .refl st
  · intro _ _ _ st _ _ _
    exact .refl st
  · intro _ _ scope st c ns owner q st' _ ho _ hst
    subst hst
    constructor
    · simp
    · intro j hj
      rw [Store.state_settle]
      split_ifs with h
      · rw [← h.1, ho] at hj
        exact absurd rfl hj
      · simp
    · intro j
      simp
    · simp
    · simpa using st.modules.sameDeclarations_answer p.globals ns q owner
  · intro _ _ _ st c e v f st' _ _ _ _ hst
    subst hst
    exact (Later.report st ctx c.source f.message).close _ _ _
  · intro _ _ s symbol st c e r st₂ k st' _ _ _ _ ha _ hst
    subst hst
    exact (ha.imp fun _ _ _ _ hq => hq.2).later.finish _ _ _

theorem Asked.later_of_answers {child : Scope} {R : ConditionId → Store → Bool → Store → Prop}
    {qs : List (String × ConditionId)} {r : Option String}
    (h : Asked (fun g st b st' => p.resolveAt ctx room g (some child) none st = some (b, st') ∧
      R g st b st') qs st r st') : Later st st' :=
  (h.imp fun _ _ _ _ hq => resolveAt_later hq.1).later

/-- The answer that the store holds for a condition. -/
def Program.stateIn (p : Program) (st : Store) (id : ConditionId) : Inclusion :=
  match p.conditions[id]? with
  | none => .unresolved
  | some c => st.state c.cell

theorem stateIn_eq {c : Condition} (hc : p.conditions[id]? = some c) :
    p.stateIn st id = st.state c.cell := by
  rw [Program.stateIn, hc]

theorem ne_included_of_open {c : Condition} (hc : p.conditions[id]? = some c)
    (ho : st.state c.cell = .unresolved) : p.stateIn st id ≠ .included := by
  rw [stateIn_eq hc, ho]
  decide

theorem isIncluded_eq_false {c : Condition} (hc : p.conditions[id]? = some c)
    (h : p.stateIn st id ≠ .included) : (st.state c.cell).isIncluded = false := by
  rw [← stateIn_eq hc]
  exact decide_eq_false h

theorem Later.stateIn_included {X : ConditionId} (h : Later st st')
    (hX : p.stateIn st X = .included) : p.stateIn st' X = .included := by
  cases hc : p.conditions[X]? with
  | none => simp [Program.stateIn, hc] at hX
  | some c =>
    rw [stateIn_eq hc] at hX ⊢
    exact h.included hX

/-- **A question returns what the store holds afterwards.** -/
theorem answer_eq (h : p.resolveAt ctx room id scope symbol st = some (b, st')) :
    b = (p.stateIn st' id).isIncluded := by
  refine resolveAt_induction
    (R := fun _ id _ _ b st' => b = (p.stateIn st' id).isIncluded) ?_ ?_ ?_ ?_ ?_ h
  · intro _ id _ st hc
    rw [Program.stateIn, hc]
    rfl
  · intro _ _ _ _ _ hc _
    rw [stateIn_eq hc]
  · intro _ _ _ _ _ _ _ _ _ hc _ _ _
    rw [stateIn_eq hc]
  · intro _ _ _ _ _ _ _ _ _ hc _ _ _ _
    rw [stateIn_eq hc]
  · intro _ _ _ _ _ _ _ _ _ _ _ hc _ _ _ _ _ _
    rw [stateIn_eq hc]

theorem eq_true_iff_included (h : p.resolveAt ctx room id scope symbol st = some (b, st')) :
    b = true ↔ p.stateIn st' id = .included := by
  rw [answer_eq h]
  simp [Inclusion.isIncluded]

theorem Asked.all_included {child : Scope} {R : ConditionId → Store → Bool → Store → Prop}
    {qs : List (String × ConditionId)} {r : Option String}
    (h : Asked (fun g st b st' => p.resolveAt ctx room g (some child) none st = some (b, st') ∧
      R g st b st') qs st r st') (hr : r = none) : ∀ q ∈ qs, p.stateIn st' q.2 = .included := by
  induction h with
  | done => simp
  | @yes x g qs st st₁ st₂ r hq ha ih =>
    intro q hm
    rcases List.mem_cons.mp hm with rfl | hm
    · exact ha.later_of_answers.stateIn_included ((eq_true_iff_included hq.1).mp rfl)
    · exact ih hr q hm
  | no hq => cases hr

end Answers

end CondComp
