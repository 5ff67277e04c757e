import CondComp.Proofs.Course

/-!
# Evaluations in flight

While an evaluation asks about a guard, the conditions below it on the way are in flight. Each of
them waits for one of the others or for the guard, so none of them can be included before the
guard is.

* `Program.WellFormed`: every `static if` has a cell of its own;
* `Program.Asks`: a condition asks about a guard; `Program.Waiting`: conditions that wait;
* `Quiet`: a trial in which the recursion guard does not strike;
* **`resolveAt_kept`**: no question includes a condition that waits, and a question that is quiet or
  answered with yes leaves them all as they are.
-/

namespace CondComp

/-- Cells exist, conditions that share a cell ask the same, and a `static if` shares its cell with
no other condition. -/
structure Program.WellFormed (p : Program) (size : Nat) : Prop where
  cell_lt {id : ConditionId} {c : Condition} (hc : p.conditions[id]? = some c) : c.cell < size
  test_eq {id id' : ConditionId} {c c' : Condition} (hc : p.conditions[id]? = some c)
    (hc' : p.conditions[id']? = some c') (h : c.cell = c'.cell) : c.test = c'.test
  own {id id' : ConditionId} {c c' : Condition} {e : Expr} (hc : p.conditions[id]? = some c)
    (hc' : p.conditions[id']? = some c') (ht : c.test = .staticIf e) (h : c.cell = c'.cell) :
    id = id'

theorem Program.WellFormed.congr {p p' : Program} {size : Nat} (hw : p.WellFormed size)
    (h : p'.conditions = p.conditions) : p'.WellFormed size where
  cell_lt hc := hw.cell_lt (h ▸ hc)
  test_eq hc hc' := hw.test_eq (h ▸ hc) (h ▸ hc')
  own hc hc' := hw.own (h ▸ hc) (h ▸ hc')

theorem Program.WellFormed.expr_eq {p : Program} {size : Nat} (hw : p.WellFormed size)
    {c c' : Condition} {e e' : Expr} (hc : c ∈ p.conditions) (hc' : c' ∈ p.conditions)
    (ht : c.test = .staticIf e) (ht' : c'.test = .staticIf e') (h : c.cell = c'.cell) :
    e = e' := by
  obtain ⟨id, hid⟩ := Array.mem_iff_getElem?.mp hc
  obtain ⟨id', hid'⟩ := Array.mem_iff_getElem?.mp hc'
  have htest := hw.test_eq hid hid' h
  rw [ht, ht'] at htest
  exact Test.staticIf.inj htest

/-- What each question preserves is preserved by questions in order. -/
theorem Asked.preserves {p : Program} {I : Store → Prop} {qs : List (String × ConditionId)}
    {st st' : Store} {r : Option String} (h : Asked (fun _ st _ st' => Later st st' ∧
      (p.WellFormed st.cells.size → I st → I st')) qs st r st')
    (hw : p.WellFormed st.cells.size) (hi : I st) : I st' := by
  induction h with
  | done => exact hi
  | yes hq _ ih => exact ih (by rwa [hq.1.size]) (hq.2 hw hi)
  | no hq => exact hq.2 hw hi

theorem Program.WellFormed.empty {p : Program} (h : p.conditions = #[]) (size : Nat) :
    p.WellFormed size := by
  have hno : ∀ {id : ConditionId} {c : Condition}, p.conditions[id]? ≠ some c := by simp [h]
  exact ⟨fun hc => absurd hc hno, fun hc => absurd hc hno, fun hc => absurd hc hno⟩

/-- The condition is a `static if`. -/
def Program.IsStaticIf (p : Program) (X : ConditionId) : Prop :=
  ∃ c e, p.conditions[X]? = some c ∧ c.test = .staticIf e

theorem eq_of_staticIf {p : Program} {id : ConditionId} {c d : Condition} {e e' : Expr}
    (hc : p.conditions[id]? = some c) (ht : c.test = .staticIf e)
    (hd : p.conditions[id]? = some d) (hte : d.test = .staticIf e') : c = d ∧ e = e' := by
  obtain rfl := Option.some.inj (hc.symm.trans hd)
  exact ⟨rfl, Test.staticIf.inj (ht.symm.trans hte)⟩

theorem not_directive_of_staticIf {p : Program} {id : ConditionId} {c d : Condition} {e : Expr}
    {ns : Namespace} {owner : ModuleId} {q : Query} (hc : p.conditions[id]? = some c)
    (ht : c.test = .staticIf e) (hd : p.conditions[id]? = some d) :
    d.test ≠ .directive ns owner q := by
  obtain rfl := Option.some.inj (hc.symm.trans hd)
  rw [ht]
  exact Test.noConfusion

/-- The analysis of a condition may ask about a guard. -/
def Program.Asks (p : Program) (X Y : ConditionId) : Prop :=
  ∃ c e x, p.conditions[X]? = some c ∧ c.test = .staticIf e ∧ (x, Y) ∈ (e.agenda p.decls).questions

/-- Each of the conditions asks about another one or about `id`. -/
def Program.Waiting (p : Program) (frames : List ConditionId) (id : ConditionId) : Prop :=
  ∀ X ∈ frames, ∃ Y ∈ id :: frames, p.Asks X Y

section Waiting

variable {p : Program} {ctx : Context} {st : Store} {id : ConditionId} {c : Condition} {e : Expr}

theorem Program.Waiting.cons {frames : List ConditionId} {x : String} {g : ConditionId}
    (h : p.Waiting frames id) (hc : p.conditions[id]? = some c) (ht : c.test = .staticIf e)
    (hg : (x, g) ∈ (e.agenda p.decls).questions) : p.Waiting (id :: frames) g := by
  intro X hX
  rcases List.mem_cons.mp hX with rfl | hX
  · exact ⟨g, List.mem_cons_self, c, e, x, hc, ht, hg⟩
  · obtain ⟨Y, hY, ha⟩ := h X hX
    exact ⟨Y, List.mem_cons_of_mem _ hY, ha⟩

theorem stateIn_congr {st' : Store} (h : ∀ i, st'.state i = st.state i) (X : ConditionId) :
    p.stateIn st' X = p.stateIn st X := by
  unfold Program.stateIn
  split
  · rfl
  · exact h _

@[simp] theorem stateIn_report (source : Source) (message : String) (X : ConditionId) :
    p.stateIn (st.report ctx source message) X = p.stateIn st X := stateIn_congr (by simp) X

@[simp] theorem stateIn_enter (i : CellId) (s : Scope) (depth : Nat) (X : ConditionId) :
    p.stateIn (st.enter i s depth) X = p.stateIn st X := stateIn_congr (by simp) X

@[simp] theorem stateIn_leave (i : CellId) (depth : Nat) (X : ConditionId) :
    p.stateIn (st.leave i depth) X = p.stateIn st X := stateIn_congr (by simp) X

@[simp] theorem stateIn_reportAny (fault : Option (Source × Fault)) (X : ConditionId) :
    p.stateIn (st.reportAny ctx fault) X = p.stateIn st X := stateIn_congr (by simp) X

theorem stateIn_close_ne (hw : p.WellFormed st.cells.size) (hc : p.conditions[id]? = some c)
    (ht : c.test = .staticIf e) {X : ConditionId} (hX : X ≠ id) (v : Verdict) :
    p.stateIn (st.close c.cell ctx v) X = p.stateIn st X := by
  unfold Program.stateIn
  split
  · rfl
  · next d hd =>
    rw [Store.state_close, if_neg]
    exact fun h => hX (hw.own hc hd ht h.1).symm

theorem stateIn_close_self (hw : p.WellFormed st.cells.size) (hc : p.conditions[id]? = some c)
    (v : Verdict) : p.stateIn (st.close c.cell ctx v) id =
      (v.answer? ctx.gagged).elim (p.stateIn st id) (p.stateIn st id).settle := by
  rw [stateIn_eq hc, stateIn_eq hc, Store.state_close, if_pos ⟨rfl, hw.cell_lt hc⟩]

theorem settle_ne_unresolved (s : Inclusion) (b : Bool) : s.settle b ≠ .unresolved := by
  cases s <;> cases b <;> decide

theorem settle_false_of_ne {s : Inclusion} (h : s ≠ .included) : s.settle false = .excluded := by
  cases s with
  | included => exact absurd rfl h
  | unresolved | excluded => rfl

theorem settle_false_ne_included {s : Inclusion} (h : s ≠ .included) :
    s.settle false ≠ .included := by
  rw [settle_false_of_ne h]
  decide

theorem stateIn_close_ne_included (hw : p.WellFormed st.cells.size)
    (hc : p.conditions[id]? = some c) (ho : p.stateIn st id ≠ .included) {v : Verdict}
    (hv : ∀ b, v ≠ .value b) : p.stateIn (st.close c.cell ctx v) id ≠ .included := by
  rw [stateIn_close_self hw hc]
  cases v with
  | value b => exact absurd rfl (hv b)
  | noScope | runaway => exact settle_false_ne_included ho
  | failed =>
    rw [Verdict.answer?]
    cases ctx.gagged with
    | true => exact ho
    | false => exact settle_false_ne_included ho

theorem stateIn_barred_ne (hw : p.WellFormed st.cells.size) (hc : p.conditions[id]? = some c)
    (ht : c.test = .staticIf e) {X : ConditionId} (hX : X ≠ id) (f : Fault) (v : Verdict) :
    p.stateIn ((st.report ctx c.source f.message).close c.cell ctx v) X = p.stateIn st X := by
  rw [stateIn_close_ne (by simpa using hw) hc ht hX, stateIn_report]

theorem stateIn_barred_failed (hw : p.WellFormed st.cells.size)
    (hc : p.conditions[id]? = some c) (ho : p.stateIn st id ≠ .included) (f : Fault) {v : Verdict}
    (hv : ∀ b, v ≠ .value b) :
    p.stateIn ((st.report ctx c.source f.message).close c.cell ctx v) id ≠ .included := by
  refine stateIn_close_ne_included (by simpa using hw) hc ?_ hv
  simpa using ho

theorem stateIn_finish_ne {depth : Nat} (hw : p.WellFormed st.cells.size)
    (hc : p.conditions[id]? = some c) (ht : c.test = .staticIf e) {X : ConditionId} (hX : X ≠ id)
    (fault : Option (Source × Fault)) (v : Verdict) :
    p.stateIn (st.finish c.cell ctx depth fault v) X = p.stateIn st X := by
  rw [Store.finish, stateIn_close_ne (by simpa using hw) hc ht hX]
  simp

theorem stateIn_finish_failed {depth : Nat} (hw : p.WellFormed st.cells.size)
    (hc : p.conditions[id]? = some c) (ho : p.stateIn st id ≠ .included)
    (fault : Option (Source × Fault)) {v : Verdict} (hv : ∀ b, v ≠ .value b) :
    p.stateIn (st.finish c.cell ctx depth fault v) id ≠ .included := by
  refine stateIn_close_ne_included (by simpa using hw) hc ?_ hv
  simpa using ho

theorem stateIn_finish_value {depth : Nat} (hw : p.WellFormed st.cells.size)
    (hc : p.conditions[id]? = some c) (b : Bool) :
    p.stateIn (st.finish c.cell ctx depth none (.value b)) id = (p.stateIn st id).settle b := by
  rw [Store.finish, stateIn_close_self (by simpa using hw) hc]
  simp [Verdict.answer?]

theorem stateIn_finish_included {depth : Nat} (hw : p.WellFormed st.cells.size)
    (hc : p.conditions[id]? = some c) (ht : c.test = .staticIf e) {X : ConditionId}
    (hX : p.stateIn st X = .included) (fault : Option (Source × Fault)) (v : Verdict) :
    p.stateIn (st.finish c.cell ctx depth fault v) X = .included := by
  by_cases hXi : X = id
  · subst hXi
    rw [Store.finish, stateIn_close_self (by simpa using hw) hc]
    cases v.answer? ctx.gagged <;> simp [hX, Inclusion.settle, Inclusion.isSettled]
  · rw [stateIn_finish_ne hw hc ht hXi, hX]

theorem stateIn_finish_gagged {depth : Nat} (hw : p.WellFormed st.cells.size)
    (hc : p.conditions[id]? = some c) (hg : ctx.gagged = true) (fault : Option (Source × Fault)) :
    p.stateIn (st.finish c.cell ctx depth fault .failed) id = p.stateIn st id := by
  rw [Store.finish, stateIn_close_self (by simpa using hw) hc, hg]
  simp [Verdict.answer?]

end Waiting

/-! ## The conditions that wait -/

section Kept

variable {p : Program} {ctx : Context}

/-- The question is a trial in which the recursion guard does not strike. -/
def Quiet (ctx : Context) (scope : Option Scope) (st st' : Store) : Prop :=
  ctx.gagged = true ∧ st'.runaways = st.runaways ∧ scope ≠ none

/-- A question includes no condition that waits, and changes none if it is answered with yes or
quiet. -/
def Kept (p : Program) (ctx : Context) (frames : List ConditionId) (scope : Option Scope)
    (st : Store) (yes : Prop) (st' : Store) : Prop :=
  (∀ X ∈ frames, p.stateIn st' X ≠ .included) ∧
    (yes ∨ Quiet ctx scope st st' → ∀ X ∈ frames, p.stateIn st' X = p.stateIn st X)

theorem asked_kept {child : Scope} {frames : List ConditionId} {qs : List (String × ConditionId)}
    {st st₂ : Store} {r : Option String}
    (h : Asked (fun g st b st' => Later st st' ∧ (p.WellFormed st.cells.size → p.Waiting frames g →
      (∀ X ∈ frames, p.stateIn st X ≠ .included) →
        Kept p ctx frames (some child) st (b = true) st')) qs st r st₂)
    (hw : p.WellFormed st.cells.size) (hwait : ∀ q ∈ qs, p.Waiting frames q.2)
    (hopen : ∀ X ∈ frames, p.stateIn st X ≠ .included) :
    Kept p ctx frames (some child) st (r = none) st₂ := by
  induction h with
  | done => exact ⟨hopen, fun _ _ _ => rfl⟩
  | @yes x g qs st st₁ st₂ r hq ha ih =>
    obtain ⟨hl, hkept⟩ := hq
    have hl₂ : Later st₁ st₂ := (ha.imp fun _ _ _ _ hq => hq.1).later
    obtain ⟨hopen₁, hsame₁⟩ := hkept hw (hwait (x, g) List.mem_cons_self) hopen
    obtain ⟨hopen₂, hsame₂⟩ := ih (by rwa [hl.size])
      (fun q hm => hwait q (List.mem_cons_of_mem _ hm)) hopen₁
    refine ⟨hopen₂, fun hor X hX => (hsame₂ ?_ X hX).trans (hsame₁ (.inl rfl) X hX)⟩
    refine hor.imp_right fun hquiet => ⟨hquiet.1, ?_, hquiet.2.2⟩
    have := hquiet.2.1
    have := hl.runaways
    have := hl₂.runaways
    omega
  | @no x g qs st st₁ hq =>
    obtain ⟨hopen₁, hsame₁⟩ := hq.2 hw (hwait (x, g) List.mem_cons_self) hopen
    exact ⟨hopen₁, fun hor => hsame₁ (.inr (hor.resolve_left (by simp)))⟩

variable {room : Nat} {id : ConditionId} {scope : Option Scope} {symbol : Option SymbolId}
  {st st' : Store} {b : Bool}

theorem kept_barred {depth : Nat} {id : ConditionId} {c : Condition} {e : Expr} {v : Verdict}
    {f : Fault} {scope : Option Scope} {st : Store} {frames : List ConditionId}
    (hw : p.WellFormed st.cells.size) (hc : p.conditions[id]? = some c)
    (ho : p.stateIn st id ≠ .included) (ht : c.test = .staticIf e)
    (hb : c.bar? ctx depth e scope st = some (v, f))
    (hopen : ∀ X ∈ frames, p.stateIn st X ≠ .included) :
    Kept p ctx frames scope st
      (p.stateIn ((st.report ctx c.source f.message).close c.cell ctx v) id = .included)
      ((st.report ctx c.source f.message).close c.cell ctx v) := by
  have hself : p.stateIn ((st.report ctx c.source f.message).close c.cell ctx v) id ≠ .included :=
    stateIn_barred_failed hw hc ho f (bar?_not_value hb)
  have hne : ∀ X, X ≠ id →
      p.stateIn ((st.report ctx c.source f.message).close c.cell ctx v) X = p.stateIn st X :=
    fun X hX => stateIn_barred_ne hw hc ht hX f v
  refine ⟨fun X hX => ?_, fun hor X hX => ?_⟩
  · by_cases hXi : X = id
    · rwa [hXi]
    · rw [hne X hXi]
      exact hopen X hX
  · by_cases hXi : X = id
    · subst hXi
      obtain ⟨hg, hr, hs⟩ := hor.resolve_left hself
      rcases bar?_eq_some hb with ⟨_, hs'⟩ | ⟨rfl, _⟩ | ⟨rfl, _⟩
      · exact absurd hs' hs
      · simp at hr
      · rw [stateIn_close_self (by simpa using hw) hc, hg]
        exact stateIn_report _ _ _
    · exact hne X hXi

theorem kept_analysed {depth : Nat} {id : ConditionId} {c : Condition} {e : Expr} {k : Ending}
    {s child : Scope} {st st₂ : Store} {r : Option String} {frames : List ConditionId}
    (hw : p.WellFormed st₂.cells.size) (hc : p.conditions[id]? = some c)
    (ht : c.test = .staticIf e) (hk : p.ending c e r = some k) (hwait : p.Waiting frames id)
    (hrun : st.runaways ≤ st₂.runaways)
    (hall : r = none → ∀ q ∈ (e.agenda p.decls).questions, p.stateIn st₂ q.2 = .included)
    (h : Kept p ctx (id :: frames) (some child) (st.enter c.cell child depth) (r = none) st₂) :
    Kept p ctx frames (some s) st
      (p.stateIn (st₂.finish c.cell ctx depth k.fault k.verdict) id = .included)
      (st₂.finish c.cell ctx depth k.fault k.verdict) := by
  obtain ⟨hopen, hsame⟩ := h
  -- with a value all guards are included, so that the condition does not wait already
  have hvalue : ∀ b, k.verdict = .value b → id ∉ frames ∧ r = none := by
    intro b hv
    rcases ending_cases hk with ⟨b', _, rfl, _⟩ | ⟨hf, _⟩
    · refine ⟨fun hmem => ?_, rfl⟩
      obtain ⟨Y, hY, d, e', x, hd, hte, hq⟩ := hwait id hmem
      obtain ⟨rfl, rfl⟩ := eq_of_staticIf hc ht hd hte
      exact hopen Y hY (hall rfl _ hq)
    · rw [hf] at hv
      cases hv
  have hself : (∀ b, k.verdict ≠ .value b) →
      p.stateIn (st₂.finish c.cell ctx depth k.fault k.verdict) id ≠ .included :=
    stateIn_finish_failed hw hc (hopen id List.mem_cons_self) _
  have hne : ∀ X, X ≠ id →
      p.stateIn (st₂.finish c.cell ctx depth k.fault k.verdict) X = p.stateIn st₂ X :=
    fun X hX => stateIn_finish_ne hw hc ht hX _ _
  refine ⟨fun X hX => ?_, fun hor X hX => ?_⟩
  · by_cases hXi : X = id
    · subst hXi
      exact hself fun b hv => (hvalue b hv).1 hX
    · rw [hne X hXi]
      exact hopen X (List.mem_cons_of_mem _ hX)
  · have hor₂ : r = none ∨ Quiet ctx (some child) (st.enter c.cell child depth) st₂ := by
      rcases hor with hyes | ⟨hg, hr, _⟩
      · by_contra hno
        refine hself (fun b hv => hno (.inl (hvalue b hv).2)) hyes
      · refine .inr ⟨hg, ?_, by simp⟩
        rw [Store.runaways_finish] at hr
        rw [Store.runaways_enter]
        omega
    have hX₂ := hsame hor₂ X (List.mem_cons_of_mem _ hX)
    rw [stateIn_enter] at hX₂
    by_cases hXi : X = id
    · subst hXi
      have hfail : ∀ b, k.verdict ≠ .value b := fun b hv => (hvalue b hv).1 hX
      have hg := (hor.resolve_left (hself hfail)).1
      rcases ending_cases hk with ⟨b, hb, _⟩ | ⟨hf, _⟩
      · exact absurd (by rw [hb]) (hfail b)
      · rw [hf, stateIn_finish_gagged hw hc hg, hX₂]
    · rw [hne X hXi, hX₂]

/-- **No question includes a condition that waits**, and only failures that settle and the
recursion guard exclude one. -/
theorem resolveAt_kept (h : p.resolveAt ctx room id scope symbol st = some (b, st'))
    (hw : p.WellFormed st.cells.size) {frames : List ConditionId} (hwait : p.Waiting frames id)
    (hopen : ∀ X ∈ frames, p.stateIn st X ≠ .included) :
    Kept p ctx frames scope st (p.stateIn st' id = .included) st' := by
  refine resolveAt_induction (R := fun _ id scope st _ st' => p.WellFormed st.cells.size →
    ∀ frames, p.Waiting frames id → (∀ X ∈ frames, p.stateIn st X ≠ .included) →
      Kept p ctx frames scope st (p.stateIn st' id = .included) st')
    ?_ ?_ ?_ ?_ ?_ h hw frames hwait hopen
  · intro _ _ _ _ _ _ frames _ hopen
    exact ⟨hopen, fun _ _ _ => rfl⟩
  · intro _ _ _ _ _ _ _ _ frames _ hopen
    exact ⟨hopen, fun _ _ _ => rfl⟩
  · intro _ id scope st c ns owner q st' hc _ ht hst hw frames hwait hopen
    -- a condition that waits is no directive, so its cell is another one
    have hsame : ∀ X ∈ frames, p.stateIn st' X = p.stateIn st X := by
      intro X hX
      obtain ⟨Y, _, d, e, x, hd, hte, _⟩ := hwait X hX
      rw [stateIn_eq hd, stateIn_eq hd, hst, Store.state_settle, if_neg]
      · simp
      · intro h
        have := hw.test_eq hc hd h.1
        rw [ht, hte] at this
        cases this
    exact ⟨fun X hX => by rw [hsame X hX]; exact hopen X hX, fun _ => hsame⟩
  · intro _ id scope st c e v f st' hc ho ht hb hst hw frames _ hopen
    rw [hst]
    exact kept_barred hw hc (ne_included_of_open hc ho) ht hb hopen
  · intro room id s symbol st c e r st₂ k st' hc ho ht _ ha hk hst hw frames hwait hopen
    have hl : Later (st.enter c.cell (s.child symbol) (ctx.limits.depth - room)) st₂ :=
      ha.later_of_answers
    have hopen₁ : ∀ X ∈ id :: frames,
        p.stateIn (st.enter c.cell (s.child symbol) (ctx.limits.depth - room)) X ≠ .included := by
      intro X hX
      rw [stateIn_enter]
      rcases List.mem_cons.mp hX with rfl | hX
      · exact ne_included_of_open hc ho
      · exact hopen X hX
    have hasked : Kept p ctx (id :: frames) (some (s.child symbol))
        (st.enter c.cell (s.child symbol) (ctx.limits.depth - room)) (r = none) st₂ := by
      refine asked_kept (ha.imp fun g st b st' hq => ⟨resolveAt_later hq.1, ?_⟩)
        (by simpa using hw) (fun q hq => hwait.cons hc ht hq) hopen₁
      intro hw hwait hopen
      rw [eq_true_iff_included hq.1]
      exact hq.2 hw _ hwait hopen
    rw [hst]
    refine kept_analysed (by rwa [hl.size, Store.size_enter]) hc ht hk hwait ?_ ?_ hasked
    · have := hl.runaways
      rwa [Store.runaways_enter] at this
    · exact ha.all_included

theorem Asked.kept_self {c : Condition} {e : Expr} {child : Scope} {depth : Nat} {st₂ : Store}
    {r : Option String} {R : ConditionId → Store → Bool → Store → Prop}
    (h : Asked (fun g st b st' => p.resolveAt ctx room g (some child) none st = some (b, st') ∧
      R g st b st') (e.agenda p.decls).questions (st.enter c.cell child depth) r st₂)
    (hw : p.WellFormed st.cells.size) (hc : p.conditions[id]? = some c)
    (ht : c.test = .staticIf e) (ho : p.stateIn st id ≠ .included) :
    Kept p ctx [id] (some child) (st.enter c.cell child depth) (r = none) st₂ := by
  refine asked_kept (h.imp fun g st b st' hq => ⟨resolveAt_later hq.1, ?_⟩) (by simpa using hw)
    (fun q hq => Program.Waiting.cons (by simp [Program.Waiting]) hc ht hq) (by simpa using ho)
  intro hw hwait hopen
  rw [eq_true_iff_included hq.1]
  exact resolveAt_kept hq.1 hw hwait hopen

theorem Asked.not_included {c : Condition} {e : Expr} {child : Scope} {depth : Nat} {st₂ : Store}
    {r : Option String} {R : ConditionId → Store → Bool → Store → Prop}
    (h : Asked (fun g st b st' => p.resolveAt ctx room g (some child) none st = some (b, st') ∧
      R g st b st') (e.agenda p.decls).questions (st.enter c.cell child depth) r st₂)
    (hw : p.WellFormed st.cells.size) (hc : p.conditions[id]? = some c)
    (ht : c.test = .staticIf e) (ho : p.stateIn st id ≠ .included) :
    p.stateIn st₂ id ≠ .included :=
  (h.kept_self hw hc ht ho).1 id List.mem_cons_self

theorem Asked.unchanged {c : Condition} {e : Expr} {child : Scope} {depth : Nat} {st₂ : Store}
    {R : ConditionId → Store → Bool → Store → Prop}
    (h : Asked (fun g st b st' => p.resolveAt ctx room g (some child) none st = some (b, st') ∧
      R g st b st') (e.agenda p.decls).questions (st.enter c.cell child depth) none st₂)
    (hw : p.WellFormed st.cells.size) (hc : p.conditions[id]? = some c)
    (ht : c.test = .staticIf e) (ho : p.stateIn st id ≠ .included) :
    st₂.state c.cell = st.state c.cell := by
  have hsame := (h.kept_self hw hc ht ho).2 (.inl rfl) id List.mem_cons_self
  rwa [stateIn_enter, stateIn_eq hc, stateIn_eq hc] at hsame

theorem below_eq_some {child : Scope} {g : ConditionId}
    (h : p.below ctx room child g st = some (b, st')) :
    ∃ k, room = k + 1 ∧ p.resolveAt ctx k g (some child) none st = some (b, st') := by
  cases room with
  | zero => cases h
  | succ k => exact ⟨k, rfl, h⟩

theorem below_later {child : Scope} {g : ConditionId}
    (h : p.below ctx room child g st = some (b, st')) : Later st st' := by
  obtain ⟨k, _, h⟩ := below_eq_some h
  exact resolveAt_later h

theorem askAll_later {child : Scope} {qs : List (String × ConditionId)} {r : Option String}
    (h : askAll (p.below ctx room child) qs st = some (r, st')) : Later st st' :=
  ((asked_of_askAll h).imp fun _ _ _ _ => below_later).later

theorem analysis_kept {c : Condition} {e : Expr} {child : Scope} {depth : Nat} {st₂ : Store}
    {r : Option String} {frames : List ConditionId}
    (ha : askAll (p.below ctx room child) (e.agenda p.decls).questions
      (st.enter c.cell child depth) = some (r, st₂))
    (hw : p.WellFormed st.cells.size) (hc : p.conditions[id]? = some c)
    (ht : c.test = .staticIf e) (hwait : p.Waiting frames id)
    (hopen : ∀ X ∈ id :: frames, p.stateIn st X ≠ .included) :
    Kept p ctx (id :: frames) (some child) (st.enter c.cell child depth) (r = none) st₂ := by
  refine asked_kept ((asked_of_askAll ha).imp fun g st b st' hq => ?_) (by simpa using hw)
    (fun q hq => hwait.cons hc ht hq) fun X hX => by simpa using hopen X hX
  obtain ⟨k, _, hq⟩ := below_eq_some hq
  refine ⟨resolveAt_later hq, fun hw hwait hopen => ?_⟩
  rw [eq_true_iff_included hq]
  exact resolveAt_kept hq hw hwait hopen

theorem analysis_not_included {c : Condition} {e : Expr} {child : Scope} {depth : Nat}
    {st₂ : Store} {r : Option String}
    (ha : askAll (p.below ctx room child) (e.agenda p.decls).questions
      (st.enter c.cell child depth) = some (r, st₂))
    (hw : p.WellFormed st.cells.size) (hc : p.conditions[id]? = some c)
    (ht : c.test = .staticIf e) (ho : p.stateIn st id ≠ .included) :
    p.stateIn st₂ id ≠ .included := by
  have hwait : p.Waiting [] id := by simp [Program.Waiting]
  exact (analysis_kept ha hw hc ht hwait (by simpa using ho)).1 id List.mem_cons_self

end Kept

end CondComp
