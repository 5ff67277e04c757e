import CondComp.Proofs.Reachable

/-!
# Gagging

A question asked in a trial and the same question asked visibly, from one store.

* `Twin`: the two stores afterwards: only suppressed errors, and conditions that a failure excluded
  in one and left open in the other, tell them apart;
* `Lockstep`: both have a result or none has; the answers agree, and after a yes the stores too;
* **`resolveAt_lockstep`**: the two ways to ask a question keep in step;
* **`inquire_gagged`**: so do the two ways to make an inquiry of a session.
-/

namespace CondComp

/-- The stores `v` after a question that was asked visibly, and `g` after the same question was
asked in a trial, both from `st`. -/
structure Twin (p : Program) (st v g : Store) : Prop where
  modules : v.modules = g.modules
  log : v.log = g.log
  journal : v.journal = g.journal
  balance : v.balance = g.balance
  size_visible : v.cells.size = st.cells.size
  size_trial : g.cells.size = st.cells.size
  nesting : ∀ i, v.nesting i = g.nesting i
  states : ∀ X, p.stateIn v X = p.stateIn g X ∨
    (p.IsStaticIf X ∧ p.stateIn v X = .excluded ∧ p.stateIn g X = .unresolved)
  gagged : v.sink.gagged = st.sink.gagged
  taken : g.sink.taken = st.sink.taken
  errors : ∃ k, v.sink.errors = st.sink.errors + k ∧ g.sink.gagged = st.sink.gagged + k

namespace Twin

variable {p : Program} {l : Limits} {st v g : Store}

theorem refl (st : Store) : Twin p st st st :=
  ⟨rfl, rfl, rfl, rfl, rfl, rfl, fun _ => rfl, fun _ => .inl rfl, rfl, rfl, 0, rfl, rfl⟩

theorem same (hsize : v.cells.size = st.cells.size) (hg : v.sink.gagged = st.sink.gagged)
    (ht : v.sink.taken = st.sink.taken) : Twin p st v v :=
  ⟨rfl, rfl, rfl, rfl, hsize, hsize, fun _ => rfl, fun _ => .inl rfl, hg, ht, 0,
    by rw [Sink.errors, ht, Sink.errors]; rfl, hg⟩

theorem trans {u : Store} (h : Twin p st u u) (h' : Twin p u v g) : Twin p st v g := by
  obtain ⟨k, hv, hg⟩ := h.errors
  obtain ⟨k', hv', hg'⟩ := h'.errors
  have := h.gagged
  have htaken := h.taken
  have herrors : u.sink.errors = st.sink.errors := by rw [Sink.errors, htaken, Sink.errors]
  exact { h' with
    size_visible := h'.size_visible.trans h.size_visible
    size_trial := h'.size_trial.trans h.size_trial
    gagged := h'.gagged.trans h.gagged
    taken := h'.taken.trans h.taken
    errors := ⟨k', by omega, by omega⟩ }

theorem enter {i : CellId} {s : Scope} {depth : Nat} (h : Twin p (st.enter i s depth) v g) :
    Twin p st v g :=
  { h with
    size_visible := h.size_visible.trans (st.size_enter i s depth)
    size_trial := h.size_trial.trans (st.size_enter i s depth) }

theorem size (h : Twin p st v g) : v.cells.size = g.cells.size :=
  h.size_visible.trans h.size_trial.symm

theorem ne_included (h : Twin p st v g) {X : ConditionId} (ho : p.stateIn v X ≠ .included) :
    p.stateIn g X ≠ .included := by
  rcases h.states X with heq | ⟨_, _, hg⟩
  · rwa [← heq]
  · rw [hg]
    decide

theorem leave (h : Twin p st v g) (i : CellId) (depth : Nat) :
    Twin p st (v.leave i depth) (g.leave i depth) := by
  have hnesting : ∀ j, (v.leave i depth).nesting j = (g.leave i depth).nesting j := by
    intro j
    rw [Store.nesting_leave, Store.nesting_leave, h.nesting, h.size]
  exact { h with
    journal := by
      rw [Store.journal_leave, Store.journal_leave, hnesting, h.journal, h.balance]
    balance := congrArg (· - 1) h.balance
    size_visible := by rw [Store.size_leave, h.size_visible]
    size_trial := by rw [Store.size_leave, h.size_trial]
    nesting := hnesting
    states := fun X => by simpa using h.states X }

theorem report (h : Twin p st v g) (source : Source) (message : String) :
    Twin p st (v.report ⟨l, false⟩ source message) (g.report ⟨l, true⟩ source message) := by
  obtain ⟨k, hv, hg⟩ := h.errors
  exact { h with
    states := fun X => by simpa using h.states X
    errors := ⟨k + 1, by
      simp only [Store.report, Bool.false_eq_true, if_false, Sink.errors_push, hv]
      rfl, by
      simp only [Store.report, if_true, Sink.countGagged, hg]
      rfl⟩ }

theorem reportAny (h : Twin p st v g) (fault : Option (Source × Fault)) :
    Twin p st (v.reportAny ⟨l, false⟩ fault) (g.reportAny ⟨l, true⟩ fault) := by
  cases fault with
  | none => exact h
  | some f => exact h.report f.1 f.2.message

/-- The end of an evaluation without a value leaves a condition excluded in one store and open in
the other at most. -/
theorem close (h : Twin p st v g) (hw : p.WellFormed v.cells.size) {id : ConditionId}
    {c : Condition} {e : Expr} (hc : p.conditions[id]? = some c) (ht : c.test = .staticIf e)
    (ho : p.stateIn v id ≠ .included) {verdict : Verdict} (hv : ∀ b, verdict ≠ .value b) :
    Twin p st (v.close c.cell ⟨l, false⟩ verdict) (g.close c.cell ⟨l, true⟩ verdict) := by
  have hw' : p.WellFormed g.cells.size := h.size ▸ hw
  refine
    { modules := by simpa using h.modules
      log := by simpa using h.log
      journal := by simp [h.journal]
      balance := by simpa using h.balance
      size_visible := by simpa using h.size_visible
      size_trial := by simpa using h.size_trial
      nesting := fun i => by simpa using h.nesting i
      states := fun X => ?_
      gagged := by simpa using h.gagged
      taken := by simpa using h.taken
      errors := by simpa using h.errors }
  by_cases hX : X = id
  · subst hX
    have ho' := h.ne_included ho
    rw [stateIn_close_self hw hc, stateIn_close_self hw' hc]
    cases verdict with
    | value b => exact absurd rfl (hv b)
    | noScope | runaway =>
      left
      simp [Verdict.answer?, settle_false_of_ne ho, settle_false_of_ne ho']
    | failed =>
      have hvisible : (Verdict.failed.answer? false).elim (p.stateIn v X) (p.stateIn v X).settle =
          .excluded := settle_false_of_ne ho
      have htrial : (Verdict.failed.answer? true).elim (p.stateIn g X) (p.stateIn g X).settle =
          p.stateIn g X := rfl
      rw [hvisible, htrial]
      cases hg : p.stateIn g X with
      | included => exact absurd hg ho'
      | excluded => exact .inl rfl
      | unresolved => exact .inr ⟨⟨c, e, hc, ht⟩, rfl, rfl⟩
  · rw [stateIn_close_ne hw hc ht hX, stateIn_close_ne hw' hc ht hX]
    exact h.states X

end Twin

/-! ## Questions in step -/

/-- Both ways have a result or none has; the results agree, and after a yes the stores too. -/
def Lockstep {α : Type} (p : Program) (st : Store) (yes : α) :
    Option (α × Store) → Option (α × Store) → Prop :=
  Option.Rel fun a b => a.1 = b.1 ∧ Twin p st a.2 b.2 ∧ (a.1 = yes → a.2 = b.2)

theorem Lockstep.bind {α β : Type} {p : Program} {st : Store} {yes : α}
    {a b : Option (α × Store)} {f f' : α × Store → Option β} {R : β → β → Prop}
    (h : Lockstep p st yes a b)
    (hf : ∀ x v g, a = some (x, v) → Twin p st v g → (x = yes → v = g) →
      Option.Rel R (f (x, v)) (f' (x, g))) :
    Option.Rel R (a.bind f) (b.bind f') := by
  cases h with
  | none => exact .none
  | @some a b h =>
    obtain ⟨x, v⟩ := a
    obtain ⟨x', g⟩ := b
    obtain ⟨rfl, htwin, hyes⟩ := h
    exact hf x v g rfl htwin hyes

theorem Lockstep.after {α : Type} {p : Program} {st u : Store} {yes : α}
    {a b : Option (α × Store)} (h : Lockstep p u yes a b) (hu : Twin p st u u) :
    Lockstep p st yes a b := by
  cases h with
  | none => exact .none
  | some h => exact .some ⟨h.1, hu.trans h.2.1, h.2.2⟩

theorem Lockstep.isSome_iff {α : Type} {p : Program} {st : Store} {yes : α}
    {a b : Option (α × Store)} (h : Lockstep p st yes a b) : a.isSome ↔ b.isSome := by
  cases h with
  | none => rfl
  | some => rfl

theorem Lockstep.of_trial {α : Type} {p : Program} {st g : Store} {yes x : α}
    {a b : Option (α × Store)} (h : Lockstep p st yes a b) (hb : b = some (x, g)) :
    ∃ v, a = some (x, v) ∧ Twin p st v g ∧ (x = yes → v = g) := by
  subst hb
  cases h with
  | @some a _ h =>
    obtain ⟨y, v⟩ := a
    obtain ⟨rfl, h⟩ := h
    exact ⟨v, rfl, h⟩

section Questions

variable {p : Program} {l : Limits}

theorem askAll_lockstep {Gv Gg : ConditionId → EvalM Bool}
    (h : ∀ g st, p.WellFormed st.cells.size → Lockstep p st true (Gv g st) (Gg g st))
    (qs : List (String × ConditionId)) (st : Store) (hw : p.WellFormed st.cells.size) :
    Lockstep p st none (askAll Gv qs st) (askAll Gg qs st) := by
  induction qs generalizing st with
  | nil => exact .some ⟨rfl, .refl st, fun _ => rfl⟩
  | cons q qs ih =>
    obtain ⟨x, g⟩ := q
    rw [askAll_cons, askAll_cons]
    refine (h g st hw).bind fun b v g' _ htwin hyes => ?_
    cases b with
    | false => exact .some ⟨rfl, htwin, fun h => nomatch h⟩
    | true =>
      obtain rfl := hyes rfl
      exact (ih v (htwin.size_visible ▸ hw)).after htwin

theorem barred_lockstep {st : Store} {id : ConditionId} {c : Condition} {e : Expr} {v : Verdict}
    {f : Fault} (hw : p.WellFormed st.cells.size) (hc : p.conditions[id]? = some c)
    (ht : c.test = .staticIf e) (ho : p.stateIn st id ≠ .included) (hv : ∀ b, v ≠ .value b) :
    let v' := (st.report ⟨l, false⟩ c.source f.message).close c.cell ⟨l, false⟩ v
    let g' := (st.report ⟨l, true⟩ c.source f.message).close c.cell ⟨l, true⟩ v
    (v'.state c.cell).isIncluded = (g'.state c.cell).isIncluded ∧ Twin p st v' g' ∧
      ((v'.state c.cell).isIncluded = true → v' = g') := by
  intro v' g'
  have hno : ∀ ctx, (((st.report ctx c.source f.message).close c.cell ctx v).state
      c.cell).isIncluded = false := by
    intro ctx
    exact isIncluded_eq_false hc (stateIn_barred_failed hw hc ho f hv)
  refine ⟨by rw [hno, hno], ?_, fun h => absurd h (by simp [v', hno])⟩
  exact ((Twin.refl st).report c.source f.message).close hw hc ht (by simpa using ho) hv

theorem finish_lockstep {st v g : Store} {id : ConditionId} {c : Condition} {e : Expr}
    {depth : Nat} {r : Option String} {k : Ending} (h : Twin p st v g) (hyes : r = none → v = g)
    (hw : p.WellFormed st.cells.size) (hc : p.conditions[id]? = some c)
    (ht : c.test = .staticIf e) (ho : p.stateIn v id ≠ .included) (hk : p.ending c e r = some k) :
    let v' := v.finish c.cell ⟨l, false⟩ depth k.fault k.verdict
    let g' := g.finish c.cell ⟨l, true⟩ depth k.fault k.verdict
    (v'.state c.cell).isIncluded = (g'.state c.cell).isIncluded ∧ Twin p st v' g' ∧
      ((v'.state c.cell).isIncluded = true → v' = g') := by
  intro v' g'
  rcases ending_cases hk with ⟨b, rfl, rfl, _⟩ | ⟨hfail, _⟩
  · obtain rfl := hyes rfl
    refine ⟨rfl, ?_, fun _ => rfl⟩
    have hsink : v'.sink = v.sink := by simp [v', Store.finish, Store.reportAny]
    refine .same ?_ (by rw [hsink, h.gagged]) (by rw [hsink, h.taken])
    simpa [v', Store.finish] using h.size_visible
  · have hno : ∀ b, k.verdict ≠ .value b := by simp [hfail]
    have hwv : p.WellFormed v.cells.size := by rwa [h.size_visible]
    have hwg : p.WellFormed g.cells.size := by rwa [h.size_trial]
    have hov : (v'.state c.cell).isIncluded = false :=
      isIncluded_eq_false hc (stateIn_finish_failed hwv hc ho _ hno)
    have hog : (g'.state c.cell).isIncluded = false :=
      isIncluded_eq_false hc (stateIn_finish_failed hwg hc (h.ne_included ho) _ hno)
    refine ⟨by rw [hov, hog], ?_, by simp [hov]⟩
    refine ((h.leave c.cell depth).reportAny k.fault).close ?_ hc ht (by simpa using ho) hno
    simpa using hwv

/-- If the questions of an analysis keep in step, so does the question. -/
theorem resolveAt_lockstep_of {room : Nat} {id : ConditionId} {scope : Option Scope}
    {symbol : Option SymbolId} {st : Store} (hw : p.WellFormed st.cells.size)
    (hbelow : ∀ child g st, p.WellFormed st.cells.size →
      Lockstep p st true (p.below ⟨l, false⟩ room child g st) (p.below ⟨l, true⟩ room child g st)) :
    Lockstep p st true (p.resolveAt ⟨l, false⟩ room id scope symbol st)
      (p.resolveAt ⟨l, true⟩ room id scope symbol st) := by
  rw [Program.resolveAt_eq, Program.resolveAt_eq]
  cases stage p ⟨l, false⟩ (l.depth + 1 - room) id scope st with
  | absent hc =>
    rw [resolveWith_absent hc, resolveWith_absent hc]
    exact .some ⟨rfl, .refl st, fun _ => rfl⟩
  | settled c hc hs =>
    rw [resolveWith_settled hc hs, resolveWith_settled hc hs]
    exact .some ⟨rfl, .refl st, fun _ => rfl⟩
  | directive c ns owner q hc ho ht =>
    rw [resolveWith_directive hc ho ht, resolveWith_directive hc ho ht]
    refine .some ⟨rfl, .same ?_ ?_ ?_, fun _ => rfl⟩ <;> simp
  | barred c e v f hc ho ht hb =>
    have hb' : c.bar? ⟨l, true⟩ (l.depth + 1 - room) e scope st = some (v, f) := hb
    rw [resolveWith_barred hc ho ht hb, resolveWith_barred hc ho ht hb']
    exact .some (barred_lockstep hw hc ht (ne_included_of_open hc ho) (bar?_not_value hb))
  | analysed c e s hc ho ht hs hb =>
    subst hs
    have hb' : c.bar? ⟨l, true⟩ (l.depth + 1 - room) e (some s) st = none := hb
    rw [resolveWith_analysed hc ho ht hb, resolveWith_analysed hc ho ht hb']
    have hask := askAll_lockstep (hbelow (s.child symbol)) (e.agenda p.decls).questions
      (st.enter c.cell (s.child symbol) (l.depth + 1 - room)) (by simpa using hw)
    refine hask.bind fun r v g ha htwin hyes => ?_
    have hopen : p.stateIn v id ≠ .included :=
      analysis_not_included ha hw hc ht (ne_included_of_open hc ho)
    dsimp only
    cases hk : p.ending c e r with
    | none => exact .none
    | some k => exact .some (finish_lockstep htwin.enter hyes hw hc ht hopen hk)

/-- **The two ways to ask a question keep in step.** -/
theorem resolveAt_lockstep {room : Nat} {id : ConditionId} {scope : Option Scope}
    {symbol : Option SymbolId} {st : Store} (hw : p.WellFormed st.cells.size) :
    Lockstep p st true (p.resolveAt ⟨l, false⟩ room id scope symbol st)
      (p.resolveAt ⟨l, true⟩ room id scope symbol st) := by
  induction room generalizing id scope symbol st with
  | zero => exact resolveAt_lockstep_of hw fun _ _ _ _ => .none
  | succ room ih => exact resolveAt_lockstep_of hw fun _ _ _ hw => ih hw

theorem below_lockstep {room : Nat} {child : Scope} {g : ConditionId} {st : Store}
    (hw : p.WellFormed st.cells.size) :
    Lockstep p st true (p.below ⟨l, false⟩ room child g st)
      (p.below ⟨l, true⟩ room child g st) := by
  cases room with
  | zero => exact .none
  | succ room => exact resolveAt_lockstep hw

theorem resolve_lockstep {id : ConditionId} {scope : Option Scope} {symbol : Option SymbolId}
    {st : Store} (hw : p.WellFormed st.cells.size) :
    Lockstep p st true (p.resolve ⟨l, false⟩ id scope symbol st)
      (p.resolve ⟨l, true⟩ id scope symbol st) := by
  rw [Program.resolve, Program.resolve]
  exact resolveAt_lockstep hw

end Questions

/-! ## Inquiries in step -/

/-- **Gagging changes only visibility and permanence.** A visible inquiry and a trial answer and
analyse alike; what one reports the other suppresses, and it leaves open what the first excludes. -/
theorem inquire_gagged {s : Session} (hs : s.Reachable fun _ => True) (q : Inquiry) :
    ((s.inquire { q with gagged := false }).isSome ↔ (s.inquire { q with gagged := true }).isSome) ∧
    ∀ rv v rg g, s.inquire { q with gagged := false } = some (rv, v) →
      s.inquire { q with gagged := true } = some (rg, g) →
      rv.included = rg.included ∧ rv.scopes = rg.scopes ∧ v.store.journal = g.store.journal ∧
      v.store.log = g.store.log ∧ v.store.modules = g.store.modules ∧
      v.store.sink.gagged = s.store.sink.gagged ∧ g.store.sink.taken = s.store.sink.taken ∧
      (∃ k, v.store.sink.errors = s.store.sink.errors + k ∧
        g.store.sink.gagged = s.store.sink.gagged + k) ∧
      ∀ c ∈ s.program.conditions, v.stateOf c = g.stateOf c ∨
        (∃ e, c.test = .staticIf e) ∧ s.stateOf c = .unresolved ∧ v.stateOf c = .excluded ∧
          g.stateOf c = .unresolved := by
  have hw : s.program.WellFormed (s.holding q).cells.size := by simpa using hs.wellFormed
  have hstep : Lockstep s.program (s.holding q) true
      (s.program.resolve ⟨q.limits.getD s.limits, false⟩ q.condition q.scope q.symbol (s.holding q))
      (s.program.resolve ⟨q.limits.getD s.limits, true⟩ q.condition q.scope q.symbol
        (s.holding q)) :=
    resolve_lockstep hw
  constructor
  · rw [Session.inquire_isSome, Session.inquire_isSome]
    exact and_congr_right fun _ => hstep.isSome_iff
  · intro rv v rg g hv hg
    obtain ⟨c, b, after, hc, hrv, rfl, rfl⟩ := Session.inquire_eq_some hv
    obtain ⟨c', b', after', hc', hrg, rfl, rfl⟩ := Session.inquire_eq_some hg
    obtain rfl := Option.some.inj (hc.symm.trans hc')
    change s.program.resolve ⟨q.limits.getD s.limits, false⟩ q.condition q.scope q.symbol
      (s.holding q) = some (b, after) at hrv
    change s.program.resolve ⟨q.limits.getD s.limits, true⟩ q.condition q.scope q.symbol
      (s.holding q) = some (b', after') at hrg
    obtain ⟨v, hv', htwin, _⟩ := hstep.of_trial hrg
    rw [hrv] at hv'
    cases hv'
    have hgagged := htwin.gagged
    have htaken := htwin.taken
    have herrors := htwin.errors
    rw [Session.sink_holding] at hgagged htaken herrors
    refine ⟨rfl, ?_, ?_, ?_, ?_, ?_, ?_, ?_, ?_⟩
    · simp [Session.resolution, htwin.journal]
    · simpa using htwin.journal
    · simpa using htwin.log
    · simpa using htwin.modules
    · simpa using hgagged
    · simpa using htaken
    · simpa using herrors
    · intro d hd
      obtain ⟨id, hid⟩ := Array.mem_iff_getElem?.mp hd
      have hstates := htwin.states id
      rw [stateIn_eq hid, stateIn_eq hid] at hstates
      simp only [Session.stateOf_eq, Session.state_freeing]
      rcases hstates with h | ⟨⟨d', e, hd', ht⟩, hve, hgo⟩
      · exact .inl h
      · obtain rfl := Option.some.inj (hid.symm.trans hd')
        refine .inr ⟨⟨e, ht⟩, ?_, hve, hgo⟩
        by_contra hne
        have hset := (resolveAt_later hrv).settled d.cell (by simpa using hne)
        have hset' := (resolveAt_later hrg).settled d.cell (by simpa using hne)
        rw [hve, ← hset', hgo] at hset
        cases hset

/-- Two `static if`s that need each other, where each may be entered again once. -/
def circleSteps : List Step :=
  [.addStaticIf (.ident "a") {}, .addStaticIf (.and (.ident "c") (.ident "b")) {},
    .addDirective .debug 0 (.level 0) {}, .addDecl ⟨"a", .bool true, some 1⟩,
    .addDecl ⟨"b", .ident "a", some 0⟩, .addDecl ⟨"c", .runtime, some 2⟩]

/-- The session after these steps. -/
def circle : Session :=
  (Session.performAll circleSteps (.start .disabled { reentry := 1, depth := 8 })).get
    (by decide +kernel)

theorem circle_reachable : circle.Reachable fun _ => True :=
  (Session.Reachable.start _ _).performAll (Option.some_get _).symm fun _ _ => trivial

theorem inquire_gagged_circle : ∃ rv v rg g,
    circle.inquire { condition := 0, scope := some {}, gagged := false } = some (rv, v) ∧
    circle.inquire { condition := 0, scope := some {}, gagged := true } = some (rg, g) ∧
    rv.included = rg.included ∧ rv.scopes = rg.scopes ∧ rv.scopes.length = 4 ∧
    (∃ k, v.store.sink.errors = circle.store.sink.errors + k ∧
      g.store.sink.gagged = circle.store.sink.gagged + k) ∧
    ∀ c ∈ circle.program.conditions, v.stateOf c = g.stateOf c ∨
      (∃ e, c.test = .staticIf e) ∧ circle.stateOf c = .unresolved ∧ v.stateOf c = .excluded ∧
        g.stateOf c = .unresolved := by
  obtain ⟨⟨rv, v⟩, hv⟩ := Option.isSome_iff_exists.mp (by decide +kernel :
    (circle.inquire { condition := 0, scope := some {}, gagged := false }).isSome = true)
  have hall := inquire_gagged circle_reachable { condition := 0, scope := some {} }
  obtain ⟨⟨rg, g⟩, hg⟩ := Option.isSome_iff_exists.mp (hall.1.mp (by rw [hv]; rfl))
  obtain ⟨hincluded, hscopes, _, _, _, _, _, herrors, hstates⟩ := hall.2 rv v rg g hv hg
  have hlen : (circle.inquire { condition := 0, scope := some {}, gagged := false }).map
      (fun r => r.1.scopes.length) = some 4 := by decide +kernel
  rw [hv] at hlen
  exact ⟨rv, v, rg, g, hv, hg, hincluded, hscopes, Option.some.inj hlen, herrors, hstates⟩

end CondComp
