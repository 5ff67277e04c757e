import CondComp.Proofs.Gagging

/-!
# Trials leave no trace

A trial in which the recursion guard does not strike, and the same question asked visibly after it.

* `Alike`: stores that visible questions do not tell apart;
* `Traceless`: after a trial a question ends as it does without it;
* **`resolveAt_traceless`**: trials leave no trace on a question;
* **`inquire_after_trial`**: nor on an inquiry of a session.
-/

namespace CondComp

/-- The stores differ at most in suppressed errors and in the journal. -/
structure Alike (a b : Store) : Prop where
  modules : a.modules = b.modules
  log : a.log = b.log
  taken : a.sink.taken = b.sink.taken
  size : a.cells.size = b.cells.size
  state : ∀ i, a.state i = b.state i
  nesting : ∀ i, a.nesting i = b.nesting i

namespace Alike

variable {p : Program} {l : Limits} {a b : Store}

theorem refl (a : Store) : Alike a a := ⟨rfl, rfl, rfl, rfl, fun _ => rfl, fun _ => rfl⟩

theorem stateIn (h : Alike a b) (X : ConditionId) : p.stateIn a X = p.stateIn b X :=
  stateIn_congr h.state X

theorem bar (h : Alike a b) (c : Condition) (ctx : Context) (depth : Nat) (e : Expr)
    (scope : Option Scope) : c.bar? ctx depth e scope a = c.bar? ctx depth e scope b := by
  have hn : (a.cell c.cell).nesting = (b.cell c.cell).nesting := h.nesting c.cell
  rw [Condition.bar?, Condition.bar?, hn]

theorem report (h : Alike a b) (source : Source) (message : String) :
    Alike (a.report ⟨l, false⟩ source message) (b.report ⟨l, false⟩ source message) :=
  { h with
    taken := congrArg (fun t => t.push (Diagnostic.errorAt source message)) h.taken }

theorem reportAny (h : Alike a b) (fault : Option (Source × Fault)) :
    Alike (a.reportAny ⟨l, false⟩ fault) (b.reportAny ⟨l, false⟩ fault) := by
  cases fault with
  | none => exact h
  | some f => exact h.report f.1 f.2.message

theorem close (h : Alike a b) (i : CellId) (ctx : Context) (v : Verdict) :
    Alike (a.close i ctx v) (b.close i ctx v) where
  modules := by simpa using h.modules
  log := by simpa using h.log
  taken := by simpa using h.taken
  size := by simpa using h.size
  state j := by rw [Store.state_close, Store.state_close, h.state, h.size]
  nesting j := by simpa using h.nesting j

theorem leave (h : Alike a b) (i : CellId) (depth : Nat) :
    Alike (a.leave i depth) (b.leave i depth) where
  modules := h.modules
  log := h.log
  taken := h.taken
  size := by simpa using h.size
  state j := by simpa using h.state j
  nesting j := by rw [Store.nesting_leave, Store.nesting_leave, h.nesting, h.size]

theorem finish (h : Alike a b) (i : CellId) (depth : Nat) (fault : Option (Source × Fault))
    (v : Verdict) : Alike (a.finish i ⟨l, false⟩ depth fault v)
      (b.finish i ⟨l, false⟩ depth fault v) :=
  ((h.leave i depth).reportAny fault).close i ⟨l, false⟩ v

theorem enter (h : Alike a b) (i : CellId) (s : Scope) (depth : Nat) :
    Alike (a.enter i s depth) (b.enter i s depth) where
  modules := h.modules
  log := h.log
  taken := h.taken
  size := by simpa using h.size
  state j := by simpa using h.state j
  nesting j := by rw [Store.nesting_enter, Store.nesting_enter, h.nesting, h.size]

theorem trans {c : Store} (h : Alike a b) (h' : Alike b c) : Alike a c where
  modules := h.modules.trans h'.modules
  log := h.log.trans h'.log
  taken := h.taken.trans h'.taken
  size := h.size.trans h'.size
  state i := (h.state i).trans (h'.state i)
  nesting i := (h.nesting i).trans (h'.nesting i)

theorem failed_trial (st : Store) (i : CellId) (fault : Option (Source × Fault)) :
    Alike ((st.reportAny ⟨l, true⟩ fault).close i ⟨l, true⟩ .failed) st := by
  cases fault <;> exact ⟨rfl, rfl, rfl, rfl, fun _ => rfl, fun _ => rfl⟩

theorem leave_enter (st : Store) {i : CellId} (hn : 0 < st.nesting i) (s : Scope)
    (depth depth' : Nat) : Alike ((st.leave i depth).enter i s depth') st where
  modules := rfl
  log := rfl
  taken := rfl
  size := by simp
  state j := by simp
  nesting j := by
    rw [Store.nesting_enter, Store.nesting_leave, Store.size_leave]
    split_ifs with h
    · obtain ⟨rfl, _⟩ := h
      omega
    · rfl

end Alike

/-! ## Questions after a trial -/

/-- After a trial from `st` to `g` that answered `x`, a question ends as it does without it. -/
def Traceless {α : Type} (question : EvalM α) (st g : Store) (x : α) : Prop :=
  ∃ v, question st = some (x, v) ∧ ∀ st', Alike st' g → ∃ f, question st' = some (x, f) ∧ Alike f v

section Questions

variable {p : Program} {l : Limits}

theorem resolveAt_included {ctx : Context} {room : Nat} {id : ConditionId} {scope : Option Scope}
    {symbol : Option SymbolId} {st : Store} (h : p.stateIn st id = .included) :
    p.resolveAt ctx room id scope symbol st = some (true, st) := by
  cases hc : p.conditions[id]? with
  | none => simp [Program.stateIn, hc] at h
  | some c =>
    rw [stateIn_eq hc] at h
    rw [Program.resolveAt_eq, resolveWith_settled hc (by rw [h]; decide), h]
    rfl

/-- The questions of an analysis that were answered with yes in the trial are settled after it, and
the one that was answered with no is asked again. -/
theorem askAll_traceless {room : Nat} {child : Scope}
    (hbelow : ∀ g st b st', p.WellFormed st.cells.size →
      p.below ⟨l, true⟩ room child g st = some (b, st') → st'.runaways = st.runaways →
      Traceless (p.below ⟨l, false⟩ room child g) st st' b)
    {qs : List (String × ConditionId)} {st g : Store} {r : Option String}
    (hw : p.WellFormed st.cells.size)
    (h : askAll (p.below ⟨l, true⟩ room child) qs st = some (r, g))
    (hr : g.runaways = st.runaways) :
    Traceless (askAll (p.below ⟨l, false⟩ room child) qs) st g r := by
  induction qs generalizing st with
  | nil =>
    cases h
    exact ⟨_, rfl, fun st' hs => ⟨st', rfl, hs⟩⟩
  | cons q qs ih =>
    obtain ⟨x, d⟩ := q
    rw [askAll_cons] at h
    obtain ⟨⟨b, u⟩, hq, h⟩ := Option.bind_eq_some_iff.mp h
    cases b with
    | false =>
      cases h
      obtain ⟨v, hv, hretry⟩ := hbelow d st false _ hw hq hr
      refine ⟨v, by rw [askAll_cons, hv]; rfl, fun st' hs => ?_⟩
      obtain ⟨f, hf, ha⟩ := hretry st' hs
      exact ⟨f, by rw [askAll_cons, hf]; rfl, ha⟩
    | true =>
      have h : askAll (p.below ⟨l, true⟩ room child) qs u = some (r, g) := h
      have hl := below_later hq
      have hl' := askAll_later h
      obtain ⟨u', hu, _, hyes⟩ := (below_lockstep hw).of_trial hq
      obtain rfl := hyes rfl
      have hru : g.runaways = u'.runaways := by
        have := hl.runaways
        have := hl'.runaways
        omega
      obtain ⟨v, hv, hretry⟩ := ih (by rwa [hl.size]) h hru
      refine ⟨v, by rw [askAll_cons, hu]; exact hv, fun st' hs => ?_⟩
      obtain ⟨k, rfl, hk⟩ := below_eq_some hq
      have hincluded : p.stateIn st' d = .included := by
        rw [hs.stateIn]
        exact hl'.stateIn_included ((eq_true_iff_included hk).mp rfl)
      have hasked : p.below ⟨l, false⟩ (k + 1) child d st' = some (true, st') :=
        resolveAt_included hincluded
      obtain ⟨f, hf, ha⟩ := hretry st' hs
      exact ⟨f, by rw [askAll_cons, hasked]; exact hf, ha⟩

theorem barred_traceless {id : ConditionId} {c : Condition} {e : Expr} {f : Fault}
    {depth : Nat} {G : Scope → ConditionId → EvalM Bool} {scope : Option Scope}
    {symbol : Option SymbolId} {st : Store} (hw : p.WellFormed st.cells.size)
    (hc : p.conditions[id]? = some c) (ho : st.state c.cell = .unresolved)
    (ht : c.test = .staticIf e) (hb : c.bar? ⟨l, false⟩ depth e scope st = some (.failed, f)) :
    Traceless (p.resolveWith ⟨l, false⟩ depth G id scope symbol) st
      ((st.report ⟨l, true⟩ c.source f.message).close c.cell ⟨l, true⟩ .failed) false := by
  have hagain : ∀ st', Alike st' st → p.resolveWith ⟨l, false⟩ depth G id scope symbol st' =
      some (false, (st'.report ⟨l, false⟩ c.source f.message).close c.cell ⟨l, false⟩ .failed) := by
    intro st' hs
    have ho' : st'.state c.cell = .unresolved := by rw [hs.state, ho]
    have hb' : c.bar? ⟨l, false⟩ depth e scope st' = some (.failed, f) := by rw [hs.bar, hb]
    have hw' : p.WellFormed st'.cells.size := by rwa [hs.size]
    have hfail : (((st'.report ⟨l, false⟩ c.source f.message).close c.cell ⟨l, false⟩
        .failed).state c.cell).isIncluded = false :=
      isIncluded_eq_false hc
        (stateIn_barred_failed hw' hc (ne_included_of_open hc ho') f (bar?_not_value hb))
    rw [resolveWith_barred hc ho' ht hb']
    exact congrArg (fun b => some (b, _)) hfail
  refine ⟨_, hagain st (.refl st), fun st' hs => ?_⟩
  have hst : Alike st' st := hs.trans (Alike.failed_trial st c.cell (some (c.source, f)))
  exact ⟨_, hagain st' hst, (hst.report c.source f.message).close c.cell ⟨l, false⟩ .failed⟩

theorem failed_trial_begins {room depth : Nat} {id : ConditionId} {c : Condition} {e : Expr}
    {s : Scope} {symbol : Option SymbolId} {st g₂ : Store} {r : Option String}
    {fault : Option (Source × Fault)} {v : Verdict} (hw : p.WellFormed st.cells.size)
    (hc : p.conditions[id]? = some c) (ho : st.state c.cell = .unresolved)
    (ht : c.test = .staticIf e)
    (hg : askAll (p.below ⟨l, true⟩ room (s.child symbol)) (e.agenda p.decls).questions
      (st.enter c.cell (s.child symbol) depth) = some (r, g₂))
    (hr : g₂.runaways = st.runaways) (hv : v = .failed) {st' : Store}
    (hs : Alike st' (g₂.finish c.cell ⟨l, true⟩ depth fault v)) :
    st'.state c.cell = .unresolved ∧ st'.nesting c.cell = st.nesting c.cell ∧
      Alike (st'.enter c.cell (s.child symbol) depth) g₂ := by
  subst hv
  have hl := askAll_later hg
  have hopen : ∀ X ∈ [id], p.stateIn st X ≠ .included := by
    simp [stateIn_eq hc, ho]
  have hkept := analysis_kept hg hw hc ht (by simp [Program.Waiting]) hopen
  have hquiet : Quiet ⟨l, true⟩ (some (s.child symbol)) (st.enter c.cell (s.child symbol) depth)
      g₂ := ⟨rfl, by rw [hr, Store.runaways_enter], by simp⟩
  have hstate : g₂.state c.cell = .unresolved := by
    rw [← stateIn_eq hc, hkept.2 (.inr hquiet) id List.mem_cons_self, stateIn_enter,
      stateIn_eq hc, ho]
  have hnesting : g₂.nesting c.cell = st.nesting c.cell + 1 := by
    rw [hl.nesting, Store.nesting_enter, if_pos ⟨rfl, hw.cell_lt hc⟩]
  have hleft : Alike st' (g₂.leave c.cell depth) := hs.trans (Alike.failed_trial _ c.cell fault)
  refine ⟨?_, ?_, ?_⟩
  · rw [hleft.state, Store.state_leave, hstate]
  · have hlt : c.cell < g₂.cells.size := by
      rw [hl.size, Store.size_enter]
      exact hw.cell_lt hc
    rw [hleft.nesting, Store.nesting_leave, if_pos ⟨rfl, hlt⟩, hnesting]
    rfl
  · exact (hleft.enter c.cell _ depth).trans (Alike.leave_enter g₂ (by omega) _ depth depth)

/-- What the trial analysed is settled after it, or analysed again. -/
theorem analysed_traceless {room depth : Nat} {id : ConditionId} {c : Condition} {e : Expr}
    {s : Scope} {symbol : Option SymbolId} {st g₂ : Store} {r : Option String} {k : Ending}
    (hw : p.WellFormed st.cells.size) (hc : p.conditions[id]? = some c)
    (ho : st.state c.cell = .unresolved) (ht : c.test = .staticIf e)
    (hb : c.bar? ⟨l, false⟩ depth e (some s) st = none)
    (hg : askAll (p.below ⟨l, true⟩ room (s.child symbol)) (e.agenda p.decls).questions
      (st.enter c.cell (s.child symbol) depth) = some (r, g₂))
    (htrace : Traceless (askAll (p.below ⟨l, false⟩ room (s.child symbol))
      (e.agenda p.decls).questions) (st.enter c.cell (s.child symbol) depth) g₂ r)
    (hk : p.ending c e r = some k) (hr : g₂.runaways = st.runaways) :
    let g := g₂.finish c.cell ⟨l, true⟩ depth k.fault k.verdict
    Traceless (p.resolveWith ⟨l, false⟩ depth (p.below ⟨l, false⟩ room) id (some s) symbol) st g
      (g.state c.cell).isIncluded := by
  intro g
  obtain ⟨v₂, hv, hretry⟩ := htrace
  have hask : Lockstep p (st.enter c.cell (s.child symbol) depth) none
      (askAll (p.below ⟨l, false⟩ room (s.child symbol)) (e.agenda p.decls).questions
        (st.enter c.cell (s.child symbol) depth))
      (askAll (p.below ⟨l, true⟩ room (s.child symbol)) (e.agenda p.decls).questions
        (st.enter c.cell (s.child symbol) depth)) :=
    askAll_lockstep (fun _ _ hw => below_lockstep hw) _ _ (by simpa using hw)
  obtain ⟨v₂', hv', htwin, hyes⟩ := hask.of_trial hg
  obtain rfl : v₂ = v₂' := by
    rw [hv] at hv'
    exact congrArg Prod.snd (Option.some.inj hv')
  have hopen : p.stateIn v₂ id ≠ .included :=
    analysis_not_included hv hw hc ht (ne_included_of_open hc ho)
  have hanswer : ((v₂.finish c.cell ⟨l, false⟩ depth k.fault k.verdict).state c.cell).isIncluded =
      (g.state c.cell).isIncluded := (finish_lockstep htwin.enter hyes hw hc ht hopen hk).1
  refine ⟨v₂.finish c.cell ⟨l, false⟩ depth k.fault k.verdict, ?_, fun st' hs => ?_⟩
  · rw [resolveWith_analysed hc ho ht hb, hv]
    simpa [hk] using hanswer
  rcases ending_cases hk with ⟨b, rfl, rfl, _⟩ | ⟨hfail, _⟩
  · -- with a value the visible evaluation ends in the store of the trial
    obtain rfl := hyes rfl
    refine ⟨st', ?_, hs⟩
    have hset : st'.state c.cell ≠ .unresolved := by
      have hw₂ : p.WellFormed v₂.cells.size := by rwa [htwin.size_visible, Store.size_enter]
      rw [hs.state, ← stateIn_eq hc, stateIn_finish_value hw₂ hc]
      exact settle_ne_unresolved _ _
    rw [← hs.state]
    exact resolveWith_settled hc hset
  · obtain ⟨ho', hn, hbegin⟩ := failed_trial_begins hw hc ho ht hg hr hfail hs
    obtain ⟨f₂, hf, halike⟩ := hretry _ hbegin
    have hb' : c.bar? ⟨l, false⟩ depth e (some s) st' = none := by
      rw [bar?_eq_none, hn]
      exact bar?_eq_none.mp hb
    have hfinish : Alike (f₂.finish c.cell ⟨l, false⟩ depth k.fault k.verdict)
      (v₂.finish c.cell ⟨l, false⟩ depth k.fault k.verdict) := halike.finish c.cell depth _ _
    refine ⟨_, ?_, hfinish⟩
    rw [resolveWith_analysed hc ho' ht hb', hf]
    simpa [hk, hfinish.state] using hanswer

theorem resolveAt_traceless_of {room : Nat} {id : ConditionId} {s : Scope}
    {symbol : Option SymbolId} {st g : Store} {b : Bool}
    (hbelow : ∀ child d st b st', p.WellFormed st.cells.size →
      p.below ⟨l, true⟩ room child d st = some (b, st') → st'.runaways = st.runaways →
      Traceless (p.below ⟨l, false⟩ room child d) st st' b)
    (hw : p.WellFormed st.cells.size)
    (h : p.resolveAt ⟨l, true⟩ room id (some s) symbol st = some (b, g))
    (hr : g.runaways = st.runaways) :
    Traceless (p.resolveAt ⟨l, false⟩ room id (some s) symbol) st g b := by
  rw [Program.resolveAt_eq] at h ⊢
  cases stage p ⟨l, true⟩ (l.depth + 1 - room) id (some s) st with
  | absent hc =>
    rw [resolveWith_absent hc] at h
    cases h
    exact ⟨_, resolveWith_absent hc, fun st' hs => ⟨st', resolveWith_absent hc, hs⟩⟩
  | settled c hc hset =>
    rw [resolveWith_settled hc hset] at h
    cases h
    refine ⟨_, resolveWith_settled hc hset, fun st' hs => ⟨st', ?_, hs⟩⟩
    rw [← hs.state] at hset ⊢
    exact resolveWith_settled hc hset
  | directive c ns owner q hc ho ht =>
    rw [resolveWith_directive hc ho ht] at h
    cases h
    refine ⟨_, resolveWith_directive hc ho ht, fun st' hs => ⟨st', ?_, hs⟩⟩
    have hset : st'.state c.cell ≠ .unresolved := by
      rw [hs.state, Store.state_settle, if_pos ⟨rfl, by simpa using hw.cell_lt hc⟩]
      exact settle_ne_unresolved _ _
    rw [← hs.state]
    exact resolveWith_settled hc hset
  | barred c e v f hc ho ht hb =>
    rw [resolveWith_barred hc ho ht hb] at h
    cases h
    rcases bar?_eq_some hb with ⟨_, hs⟩ | ⟨rfl, _⟩ | ⟨rfl, _⟩
    · cases hs
    · simp at hr
    · rw [isIncluded_eq_false hc
        (stateIn_barred_failed hw hc (ne_included_of_open hc ho) f (bar?_not_value hb))]
      exact barred_traceless hw hc ho ht hb
  | analysed c e s' hc ho ht hs hb =>
    cases hs
    rw [resolveWith_analysed hc ho ht hb] at h
    obtain ⟨⟨r, g₂⟩, ha, h⟩ := Option.bind_eq_some_iff.mp h
    obtain ⟨k, hk, h⟩ := Option.map_eq_some_iff.mp h
    cases h
    have hg₂ : g₂.runaways = st.runaways := by
      have := (askAll_later ha).runaways
      rw [Store.runaways_enter] at this
      simp only [Store.runaways_finish] at hr
      omega
    refine analysed_traceless hw hc ho ht hb ha ?_ hk hg₂
    refine askAll_traceless (hbelow _) (by simpa using hw) ha ?_
    rw [Store.runaways_enter, hg₂]

/-- **Trials leave no trace.** -/
theorem resolveAt_traceless {room : Nat} {id : ConditionId} {s : Scope}
    {symbol : Option SymbolId} {st g : Store} {b : Bool} (hw : p.WellFormed st.cells.size)
    (h : p.resolveAt ⟨l, true⟩ room id (some s) symbol st = some (b, g))
    (hr : g.runaways = st.runaways) :
    Traceless (p.resolveAt ⟨l, false⟩ room id (some s) symbol) st g b := by
  induction room generalizing id s symbol st g b with
  | zero => exact resolveAt_traceless_of (fun _ _ _ _ _ _ h => nomatch h) hw h hr
  | succ room ih =>
    exact resolveAt_traceless_of (fun _ _ _ _ _ hw h hr => ih hw h hr) hw h hr

end Questions

/-! ## Inquiries after a trial -/

theorem alike_holding {s : Session} {q : Inquiry} {after : Store}
    (h : Later (s.holding q) after) :
    Alike (Session.holding { s with store := s.freeing q after } q) after where
  modules := by simp
  log := by simp
  taken := by simp
  size := by simp
  state i := by simp
  nesting i := by
    have hn := h.nesting i
    rw [Session.nesting_holding] at hn
    rw [Session.nesting_holding, Session.nesting_freeing, Session.size_freeing, h.size,
      Session.size_holding]
    change (if s.guardedCell? q.condition = some i ∧ i < s.store.cells.size then _ else _) = _
    split_ifs at hn ⊢
    · omega
    · rfl

/-- **Trials leave no trace on an inquiry.** If the recursion guard does not strike in a trial, then
the visible inquiry after it ends as it ends without the trial. -/
theorem inquire_after_trial {s : Session} (hs : s.Reachable fun _ => True) (q : Inquiry)
    (hscope : q.scope.isSome) {rg : Resolution} {sg : Session}
    (hg : s.inquire { q with gagged := true } = some (rg, sg))
    (hr : sg.store.runaways = s.store.runaways) :
    ∃ rv sv rf sf, s.inquire { q with gagged := false } = some (rv, sv) ∧
      sg.inquire { q with gagged := false } = some (rf, sf) ∧ rf.included = rv.included ∧
      (∀ c ∈ s.program.conditions, sf.stateOf c = sv.stateOf c) ∧
      sf.store.sink.taken = sv.store.sink.taken ∧ sf.store.log = sv.store.log ∧
      sf.store.modules = sv.store.modules := by
  obtain ⟨scope, hsc⟩ := Option.isSome_iff_exists.mp hscope
  obtain ⟨c, b, g, hc, htrial, _, rfl⟩ := Session.inquire_eq_some hg
  have hw : s.program.WellFormed (s.holding q).cells.size := by simpa using hs.wellFormed
  have htrial : s.program.resolve ⟨q.limits.getD s.limits, true⟩ q.condition (some scope) q.symbol
      (s.holding q) = some (b, g) := hsc ▸ htrial
  have hrun : g.runaways = (s.holding q).runaways := by simpa using hr
  obtain ⟨v, hv, hretry⟩ := resolveAt_traceless hw htrial hrun
  obtain ⟨f, hf, ha⟩ := hretry _ (alike_holding (resolveAt_later htrial))
  rw [← hsc] at hv hf
  refine ⟨_, _, _, _, Session.inquire_of_resolve hc hv,
    Session.inquire_of_resolve (s := { s with store := s.freeing q g }) hc hf, rfl, ?_, ?_, ?_, ?_⟩
  · intro d _
    simpa [Session.stateOf_eq] using ha.state d.cell
  · simpa using ha.taken
  · simpa using ha.log
  · simpa using ha.modules

/-- A `static if` that needs two others, the second of which is not boolean. -/
def disputeSteps : List Step :=
  [.addStaticIf (.and (.ident "a") (.ident "b")) {}, .addStaticIf (.ident "c") {},
    .addStaticIf (.int 1) {}, .addDirective .version 0 (.level 0) {},
    .addDecl ⟨"a", .bool true, some 1⟩, .addDecl ⟨"b", .bool true, some 2⟩,
    .addDecl ⟨"c", .bool true, some 3⟩]

/-- The session after these steps. -/
def dispute : Session :=
  (Session.performAll disputeSteps (.start .print {})).get (by decide +kernel)

theorem inquire_after_trial_dispute : ∃ rg sg rv sv rf sf,
    dispute.inquire { condition := 0, scope := some {}, gagged := true } = some (rg, sg) ∧
    sg.store.runaways = dispute.store.runaways ∧
    dispute.inquire { condition := 0, scope := some {}, gagged := false } = some (rv, sv) ∧
    sg.inquire { condition := 0, scope := some {}, gagged := false } = some (rf, sf) ∧
    rf.included = rv.included ∧ (∀ c ∈ dispute.program.conditions, sf.stateOf c = sv.stateOf c) ∧
    sf.store.sink.taken = sv.store.sink.taken ∧ sf.store.log = sv.store.log ∧
    sf.store.modules = sv.store.modules := by
  obtain ⟨⟨rg, sg⟩, hg⟩ := Option.isSome_iff_exists.mp (by decide +kernel :
    (dispute.inquire { condition := 0, scope := some {}, gagged := true }).isSome = true)
  have hr : (dispute.inquire { condition := 0, scope := some {}, gagged := true }).map
      (fun r => r.2.store.runaways) = some dispute.store.runaways := by decide +kernel
  rw [hg] at hr
  have hr : sg.store.runaways = dispute.store.runaways := Option.some.inj hr
  have hs : dispute.Reachable fun _ => True :=
    (Session.Reachable.start _ _).performAll (Option.some_get _).symm fun _ _ => trivial
  obtain ⟨rv, sv, rf, sf, h⟩ :=
    inquire_after_trial hs { condition := 0, scope := some {} } rfl hg hr
  exact ⟨rg, sg, rv, sv, rf, sf, hg, hr, h⟩

end CondComp
