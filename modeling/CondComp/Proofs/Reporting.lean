import CondComp.Proofs.Settlement

/-!
# Failures are reported

An evaluation that does not come to a truth value reports why, or it met an expression that was
broken before. An evaluation that includes its condition reports nothing, and neither does anything
that it asks about.

* `Expr.parts`, `Expr.nodes`: the expressions inside of an expression; **`agenda_ne_broken`**: an
  analysis meets no broken expression where none is written;
* `Sink.total`: the errors of a sink, reported or suppressed; `Sink.Precedes`;
* **`resolveAt_silent`**: questions only add errors, and add none if they are answered with yes;
* `Accounted`: a question ends with the value of an expression and without errors, or with neither;
  **`resolveAt_accounted`**;
* **`failures_reported`**: so does an inquiry.
-/

namespace CondComp

/-! ## Broken expressions -/

/-- The expressions strictly inside of an expression. -/
def Expr.parts : Expr → List Expr
  | eq a b => (a :: a.parts) ++ (b :: b.parts)
  | and a b => (a :: a.parts) ++ (b :: b.parts)
  | _ => []

/-- An expression and those inside of it. -/
def Expr.nodes (e : Expr) : List Expr := e :: e.parts

theorem exists_broken {lookup : String → Agenda} {e : Expr}
    (h : (e.agendaWith lookup).finding = .broken) :
    .poisoned ∈ e.nodes ∨ ∃ x, (lookup x).finding = .broken := by
  induction e with
  | bool _ | int _ | runtime | trap => cases h
  | poisoned => exact .inl List.mem_cons_self
  | ident x => exact .inr ⟨x, h⟩
  | eq a b iha ihb | and a b iha ihb =>
    have hk : ∀ t, Finding.broken ≠ .typed t := fun _ => Finding.noConfusion
    rcases (finding_andThen hk).mp h with ha | ⟨s, _, hb⟩
    · exact (iha ha).imp_left fun hm => List.mem_cons_of_mem _ (List.mem_append_left _ hm)
    · rcases (finding_andThen hk).mp hb with hb | ⟨t, _, hif⟩
      · exact (ihb hb).imp_left fun hm => List.mem_cons_of_mem _ (List.mem_append_right _ hm)
      · by_cases hst : s = t <;> simp [hst] at hif

theorem agendaOfName_ne_broken {decls : List Decl} (hd : ∀ d ∈ decls, .poisoned ∉ d.value.nodes)
    (hops : Nat) (x : String) : (agendaOfName decls hops x).finding ≠ .broken := by
  induction hops generalizing x with
  | zero => exact Finding.noConfusion
  | succ hops ih =>
    rw [agendaOfName]
    cases hfirst : firstDecl? decls x with
    | none => exact Finding.noConfusion
    | some d =>
      simp only [finding_guarded]
      intro h
      rcases exists_broken h with hm | ⟨y, hy⟩
      · exact hd d (List.mem_of_find?_eq_some hfirst) hm
      · exact ih y hy

/-- **An analysis meets no broken expression where none is written.** -/
theorem agenda_ne_broken {decls : List Decl} {e : Expr} (he : .poisoned ∉ e.nodes)
    (hd : ∀ d ∈ decls, .poisoned ∉ d.value.nodes) : (e.agenda decls).finding ≠ .broken := by
  intro h
  rcases exists_broken h with hm | ⟨x, hx⟩
  · exact he hm
  · exact agendaOfName_ne_broken hd _ x hx

/-! ## Errors -/

namespace Sink

/-- The errors of a sink, reported or suppressed. -/
def total (s : Sink) : Nat := s.errors + s.gagged

/-- The second sink has all the errors of the first one. -/
structure Precedes (a b : Sink) : Prop where
  errors : a.errors ≤ b.errors
  gagged : a.gagged ≤ b.gagged

namespace Precedes

variable {a b c : Sink}

theorem refl (a : Sink) : a.Precedes a := ⟨Nat.le_refl _, Nat.le_refl _⟩

theorem trans (h : a.Precedes b) (h' : b.Precedes c) : a.Precedes c :=
  ⟨Nat.le_trans h.errors h'.errors, Nat.le_trans h.gagged h'.gagged⟩

theorem total_le (h : a.Precedes b) : a.total ≤ b.total := Nat.add_le_add h.errors h.gagged

end Precedes

end Sink

namespace Store

variable (st : Store) (ctx : Context)

theorem precedes_report (source : Source) (message : String) :
    st.sink.Precedes (st.report ctx source message).sink := by
  rw [report]
  cases ctx.gagged with
  | true => exact ⟨Nat.le_refl _, Nat.le_succ _⟩
  | false => exact ⟨by simp, Nat.le_refl _⟩

theorem total_report (source : Source) (message : String) :
    (st.report ctx source message).sink.total = st.sink.total + 1 := by
  rw [report, Sink.total, Sink.total]
  cases ctx.gagged with
  | true => rfl
  | false =>
    simp only [Bool.false_eq_true, if_false, Sink.errors_push]
    exact Nat.add_right_comm _ 1 _

theorem sink_finish_eq (i : CellId) (depth : Nat) (fault : Option (Source × Fault)) (v : Verdict) :
    (st.finish i ctx depth fault v).sink = (st.reportAny ctx fault).sink := by
  rw [finish, sink_close]
  cases fault <;> rfl

theorem precedes_reportAny (fault : Option (Source × Fault)) :
    st.sink.Precedes (st.reportAny ctx fault).sink := by
  cases fault with
  | none => exact .refl _
  | some f => exact st.precedes_report ctx f.1 f.2.message

end Store

/-! ## Silence -/

section Questions

variable {p : Program} {ctx : Context} {st st₂ : Store} {c : Condition} {e : Expr}
  {r : Option String} {k : Ending}

theorem fault_of_ending (hk : p.ending c e r = some k) :
    (∃ b, k = { verdict := .value b }) ∨ k.fault.isSome ∨ (e.agenda p.decls).finding = .broken := by
  cases ends_of_ending hk with
  | value b => exact .inl ⟨b, rfl⟩
  | broken hf => exact .inr (.inr hf)
  | refused | faulty | notBoolean | notConstant | notInterpretable => exact .inr (.inl rfl)

theorem eq_value_of_included {id : ConditionId} {depth : Nat} (hw : p.WellFormed st₂.cells.size)
    (hc : p.conditions[id]? = some c) (ho : p.stateIn st₂ id ≠ .included)
    (hk : p.ending c e r = some k)
    (hi : p.stateIn (st₂.finish c.cell ctx depth k.fault k.verdict) id = .included) :
    r = none ∧ ∃ b, k = { verdict := .value b } := by
  rcases ending_cases hk with ⟨b, hb, hr, _⟩ | ⟨hfail, _⟩
  · exact ⟨hr, b, hb⟩
  · exact absurd hi (stateIn_finish_failed hw hc ho _ (by simp [hfail]))

theorem Asked.silent {qs : List (String × ConditionId)} {st' : Store}
    (h : Asked (fun _ st b st' => Later st st' ∧ (p.WellFormed st.cells.size →
      st.sink.Precedes st'.sink ∧ (b = true → st'.sink = st.sink))) qs st r st')
    (hw : p.WellFormed st.cells.size) :
    st.sink.Precedes st'.sink ∧ (r = none → st'.sink = st.sink) := by
  induction h with
  | done => exact ⟨.refl _, fun _ => rfl⟩
  | yes hq _ ih =>
    obtain ⟨hle, heq⟩ := hq.2 hw
    obtain ⟨hle', heq'⟩ := ih (by rwa [hq.1.size])
    exact ⟨hle.trans hle', fun hr => (heq' hr).trans (heq rfl)⟩
  | no hq => exact ⟨(hq.2 hw).1, fun hr => nomatch hr⟩

/-- **Questions only add errors, and none if they are answered with yes.** -/
theorem resolveAt_silent {room : Nat} {id : ConditionId} {scope : Option Scope}
    {symbol : Option SymbolId} {st' : Store} {b : Bool} (hw : p.WellFormed st.cells.size)
    (h : p.resolveAt ctx room id scope symbol st = some (b, st')) :
    st.sink.Precedes st'.sink ∧ (b = true → st'.sink = st.sink) := by
  refine resolveAt_induction (R := fun _ _ _ st b st' => p.WellFormed st.cells.size →
    st.sink.Precedes st'.sink ∧ (b = true → st'.sink = st.sink)) ?_ ?_ ?_ ?_ ?_ h hw
  · intro _ _ _ _ _ _
    exact ⟨.refl _, fun _ => rfl⟩
  · intro _ _ _ _ _ _ _ _
    exact ⟨.refl _, fun _ => rfl⟩
  · intro _ _ scope st c ns owner q st' _ _ _ hst _
    have hsink : st'.sink = st.sink := by
      rw [hst, Store.sink_settle, Store.sink_note, Store.sink_answer]
    rw [hsink]
    exact ⟨.refl _, fun _ => rfl⟩
  · intro _ id scope st c e v f st' hc ho _ hb hst hw
    rw [hst, Store.sink_close]
    refine ⟨st.precedes_report ctx c.source f.message, fun hyes => ?_⟩
    rw [isIncluded_eq_false hc
      (stateIn_barred_failed hw hc (ne_included_of_open hc ho) f (bar?_not_value hb))] at hyes
    cases hyes
  · intro room id s symbol st c e r st₂ k st' hc ho ht _ ha hk hst hw
    have hl : Later (st.enter c.cell (s.child symbol) (ctx.limits.depth - room)) st₂ :=
      ha.later_of_answers
    have hw₂ : p.WellFormed st₂.cells.size := by rwa [hl.size, Store.size_enter]
    obtain ⟨hle, heq⟩ := (ha.imp fun _ _ _ _ hq => ⟨resolveAt_later hq.1, hq.2⟩).silent
      (by simpa using hw)
    rw [hst, Store.sink_finish_eq]
    refine ⟨hle.trans (st₂.precedes_reportAny ctx k.fault), fun hyes => ?_⟩
    have hi : p.stateIn (st₂.finish c.cell ctx (ctx.limits.depth - room) k.fault k.verdict) id =
        .included := by
      rw [stateIn_eq hc]
      simpa [Inclusion.isIncluded] using hyes
    have hopen := ha.not_included hw hc ht (ne_included_of_open hc ho)
    obtain ⟨hr, b, rfl⟩ := eq_value_of_included hw₂ hc hopen hk hi
    exact heq hr

/-! ## How questions end -/

/-- A question about a `static if` that is open ends with the value of its expression, which is the
first entry of the journal to settle it, and reports nothing; or no such value is in the journal,
and an error was added, unless the analysis met an expression that was broken before. -/
def Accounted (p : Program) (ctx : Context) (st : Store) (c : Condition) (e : Expr)
    (st' : Store) : Prop :=
  ∃ es, Recorded p ctx.gagged st es st' ∧
    ((∃ b es₀, es = es₀ ++ [.concluded c.cell (.value b)] ∧
        (∀ ev ∈ es₀, ev.settles? ctx.gagged c.cell = none) ∧ st'.state c.cell = .ofBool b ∧
        st'.sink = st.sink) ∨
      ((∀ b, .concluded c.cell (.value b) ∉ es) ∧
        (st.sink.total < st'.sink.total ∨
          e ≠ .poisoned ∧ (e.agenda p.decls).finding = .broken)))

theorem accounted_barred {depth : Nat} {scope : Option Scope} {v : Verdict} {f : Fault}
    (hb : c.bar? ctx depth e scope st = some (v, f)) :
    Accounted p ctx st c e ((st.report ctx c.source f.message).close c.cell ctx v) := by
  have hreport : Recorded p ctx.gagged st [] (st.report ctx c.source f.message) :=
    .reportAny st (some (c.source, f))
  have hno := bar?_not_value hb
  refine ⟨_, hreport.trans (.close fun b hv => absurd hv (hno b)), .inr ⟨fun b hm => ?_, .inl ?_⟩⟩
  · obtain ⟨-, hv⟩ := Event.concluded.inj (List.mem_singleton.mp hm)
    exact hno b hv.symm
  · rw [Store.sink_close, Store.total_report]
    exact Nat.lt_succ_self _

theorem Asked.exists_refused {room : Nat} {child : Scope} {qs : List (String × ConditionId)}
    {x : String} {st' : Store} {R : ConditionId → Store → Bool → Store → Prop}
    (h : Asked (fun g st b st' => p.resolveAt ctx room g (some child) none st = some (b, st') ∧
      R g st b st') qs st r st') (hr : r = some x) :
    ∃ q ∈ qs, p.stateIn st' q.2 ≠ .included := by
  induction h with
  | done => cases hr
  | yes _ _ ih =>
    obtain ⟨q, hq, hno⟩ := ih hr
    exact ⟨q, List.mem_cons_of_mem _ hq, hno⟩
  | no hq =>
    refine ⟨_, List.mem_cons_self, fun hi => ?_⟩
    have := (eq_true_iff_included hq.1).mpr hi
    cases this

section Analysis

variable {room depth : Nat} {id : ConditionId} {child : Scope}
  {R : ConditionId → Store → Bool → Store → Prop}

theorem not_established_of_failed
    (ha : Asked (fun g st b st' => p.resolveAt ctx room g (some child) none st = some (b, st') ∧
      R g st b st') (e.agenda p.decls).questions (st.enter c.cell child depth) r st₂)
    (hw : p.WellFormed st.cells.size) (hc : p.conditions[id]? = some c)
    (ht : c.test = .staticIf e) (ho : p.stateIn st id ≠ .included)
    (hk : p.ending c e r = some k) (hfail : k.verdict = .failed) (b : Bool) :
    ¬ Established p (st₂.finish c.cell ctx depth k.fault k.verdict) e b := by
  intro hest
  have hw₂ : p.WellFormed st₂.cells.size := by
    rwa [ha.later_of_answers.size, Store.size_enter]
  cases r with
  | none =>
    rcases ending_cases hk with ⟨b', hb', _⟩ | ⟨_, hno⟩
    · rw [hb'] at hfail
      cases hfail
    · exact hno b rfl hest.finding hest.value
  | some x =>
    -- the guard that was answered with no would have been included by the end
    obtain ⟨⟨y, g⟩, hq, hno⟩ := ha.exists_refused rfl
    have hi : p.stateIn (st₂.finish c.cell ctx depth k.fault k.verdict) g = .included :=
      hest.guards _ hq
    by_cases hg : g = id
    · subst hg
      have hopen := ha.not_included hw hc ht ho
      exact stateIn_finish_failed hw₂ hc hopen _ (by simp [hfail]) hi
    · rw [stateIn_finish_ne hw₂ hc ht hg] at hi
      exact hno hi

theorem Asked.recorded_silent
    (ha : Asked (fun g st b st' => p.resolveAt ctx room g (some child) none st = some (b, st') ∧
      R g st b st') (e.agenda p.decls).questions (st.enter c.cell child depth) r st₂)
    (hw : p.WellFormed st.cells.size) :
    (∃ es, Recorded p ctx.gagged (st.enter c.cell child depth) es st₂) ∧
      st.sink.Precedes st₂.sink ∧ (r = none → st₂.sink = st.sink) := by
  constructor
  · exact Asked.recorded (ha.imp fun _ _ _ _ hq => resolveAt_recorded hq.1)
  · have hquiet : Asked (fun _ st b st' => Later st st' ∧ (p.WellFormed st.cells.size →
        st.sink.Precedes st'.sink ∧ (b = true → st'.sink = st.sink)))
        (e.agenda p.decls).questions (st.enter c.cell child depth) r st₂ :=
      ha.imp fun _ _ _ _ hq => ⟨resolveAt_later hq.1, fun hw => resolveAt_silent hw hq.1⟩
    exact hquiet.silent (by simpa using hw)

theorem accounted_analysed
    (ha : Asked (fun g st b st' => p.resolveAt ctx room g (some child) none st = some (b, st') ∧
      R g st b st') (e.agenda p.decls).questions (st.enter c.cell child depth) r st₂)
    (hw : p.WellFormed st.cells.size) (hc : p.conditions[id]? = some c)
    (ht : c.test = .staticIf e) (ho : st.state c.cell = .unresolved) (he : e ≠ .poisoned)
    (hk : p.ending c e r = some k) :
    Accounted p ctx st c e (st₂.finish c.cell ctx depth k.fault k.verdict) := by
  have hopen : p.stateIn st id ≠ .included := ne_included_of_open hc ho
  obtain ⟨⟨es, hasked⟩, hle, hsilent⟩ := ha.recorded_silent hw
  obtain ⟨_, _, henter⟩ := Recorded.enter p ctx st c.cell child depth
  obtain ⟨_, _, hfinish⟩ := recorded_finish ctx depth (Array.mem_of_getElem? hc) ht hk
    ha.all_included
  have hrec := (henter.trans hasked).trans hfinish
  refine ⟨_, hrec, ?_⟩
  rcases ending_cases hk with ⟨b, rfl, rfl, _⟩ | ⟨hfail, _⟩
  · left
    -- all guards held, so the condition is still open when the value settles it
    have hstate : st₂.state c.cell = .unresolved := by rw [ha.unchanged hw hc ht hopen, ho]
    have hlt : c.cell < (st.enter c.cell child depth).cells.size := by
      rw [Store.size_enter]
      exact hw.cell_lt hc
    have hnone : ∀ ev ∈ es, ev.settles? ctx.gagged c.cell = none := by
      have hsettled := hasked.state c.cell hlt
      rw [hstate, Store.state_enter, ho] at hsettled
      exact List.findSome?_eq_none_iff.mp (Inclusion.eq_none_of_settleAny hsettled.symm)
    refine ⟨b, _, (List.append_assoc _ [_] [_]).symm, ?_, ?_, ?_⟩
    · intro ev hev
      simp only [List.mem_append, List.mem_singleton] at hev
      rcases hev with (rfl | hev) | rfl
      · rfl
      · exact hnone ev hev
      · rfl
    · rw [Store.state_finish, if_pos ⟨rfl, by rwa [hasked.size]⟩, hstate]
      rfl
    · rw [Store.sink_finish_eq]
      exact hsilent rfl
  · right
    constructor
    · intro b hm
      obtain ⟨d, hd, hcell, e', ht', hest⟩ := hrec.values _ b hm
      obtain rfl := hw.expr_eq (Array.mem_of_getElem? hc) hd ht ht' hcell.symm
      exact not_established_of_failed ha hw hc ht hopen hk hfail b hest
    · rcases fault_of_ending hk with ⟨b, hb⟩ | hfault | hbroken
      · rw [hb] at hfail
        cases hfail
      · left
        obtain ⟨⟨source, f⟩, hf⟩ := Option.isSome_iff_exists.mp hfault
        rw [Store.sink_finish_eq, hf, Store.reportAny, Store.total_report]
        exact Nat.lt_succ_of_le hle.total_le
      · exact .inr ⟨he, hbroken⟩

end Analysis

/-- **Questions about open conditions** end with a value and without errors, or with neither. -/
theorem resolveAt_accounted {room : Nat} {id : ConditionId} {scope : Option Scope}
    {symbol : Option SymbolId} {st' : Store} {b : Bool} (hw : p.WellFormed st.cells.size)
    (h : p.resolveAt ctx room id scope symbol st = some (b, st'))
    (hc : p.conditions[id]? = some c) (ht : c.test = .staticIf e)
    (ho : st.state c.cell = .unresolved) : Accounted p ctx st c e st' := by
  refine resolveAt_induction (R := fun _ id _ st _ st' => p.WellFormed st.cells.size →
    ∀ c e, p.conditions[id]? = some c → c.test = .staticIf e → st.state c.cell = .unresolved →
      Accounted p ctx st c e st') ?_ ?_ ?_ ?_ ?_ h hw c e hc ht ho
  · intro _ _ _ _ hno _ c e hc _ _
    rw [hno] at hc
    cases hc
  · intro _ _ _ _ d hd hs _ c e hc _ ho
    obtain rfl := Option.some.inj (hd.symm.trans hc)
    exact absurd ho hs
  · intro _ _ _ _ d ns owner q _ hd _ htd _ _ c e hc ht _
    exact absurd htd (not_directive_of_staticIf hc ht hd)
  · intro _ _ _ st d e' v f st' hd _ htd hb hst _ c e hc ht _
    obtain ⟨rfl, rfl⟩ := eq_of_staticIf hc ht hd htd
    rw [hst]
    exact accounted_barred hb
  · intro room id s symbol st d e' r st₂ k st' hd ho htd hb ha hk hst hw c e hc ht _
    obtain ⟨rfl, rfl⟩ := eq_of_staticIf hc ht hd htd
    rw [hst]
    exact accounted_analysed ha hw hc ht ho (bar?_eq_none.mp hb).2.2 hk

end Questions

/-! ## Inquiries -/

namespace Session

variable {s s' : Session} {q : Inquiry} {r : Resolution} {c : Condition} {e : Expr}

/-- An inquiry about an open `static if` ends with the value of its expression and without errors,
or with neither. -/
theorem inquire_accounted (hw : s.program.WellFormed s.store.cells.size)
    (h : s.inquire q = some (r, s')) (hc : s.program.conditions[q.condition]? = some c)
    (ht : c.test = .staticIf e) (ho : s.stateOf c = .unresolved) :
    ((∃ b, s.SettlesByValue q s' c b) ∧ s'.store.sink = s.store.sink) ∨
      ((∀ b, ¬ s.SettlesByValue q s' c b) ∧
        (s.store.sink.total < s'.store.sink.total ∨
          e ≠ .poisoned ∧ (e.agenda s.program.decls).finding = .broken)) := by
  obtain ⟨d, b, after, hd, hres, _, rfl⟩ := inquire_eq_some h
  obtain ⟨es, hrec, hor⟩ := resolveAt_accounted (by simpa using hw) hres hc ht
    (by rw [state_holding]; exact ho)
  have hnew : s.newEvents { s with store := s.freeing q after } = es := by
    have hrec' := (inquire_recorded h).2.journal
    rw [journal_freeing, hrec.journal, journal_holding] at hrec'
    exact (List.append_cancel_left hrec').symm
  rw [sink_holding] at hor
  rcases hor with ⟨v, es₀, hes, hnone, hstate, hsink⟩ | ⟨hno, herror⟩
  · left
    refine ⟨⟨v, ho, ⟨es₀, [], by rw [hnew, hes], hnone⟩, ?_⟩, by simpa using hsink⟩
    simpa [stateOf_eq] using hstate
  · right
    refine ⟨fun v hv => ?_, by simpa using herror⟩
    obtain ⟨es₁, es₂, hes, _⟩ := hv.entry
    exact hno v (by simp [← hnew, hes])

/-- **Failures are reported, and successes are silent.** An inquiry about an open `static if` adds
no error if it includes the condition. If no expression was broken before, it adds none if and only
if the condition ends settled by its own value. -/
theorem failures_reported (hs : s.Reachable fun _ => True) (h : s.inquire q = some (r, s'))
    (hc : s.program.conditions[q.condition]? = some c) (ht : c.test = .staticIf e)
    (ho : s.stateOf c = .unresolved) :
    ∃ reported suppressed, s'.store.sink.errors = s.store.sink.errors + reported ∧
      s'.store.sink.gagged = s.store.sink.gagged + suppressed ∧
      (r.included = true → reported + suppressed = 0) ∧
      (.poisoned ∉ e.parts → (∀ d ∈ s.program.decls, .poisoned ∉ d.value.nodes) →
        (reported + suppressed = 0 ↔
          ∃ b, s.SettlesByValue q s' c b ∧ e.eval s.program.decls = some (.bool b))) := by
  have hw := hs.wellFormed
  obtain ⟨d, b, after, _, hres, hr, hs'⟩ := inquire_eq_some h
  obtain ⟨hle, hyes⟩ := resolveAt_silent (by simpa using hw) hres
  have hsink : s'.store.sink = after.sink := by rw [hs', sink_freeing]
  rw [sink_holding, ← hsink] at hle hyes
  refine ⟨s'.store.sink.errors - s.store.sink.errors, s'.store.sink.gagged - s.store.sink.gagged,
    (Nat.add_sub_cancel' hle.errors).symm, (Nat.add_sub_cancel' hle.gagged).symm, ?_, ?_⟩
  · intro hi
    rw [hyes (by rwa [hr] at hi), Nat.sub_self, Nat.sub_self]
  · intro he hd
    have hbroken : e ≠ .poisoned → (e.agenda s.program.decls).finding ≠ .broken :=
      fun hne => agenda_ne_broken (List.not_mem_cons_of_ne_of_not_mem hne.symm he) hd
    rcases inquire_accounted hw h hc ht ho with ⟨⟨v, hv⟩, hsame⟩ | ⟨hno, herror⟩
    · rw [hsame, Nat.sub_self, Nat.sub_self]
      exact iff_of_true rfl
        ⟨v, hv, (hv.established h hw (Array.mem_of_getElem? hc) ht).value⟩
    · refine iff_of_false ?_ fun ⟨v, hv, _⟩ => hno v hv
      have htotal := herror.resolve_right fun h => hbroken h.1 h.2
      have := hle.errors
      have := hle.gagged
      unfold Sink.total at htotal
      omega

/-- A `static if` that needs a run-time value under a guard, and one that is false. -/
def complaintSteps : List Step :=
  [.addStaticIf (.and (.ident "a") (.ident "b")) {}, .addStaticIf (.bool true) {},
    .addStaticIf .runtime {}, .addStaticIf (.eq (.ident "a") (.bool false)) {},
    .addDecl ⟨"a", .bool true, some 1⟩, .addDecl ⟨"b", .bool true, some 2⟩]

/-- The session after these steps. -/
def complaint : Session :=
  (performAll complaintSteps (.start .disabled {})).get (by decide +kernel)

/-- A trial of the first condition suppresses two errors, so nothing has settled it. The last one
gets its value and no error. -/
theorem failures_reported_complaint : ∃ r s' r₃ s₃,
    complaint.inquire { condition := 0, scope := some {}, gagged := true } = some (r, s') ∧
    s'.store.sink.gagged = complaint.store.sink.gagged + 2 ∧
    (¬ ∃ b, complaint.SettlesByValue { condition := 0, scope := some {}, gagged := true } s'
      ⟨.staticIf (.and (.ident "a") (.ident "b")), .internal, 0⟩ b ∧
        (Expr.and (.ident "a") (.ident "b")).eval complaint.program.decls = some (.bool b)) ∧
    complaint.inquire { condition := 3, scope := some {} } = some (r₃, s₃) ∧
    s₃.store.sink.total = complaint.store.sink.total ∧
    ∃ b, complaint.SettlesByValue { condition := 3, scope := some {} } s₃
      ⟨.staticIf (.eq (.ident "a") (.bool false)), .internal, 3⟩ b ∧
        (Expr.eq (.ident "a") (.bool false)).eval complaint.program.decls = some (.bool b) := by
  have hs : complaint.Reachable fun _ => True :=
    (Session.Reachable.start _ _).performAll (Option.some_get _).symm fun _ _ => trivial
  have hdecls : ∀ d ∈ complaint.program.decls, .poisoned ∉ d.value.nodes := by decide +kernel
  obtain ⟨⟨r, s'⟩, h⟩ := Option.isSome_iff_exists.mp (by decide +kernel : (complaint.inquire
    { condition := 0, scope := some {}, gagged := true }).isSome = true)
  obtain ⟨⟨r₃, s₃⟩, h₃⟩ := Option.isSome_iff_exists.mp (by decide +kernel :
    (complaint.inquire { condition := 3, scope := some {} }).isSome = true)
  have hseen : (complaint.inquire { condition := 0, scope := some {}, gagged := true }).map
      (fun r => r.2.store.sink.gagged) = some (complaint.store.sink.gagged + 2) := by
    decide +kernel
  have hseen₃ : (complaint.inquire { condition := 3, scope := some {} }).map
      (fun r => r.2.store.sink.total) = some complaint.store.sink.total := by decide +kernel
  rw [h] at hseen
  rw [h₃] at hseen₃
  have hgagged : s'.store.sink.gagged = complaint.store.sink.gagged + 2 := Option.some.inj hseen
  have htotal : s₃.store.sink.total = complaint.store.sink.total := Option.some.inj hseen₃
  obtain ⟨_, _, _, hsup, _, hiff⟩ := failures_reported hs h
    (c := ⟨.staticIf (.and (.ident "a") (.ident "b")), .internal, 0⟩) (by decide +kernel) rfl
    (by decide +kernel)
  obtain ⟨_, _, hrep₃, hsup₃, _, hiff₃⟩ := failures_reported hs h₃
    (c := ⟨.staticIf (.eq (.ident "a") (.bool false)), .internal, 3⟩) (by decide +kernel) rfl
    (by decide +kernel)
  refine ⟨r, s', r₃, s₃, h, hgagged, ?_, h₃, htotal, ?_⟩
  · rw [← hiff (by decide) hdecls]
    omega
  · rw [← hiff₃ (by decide) hdecls]
    unfold Sink.total at htotal
    omega

end Session

end CondComp
