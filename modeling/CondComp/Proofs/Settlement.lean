import CondComp.Proofs.FirstAnswers
import CondComp.Proofs.Workload

/-!
# What settles a condition

The journal tells what settled a condition: the first entry that gives it an answer. Where that
entry is the value of the condition's expression, the guards of its names were included by then,
and they stay so.

* `Event.settles?`: what an entry of the journal settles a cell with; `Inclusion.settleAny`;
* `Established`: an expression has a truth value, and the guards of its names are included;
* `Recorded`: the entries of the journal between two stores say what got settled between them;
  `Recorded.trans`; **`resolveAt_recorded`**: those of a question do;
* `Session.SettlesByValue`: an inquiry settles a condition by the value of its expression.
-/

namespace CondComp

/-! ## Entries that settle -/

/-- What an entry of the journal settles a cell with. A failure in a trial settles nothing. -/
def Event.settles? (gagged : Bool) (i : CellId) : Event → Option Bool
  | answered c a _ => if c.cell = i then some a.included else none
  | concluded j v => if j = i then v.answer? gagged else none
  | _ => none

/-- Settles an open answer, if there is something to settle it with. -/
def Inclusion.settleAny (s : Inclusion) (b? : Option Bool) : Inclusion := b?.elim s s.settle

namespace Inclusion

@[simp] theorem settleAny_none (s : Inclusion) : s.settleAny none = s := rfl

@[simp] theorem settleAny_some (s : Inclusion) (b : Bool) : s.settleAny (some b) = s.settle b := rfl

theorem settleAny_or (s : Inclusion) (a? b? : Option Bool) :
    s.settleAny (a?.or b?) = (s.settleAny a?).settleAny b? := by
  cases a? with
  | none => rfl
  | some a =>
    cases b? with
    | none => rfl
    | some b => exact (s.settle_settle a b).symm

@[simp] theorem settleAny_included (b? : Option Bool) : settleAny included b? = included := by
  cases b? <;> rfl

theorem eq_none_of_settleAny {b? : Option Bool} (h : settleAny unresolved b? = unresolved) :
    b? = none := by
  cases b? with
  | none => rfl
  | some b => cases b <;> cases h

end Inclusion

theorem Store.lt_size {st : Store} {i : CellId} (h : st.state i ≠ .unresolved) :
    i < st.cells.size := by
  by_contra hi
  refine h ?_
  rw [Store.state, Store.cell, Array.getElem?_eq_none (Nat.le_of_not_lt hi)]
  rfl

/-! ## Values with their guards -/

/-- The expression has a truth value, and the guards of its names are included. -/
structure Established (p : Program) (st : Store) (e : Expr) (b : Bool) : Prop where
  finding : (e.agenda p.decls).finding = .typed .bool
  guards : ∀ q ∈ (e.agenda p.decls).questions, p.stateIn st q.2 = .included
  value : e.eval p.decls = some (.bool b)

theorem Established.mono {p : Program} {st st' : Store} {e : Expr} {b : Bool}
    (h : Established p st e b) (hs : ∀ i, st.state i = .included → st'.state i = .included) :
    Established p st' e b where
  finding := h.finding
  guards q hq := by
    have hin := h.guards q hq
    unfold Program.stateIn at hin ⊢
    split
    · next hno => simp [hno] at hin
    · next c hc =>
      simp only [hc] at hin
      exact hs _ hin
  value := h.value

/-- Every value among the entries is established for the condition on its cell. -/
def ValuesEstablished (p : Program) (st : Store) (events : List Event) : Prop :=
  ∀ i b, .concluded i (.value b) ∈ events →
    ∃ c ∈ p.conditions, c.cell = i ∧ ∃ e, c.test = .staticIf e ∧ Established p st e b

/-! ## What the journal says -/

/-- The journal got the entries `events` between the two stores, and they say what got settled
between them. -/
structure Recorded (p : Program) (gagged : Bool) (st : Store) (events : List Event)
    (st' : Store) : Prop where
  journal : st'.journal.toList = st.journal.toList ++ events
  size : st'.cells.size = st.cells.size
  state (i : CellId) (hi : i < st.cells.size) :
    st'.state i = (st.state i).settleAny (events.findSome? (Event.settles? gagged i))
  values : ValuesEstablished p st' events

namespace Recorded

variable {p : Program} {ctx : Context} {st st₁ st₂ : Store} {es es' : List Event}

theorem refl (st : Store) : Recorded p ctx.gagged st [] st where
  journal := (List.append_nil _).symm
  size := rfl
  state _ _ := rfl
  values _ _ h := nomatch h

theorem included (h : Recorded p ctx.gagged st es st₁) (i : CellId) (hi : st.state i = .included) :
    st₁.state i = .included := by
  have hlt : i < st.cells.size := Store.lt_size (by rw [hi]; decide)
  rw [h.state i hlt, hi, Inclusion.settleAny_included]

theorem trans (h : Recorded p ctx.gagged st es st₁) (h' : Recorded p ctx.gagged st₁ es' st₂) :
    Recorded p ctx.gagged st (es ++ es') st₂ where
  journal := by rw [h'.journal, h.journal, List.append_assoc]
  size := h'.size.trans h.size
  state i hi := by
    rw [h'.state i (h.size ▸ hi), h.state i hi, List.findSome?_append, Inclusion.settleAny_or]
  values i b hm := by
    rcases List.mem_append.mp hm with hm | hm
    · obtain ⟨c, hc, hcell, e, ht, he⟩ := h.values i b hm
      exact ⟨c, hc, hcell, e, ht, he.mono h'.included⟩
    · exact h'.values i b hm

theorem of_idle {e : Event} (hj : st₁.journal = st.journal.push e)
    (hsize : st₁.cells.size = st.cells.size) (hs : ∀ i, st₁.state i = st.state i)
    (he : ∀ i, e.settles? ctx.gagged i = none) : Recorded p ctx.gagged st [e] st₁ where
  journal := by rw [hj, Array.toList_push]
  size := hsize
  state i _ := by simp [hs, he]
  values i b hm := by
    obtain rfl := List.mem_singleton.mp hm
    have := he i
    simp [Event.settles?, Verdict.answer?] at this

theorem enter (p : Program) (ctx : Context) (st : Store) (i : CellId) (scope : Scope)
    (depth : Nat) :
    ∃ nesting balance, Recorded p ctx.gagged st [.entered i scope depth nesting balance]
      (st.enter i scope depth) :=
  ⟨_, _, of_idle (st.journal_enter i scope depth) (st.size_enter i scope depth)
    (st.state_enter i · scope depth) fun _ => rfl⟩

theorem leave (p : Program) (ctx : Context) (st : Store) (i : CellId) (depth : Nat) :
    ∃ nesting balance, Recorded p ctx.gagged st [.left i depth nesting balance]
      (st.leave i depth) :=
  ⟨_, _, of_idle (st.journal_leave i depth) (st.size_leave i depth) (st.state_leave i · depth)
    fun _ => rfl⟩

theorem reportAny (st : Store) (fault : Option (Source × Fault)) :
    Recorded p ctx.gagged st [] (st.reportAny ctx fault) := by
  cases fault <;> exact ⟨(List.append_nil _).symm, rfl, fun _ _ => rfl, fun _ _ h => nomatch h⟩

/-- A verdict settles the cell that it is about; a value has to be established. -/
theorem close {i : CellId} {v : Verdict} (hv : ∀ b, v = .value b →
      ∃ c ∈ p.conditions, c.cell = i ∧ ∃ e, c.test = .staticIf e ∧ Established p st e b) :
    Recorded p ctx.gagged st [.concluded i v] (st.close i ctx v) := by
  have hstate : ∀ j < st.cells.size, (st.close i ctx v).state j = (st.state j).settleAny
      ([Event.concluded i v].findSome? (Event.settles? ctx.gagged j)) := by
    intro j hj
    rw [Store.state_close, List.findSome?_singleton, Event.settles?]
    by_cases hij : i = j
    · subst hij
      rw [if_pos ⟨rfl, hj⟩, if_pos rfl, Inclusion.settleAny]
    · rw [if_neg fun h => hij h.1, if_neg hij, Inclusion.settleAny_none]
  refine ⟨by rw [Store.journal_close, Array.toList_push], st.size_close i ctx v, hstate, ?_⟩
  intro j b hm
  cases List.mem_singleton.mp hm
  obtain ⟨c, hc, hcell, e, ht, he⟩ := hv b rfl
  refine ⟨c, hc, hcell, e, ht, he.mono fun j hj => ?_⟩
  have hlt : j < st.cells.size := Store.lt_size (by rw [hj]; decide)
  rw [hstate j hlt, hj, Inclusion.settleAny_included]

theorem answered (st : Store) (scope : Option Scope) (c : Condition) (ns : Namespace)
    (owner : ModuleId) (q : Query) (noted : Option Scope) :
    Recorded p ctx.gagged st [.answered c (st.answer p scope ns owner q).1 noted]
      (st.answerFirst p scope c ns owner q noted) where
  journal := by
    have hj : (st.answerFirst p scope c ns owner q noted).journal =
        (st.answer p scope ns owner q).2.journal.push
          (.answered c (st.answer p scope ns owner q).1 noted) := rfl
    rw [hj, Store.journal_answer, Array.toList_push]
  size := st.size_answerFirst p scope noted c ns owner q
  state i hi := by
    rw [Store.state_answerFirst, List.findSome?_singleton, Event.settles?, Store.fst_answer]
    by_cases hc : c.cell = i
    · subst hc
      rw [if_pos ⟨rfl, hi⟩, if_pos rfl, Inclusion.settleAny_some]
    · rw [if_neg fun h => hc h.1, if_neg hc, Inclusion.settleAny_none]
  values i b hm := by cases List.mem_singleton.mp hm

end Recorded

section Questions

variable {p : Program} {ctx : Context} {st st₂ : Store}

/-- The end of an analysis after which all guards are included, or which has no value. -/
theorem recorded_finish (ctx : Context) (depth : Nat) {c : Condition} {e : Expr}
    {r : Option String} {k : Ending} (hc : c ∈ p.conditions) (ht : c.test = .staticIf e)
    (hk : p.ending c e r = some k)
    (hall : r = none → ∀ q ∈ (e.agenda p.decls).questions, p.stateIn st q.2 = .included) :
    ∃ nesting balance, Recorded p ctx.gagged st
      [.left c.cell depth nesting balance, .concluded c.cell k.verdict]
      (st.finish c.cell ctx depth k.fault k.verdict) := by
  obtain ⟨nesting, balance, hleave⟩ := Recorded.leave p ctx st c.cell depth
  have hleft := hleave.trans (Recorded.reportAny (st.leave c.cell depth) k.fault)
  refine ⟨nesting, balance, hleft.trans (Recorded.close fun b hb => ?_)⟩
  rcases ending_cases hk with ⟨b', hb', hr, hf, hv⟩ | ⟨hfail, _⟩
  · obtain rfl : b' = b := by
      rw [hb'] at hb
      exact Verdict.value.inj hb
    have he : Established p st e b' := ⟨hf, hall hr, hv⟩
    exact ⟨c, hc, rfl, e, ht, he.mono hleft.included⟩
  · rw [hfail] at hb
    cases hb

theorem Asked.recorded {qs : List (String × ConditionId)} {r : Option String} {st' : Store}
    (h : Asked (fun _ st _ st' => ∃ es, Recorded p ctx.gagged st es st') qs st r st') :
    ∃ es, Recorded p ctx.gagged st es st' :=
  h.chain (fun st => ⟨[], .refl st⟩) fun ⟨_, h⟩ ⟨_, h'⟩ => ⟨_, h.trans h'⟩

/-- **The journal says what a question settles.** -/
theorem resolveAt_recorded {room : Nat} {id : ConditionId} {scope : Option Scope}
    {symbol : Option SymbolId} {st' : Store} {b : Bool}
    (h : p.resolveAt ctx room id scope symbol st = some (b, st')) :
    ∃ es, Recorded p ctx.gagged st es st' := by
  refine resolveAt_induction (R := fun _ _ _ st _ st' => ∃ es, Recorded p ctx.gagged st es st')
    ?_ ?_ ?_ ?_ ?_ h
  · intro _ _ _ st _
    exact ⟨[], .refl st⟩
  · intro _ _ _ st _ _ _
    exact ⟨[], .refl st⟩
  · intro _ _ scope st c ns owner q st' _ _ _ hst
    rw [hst]
    exact ⟨_, .answered st scope c ns owner q scope⟩
  · intro _ _ _ st c e v f st' _ _ _ hb hst
    rw [hst]
    have hreport : Recorded p ctx.gagged st [] (st.report ctx c.source f.message) :=
      .reportAny st (some (c.source, f))
    exact ⟨_, hreport.trans (.close fun b hv => absurd hv (bar?_not_value hb b))⟩
  · intro room _ s symbol st c e r st₂ k st' hc _ ht _ ha hk hst
    obtain ⟨_, _, henter⟩ := Recorded.enter p ctx st c.cell (s.child symbol)
      (ctx.limits.depth - room)
    obtain ⟨es, hasked⟩ := (ha.imp fun _ _ _ _ hq => hq.2).recorded
    obtain ⟨_, _, hfinish⟩ := recorded_finish ctx (ctx.limits.depth - room)
      (Array.mem_of_getElem? hc) ht hk ha.all_included
    rw [hst]
    exact ⟨_, (henter.trans hasked).trans hfinish⟩

end Questions

/-! ## Inquiries -/

namespace Session

variable {s s' : Session} {q : Inquiry} {r : Resolution}

theorem inquire_recorded (h : s.inquire q = some (r, s')) :
    s'.program = s.program ∧ Recorded s.program q.gagged s.store (s.newEvents s') s'.store := by
  obtain ⟨c, b, after, _, hres, _, rfl⟩ := inquire_eq_some h
  obtain ⟨es, hrec⟩ := resolveAt_recorded hres
  have hj := hrec.journal
  rw [journal_holding] at hj
  have hnew : s.newEvents { s with store := s.freeing q after } = es := by
    rw [newEvents, journal_freeing]
    exact Store.drop_journal hj
  refine ⟨rfl, hnew ▸ ⟨by simpa using hj, by simpa using hrec.size, fun i hi => ?_, ?_⟩⟩
  · have hstate := hrec.state i (by simpa using hi)
    rw [state_holding] at hstate
    rwa [state_freeing]
  · intro i b hm
    obtain ⟨c, hc, hcell, e, ht, he⟩ := hrec.values i b hm
    exact ⟨c, hc, hcell, e, ht, he.mono fun j hj => by simpa using hj⟩

/-- An inquiry settles an open condition by the value of its expression: of the entries that the
journal gets, the first one that settles the condition is that value. -/
structure SettlesByValue (s : Session) (q : Inquiry) (s' : Session) (c : Condition) (b : Bool) :
    Prop where
  before : s.stateOf c = .unresolved
  entry : ∃ es es', s.newEvents s' = es ++ .concluded c.cell (.value b) :: es' ∧
    ∀ e ∈ es, e.settles? q.gagged c.cell = none
  after : s'.stateOf c = .ofBool b

theorem SettlesByValue.established {c : Condition} {e : Expr} {b : Bool}
    (hv : s.SettlesByValue q s' c b) (h : s.inquire q = some (r, s'))
    (hw : s.program.WellFormed s.store.cells.size) (hc : c ∈ s.program.conditions)
    (ht : c.test = .staticIf e) : Established s.program s'.store e b := by
  obtain ⟨es, es', hnew, _⟩ := hv.entry
  have hm : Event.concluded c.cell (.value b) ∈ s.newEvents s' := by simp [hnew]
  obtain ⟨d, hd, hcell, e', ht', he⟩ := (inquire_recorded h).2.values _ _ hm
  rwa [hw.expr_eq hc hd ht ht' hcell.symm]

end Session

end CondComp
