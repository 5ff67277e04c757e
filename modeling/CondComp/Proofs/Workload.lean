import CondComp.Proofs.Adequacy

/-!
# How much is analysed

An analysis ends with the first guard that does not hold, and so does the one that asked about it,
and so on down to the question itself. Analyses that fail therefore lie inside each other, and the
limits bound how many of them there are. Whatever else is analysed is included at once.

* **`resolveAt_isSome`**: questions end, if no name stands for itself;
* `Analysed`: the analyses noted in the journal between two stores;
* `Workload`: what a question analyses; `Workload.trans`, `Workload.finish`, `Asked.workload`;
* **`resolveAt_workload`**: this bounds the analyses of every question;
* **`inquire_workload`**: inquiries end, and analyse what they include once.
-/

namespace CondComp

/-! ## Questions end -/

section Ends

variable {p : Program} {ctx : Context}

theorem askAll_isSome {G : ConditionId → EvalM Bool} (h : ∀ g st, (G g st).isSome)
    (qs : List (String × ConditionId)) (st : Store) : (askAll G qs st).isSome := by
  induction qs generalizing st with
  | nil => rfl
  | cons q qs ih =>
    obtain ⟨x, g⟩ := q
    obtain ⟨⟨b, st₁⟩, hg⟩ := Option.isSome_iff_exists.mp (h g st)
    rw [askAll_cons, hg]
    cases b with
    | true => exact ih st₁
    | false => rfl

theorem resolveAt_isSome_of (hac : NamesAcyclic p.decls) {room : Nat}
    (hbelow : ∀ child g st, 0 < room → (p.below ctx room child g st).isSome) (id : ConditionId)
    (scope : Option Scope) (symbol : Option SymbolId) (st : Store) :
    (p.resolveAt ctx room id scope symbol st).isSome := by
  rw [Program.resolveAt_eq]
  cases stage p ctx (ctx.limits.depth + 1 - room) id scope st with
  | absent hc => rw [resolveWith_absent hc]; rfl
  | settled c hc hs => rw [resolveWith_settled hc hs]; rfl
  | directive c ns owner q hc ho ht => rw [resolveWith_directive hc ho ht]; rfl
  | barred c e v f hc ho ht hb => rw [resolveWith_barred hc ho ht hb]; rfl
  | analysed c e s hc ho ht hs hb =>
    subst hs
    obtain ⟨room', rfl⟩ := exists_room hb
    have hask : (askAll (p.below ctx (room' + 1) (s.child symbol)) (e.agenda p.decls).questions
        (st.enter c.cell (s.child symbol) (ctx.limits.depth + 1 - (room' + 1)))).isSome :=
      askAll_isSome (fun g st => hbelow _ g st (Nat.succ_pos _)) _ _
    obtain ⟨⟨r, st₂⟩, ha⟩ := Option.isSome_iff_exists.mp hask
    rw [resolveWith_analysed hc ho ht hb, ha, Option.bind_some, Option.isSome_map]
    cases hk : p.ending c e r with
    | some k => rfl
    | none => exact absurd (ending_eq_none.mp hk).2 (agenda_ne_endless hac e)

/-- **Questions end**, if no name stands for itself. -/
theorem resolveAt_isSome (hac : NamesAcyclic p.decls) (room : Nat) (id : ConditionId)
    (scope : Option Scope) (symbol : Option SymbolId) (st : Store) :
    (p.resolveAt ctx room id scope symbol st).isSome := by
  induction room generalizing id scope symbol st with
  | zero => exact resolveAt_isSome_of hac (fun _ _ _ h => absurd h (Nat.lt_irrefl 0)) id _ _ st
  | succ room ih =>
    refine resolveAt_isSome_of hac ?_ id scope symbol st
    exact fun child g st _ => ih g (some child) none st

end Ends

/-! ## Analyses in the journal -/

/-- The cell of the condition whose analysis began. -/
def Event.analysed? : Event → Option CellId
  | entered i _ _ _ _ => some i
  | _ => none

/-- The journal of the second store goes on where that of the first one ends, and between the two
the analyses on the cells `ran` began, in this order. -/
def Analysed (st : Store) (ran : List CellId) (st' : Store) : Prop :=
  ∃ events, st'.journal.toList = st.journal.toList ++ events ∧
    events.filterMap Event.analysed? = ran

section Analysed

variable {st st₁ st₂ : Store} {ran ran' : List CellId}

theorem Analysed.of_eq (h : st₁.journal = st.journal) : Analysed st [] st₁ :=
  ⟨[], by rw [h, List.append_nil], rfl⟩

theorem Analysed.of_push {e : Event} (h : st₁.journal = st.journal.push e) :
    Analysed st e.analysed?.toList st₁ := by
  refine ⟨[e], by rw [h, Array.toList_push], ?_⟩
  cases he : e.analysed? <;> simp [he]

theorem Analysed.trans (h : Analysed st ran st₁) (h' : Analysed st₁ ran' st₂) :
    Analysed st (ran ++ ran') st₂ := by
  obtain ⟨events, hj, rfl⟩ := h
  obtain ⟨events', hj', rfl⟩ := h'
  exact ⟨events ++ events', by rw [hj', hj, List.append_assoc], List.filterMap_append⟩

theorem analysed_enter (i : CellId) (scope : Scope) (depth : Nat) :
    Analysed st [i] (st.enter i scope depth) :=
  .of_push (e := .entered i scope depth _ _) rfl

theorem analysed_close (i : CellId) (ctx : Context) (v : Verdict) :
    Analysed st [] (st.close i ctx v) := .of_push (st.journal_close i ctx v)

theorem analysed_reportAny (ctx : Context) (fault : Option (Source × Fault)) :
    Analysed st [] (st.reportAny ctx fault) := .of_eq (by cases fault <;> rfl)

theorem analysed_finish (i : CellId) (ctx : Context) (depth : Nat)
    (fault : Option (Source × Fault)) (v : Verdict) :
    Analysed st [] (st.finish i ctx depth fault v) :=
  ((Analysed.of_push (st.journal_leave i depth)).trans (analysed_reportAny ctx fault)).trans
    (analysed_close i ctx v)

end Analysed

/-! ## What a question analyses -/

/-- What is analysed between two stores when `room` levels are left: conditions that are not
included before. What is included afterwards was analysed once, and the rest as often as the limits
allow. -/
structure Workload (p : Program) (limits : Limits) (room : Nat) (st : Store) (ran : List CellId)
    (st' : Store) : Prop where
  analysed : Analysed st ran st'
  mem : ∀ i ∈ ran, st.state i ≠ .included ∧ ∃ c ∈ p.conditions, c.cell = i ∧ c.isStaticIf = true
  once : ∀ c ∈ p.conditions, c.isStaticIf = true → st.state c.cell ≠ .included →
    st'.state c.cell = .included → ran.count c.cell = 1
  again : ∀ i ∈ ran, st'.state i ≠ .included → st.nesting i + ran.count i ≤ limits.reentry + 1
  depth : ran.countP (fun i => st'.state i ≠ .included) ≤ room

/-- Everything analysed is included. -/
def Fruitful (ran : List CellId) (st' : Store) : Prop := ∀ i ∈ ran, st'.state i = .included

section Workload

variable {p : Program} {limits : Limits} {room : Nat} {st st₁ st₂ : Store} {ran ran' : List CellId}

theorem Fruitful.later (h : Fruitful ran st₁) (hl : Later st₁ st₂) : Fruitful ran st₂ :=
  fun i hi => hl.included (h i hi)

theorem Fruitful.count_eq_zero (h : Fruitful ran st₁) {i : CellId}
    (hi : st₁.state i ≠ .included) : ran.count i = 0 :=
  List.count_eq_zero.mpr fun hm => hi (h i hm)

theorem Fruitful.countP_eq_zero (h : Fruitful ran st₁) :
    ran.countP (fun i => st₁.state i ≠ .included) = 0 := by
  rw [List.countP_eq_zero]
  intro i hi
  simp [h i hi]

theorem Workload.idle (hj : Analysed st [] st₁)
    (hs : ∀ c ∈ p.conditions, c.isStaticIf = true → st₁.state c.cell = .included →
      st.state c.cell = .included) : Workload p limits room st [] st₁ where
  analysed := hj
  mem i hi := by simp at hi
  once c hc ht ho hi := absurd (hs c hc ht hi) ho
  again i hi := by simp at hi
  depth := Nat.zero_le _

/-- What is analysed after analyses that all included their conditions. -/
theorem Workload.trans (h : Workload p limits room st ran st₁) (hall : Fruitful ran st₁)
    (hl : Later st st₁) (hl' : Later st₁ st₂) (h' : Workload p limits room st₁ ran' st₂) :
    Workload p limits room st (ran ++ ran') st₂ := by
  have hall₂ : Fruitful ran st₂ := hall.later hl'
  refine ⟨h.analysed.trans h'.analysed, ?_, ?_, ?_, ?_⟩
  · intro i hi
    rcases List.mem_append.mp hi with hi | hi
    · exact h.mem i hi
    · exact ⟨fun hs => (h'.mem i hi).1 (hl.included hs), (h'.mem i hi).2⟩
  · intro c hc ht ho hi
    rw [List.count_append]
    by_cases hs : st₁.state c.cell = .included
    · have hnone : ran'.count c.cell = 0 :=
        List.count_eq_zero.mpr fun hm => (h'.mem _ hm).1 hs
      rw [h.once c hc ht ho hs, hnone]
    · rw [hall.count_eq_zero hs, h'.once c hc ht hs hi]
  · intro i hi ho
    have hzero : ran.count i = 0 := hall₂.count_eq_zero ho
    have hi' : i ∈ ran' := (List.mem_append.mp hi).resolve_left (List.count_eq_zero.mp hzero)
    have := h'.again i hi' ho
    rw [List.count_append, hzero, ← hl.nesting i]
    omega
  · rw [List.countP_append, hall₂.countP_eq_zero]
    have := h'.depth
    omega

theorem Asked.workload {qs : List (String × ConditionId)} {r : Option String}
    (h : Asked (fun _ st b st' => Later st st' ∧ (p.WellFormed st.cells.size →
      ∃ ran, Workload p limits room st ran st' ∧ (b = true → Fruitful ran st'))) qs st r st₂)
    (hw : p.WellFormed st.cells.size) :
    ∃ ran, Workload p limits room st ran st₂ ∧ (r = none → Fruitful ran st₂) := by
  induction h with
  | done => exact ⟨[], .idle (.of_eq rfl) fun _ _ _ hi => hi, fun _ i hi => by simp at hi⟩
  | @yes x g qs st st₁ st₂ r hq ha ih =>
    obtain ⟨hl, hwork⟩ := hq
    have hl' : Later st₁ st₂ := (ha.imp fun _ _ _ _ hq => hq.1).later
    obtain ⟨ran, h, hall⟩ := hwork hw
    obtain ⟨ran', h', hall'⟩ := ih (by rwa [hl.size])
    refine ⟨ran ++ ran', h.trans (hall rfl) hl hl' h', fun hr i hi => ?_⟩
    rcases List.mem_append.mp hi with hi | hi
    · exact (hall rfl).later hl' i hi
    · exact hall' hr i hi
  | no hq =>
    obtain ⟨ran, h, _⟩ := hq.2 hw
    exact ⟨ran, h, fun hr => nomatch hr⟩

section Finish

variable {ctx : Context} {id : ConditionId} {c : Condition} {e : Expr} {child : Scope} {depth : Nat}
  {r : Option String} {k : Ending}

theorem state_finish_ne {i j : CellId} (hj : j ≠ i) (fault : Option (Source × Fault))
    (v : Verdict) : (st.finish i ctx depth fault v).state j = st.state j := by
  rw [Store.state_finish, if_neg fun he => hj he.1.symm]

theorem eq_none_of_included (hk : p.ending c e r = some k) (ho : st.state c.cell ≠ .included)
    (hi : (st.finish c.cell ctx depth k.fault k.verdict).state c.cell = .included) : r = none := by
  rcases ending_cases hk with ⟨_, _, hr, _⟩ | ⟨hfail, _⟩
  · exact hr
  · rw [hfail, Store.state_finish] at hi
    split_ifs at hi
    · cases hg : ctx.gagged <;> simp [hg, Verdict.answer?, settle_false_of_ne ho, ho] at hi
    · exact absurd hi ho

theorem ne_included_of_finish {j : CellId} (ho : st.state c.cell ≠ .included)
    (hj : (st.finish c.cell ctx depth k.fault k.verdict).state j ≠ .included) :
    st.state j ≠ .included := by
  by_cases he : j = c.cell
  · rwa [he]
  · rwa [← state_finish_ne he]

/-- If an analysis includes its condition, then its questions included all that they analysed. -/
theorem Fruitful.finish (hall : r = none → Fruitful ran st₂) (hk : p.ending c e r = some k)
    (ho : st₂.state c.cell ≠ .included)
    (hi : (st₂.finish c.cell ctx depth k.fault k.verdict).state c.cell = .included) :
    Fruitful (c.cell :: ran) (st₂.finish c.cell ctx depth k.fault k.verdict) := by
  have hran := hall (eq_none_of_included hk ho hi)
  intro j hj
  rcases List.mem_cons.mp hj with rfl | hj
  · exact hi
  · have hne : j ≠ c.cell := by
      rintro rfl
      exact ho (hran _ hj)
    rw [state_finish_ne hne]
    exact hran j hj

theorem Workload.finish
    (h : Workload p ctx.limits room (st.enter c.cell child depth) ran st₂)
    (hall : r = none → Fruitful ran st₂) (hlt : c.cell < st.cells.size)
    (hc : p.conditions[id]? = some c) (ht : c.test = .staticIf e)
    (hn : st.nesting c.cell ≤ ctx.limits.reentry) (ho : st.state c.cell ≠ .included)
    (ho₂ : st₂.state c.cell ≠ .included) (hk : p.ending c e r = some k) :
    Workload p ctx.limits (room + 1) st (c.cell :: ran)
      (st₂.finish c.cell ctx depth k.fault k.verdict) := by
  constructor
  · have hstart : Analysed st (c.cell :: ran) st₂ := (analysed_enter _ _ _).trans h.analysed
    simpa using hstart.trans (analysed_finish c.cell ctx depth k.fault k.verdict)
  · intro i hi
    rcases List.mem_cons.mp hi with rfl | hi
    · exact ⟨ho, c, Array.mem_of_getElem? hc, rfl, by rw [Condition.isStaticIf, ht]⟩
    · simpa using h.mem i hi
  · intro d hd hdt hdo hi
    by_cases he : d.cell = c.cell
    · -- the questions included all that they analysed, so the condition is not among it
      rw [he] at hi ⊢
      rw [List.count_cons_self, (hall (eq_none_of_included hk ho₂ hi)).count_eq_zero ho₂]
    · rw [List.count_cons_of_ne (Ne.symm he)]
      exact h.once d hd hdt (by simpa using hdo) (by rwa [← state_finish_ne he])
  · intro i hi hno
    by_cases he : i = c.cell
    · subst he
      rw [List.count_cons_self]
      by_cases hm : c.cell ∈ ran
      · have := h.again c.cell hm ho₂
        rw [Store.nesting_enter, if_pos ⟨rfl, hlt⟩] at this
        omega
      · rw [List.count_eq_zero.mpr hm]
        omega
    · have := h.again i ((List.mem_cons.mp hi).resolve_left he) (ne_included_of_finish ho₂ hno)
      rw [Store.nesting_enter, if_neg fun hcell => he hcell.1.symm] at this
      rwa [List.count_cons_of_ne (Ne.symm he)]
  · have hle : ran.countP (fun i =>
        (st₂.finish c.cell ctx depth k.fault k.verdict).state i ≠ .included) ≤ room := by
      refine Nat.le_trans (List.countP_mono_left fun i _ hi => ?_) h.depth
      simpa using ne_included_of_finish ho₂ (by simpa using hi)
    rw [List.countP_cons]
    split_ifs <;> omega

end Finish

/-- **What a question analyses.** If it is answered with yes, all of it is included. -/
theorem resolveAt_workload {ctx : Context} {id : ConditionId} {scope : Option Scope}
    {symbol : Option SymbolId} {b : Bool} (hw : p.WellFormed st.cells.size)
    (h : p.resolveAt ctx room id scope symbol st = some (b, st₁)) :
    ∃ ran, Workload p ctx.limits room st ran st₁ ∧ (b = true → Fruitful ran st₁) := by
  refine resolveAt_induction (R := fun room _ _ st b st' => p.WellFormed st.cells.size →
    ∃ ran, Workload p ctx.limits room st ran st' ∧ (b = true → Fruitful ran st'))
    ?_ ?_ ?_ ?_ ?_ h hw
  · intro _ _ _ _ _ _
    exact ⟨[], .idle (.of_eq rfl) fun _ _ _ hi => hi, fun _ i hi => by simp at hi⟩
  · intro _ _ _ _ _ _ _ _
    exact ⟨[], .idle (.of_eq rfl) fun _ _ _ hi => hi, fun _ i hi => by simp at hi⟩
  · intro _ id scope st c ns owner q st' hc _ ht hst hw
    refine ⟨[], .idle ?_ fun d hd hdt hi => ?_, fun _ i hi => by simp at hi⟩
    · rw [hst]
      have hnote : Analysed (st.answer p scope ns owner q).2 []
          ((st.answer p scope ns owner q).2.note
            (.answered c (st.answer p scope ns owner q).1 scope)) :=
        .of_push (e := .answered c _ scope) rfl
      exact ((Analysed.of_eq (st.journal_answer p scope ns owner q)).trans hnote).trans (.of_eq rfl)
    · -- the cell of a directive is that of no `static if`
      obtain ⟨j, hdj⟩ := Array.mem_iff_getElem?.mp hd
      have hne : c.cell ≠ d.cell := by
        intro he
        rw [Condition.isStaticIf, ← hw.test_eq hc hdj he, ht] at hdt
        cases hdt
      rw [hst, Store.state_settle, if_neg fun he => hne he.1] at hi
      simpa using hi
  · intro _ id scope st c e v f st' hc ho ht hb hst hw
    refine ⟨[], .idle ?_ fun d hd _ hi => ?_, fun _ i hi => by simp at hi⟩
    · rw [hst]
      exact (Analysed.of_eq rfl).trans (analysed_close c.cell ctx v)
    · obtain ⟨j, hdj⟩ := Array.mem_iff_getElem?.mp hd
      rw [hst, ← stateIn_eq hdj] at hi
      rw [← stateIn_eq hdj]
      by_cases hj : j = id
      · subst hj
        exact absurd hi
          (stateIn_barred_failed hw hc (ne_included_of_open hc ho) f (bar?_not_value hb))
      · rwa [stateIn_barred_ne hw hc ht hj] at hi
  · intro room id s symbol st c e r st₂ k st' hc ho ht hb ha hk hst hw
    have hl : Later (st.enter c.cell (s.child symbol) (ctx.limits.depth - room)) st₂ :=
      ha.later_of_answers
    obtain ⟨ran, hwork, hall⟩ :=
      (ha.imp fun _ _ _ _ hq => ⟨resolveAt_later hq.1, hq.2⟩).workload (by simpa using hw)
    have hopen : st.state c.cell ≠ .included := by rw [ho]; decide
    have hopen₂ : st₂.state c.cell ≠ .included := by
      rw [← stateIn_eq hc]
      exact ha.not_included hw hc ht (ne_included_of_open hc ho)
    rw [hst]
    refine ⟨c.cell :: ran, hwork.finish hall (hw.cell_lt hc) hc ht (bar?_eq_none.mp hb).1 hopen
      hopen₂ hk, fun hi => Fruitful.finish hall hk hopen₂ ?_⟩
    simpa [Inclusion.isIncluded] using hi

end Workload

/-! ## Inquiries -/

namespace Session

variable {s s' : Session}

/-- The entries that a step adds to the journal. -/
def newEvents (s s' : Session) : List Event := s'.store.journal.toList.drop s.store.journal.size

/-- The cells of the conditions whose analyses a step begins, in order. -/
def analysedSince (s s' : Session) : List CellId := (s.newEvents s').filterMap Event.analysed?

/-- A step includes the condition on a cell, which was not included before. -/
def Includes (s s' : Session) (i : CellId) : Prop :=
  s.store.state i ≠ .included ∧ s'.store.state i = .included

instance (s s' : Session) (i : CellId) : Decidable (s.Includes s' i) :=
  inferInstanceAs (Decidable (_ ∧ _))

theorem analysedSince_eq {ran : List CellId} (h : Analysed s.store ran s'.store) :
    s.analysedSince s' = ran := by
  obtain ⟨events, hj, rfl⟩ := h
  rw [analysedSince, newEvents, Store.drop_journal hj]

theorem length_scopes (events : List Event) : (events.filterMap Event.analysisScope?).length =
    (events.filterMap Event.analysed?).length := by
  rw [List.length_filterMap_eq_countP, List.length_filterMap_eq_countP]
  refine List.countP_congr fun event _ => ?_
  cases event <;> simp [Event.analysisScope?, Event.analysed?]

/-- **Inquiries end, and analyse what they include once.** A `static if` that is not included is
analysed `reentry + 1` times at most, and all of these together `depth + 1` times. -/
theorem inquire_workload (hs : s.program.WellFormed s.store.cells.size)
    (hac : NamesAcyclic s.program.decls) {q : Inquiry}
    (hq : q.condition < s.program.conditions.size) :
    ∃ r s', s.inquire q = some (r, s') ∧ r.scopes.length = (s.analysedSince s').length ∧
      (∀ i ∈ s.analysedSince s', ∃ c ∈ s.program.conditions, c.cell = i ∧ c.isStaticIf = true) ∧
      (∀ c ∈ s.program.conditions, c.isStaticIf = true →
        (s.Includes s' c.cell → (s.analysedSince s').count c.cell = 1) ∧
        (¬ s.Includes s' c.cell →
          (s.analysedSince s').count c.cell ≤ (s.contextOf q).limits.reentry + 1)) ∧
      (s.analysedSince s').countP (fun i => ¬ s.Includes s' i) ≤
        (s.contextOf q).limits.depth + 1 := by
  have hw : s.program.WellFormed (s.holding q).cells.size := by simpa using hs
  obtain ⟨c, hc⟩ : ∃ c, s.program.conditions[q.condition]? = some c :=
    ⟨_, Array.getElem?_eq_getElem hq⟩
  obtain ⟨⟨b, after⟩, hres⟩ := Option.isSome_iff_exists.mp
    (resolveAt_isSome hac ((s.contextOf q).limits.depth + 1) q.condition q.scope q.symbol
      (s.holding q))
  obtain ⟨ran, hwork, _⟩ := resolveAt_workload hw hres
  have hanalysed : s.analysedSince { s with store := s.freeing q after } = ran := by
    obtain ⟨events, hj, hran⟩ := hwork.analysed
    refine analysedSince_eq ⟨events, ?_, hran⟩
    rw [journal_freeing, hj, journal_holding]
  have hincludes : ∀ i ∈ ran, s.Includes { s with store := s.freeing q after } i ↔
      after.state i = .included := by
    intro i hi
    have hopen := (hwork.mem i hi).1
    rw [state_holding] at hopen
    rw [Includes, state_freeing]
    exact and_iff_right hopen
  refine ⟨_, _, inquire_of_resolve hc hres, ?_, ?_,
    fun d hd hdt => ⟨fun hi => ?_, fun hno => ?_⟩, ?_⟩
  · rw [resolution, length_scopes]
    rfl
  · rw [hanalysed]
    exact fun i hi => (hwork.mem i hi).2
  · rw [hanalysed]
    obtain ⟨ho, hi⟩ := hi
    rw [state_freeing] at hi
    exact hwork.once d hd hdt (by rwa [state_holding]) hi
  · rw [hanalysed]
    by_cases hm : d.cell ∈ ran
    · have := hwork.again d.cell hm (mt (hincludes _ hm).mpr hno)
      omega
    · rw [List.count_eq_zero.mpr hm]
      exact Nat.zero_le _
  · rw [hanalysed]
    refine Nat.le_trans (Nat.le_of_eq (List.countP_congr fun i hi => ?_)) hwork.depth
    simp [hincludes i hi]

/-- On the circle of `tangle` three analyses fail, which is as many as its limits allow, and a
`static if` that the circle needs is included on the way. -/
theorem inquire_workload_tangle : ∃ r s',
    tangle.inquire { condition := 0, scope := some {} } = some (r, s') ∧
    r.scopes.length = (tangle.analysedSince s').length ∧
    (∀ c ∈ tangle.program.conditions, c.isStaticIf = true →
      (tangle.Includes s' c.cell → (tangle.analysedSince s').count c.cell = 1) ∧
      (¬ tangle.Includes s' c.cell → (tangle.analysedSince s').count c.cell ≤ 6)) ∧
    (tangle.analysedSince s').countP (fun i => ¬ tangle.Includes s' i) ≤ 3 ∧
    tangle.analysedSince s' = [0, 1, 2, 0] ∧ tangle.Includes s' 2 := by
  have hs : tangle.Reachable fun _ => True :=
    (Session.Reachable.start _ _).performAll (Option.some_get _).symm fun _ _ => trivial
  obtain ⟨r, s', hi, hlen, _, hcount, htotal⟩ := inquire_workload hs.wellFormed namesAcyclic_tangle
    (q := { condition := 0, scope := some {} }) (by decide +kernel)
  have hsome : (tangle.inquire { condition := 0, scope := some {} }).map
      (fun r => (tangle.analysedSince r.2, decide (tangle.Includes r.2 2))) =
      some ([0, 1, 2, 0], true) := by decide +kernel
  rw [hi] at hsome
  obtain ⟨hran, hincludes⟩ := Prod.mk.inj (Option.some.inj hsome)
  exact ⟨r, s', hi, hlen, hcount, htotal, hran, of_decide_eq_true hincludes⟩

end Session

end CondComp
