import CondComp.Proofs.Permanence
import CondComp.Proofs.Settlement

/-!
# Copies

A condition that was settled by the value of its expression would come to the same value again. The
guards of its names are included for good, what is declared later shadows nothing, and so a copy,
which starts afresh, is analysed once and asks about settled guards only.

* `Store.evaluate`: an evaluation that comes to a value and changes nothing on the way;
* **`resolve_of_established`**: an open condition whose value is established is analysed once and
  gets that value;
* `established_move`, **`established_performAll`**: what is established stays so, whatever steps
  follow;
* **`copies_answer_alike`**: a copy of a condition that was settled by its value gets the same
  answer at any later time, and nothing else changes.
-/

namespace CondComp

/-! ## Undisturbed evaluations -/

namespace Store

variable (st : Store) (ctx : Context) (i : CellId) (scope : Scope) (depth : Nat) (b : Bool)

/-- An evaluation that comes to a value and changes nothing on the way. -/
def evaluate : Store := (st.enter i scope depth).finish i ctx depth none (.value b)

theorem state_evaluate (j : CellId) : (st.evaluate ctx i scope depth b).state j =
    if i = j ∧ i < st.cells.size then (st.state j).settle b else st.state j := by
  rw [evaluate, state_finish, size_enter, state_enter]
  rfl

@[simp] theorem sink_evaluate : (st.evaluate ctx i scope depth b).sink = st.sink := by
  rw [evaluate, finish, sink_close]
  rfl

@[simp] theorem log_evaluate : (st.evaluate ctx i scope depth b).log = st.log := by
  rw [evaluate, finish, log_close]
  rfl

@[simp] theorem modules_evaluate : (st.evaluate ctx i scope depth b).modules = st.modules := by
  rw [evaluate, finish, modules_close]
  rfl

theorem scopes_evaluate : ((st.evaluate ctx i scope depth b).journal.toList.drop
    st.journal.size).filterMap Event.analysisScope? = [scope] := by
  rw [evaluate, journal_finish, journal_leave, journal_enter, Array.toList_push, Array.toList_push,
    Array.toList_push, List.append_assoc, List.append_assoc, ← Array.length_toList, List.drop_left]
  rfl

end Store

/-! ## Questions about established values -/

section Questions

variable {p : Program} {ctx : Context} {room : Nat} {st : Store} {id : ConditionId} {c : Condition}
  {e : Expr} {b : Bool}

theorem askAll_of_yes {G : ConditionId → EvalM Bool} {qs : List (String × ConditionId)}
    (h : ∀ q ∈ qs, G q.2 st = some (true, st)) : askAll G qs st = some (none, st) := by
  induction qs with
  | nil => rfl
  | cons q qs ih =>
    obtain ⟨x, g⟩ := q
    rw [askAll_cons, h (x, g) List.mem_cons_self]
    exact ih fun q hq => h q (List.mem_cons_of_mem _ hq)

theorem resolveAt_of_included {scope : Option Scope} {symbol : Option SymbolId}
    (h : p.stateIn st id = .included) :
    p.resolveAt ctx room id scope symbol st = some (true, st) := by
  cases hc : p.conditions[id]? with
  | none => simp [Program.stateIn, hc] at h
  | some c =>
    rw [stateIn_eq hc] at h
    rw [resolveAt_of_settled hc (by rw [h]; decide), h]
    rfl

namespace Established

theorem ne_poisoned (h : Established p st e b) : e ≠ .poisoned := by
  rintro rfl
  exact Finding.noConfusion h.finding

theorem ending_eq (h : Established p st e b) (c : Condition) :
    p.ending c e none = some { verdict := .value b } := by
  simp [Program.ending, h.finding, h.value]

end Established

/-- **An established value is found again.** An open condition whose value is established is
analysed once; all guards that the analysis asks about are settled. -/
theorem resolve_of_established {s : Scope} {symbol : Option SymbolId}
    (he : Established p st e b) (hw : p.WellFormed st.cells.size)
    (hc : p.conditions[id]? = some c) (ht : c.test = .staticIf e)
    (ho : st.state c.cell = .unresolved) (hn : st.nesting c.cell ≤ ctx.limits.reentry) :
    p.resolve ctx id (some s) symbol st =
      some (b, st.evaluate ctx c.cell (s.child symbol) 0 b) := by
  have hbar : c.bar? ctx 0 e (some s) st = none :=
    bar?_eq_none.mpr ⟨hn, Nat.zero_le _, he.ne_poisoned⟩
  have hguards : ∀ q ∈ (e.agenda p.decls).questions,
      p.below ctx (ctx.limits.depth + 1) (s.child symbol) q.2 (st.enter c.cell (s.child symbol) 0) =
        some (true, st.enter c.cell (s.child symbol) 0) := by
    intro q hq
    refine resolveAt_of_included ?_
    rw [stateIn_enter]
    exact he.guards q hq
  have hstate : (st.evaluate ctx c.cell (s.child symbol) 0 b).state c.cell = .ofBool b := by
    rw [Store.state_evaluate, if_pos ⟨rfl, hw.cell_lt hc⟩, ho]
    rfl
  rw [Program.resolve, Program.resolveAt_eq, Nat.sub_self, resolveWith_analysed hc ho ht hbar,
    askAll_of_yes hguards, Option.bind_some, he.ending_eq c, Option.map_some]
  change some (((st.evaluate ctx c.cell (s.child symbol) 0 b).state c.cell).isIncluded,
    st.evaluate ctx c.cell (s.child symbol) 0 b) = _
  rw [hstate, Inclusion.isIncluded_ofBool]

end Questions

namespace Session

variable {s s' : Session} {e : Expr} {b : Bool}

/-! ## Later sessions -/

theorem decls_move {step : Step} (h : s.Move step s') :
    ∃ ds, s'.program.decls = s.program.decls ++ ds := by
  cases h with
  | idle _ hd _ => exact ⟨[], by rw [hd, List.append_nil]⟩
  | fresh | shared | settled | held | freed => exact ⟨[], (List.append_nil _).symm⟩
  | declared d => exact ⟨[d], rfl⟩
  | answered _ hi =>
    obtain ⟨_, _, _, _, _, _, rfl⟩ := inquire_eq_some hi
    exact ⟨[], (List.append_nil _).symm⟩

theorem stateIn_included_move {step : Step} (h : s.Move step s') {id : ConditionId}
    (hi : s.program.stateIn s.store id = .included) :
    s'.program.stateIn s'.store id = .included := by
  cases hc : s.program.conditions[id]? with
  | none => simp [Program.stateIn, hc] at hi
  | some c =>
    rw [stateIn_eq hc] at hi
    rw [stateIn_eq (conditions_move h hc), settled_move h (by rw [hi]; decide), hi]

/-- What is established stays so: no later declaration comes before those that were found. -/
theorem established_move {step : Step} (he : Established s.program s.store e b)
    (h : s.Move step s') : Established s'.program s'.store e b := by
  obtain ⟨ds, hd⟩ := decls_move h
  have hagenda : e.agenda s'.program.decls = e.agenda s.program.decls := by
    rw [hd, agenda_append ds he.finding]
  refine ⟨by rw [hagenda, he.finding], fun q hq => ?_, by rw [hd, eval_append ds he.value]⟩
  rw [hagenda] at hq
  exact stateIn_included_move h (he.guards q hq)

/-- **What is established stays so, whatever steps follow.** -/
theorem established_performAll {steps : List Step} (he : Established s.program s.store e b)
    (h : Session.performAll steps s = some s') : Established s'.program s'.store e b := by
  induction steps generalizing s with
  | nil =>
    cases h
    exact he
  | cons step steps ih =>
    obtain ⟨⟨a, s₁⟩, hstep, h⟩ := Option.bind_eq_some_iff.mp h
    exact ih (established_move he (move_of_perform hstep)) h

/-! ## Inquiries about established values -/

/-- The two sessions differ in nothing but the answer of a condition, what is noted of it, and
guards. -/
structure OnlySettles (s s' : Session) (c : Condition) : Prop where
  program : s'.program = s.program
  sink : s'.store.sink = s.store.sink
  log : s'.store.log = s.store.log
  modules : s'.store.modules = s.store.modules
  state (i : CellId) (hi : i ≠ c.cell) : s'.store.state i = s.store.state i

variable {q : Inquiry} {c : Condition} {scope : Scope}

theorem inquire_of_established (he : Established s.program s.store e b)
    (hw : s.program.WellFormed s.store.cells.size)
    (hc : s.program.conditions[q.condition]? = some c) (ht : c.test = .staticIf e)
    (ho : s.stateOf c = .unresolved) (hscope : q.scope = some scope)
    (hn : s.store.nesting c.cell + q.held ≤ (s.contextOf q).limits.reentry) :
    ∃ r s', s.inquire q = some (r, s') ∧ r.included = b ∧ r.scopes = [scope.child q.symbol] ∧
      r.state = .ofBool b ∧ s.OnlySettles s' c := by
  have hnest : (s.holding q).nesting c.cell ≤ (s.contextOf q).limits.reentry := by
    rw [nesting_holding]
    split_ifs <;> omega
  have hres : s.program.resolve (s.contextOf q) q.condition q.scope q.symbol (s.holding q) =
      some (b, (s.holding q).evaluate (s.contextOf q) c.cell (scope.child q.symbol) 0 b) := by
    rw [hscope]
    exact resolve_of_established (he.mono fun i hi => by rwa [state_holding])
      (by rwa [size_holding]) hc ht (by rwa [state_holding]) hnest
  have hscopes := (s.holding q).scopes_evaluate (s.contextOf q) c.cell (scope.child q.symbol) 0 b
  rw [journal_holding] at hscopes
  refine ⟨_, _, inquire_of_resolve hc hres, rfl, ?_, ?_, rfl, by simp, by simp, by simp, ?_⟩
  · simp only [resolution, journal_freeing, hscopes]
  · simp only [resolution, state_freeing]
    rw [Store.state_evaluate, size_holding, state_holding, if_pos ⟨rfl, hw.cell_lt hc⟩,
      ← stateOf_eq, ho]
    rfl
  · intro i hi
    rw [state_freeing, Store.state_evaluate, if_neg fun h => hi h.1.symm, state_holding]

/-! ## Copies -/

/-- **A copy gets the same answer** as a `static if` that was settled by its value, whatever steps
are taken before the copy is made. It is analysed once, and nothing else changes. -/
theorem copies_answer_alike (hs : s.Reachable fun _ => True) {r : Resolution} {s₁ s₂ : Session}
    (h : s.inquire q = some (r, s₁)) {id : ConditionId}
    (hc : s.program.conditions[id]? = some c) (ht : c.test = .staticIf e)
    (hv : s.SettlesByValue q s₁ c b) {steps : List Step} (hp : performAll steps s₁ = some s₂) :
    s₂.stateOf c = .ofBool b ∧ ∃ n s₃, s₂.perform (.copy id) = some (.index n, s₃) ∧
      ∀ q' scope, q'.condition = n → q'.scope = some scope → q'.held = 0 →
        ∃ r' s₄, s₃.inquire q' = some (r', s₄) ∧ r'.included = b ∧ r'.state = .ofBool b ∧
          r'.scopes = [scope.child q'.symbol] ∧ s₄.store.sink = s₃.store.sink ∧
          s₄.store.log = s₃.store.log ∧ s₄.store.modules = s₃.store.modules ∧
          ∀ id' d, id' ≠ n → s₃.program.conditions[id']? = some d →
            s₄.stateOf d = s₃.stateOf d := by
  have hw := hs.wellFormed
  have he : Established s₁.program s₁.store e b := by
    rw [(inquire_recorded h).1]
    exact hv.established h hw (Array.mem_of_getElem? hc) ht
  have hc₁ : s₁.program.conditions[id]? = some c := by rwa [(inquire_recorded h).1]
  obtain ⟨hc₂, hkept⟩ := settled_performAll hp hc₁
  have hsettled : s₁.stateOf c ≠ .unresolved := by
    rw [hv.after]
    cases b <;> decide
  refine ⟨(hkept hsettled).trans hv.after, ?_⟩
  have hcopy := perform_copy hc₂ ht
  obtain ⟨hd, hopen, hnone⟩ := s₂.addCondition_fresh c.test c.source
  generalize (s₂.addCondition c.test c.source).2 = s₃ at hcopy hd hopen hnone
  have hs₁ : s₁.Reachable fun _ => True := hs.step trivial (perform_resolve h)
  have hs₃ : s₃.Reachable fun _ => True :=
    (hs₁.performAll hp fun _ _ => trivial).step trivial hcopy
  have he₃ := established_move (established_performAll he hp) (move_of_perform hcopy)
  refine ⟨_, s₃, hcopy, fun q' scope hq hscope hheld => ?_⟩
  rw [← hq] at hd
  obtain ⟨r', s₄, hi, hb, hscopes, hstate, honly⟩ :=
    inquire_of_established he₃ hs₃.wellFormed hd ht hopen hscope
      (by rw [hnone, hheld]; exact Nat.zero_le _)
  refine ⟨r', s₄, hi, hb, hstate, hscopes, honly.sink, honly.log, honly.modules, ?_⟩
  intro id' d hne hd'
  refine honly.state d.cell fun hcell => hne ?_
  rw [← hq]
  exact (hs₃.wellFormed.own hd hd' ht hcell.symm).symm

/-- Three `static if`s, each of which guards a name in the one before it. -/
def heirloomSteps : List Step :=
  [.addStaticIf (.ident "x") {}, .addStaticIf (.eq (.ident "y") (.bool true)) {},
    .addStaticIf (.bool true) {}, .addDecl ⟨"x", .int 1, some 1⟩,
    .addDecl ⟨"y", .bool true, some 2⟩]

/-- The session after these steps. -/
def heirloom : Session :=
  (performAll heirloomSteps (.start .disabled {})).get (by decide +kernel)

/-- What happens later: other declarations of the names, and a condition under one of them. -/
def laterSteps : List Step :=
  [.addDecl ⟨"x", .bool false, none⟩, .addDecl ⟨"y", .bool false, none⟩,
    .addStaticIf (.ident "y") {}, .resolve { condition := 3, scope := some {} }]

/-- The first condition, which has no truth value, is asked about. -/
def heirloomInquiry : Inquiry := { condition := 0, scope := some {} }

/-- The session after the inquiry. -/
def heirloomAsked : Session := ((heirloom.inquire heirloomInquiry).get (by decide +kernel)).2

/-- A condition that was settled on the way to another one is copied later, and tried with no room
for evaluations below it. -/
theorem copies_answer_alike_heirloom : ∃ r s₂ s₃ r' s₄,
    heirloom.inquire heirloomInquiry = some (r, heirloomAsked) ∧
    performAll laterSteps heirloomAsked = some s₂ ∧
    s₂.perform (.copy 1) = some (.index 4, s₃) ∧
    s₃.inquire { condition := 4, scope := some {}, gagged := true, limits := some ⟨0, 0⟩ } =
      some (r', s₄) ∧
    r'.included = true ∧ r'.scopes.length = 1 ∧ s₄.store.sink = s₃.store.sink := by
  have hs : heirloom.Reachable fun _ => True :=
    (Session.Reachable.start _ _).performAll (Option.some_get _).symm fun _ _ => trivial
  have hsome : (heirloom.inquire heirloomInquiry).isSome = true := by decide +kernel
  have h : heirloom.inquire heirloomInquiry =
      some (((heirloom.inquire heirloomInquiry).get hsome).1, heirloomAsked) := by
    rw [heirloomAsked, Prod.eta, Option.some_get]
  have hc : heirloom.program.conditions[1]? =
      some ⟨.staticIf (.eq (.ident "y") (.bool true)), .internal, 1⟩ := by decide +kernel
  have hv : heirloom.SettlesByValue heirloomInquiry heirloomAsked
      ⟨.staticIf (.eq (.ident "y") (.bool true)), .internal, 1⟩ true :=
    ⟨by decide +kernel, ⟨(heirloom.newEvents heirloomAsked).take 6,
      (heirloom.newEvents heirloomAsked).drop 7, by decide +kernel, by decide +kernel⟩,
      by decide +kernel⟩
  obtain ⟨s₂, hp⟩ := Option.isSome_iff_exists.mp
    (by decide +kernel : (performAll laterSteps heirloomAsked).isSome = true)
  obtain ⟨_, n, s₃, hcopy, hall⟩ := copies_answer_alike hs h hc rfl hv hp
  have hseen : (performAll laterSteps heirloomAsked).bind
      (fun s => (s.perform (.copy 1)).map Prod.fst) = some (.index 4) := by decide +kernel
  rw [hp, Option.bind_some, hcopy] at hseen
  obtain rfl : n = 4 := Answer.index.inj (Option.some.inj hseen)
  obtain ⟨r', s₄, hi, hb, _, hscopes, hsink, _⟩ :=
    hall { condition := 4, scope := some {}, gagged := true, limits := some ⟨0, 0⟩ } {} rfl rfl rfl
  refine ⟨_, s₂, s₃, r', s₄, h, hp, hcopy, hi, hb, ?_, hsink⟩
  rw [hscopes]
  rfl

end Session

end CondComp
