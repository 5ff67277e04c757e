import CondComp.Proofs.InFlight
import CondComp.Session
import Mathlib.Data.Option.Basic

/-!
# Reachable sessions

* `Session.Move`: what a step does to conditions, declarations and cells; `move_of_perform`;
* `inquire_eq`: an inquiry, as a bind of its parts; `nesting_restored`: the guards that it holds are
  given back;
* `Session.Reachable`: the sessions that steps of a kind lead to;
* `Session.observe`: the steps of a list, with what an observer sees of them;
* **`Reachable.wellFormed`**: between steps cells are shared by directives only;
* **`nesting_inquire`**, `nesting_move`: inquiries, and all steps but those that take a guard or
  give one back, leave as many guards held as they found.
-/

namespace CondComp

namespace Session

variable (s : Session)

/-! ## Inquiries -/

theorem inquire_eq (q : Inquiry) : s.inquire q =
    (s.program.conditions[q.condition]?).bind fun c =>
      (s.program.resolve (s.contextOf q) q.condition q.scope q.symbol (s.holding q)).map fun r =>
        (s.resolution q c r.1 (s.freeing q r.2), { s with store := s.freeing q r.2 }) := by
  unfold inquire
  cases s.program.conditions[q.condition]? with
  | none => rfl
  | some c =>
    simp only [Option.bind_eq_bind, Option.bind_some]
    cases s.program.resolve (s.contextOf q) q.condition q.scope q.symbol (s.holding q) <;> rfl

theorem inquire_isSome (q : Inquiry) : (s.inquire q).isSome ↔
    (s.program.conditions[q.condition]?).isSome ∧
      (s.program.resolve (s.contextOf q) q.condition q.scope q.symbol (s.holding q)).isSome := by
  rw [inquire_eq]
  cases s.program.conditions[q.condition]? <;> simp

variable {s}

theorem inquire_of_resolve {q : Inquiry} {c : Condition} {b : Bool} {after : Store}
    (hc : s.program.conditions[q.condition]? = some c)
    (hr : s.program.resolve (s.contextOf q) q.condition q.scope q.symbol (s.holding q) =
      some (b, after)) : s.inquire q =
        some (s.resolution q c b (s.freeing q after), { s with store := s.freeing q after }) := by
  rw [inquire_eq, hc, Option.bind_some, hr]
  rfl

theorem inquire_eq_some {q : Inquiry} {r : Resolution} {s' : Session}
    (h : s.inquire q = some (r, s')) : ∃ c b after, s.program.conditions[q.condition]? = some c ∧
      s.program.resolve (s.contextOf q) q.condition q.scope q.symbol (s.holding q) =
        some (b, after) ∧
      r = s.resolution q c b (s.freeing q after) ∧ s' = { s with store := s.freeing q after } := by
  rw [inquire_eq] at h
  obtain ⟨c, hc, h⟩ := Option.bind_eq_some_iff.mp h
  obtain ⟨⟨b, after⟩, hr, h⟩ := Option.map_eq_some_iff.mp h
  cases h
  exact ⟨c, b, after, hc, hr, rfl, rfl⟩

variable (s) {q : Inquiry} {after : Store} (i : CellId)

@[simp] theorem state_holding : (s.holding q).state i = s.store.state i := by
  unfold holding
  cases s.guardedCell? q.condition <;> simp

@[simp] theorem size_holding : (s.holding q).cells.size = s.store.cells.size := by
  unfold holding
  cases s.guardedCell? q.condition <;> simp

@[simp] theorem modules_holding : (s.holding q).modules = s.store.modules := by
  unfold holding
  cases s.guardedCell? q.condition <;> rfl

@[simp] theorem sink_holding : (s.holding q).sink = s.store.sink := by
  unfold holding
  cases s.guardedCell? q.condition <;> rfl

@[simp] theorem log_holding : (s.holding q).log = s.store.log := by
  unfold holding
  cases s.guardedCell? q.condition <;> rfl

@[simp] theorem journal_holding : (s.holding q).journal = s.store.journal := by
  unfold holding
  cases s.guardedCell? q.condition <;> rfl

@[simp] theorem runaways_holding : (s.holding q).runaways = s.store.runaways := by
  rw [Store.runaways, journal_holding, Store.runaways]

@[simp] theorem state_freeing : (s.freeing q after).state i = after.state i := by
  unfold freeing
  cases s.guardedCell? q.condition <;> simp

@[simp] theorem size_freeing : (s.freeing q after).cells.size = after.cells.size := by
  unfold freeing
  cases s.guardedCell? q.condition <;> simp

@[simp] theorem modules_freeing : (s.freeing q after).modules = after.modules := by
  unfold freeing
  cases s.guardedCell? q.condition <;> rfl

@[simp] theorem sink_freeing : (s.freeing q after).sink = after.sink := by
  unfold freeing
  cases s.guardedCell? q.condition <;> rfl

@[simp] theorem log_freeing : (s.freeing q after).log = after.log := by
  unfold freeing
  cases s.guardedCell? q.condition <;> rfl

@[simp] theorem journal_freeing : (s.freeing q after).journal = after.journal := by
  unfold freeing
  cases s.guardedCell? q.condition <;> rfl

@[simp] theorem runaways_freeing : (s.freeing q after).runaways = after.runaways := by
  rw [Store.runaways, journal_freeing, Store.runaways]

theorem nesting_holding : (s.holding q).nesting i =
    if s.guardedCell? q.condition = some i ∧ i < s.store.cells.size then
      s.store.nesting i + q.held
    else s.store.nesting i := by
  unfold holding
  cases s.guardedCell? q.condition with
  | none => simp
  | some j =>
    by_cases h : j = i
    · simp [Store.nesting_hold, h]
    · simp [Store.nesting_hold, h]

theorem nesting_freeing : (s.freeing q after).nesting i =
    if s.guardedCell? q.condition = some i ∧ i < after.cells.size then after.nesting i - q.held
    else after.nesting i := by
  unfold freeing
  cases s.guardedCell? q.condition with
  | none => simp
  | some j =>
    by_cases h : j = i
    · simp [Store.nesting_free, h]
    · simp [Store.nesting_free, h]

theorem nesting_restored (h : Later (s.holding q) after) :
    (s.freeing q after).nesting i = s.store.nesting i := by
  rw [nesting_freeing, h.nesting, nesting_holding, h.size, size_holding]
  split_ifs
  · exact Nat.add_sub_cancel _ _
  · rfl

theorem stateOf_eq (c : Condition) : s.stateOf c = s.store.state c.cell := rfl

/-! ## Steps -/

/-- What a step does to the conditions, the declarations and the cells. -/
inductive Move (s : Session) (step : Step) : Session → Prop
  | idle {s' : Session} (hc : s'.program.conditions = s.program.conditions)
      (hd : s'.program.decls = s.program.decls) (hs : s'.store.cells = s.store.cells) :
      Move s step s'
  | fresh (test : Test) (source : Source)
      (hd : ∀ ns owner q, test = .directive ns owner q →
        ∃ place, step = .addDirective ns owner q place) :
      Move s step (s.addCondition test source).2
  | shared {c : Condition} {ns : Namespace} {owner : ModuleId} {q : Query}
      (hc : c ∈ s.program.conditions) (ht : c.test = .directive ns owner q) :
      Move s step (s.addEntry c).2
  | declared (d : Decl) :
      Move s step { s with program := { s.program with decls := s.program.decls ++ [d] } }
  | settled (c : ConditionId) (b : Bool) (i : CellId) (h : step = .settle c b) :
      Move s step { s with store := s.store.settle i b }
  | held (c : ConditionId) (i : CellId) (h : step = .hold c) (hg : s.guardedCell? c = some i) :
      Move s step { s with store := s.store.hold i 1 }
  | freed (c : ConditionId) (i : CellId) (h : step = .free c) (hg : s.guardedCell? c = some i)
      (hn : 0 < s.store.nesting i) : Move s step { s with store := s.store.free i 1 }
  | answered {q : Inquiry} {r : Resolution} {s' : Session} (h : step = .resolve q)
      (hi : s.inquire q = some (r, s')) : Move s step s'

variable {s}

theorem hold_of_perform {c : ConditionId} {a : Answer} {s' : Session}
    (h : s.perform (.hold c) = some (a, s')) : ∃ i, s.guardedCell? c = some i ∧ a = .nothing ∧
      s' = { s with store := s.store.hold i 1 } := by
  obtain ⟨i, hg, h⟩ := Option.bind_eq_some_iff.mp h
  cases h
  exact ⟨i, hg, rfl, rfl⟩

theorem free_of_perform {c : ConditionId} {a : Answer} {s' : Session}
    (h : s.perform (.free c) = some (a, s')) : ∃ i, s.guardedCell? c = some i ∧
      0 < s.store.nesting i ∧ a = .nothing ∧ s' = { s with store := s.store.free i 1 } := by
  obtain ⟨i, hg, h⟩ := Option.bind_eq_some_iff.mp h
  obtain ⟨_, hn, h⟩ := Option.bind_eq_some_iff.mp h
  cases h
  exact ⟨i, hg, (Option.guard_eq_some' _).mp hn, rfl, rfl⟩

/-- A guard that is taken or given back changes the cells alone. -/
theorem cells_of_guard {c : ConditionId} {step : Step} {a : Answer} {s' : Session}
    (hstep : step = .hold c ∨ step = .free c) (h : s.perform step = some (a, s')) :
    ∃ cells, s' = { s with store := { s.store with cells := cells } } := by
  rcases hstep with rfl | rfl
  · obtain ⟨_, _, _, rfl⟩ := hold_of_perform h
    exact ⟨_, rfl⟩
  · obtain ⟨_, _, _, _, rfl⟩ := free_of_perform h
    exact ⟨_, rfl⟩

theorem move_of_perform {step : Step} {a : Answer} {s' : Session}
    (h : s.perform step = some (a, s')) : s.Move step s' := by
  cases step with
  | addModule | predefine | setGlobalLevel | globals | isGlobal | lookup | isDefined | levelHolds
  | declareLevel | define | reportError | inspectLog | states =>
    cases h
    exact .idle rfl rfl rfl
  | request ns x =>
    rw [perform] at h
    split at h <;> cases h <;> exact .idle rfl rfl rfl
  | declare m ns x =>
    rw [perform] at h
    split at h <;> cases h <;> exact .idle rfl rfl rfl
  | inspectModule m =>
    obtain ⟨_, _, h⟩ := Option.bind_eq_some_iff.mp h
    cases h
    exact .idle rfl rfl rfl
  | inspectCondition c =>
    obtain ⟨_, _, h⟩ := Option.bind_eq_some_iff.mp h
    cases h
    exact .idle rfl rfl rfl
  | addDirective ns owner q place =>
    cases h
    refine .fresh _ _ fun _ _ _ ht => ?_
    cases ht
    exact ⟨place, rfl⟩
  | addStaticIf e place =>
    cases h
    exact .fresh _ _ fun _ _ _ ht => nomatch ht
  | copy c =>
    obtain ⟨c, hc, h⟩ := Option.bind_eq_some_iff.mp h
    cases h
    split
    · next ht => exact .shared (Array.mem_of_getElem? hc) ht
    · next he =>
      refine .fresh _ _ fun _ _ _ ht => ?_
      rw [he] at ht
      cases ht
  | addDecl d =>
    cases h
    exact .declared d
  | settle c b =>
    obtain ⟨entry, _, h⟩ := Option.bind_eq_some_iff.mp h
    cases h
    exact .settled c b _ rfl
  | hold c =>
    obtain ⟨i, hg, _, rfl⟩ := hold_of_perform h
    exact .held c i rfl hg
  | free c =>
    obtain ⟨i, hg, hn, _, rfl⟩ := free_of_perform h
    exact .freed c i rfl hg hn
  | resolve q =>
    obtain ⟨⟨r, s'⟩, hi, h⟩ := Option.bind_eq_some_iff.mp h
    cases h
    exact .answered rfl hi

theorem inquire_of_perform {q : Inquiry} {a : Answer} {s' : Session}
    (h : s.perform (.resolve q) = some (a, s')) :
    ∃ r, a = .resolution r ∧ s.inquire q = some (r, s') := by
  obtain ⟨⟨r, s'⟩, hi, h⟩ := Option.bind_eq_some_iff.mp h
  cases h
  exact ⟨r, rfl, hi⟩

theorem perform_resolve {q : Inquiry} {r : Resolution} {s' : Session}
    (h : s.inquire q = some (r, s')) : s.perform (.resolve q) = some (.resolution r, s') := by
  rw [perform, h]
  rfl

theorem inquiry_or_not {step : Step} {a : Answer} {s' : Session}
    (h : s.perform step = some (a, s')) :
    (∃ q r, step = .resolve q ∧ a = .resolution r ∧ s.inquire q = some (r, s')) ∨
      ∀ q, step ≠ .resolve q := by
  cases step with
  | resolve q =>
    obtain ⟨r, ha, hi⟩ := inquire_of_perform h
    exact .inl ⟨q, r, rfl, ha, hi⟩
  | _ => exact .inr fun q he => nomatch he

/-! ## Sessions that can be reached -/

/-- The sessions that steps of a kind lead to from a start. -/
inductive Reachable (kind : Step → Prop) : Session → Prop
  | start (mode : LogMode) (limits : Limits) : Reachable kind (.start mode limits)
  | step {s s' : Session} {step : Step} {a : Answer} (hr : Reachable kind s) (hk : kind step)
      (hp : s.perform step = some (a, s')) : Reachable kind s'

/-- The session after the steps of a list, if each of them has a result. -/
def performAll : List Step → Session → Option Session
  | [], s => some s
  | step :: steps, s => (s.perform step).bind fun r => performAll steps r.2

theorem Reachable.performAll {kind : Step → Prop} {steps : List Step} {s' : Session}
    (h : Reachable kind s) (hp : Session.performAll steps s = some s')
    (hk : ∀ step ∈ steps, kind step) : Reachable kind s' := by
  induction steps generalizing s with
  | nil =>
    cases hp
    exact h
  | cons step steps ih =>
    obtain ⟨⟨a, s₁⟩, hs, hp⟩ := Option.bind_eq_some_iff.mp hp
    exact ih (h.step (hk _ List.mem_cons_self) hs) hp fun _ hm => hk _ (List.mem_cons_of_mem _ hm)

theorem mem_addEntry {c d : Condition} {id : ConditionId} :
    (s.addEntry c).2.program.conditions[id]? = some d ↔
      s.program.conditions[id]? = some d ∨ id = s.program.conditions.size ∧ c = d := by
  simp only [addEntry, Array.getElem?_push]
  split_ifs with h
  · simp [h]
  · simp [h]

theorem state_addCondition (test : Test) (source : Source) (i : CellId) :
    (s.addCondition test source).2.store.state i = s.store.state i := by
  simp only [addCondition, addEntry, Store.state, Store.cell, Array.getElem?_push]
  split_ifs with h
  · simp [h]
  · rfl

theorem nesting_addCondition (test : Test) (source : Source) (i : CellId) :
    (s.addCondition test source).2.store.nesting i = s.store.nesting i := by
  simp only [addCondition, addEntry, Store.nesting, Store.cell, Array.getElem?_push]
  split_ifs with h
  · simp [h]
  · rfl

theorem size_addCondition (test : Test) (source : Source) :
    (s.addCondition test source).2.store.cells.size = s.store.cells.size + 1 := by
  simp [addCondition, addEntry]

theorem addCondition_fresh (s : Session) (test : Test) (source : Source) :
    (s.addCondition test source).2.program.conditions[s.program.conditions.size]? =
        some ⟨test, source, s.store.cells.size⟩ ∧
      (s.addCondition test source).2.store.state s.store.cells.size = .unresolved ∧
      (s.addCondition test source).2.store.nesting s.store.cells.size = 0 := by
  refine ⟨mem_addEntry.mpr (.inr ⟨rfl, rfl⟩), ?_, ?_⟩
  · rw [state_addCondition]
    simp [Store.state, Store.cell]
  · rw [nesting_addCondition]
    simp [Store.nesting, Store.cell]

theorem perform_copy {id : ConditionId} {c : Condition} {e : Expr}
    (hc : s.program.conditions[id]? = some c) (ht : c.test = .staticIf e) :
    s.perform (.copy id) =
      some (.index s.program.conditions.size, (s.addCondition c.test c.source).2) := by
  have hcopy : s.copyCondition c = s.addCondition c.test c.source := by simp [copyCondition, ht]
  have hp : s.perform (.copy id) = (s.program.conditions[id]?).bind fun c =>
      some (.index (s.copyCondition c).1, (s.copyCondition c).2) := rfl
  rw [hp, hc, Option.bind_some, hcopy]
  rfl

/-- A step that is no inquiry and settles nothing leaves the answers as they are. -/
theorem state_move {step : Step} {s' : Session} (h : s.Move step s')
    (hsettle : ∀ c b, step ≠ .settle c b) (hresolve : ∀ q, step ≠ .resolve q) (i : CellId) :
    s'.store.state i = s.store.state i := by
  cases h with
  | idle _ _ hs => rw [Store.state, Store.cell, hs, Store.state, Store.cell]
  | fresh test source => exact state_addCondition test source i
  | shared | declared => rfl
  | settled c b _ he => exact absurd he (hsettle c b)
  | held | freed => simp
  | answered he => exact absurd he (hresolve _)

/-- **Once an inquiry is answered, as many guards are held as before it.** -/
theorem nesting_inquire {q : Inquiry} {r : Resolution} {s' : Session}
    (h : s.inquire q = some (r, s')) (i : CellId) : s'.store.nesting i = s.store.nesting i := by
  obtain ⟨c, b, after, _, hres, _, rfl⟩ := inquire_eq_some h
  exact nesting_restored _ _ (resolveAt_later hres)

/-- Only guards that are taken or given back change how many are held. -/
theorem nesting_move {step : Step} {s' : Session} (h : s.Move step s')
    (hhold : ∀ c, step ≠ .hold c) (hfree : ∀ c, step ≠ .free c) (i : CellId) :
    s'.store.nesting i = s.store.nesting i := by
  cases h with
  | idle _ _ hs => rw [Store.nesting, Store.cell, hs, Store.nesting, Store.cell]
  | fresh test source => exact nesting_addCondition test source i
  | shared | declared => rfl
  | settled => rw [Store.nesting_settle]
  | held c _ he => exact absurd he (hhold c)
  | freed c _ he => exact absurd he (hfree c)
  | answered _ hi => exact nesting_inquire hi i

theorem size_le_move {step : Step} {s' : Session} (h : s.Move step s') :
    s.store.cells.size ≤ s'.store.cells.size := by
  cases h with
  | idle _ _ hs => exact Nat.le_of_eq (congrArg Array.size hs).symm
  | fresh test source =>
    rw [size_addCondition]
    exact Nat.le_succ _
  | shared | declared => exact Nat.le_refl _
  | settled c b i => exact Nat.le_of_eq (s.store.size_settle i b).symm
  | held _ i => exact Nat.le_of_eq (s.store.size_hold i 1).symm
  | freed _ i => exact Nat.le_of_eq (s.store.size_free i 1).symm
  | answered _ hi =>
    obtain ⟨c, b, after, _, hres, _, rfl⟩ := inquire_eq_some hi
    exact Nat.le_of_eq (by rw [size_freeing, (resolveAt_later hres).size, size_holding])

theorem mem_conditions_move {step : Step} {s' : Session} (h : s.Move step s') {c : Condition}
    (hc : c ∈ s'.program.conditions) {ns : Namespace} {owner : ModuleId} {q : Query}
    (ht : c.test = .directive ns owner q) : c ∈ s.program.conditions ∨
      c.cell = s.store.cells.size ∧ ∃ place, step = .addDirective ns owner q place := by
  cases h with
  | idle hconds _ _ => exact .inl (hconds ▸ hc)
  | fresh test source hadded =>
    rcases Array.mem_push.mp hc with hc | rfl
    · exact .inl hc
    · exact .inr ⟨rfl, hadded _ _ _ ht⟩
  | shared hd _ =>
    rcases Array.mem_push.mp hc with hc | rfl
    · exact .inl hc
    · exact .inl hd
  | declared | settled | held | freed => exact .inl hc
  | answered _ hi =>
    obtain ⟨_, _, _, _, _, _, rfl⟩ := inquire_eq_some hi
    exact .inl hc

theorem wellFormed_fresh (hw : s.program.WellFormed s.store.cells.size) (test : Test)
    (source : Source) : (s.addCondition test source).2.program.WellFormed
      (s.addCondition test source).2.store.cells.size := by
  rw [size_addCondition]
  have hmem : ∀ {id : ConditionId} {d : Condition},
      (s.addCondition test source).2.program.conditions[id]? = some d →
      s.program.conditions[id]? = some d ∨
        id = s.program.conditions.size ∧ d = ⟨test, source, s.store.cells.size⟩ := by
    intro id d hd
    exact (mem_addEntry.mp hd).imp_right (And.imp_right Eq.symm)
  constructor
  · intro id c hc
    rcases hmem hc with hc | ⟨_, rfl⟩
    · exact Nat.lt_succ_of_lt (hw.cell_lt hc)
    · exact Nat.lt_succ_self _
  · intro id id' c c' hc hc' h
    rcases hmem hc with hc | ⟨_, rfl⟩ <;> rcases hmem hc' with hc' | ⟨_, rfl⟩
    · exact hw.test_eq hc hc' h
    · exact absurd h (Nat.ne_of_lt (hw.cell_lt hc))
    · exact absurd h.symm (Nat.ne_of_lt (hw.cell_lt hc'))
    · rfl
  · intro id id' c c' e hc hc' ht h
    rcases hmem hc with hc | ⟨hid, rfl⟩ <;> rcases hmem hc' with hc' | ⟨hid', rfl⟩
    · exact hw.own hc hc' ht h
    · exact absurd h (Nat.ne_of_lt (hw.cell_lt hc))
    · exact absurd h.symm (Nat.ne_of_lt (hw.cell_lt hc'))
    · rw [hid, hid']

theorem wellFormed_shared (hw : s.program.WellFormed s.store.cells.size) {c : Condition}
    {ns : Namespace} {owner : ModuleId} {q : Query} (hc : c ∈ s.program.conditions)
    (ht : c.test = .directive ns owner q) :
    (s.addEntry c).2.program.WellFormed (s.addEntry c).2.store.cells.size := by
  obtain ⟨i, hi⟩ := Array.mem_iff_getElem?.mp hc
  -- what was added asks what an earlier condition on its cell asks, which is no `static if`
  have hmem : ∀ {id : ConditionId} {d : Condition},
      (s.addEntry c).2.program.conditions[id]? = some d →
      s.program.conditions[id]? = some d ∨ d = c := by
    intro id d hd
    exact (mem_addEntry.mp hd).imp_right fun h => h.2.symm
  constructor
  · intro id d hd
    rcases hmem hd with hd | rfl
    · exact hw.cell_lt hd
    · exact hw.cell_lt hi
  · intro id id' d d' hd hd' h
    rcases hmem hd with hd₀ | rfl <;> rcases hmem hd' with hd₀' | rfl
    · exact hw.test_eq hd₀ hd₀' h
    · exact hw.test_eq hd₀ hi h
    · exact hw.test_eq hi hd₀' h
    · rfl
  · intro id id' d d' e hd hd' hte h
    have hne : d ≠ c := by
      rintro rfl
      rw [ht] at hte
      cases hte
    have hd₀ := (mem_addEntry.mp hd).resolve_right fun h => hne h.2.symm
    rcases mem_addEntry.mp hd' with hd' | ⟨_, rfl⟩
    · exact hw.own hd₀ hd' hte h
    · have := hw.test_eq hd₀ hi h
      rw [hte, ht] at this
      cases this

theorem wellFormed_move {step : Step} {s' : Session} (h : s.Move step s')
    (hw : s.program.WellFormed s.store.cells.size) :
    s'.program.WellFormed s'.store.cells.size := by
  cases h with
  | idle hc _ hs =>
    rw [hs]
    exact hw.congr hc
  | fresh test source => exact wellFormed_fresh hw test source
  | shared hc ht => exact wellFormed_shared hw hc ht
  | declared d => exact hw.congr rfl
  | settled | held | freed => simpa using hw
  | answered _ hi =>
    obtain ⟨c, b, after, _, hres, _, rfl⟩ := inquire_eq_some hi
    have := (resolveAt_later hres).size
    simp only [size_freeing, this, size_holding]
    exact hw

/-- **Cells are shared by directives only.** -/
theorem Reachable.wellFormed {kind : Step → Prop} (h : Reachable kind s) :
    s.program.WellFormed s.store.cells.size := by
  induction h with
  | start mode limits => exact .empty rfl _
  | step _ _ hp ih => exact wellFormed_move (move_of_perform hp) ih

/-! ## What is seen of steps -/

/-- Who observes a session: the steps that may be taken, and what is seen of each of them. -/
structure Observer (α : Type) where
  allows : Session → Step → Bool
  sees : Session → Step → Answer → Session → List α

/-- Performs the steps of a list and collects what is seen of them. It has no result if a step has
none or may not be taken. -/
def observe {α : Type} (o : Observer α) : List Step → Session → Option (List α × Session)
  | [], s => some ([], s)
  | step :: steps, s =>
    if o.allows s step then
      (s.perform step).bind fun r =>
        (observe o steps r.2).map fun rest => (o.sees s step r.1 r.2 ++ rest.1, rest.2)
    else none

/-- **What every step preserves is preserved by a list of steps**, where it may speak of what was
seen so far. -/
theorem observe_induction {α : Type} {o : Observer α} {P : List α → Session → Prop}
    (next : ∀ seen s step a s', P seen s → o.allows s step = true →
      s.perform step = some (a, s') → P (seen ++ o.sees s step a s') s')
    {steps : List Step} {s s' : Session} {seen more : List α}
    (h : observe o steps s = some (more, s')) (hs : P seen s) : P (seen ++ more) s' := by
  induction steps generalizing s seen more with
  | nil =>
    cases h
    rwa [List.append_nil]
  | cons step steps ih =>
    rw [observe] at h
    split_ifs at h with ha
    obtain ⟨⟨a, s₁⟩, hp, h⟩ := Option.bind_eq_some_iff.mp h
    obtain ⟨⟨rest, s₂⟩, hr, h⟩ := Option.map_eq_some_iff.mp h
    cases h
    rw [← List.append_assoc]
    exact ih hr (next _ _ _ _ _ hs ha hp)

end Session

end CondComp
