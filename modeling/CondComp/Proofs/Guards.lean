import CondComp.Nesting
import CondComp.Proofs.Permanence

/-!
# Guards

The guards on a condition are numbered and may be given back in any order, but an evaluation reads
only how many are held.

* `NestingGuards.Valid`: no guard is held twice; **`release_once`**: a guard that was given back is
  never held again;
* `GuardedCondition.Operation`, `GuardedCondition.steps`: what can be done to a condition and its
  guards, and the steps of a session that do it;
* `Session.Shows`: a condition of a session counts the guards that are held on it;
  **`shows_performAll`**: it does so whatever is done to it; **`Shows.inquire`**: and whatever is
  asked;
* **`nesting_performAll`**: the guards on a condition are those that were taken and not given back.
-/

namespace CondComp

/-! ## Numbered guards -/

namespace NestingGuards

variable {g g' : NestingGuards} {id : Nat}

/-- No guard is held twice, and only guards that were taken are held. -/
structure Valid (g : NestingGuards) : Prop where
  nodup : g.held.Nodup
  lt_issued : ∀ id ∈ g.held, id < g.issued

theorem valid_empty : Valid {} := ⟨List.nodup_nil, by simp⟩

theorem Valid.acquire (h : g.Valid) : g.acquire.2.Valid where
  nodup := List.nodup_cons.mpr ⟨fun hm => Nat.lt_irrefl _ (h.lt_issued _ hm), h.nodup⟩
  lt_issued id hm := by
    rcases List.mem_cons.mp hm with rfl | hm
    · exact Nat.lt_succ_self _
    · exact Nat.lt_succ_of_lt (h.lt_issued id hm)

theorem release?_eq_some : g.release? id = some g' ↔
    id ∈ g.held ∧ g' = { g with held := g.held.erase id } := by
  rw [release?]
  split_ifs with h
  · simp [h, eq_comm]
  · simp [h]

theorem Valid.release (h : g.Valid) (hr : g.release? id = some g') : g'.Valid := by
  obtain ⟨-, rfl⟩ := release?_eq_some.mp hr
  exact ⟨h.nodup.erase id, fun j hj => h.lt_issued j (List.mem_of_mem_erase hj)⟩

theorem nesting_release (hr : g.release? id = some g') : g'.nesting + 1 = g.nesting := by
  obtain ⟨hm, rfl⟩ := release?_eq_some.mp hr
  exact List.length_erase_add_one hm

end NestingGuards

/-! ## Operations on a condition -/

namespace GuardedCondition

variable {g : GuardedCondition}

/-- What can be done to a condition and its guards. -/
inductive Operation
  | acquire
  | release (id : Nat)
  | settle (b : Bool)

/-- A condition after an operation. -/
def apply (g : GuardedCondition) : Operation → GuardedCondition
  | .acquire => g.acquire.2
  | .release id => (g.release id).2
  | .settle b => g.settle b

/-- A condition after the operations of a list. -/
def applyAll (g : GuardedCondition) (ops : List Operation) : GuardedCondition := ops.foldl apply g

theorem release_of_mem {id : Nat} (h : id ∈ g.guards.held) : g.release id =
    (true, { g with guards := { g.guards with held := g.guards.held.erase id } }) := by
  rw [release, NestingGuards.release?, if_pos h]

theorem release_of_not_mem {id : Nat} (h : id ∉ g.guards.held) : g.release id = (false, g) := by
  rw [release, NestingGuards.release?, if_neg h]

theorem fst_release {id : Nat} : (g.release id).1 = true ↔ id ∈ g.guards.held := by
  by_cases h : id ∈ g.guards.held
  · simp [release_of_mem h, h]
  · simp [release_of_not_mem h, h]

theorem valid_apply (h : g.guards.Valid) (op : Operation) : (g.apply op).guards.Valid := by
  cases op with
  | acquire => exact h.acquire
  | settle => exact h
  | release id =>
    by_cases hm : id ∈ g.guards.held
    · rw [apply, release_of_mem hm]
      exact h.release (NestingGuards.release?_eq_some.mpr ⟨hm, rfl⟩)
    · rwa [apply, release_of_not_mem hm]

theorem valid_applyAll (h : g.guards.Valid) (ops : List Operation) :
    (g.applyAll ops).guards.Valid := by
  induction ops generalizing g with
  | nil => exact h
  | cons op ops ih => exact ih (valid_apply h op)

theorem gone_apply {id : Nat} (hlt : id < g.guards.issued) (hgone : id ∉ g.guards.held)
    (op : Operation) : id < (g.apply op).guards.issued ∧ id ∉ (g.apply op).guards.held := by
  cases op with
  | acquire =>
    refine ⟨Nat.lt_succ_of_lt hlt, fun hm => ?_⟩
    rcases List.mem_cons.mp hm with rfl | hm
    · exact Nat.lt_irrefl _ hlt
    · exact hgone hm
  | settle => exact ⟨hlt, hgone⟩
  | release j =>
    by_cases hm : j ∈ g.guards.held
    · rw [apply, release_of_mem hm]
      exact ⟨hlt, fun h => hgone (List.mem_of_mem_erase h)⟩
    · rw [apply, release_of_not_mem hm]
      exact ⟨hlt, hgone⟩

theorem gone_applyAll {id : Nat} (hlt : id < g.guards.issued) (hgone : id ∉ g.guards.held)
    (ops : List Operation) : id ∉ (g.applyAll ops).guards.held := by
  induction ops generalizing g with
  | nil => exact hgone
  | cons op ops ih =>
    obtain ⟨hlt', hgone'⟩ := gone_apply hlt hgone op
    exact ih hlt' hgone'

/-- **A guard is given back once.** Whatever is done after that, it is not held again. -/
theorem release_once (text : String) (ops later : List Operation) {id : Nat}
    (hr : ((applyAll { text := text } ops).release id).1 = true) :
    ((((applyAll { text := text } ops).release id).2.applyAll later).release id).1 = false := by
  have hv : (applyAll { text := text } ops).guards.Valid :=
    valid_applyAll NestingGuards.valid_empty ops
  generalize applyAll { text := text } ops = g at hr hv
  have hm := fst_release.mp hr
  rw [Bool.eq_false_iff, Ne, fst_release, release_of_mem hm]
  refine gone_applyAll ?_ ?_ later
  · exact hv.lt_issued id hm
  · exact hv.nodup.not_mem_erase

/-- The step that does an operation to a condition of a session. A guard that is not held cannot be
given back. -/
def step? (g : GuardedCondition) (id : ConditionId) : Operation → Option Step
  | .acquire => some (.hold id)
  | .release j => if j ∈ g.guards.held then some (.free id) else none
  | .settle b => some (.settle id b)

/-- The steps that do the operations of a list. -/
def steps (id : ConditionId) : List Operation → GuardedCondition → List Step
  | [], _ => []
  | op :: ops, g => (g.step? id op).toList ++ steps id ops (g.apply op)

end GuardedCondition

/-! ## Conditions of a session -/

namespace Session

variable {s s' : Session} {id : ConditionId} {i : CellId} {g : GuardedCondition}

/-- A `static if` of a session has the answer of a condition, and counts the guards on it. -/
structure Shows (s : Session) (id : ConditionId) (i : CellId) (g : GuardedCondition) : Prop where
  condition : ∃ e source, s.program.conditions[id]? = some ⟨.staticIf e, source, i⟩ ∧
    e.text = g.text
  cell_lt : i < s.store.cells.size
  state : s.store.state i = g.state
  nesting : s.store.nesting i = g.guards.nesting

theorem Shows.guarded (h : s.Shows id i g) : s.guardedCell? id = some i := by
  obtain ⟨e, source, hc, -⟩ := h.condition
  simp [guardedCell?, hc]

theorem shows_addCondition (s : Session) (e : Expr) (source : Source) :
    (s.addCondition (.staticIf e) source).2.Shows s.program.conditions.size s.store.cells.size
      { text := e.text } := by
  obtain ⟨hc, hstate, hnesting⟩ := s.addCondition_fresh (.staticIf e) source
  refine ⟨⟨e, source, hc, rfl⟩, ?_, hstate, hnesting⟩
  rw [size_addCondition]
  exact Nat.lt_succ_self _

/-- A copy is shown as a copy, and what it was made from as before. -/
theorem Shows.copy (h : s.Shows id i g) : ∃ n s', s.perform (.copy id) = some (.index n, s') ∧
    s'.Shows n s.store.cells.size g.copy ∧ s'.Shows id i g := by
  obtain ⟨e, source, hc, htext⟩ := h.condition
  have hp := perform_copy hc rfl
  have hm := move_of_perform hp
  refine ⟨_, _, hp, ?_, ⟨e, source, conditions_move hm hc, htext⟩, ?_, ?_, ?_⟩
  · rw [GuardedCondition.copy, ← htext]
    exact s.shows_addCondition e source
  · exact Nat.lt_of_lt_of_le h.cell_lt (size_le_move hm)
  · rw [state_addCondition, h.state]
  · rw [nesting_addCondition, h.nesting]

/-- What is shown after a change of the cell of a condition. -/
theorem Shows.change (h : s.Shows id i g) {g' : GuardedCondition} {st : Store}
    (hsize : st.cells.size = s.store.cells.size) (htext : g'.text = g.text)
    (hstate : st.state i = g'.state) (hnesting : st.nesting i = g'.guards.nesting) :
    { s with store := st }.Shows id i g' where
  condition := by
    obtain ⟨e, source, hc, he⟩ := h.condition
    exact ⟨e, source, hc, he.trans htext.symm⟩
  cell_lt := hsize ▸ h.cell_lt
  state := hstate
  nesting := hnesting

theorem Shows.acquire (h : s.Shows id i g) : ∃ s', s.perform (.hold id) = some (.nothing, s') ∧
    s'.Shows id i g.acquire.2 := by
  refine ⟨{ s with store := s.store.hold i 1 }, ?_, h.change (s.store.size_hold i 1) rfl ?_ ?_⟩
  · rw [perform, h.guarded]
    rfl
  · rw [Store.state_hold, h.state]
    rfl
  · rw [Store.nesting_hold, if_pos ⟨rfl, h.cell_lt⟩, h.nesting]
    rfl

theorem Shows.release (h : s.Shows id i g) {j : Nat} (hj : j ∈ g.guards.held) :
    ∃ s', s.perform (.free id) = some (.nothing, s') ∧ s'.Shows id i (g.release j).2 := by
  have hcount := NestingGuards.nesting_release (NestingGuards.release?_eq_some.mpr ⟨hj, rfl⟩)
  have hpos : 0 < s.store.nesting i := by
    rw [h.nesting, ← hcount]
    exact Nat.succ_pos _
  rw [GuardedCondition.release_of_mem hj]
  refine ⟨{ s with store := s.store.free i 1 }, ?_, h.change (s.store.size_free i 1) rfl ?_ ?_⟩
  · rw [perform, h.guarded]
    simp [hpos]
  · rw [Store.state_free, h.state]
  · rw [Store.nesting_free, if_pos ⟨rfl, h.cell_lt⟩, h.nesting, ← hcount]
    rfl

/-- **A guard can be given back if and only if one is held.** -/
theorem Shows.free_isSome (h : s.Shows id i g) :
    (s.perform (.free id)).isSome ↔ ∃ j, (g.release j).1 = true := by
  constructor
  · intro hsome
    obtain ⟨⟨a, s'⟩, hp⟩ := Option.isSome_iff_exists.mp hsome
    obtain ⟨i', hg, hpos, -, -⟩ := free_of_perform hp
    obtain rfl : i = i' := Option.some.inj (h.guarded.symm.trans hg)
    rw [h.nesting] at hpos
    obtain ⟨j, hj⟩ := List.exists_mem_of_length_pos hpos
    exact ⟨j, GuardedCondition.fst_release.mpr hj⟩
  · rintro ⟨j, hj⟩
    obtain ⟨s', hp, -⟩ := h.release (GuardedCondition.fst_release.mp hj)
    rw [hp]
    rfl

theorem Shows.settle (h : s.Shows id i g) (b : Bool) :
    ∃ a s', s.perform (.settle id b) = some (a, s') ∧ s'.Shows id i (g.settle b) := by
  obtain ⟨e, source, hc, htext⟩ := h.condition
  let after : Session := { s with store := s.store.settle i b }
  have hp : s.perform (.settle id b) = some (.truth (after.store.state i).isIncluded, after) := by
    rw [perform, hc]
    rfl
  refine ⟨_, after, hp, h.change (s.store.size_settle i b) rfl ?_ ?_⟩
  · rw [Store.state_settle, if_pos ⟨rfl, h.cell_lt⟩, h.state]
    rfl
  · rw [Store.nesting_settle]
    exact h.nesting

/-- An operation is a step after which the condition is shown, or it is no step and does nothing. -/
theorem Shows.apply (h : s.Shows id i g) (op : GuardedCondition.Operation) :
    (∃ step a s', g.step? id op = some step ∧ s.perform step = some (a, s') ∧
      s'.Shows id i (g.apply op)) ∨ g.step? id op = none ∧ g.apply op = g := by
  cases op with
  | acquire =>
    obtain ⟨s', hp, h'⟩ := h.acquire
    exact .inl ⟨_, _, s', rfl, hp, h'⟩
  | settle b =>
    obtain ⟨a, s', hp, h'⟩ := h.settle b
    exact .inl ⟨_, a, s', rfl, hp, h'⟩
  | release j =>
    by_cases hj : j ∈ g.guards.held
    · obtain ⟨s', hp, h'⟩ := h.release hj
      exact .inl ⟨_, _, s', if_pos hj, hp, h'⟩
    · refine .inr ⟨if_neg hj, ?_⟩
      rw [GuardedCondition.apply, GuardedCondition.release_of_not_mem hj]

/-- **Whatever is done to a condition**, its session shows it. -/
theorem shows_performAll (h : s.Shows id i g) (ops : List GuardedCondition.Operation) :
    ∃ s', performAll (g.steps id ops) s = some s' ∧ s'.Shows id i (g.applyAll ops) := by
  induction ops generalizing s g with
  | nil => exact ⟨s, rfl, h⟩
  | cons op ops ih =>
    rw [GuardedCondition.steps, GuardedCondition.applyAll, List.foldl_cons]
    rcases h.apply op with ⟨step, a, s₁, hstep, hp, h₁⟩ | ⟨hnone, hsame⟩
    · obtain ⟨s', hrun, h'⟩ := ih h₁
      refine ⟨s', ?_, h'⟩
      rw [hstep, Option.toList_some, List.singleton_append, performAll, hp]
      exact hrun
    · rw [hnone, hsame]
      exact ih h

/-- **Whatever is asked**, the guards stay as they are. -/
theorem Shows.inquire (h : s.Shows id i g) {q : Inquiry} {r : Resolution}
    (hi : s.inquire q = some (r, s')) : s'.Shows id i { g with state := s'.store.state i } where
  condition := by
    obtain ⟨e, source, hc, htext⟩ := h.condition
    exact ⟨e, source, conditions_move (move_of_perform (perform_resolve hi)) hc, htext⟩
  cell_lt := Nat.lt_of_lt_of_le h.cell_lt (size_le_move (move_of_perform (perform_resolve hi)))
  state := rfl
  nesting := by rw [nesting_inquire hi, h.nesting]

/-! ## Guards over a session -/

theorem guardedCell?_eq_some : s.guardedCell? id = some i ↔
    ∃ c e, s.program.conditions[id]? = some c ∧ c.test = .staticIf e ∧ c.cell = i := by
  cases hc : s.program.conditions[id]? with
  | none => simp [guardedCell?, hc]
  | some c => cases ht : c.test <;> simp [guardedCell?, hc, ht]

theorem guardedCell?_inj (hw : s.program.WellFormed s.store.cells.size) {id' : ConditionId}
    (h : s.guardedCell? id = some i) (h' : s.guardedCell? id' = some i) : id' = id := by
  obtain ⟨c, e, hc, ht, rfl⟩ := guardedCell?_eq_some.mp h
  obtain ⟨c', e', hc', ht', hcell⟩ := guardedCell?_eq_some.mp h'
  exact hw.own hc' hc ht' hcell

theorem guardedCell?_move {step : Step} (h : s.Move step s') (hg : s.guardedCell? id = some i) :
    s'.guardedCell? id = some i := by
  obtain ⟨c, e, hc, ht, rfl⟩ := guardedCell?_eq_some.mp hg
  exact guardedCell?_eq_some.mpr ⟨c, e, conditions_move h hc, ht, rfl⟩

/-- What a step does to the guards on a `static if`. -/
theorem nesting_perform (hw : s.program.WellFormed s.store.cells.size)
    (hg : s.guardedCell? id = some i) {step : Step} {a : Answer}
    (hp : s.perform step = some (a, s')) :
    s'.store.nesting i + [step].count (.free id) =
      s.store.nesting i + [step].count (.hold id) := by
  have hlt : i < s.store.cells.size := by
    obtain ⟨c, e, hc, -, rfl⟩ := guardedCell?_eq_some.mp hg
    exact hw.cell_lt hc
  cases step with
  | hold id' =>
    obtain ⟨j, hg', -, rfl⟩ := hold_of_perform hp
    by_cases hid : id' = id
    · subst hid
      obtain rfl : i = j := Option.some.inj (hg.symm.trans hg')
      simp [Store.nesting_hold, hlt]
    · have hne : j ≠ i := fun h => hid (guardedCell?_inj hw hg (h ▸ hg'))
      simp [Store.nesting_hold, hid, hne]
  | free id' =>
    obtain ⟨j, hg', hpos, -, rfl⟩ := free_of_perform hp
    by_cases hid : id' = id
    · subst hid
      obtain rfl : i = j := Option.some.inj (hg.symm.trans hg')
      simp [Store.nesting_free, hlt, Nat.sub_add_cancel hpos]
    · have hne : j ≠ i := fun h => hid (guardedCell?_inj hw hg (h ▸ hg'))
      simp [Store.nesting_free, hid, hne]
  | _ => simp [nesting_move (move_of_perform hp)]

/-- **The guards on a `static if`** are those that were taken and not given back, whatever else was
done. -/
theorem nesting_performAll (hw : s.program.WellFormed s.store.cells.size)
    (hg : s.guardedCell? id = some i) {steps : List Step} (hp : performAll steps s = some s') :
    s'.store.nesting i + steps.count (.free id) =
      s.store.nesting i + steps.count (.hold id) := by
  induction steps generalizing s with
  | nil =>
    cases hp
    rfl
  | cons step steps ih =>
    obtain ⟨⟨a, s₁⟩, hstep, hp⟩ := Option.bind_eq_some_iff.mp hp
    have hfirst := nesting_perform hw hg hstep
    have hm := move_of_perform hstep
    have hrest := ih (wellFormed_move hm hw) (guardedCell?_move hm hg) hp
    rw [← List.singleton_append, List.count_append, List.count_append]
    omega

end Session

end CondComp
