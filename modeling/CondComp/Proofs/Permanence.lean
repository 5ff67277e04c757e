import CondComp.Proofs.Reachable

/-!
# Settled answers

* `conditions_move`: steps only add conditions;
* `settled_perform`, **`settled_performAll`**: an answer that is settled stays as it is, whatever
  steps follow;
* `inquire_of_settled`: an inquiry on a settled condition is answered from its cell, and the session
  stays as it is to the last field;
* **`settled_for_good`**: settled answers are permanent and free, and every question, inside of an
  evaluation or not, returns what the store holds when it ends.
-/

namespace CondComp

/-! ## Questions about settled conditions -/

section Questions

variable {p : Program} {ctx : Context} {room : Nat} {id : ConditionId} {scope : Option Scope}
  {symbol : Option SymbolId} {st st' : Store} {b : Bool}

theorem resolveAt_of_settled {c : Condition} (hc : p.conditions[id]? = some c)
    (hs : st.state c.cell ≠ .unresolved) :
    p.resolveAt ctx room id scope symbol st = some ((st.state c.cell).isIncluded, st) := by
  rw [Program.resolveAt_eq]
  exact resolveWith_settled hc hs

theorem eq_of_settled (h : p.resolveAt ctx room id scope symbol st = some (b, st'))
    (hs : p.stateIn st id ≠ .unresolved) : st' = st := by
  cases hc : p.conditions[id]? with
  | none => simp [Program.stateIn, hc] at hs
  | some c =>
    rw [stateIn_eq hc] at hs
    rw [resolveAt_of_settled hc hs] at h
    cases h
    rfl

end Questions

namespace Session

variable {s s' : Session}

/-! ## Steps -/

theorem conditions_move {step : Step} (h : s.Move step s') {id : ConditionId} {c : Condition}
    (hc : s.program.conditions[id]? = some c) : s'.program.conditions[id]? = some c := by
  cases h with
  | idle hconds _ _ => rwa [hconds]
  | fresh | shared => exact mem_addEntry.mpr (.inl hc)
  | declared | settled | held | freed => exact hc
  | answered _ hi =>
    obtain ⟨_, _, _, _, _, _, rfl⟩ := inquire_eq_some hi
    exact hc

theorem settled_move {step : Step} (h : s.Move step s') {i : CellId}
    (hi : s.store.state i ≠ .unresolved) : s'.store.state i = s.store.state i := by
  cases h with
  | idle _ _ hs => rw [Store.state, Store.cell, hs, Store.state, Store.cell]
  | fresh test source => exact state_addCondition test source i
  | shared | declared => rfl
  | settled c b j =>
    have hset : (s.store.state i).isSettled = true := decide_eq_true hi
    rw [Store.state_settle]
    split_ifs
    · rw [Inclusion.settle, if_pos hset]
    · rfl
  | held | freed => simp
  | answered _ hq =>
    obtain ⟨c, b, after, _, hres, _, rfl⟩ := inquire_eq_some hq
    have hkept := (resolveAt_later hres).settled i (by rwa [state_holding])
    rw [state_freeing, hkept, state_holding]

theorem settled_perform {step : Step} {a : Answer} (h : s.perform step = some (a, s'))
    {id : ConditionId} {c : Condition} (hc : s.program.conditions[id]? = some c) :
    s'.program.conditions[id]? = some c ∧
      (s.stateOf c ≠ .unresolved → s'.stateOf c = s.stateOf c) :=
  ⟨conditions_move (move_of_perform h) hc, settled_move (move_of_perform h)⟩

/-- **A settled answer outlives every list of steps.** -/
theorem settled_performAll {steps : List Step} (h : performAll steps s = some s')
    {id : ConditionId} {c : Condition} (hc : s.program.conditions[id]? = some c) :
    s'.program.conditions[id]? = some c ∧
      (s.stateOf c ≠ .unresolved → s'.stateOf c = s.stateOf c) := by
  induction steps generalizing s with
  | nil =>
    cases h
    exact ⟨hc, fun _ => rfl⟩
  | cons step steps ih =>
    obtain ⟨⟨a, s₁⟩, hstep, h⟩ := Option.bind_eq_some_iff.mp h
    obtain ⟨hc₁, hkept⟩ := settled_perform hstep hc
    obtain ⟨hc', hkept'⟩ := ih h hc₁
    refine ⟨hc', fun hs => ?_⟩
    have hs₁ : s₁.stateOf c = s.stateOf c := hkept hs
    exact (hkept' (by rwa [hs₁])).trans hs₁

/-! ## Inquiries on settled conditions -/

theorem freeing_holding (q : Inquiry) : s.freeing q (s.holding q) = s.store := by
  unfold freeing holding
  cases s.guardedCell? q.condition with
  | none => rfl
  | some i => exact s.store.free_hold i q.held

/-- An inquiry on a settled condition reads its cell, and no more happens. -/
theorem inquire_of_settled {q : Inquiry} {c : Condition}
    (hc : s.program.conditions[q.condition]? = some c) (hs : s.stateOf c ≠ .unresolved) :
    s.inquire q = some (⟨(s.stateOf c).isIncluded, s.stateOf c, s.store.nesting c.cell, [], 0,
      q.scope.any Scope.isMarked⟩, s) := by
  have hres : s.program.resolve (s.contextOf q) q.condition q.scope q.symbol (s.holding q) =
      some ((s.stateOf c).isIncluded, s.holding q) := by
    rw [Program.resolve, resolveAt_of_settled hc (by rwa [state_holding]), state_holding]
    rfl
  have hnew : s.store.journal.toList.drop s.store.journal.size = [] := by simp
  rw [inquire_of_resolve hc hres, freeing_holding, resolution, hnew, Int.sub_self]
  rfl

theorem included_iff {q : Inquiry} {r : Resolution} (h : s.inquire q = some (r, s'))
    {c : Condition} (hc : s.program.conditions[q.condition]? = some c) :
    r.included = true ↔ s'.stateOf c = .included := by
  obtain ⟨d, b, after, hd, hres, rfl, rfl⟩ := inquire_eq_some h
  rw [stateOf_eq, state_freeing, ← stateIn_eq hc]
  exact eq_true_iff_included hres

/-! ## Permanence -/

/-- **Settled answers are permanent and free.** No step changes one, and an inquiry about one
changes nothing. Every question returns whether its condition is included in the end. -/
theorem settled_for_good (s : Session) :
    (∀ step a s', s.perform step = some (a, s') →
      ∀ (id : ConditionId) c, s.program.conditions[id]? = some c →
        s'.program.conditions[id]? = some c ∧
        (s.stateOf c ≠ .unresolved → s'.stateOf c = s.stateOf c)) ∧
    (∀ steps s', performAll steps s = some s' →
      ∀ (id : ConditionId) c, s.program.conditions[id]? = some c →
        s'.program.conditions[id]? = some c ∧
        (s.stateOf c ≠ .unresolved → s'.stateOf c = s.stateOf c)) ∧
    (∀ (q : Inquiry) c, s.program.conditions[q.condition]? = some c → s.stateOf c ≠ .unresolved →
      ∃ r, s.perform (.resolve q) = some (.resolution r, s) ∧
        r.included = (s.stateOf c).isIncluded ∧ r.state = s.stateOf c ∧
        r.nesting = s.store.nesting c.cell ∧ r.scopes = [] ∧ r.balance = 0) ∧
    (∀ q r s', s.perform (.resolve q) = some (.resolution r, s') →
      ∀ c, s.program.conditions[q.condition]? = some c →
        (r.included = true ↔ s'.stateOf c = .included)) ∧
    ∀ ctx room id scope symbol st b st',
      s.program.resolveAt ctx room id scope symbol st = some (b, st') →
        (b = true ↔ s.program.stateIn st' id = .included) ∧
        (∀ i, st.state i ≠ .unresolved → st'.state i = st.state i) ∧
        (s.program.stateIn st id ≠ .unresolved → st' = st) := by
  refine ⟨fun step a s' h id c hc => settled_perform h hc,
    fun steps s' h id c hc => settled_performAll h hc, fun q c hc hs => ?_,
    fun q r s' h c hc => ?_, fun ctx room id scope symbol st b st' h => ?_⟩
  · have hp : s.perform (.resolve q) =
        (s.inquire q).bind fun r => some (.resolution r.1, r.2) := rfl
    rw [inquire_of_settled hc hs] at hp
    exact ⟨_, hp, rfl, rfl, rfl, rfl, rfl⟩
  · obtain ⟨r', ha, hi⟩ := inquire_of_perform h
    cases ha
    exact included_iff hi hc
  · exact ⟨eq_true_iff_included h, (resolveAt_later h).settled, eq_of_settled h⟩

/-- A `static if` that is its own guard and may be entered again once. -/
def selfGuarded : Session :=
  (performAll [.addStaticIf (.ident "x") {}, .addDecl ⟨"x", .bool true, some 0⟩]
    (.start .disabled { reentry := 1, depth := 8 })).get (by decide +kernel)

/-- The third evaluation of the condition settles it while two others are in flight, which fail in
turn; all of them answer with no. A trial made later finds the condition settled. -/
theorem settled_for_good_selfGuarded : ∃ r s' r',
    selfGuarded.perform (.resolve { condition := 0, scope := some {} }) =
      some (.resolution r, s') ∧
    s'.store.journal.count (.concluded 0 .runaway) = 1 ∧
    s'.store.journal.count (.concluded 0 .failed) = 2 ∧ r.included = false ∧
    s'.perform (.resolve { condition := 0, gagged := true, held := 3 }) =
      some (.resolution r', s') ∧ r'.included = false := by
  let q : Inquiry := { condition := 0, scope := some {} }
  obtain ⟨⟨a, s'⟩, hp⟩ := Option.isSome_iff_exists.mp
    (by decide +kernel : (selfGuarded.perform (.resolve q)).isSome = true)
  obtain ⟨r, rfl, hi⟩ := inquire_of_perform hp
  obtain ⟨hkept, _, _, hanswer, _⟩ := settled_for_good selfGuarded
  let c : Condition := ⟨.staticIf (.ident "x"), .internal, 0⟩
  have hc : selfGuarded.program.conditions[q.condition]? = some c := by decide +kernel
  have hseen : (selfGuarded.inquire q).map (fun r =>
      (r.2.store.journal.count (.concluded 0 .runaway),
        r.2.store.journal.count (.concluded 0 .failed), r.2.store.state 0)) =
      some (1, 2, .excluded) := by decide +kernel
  rw [hi] at hseen
  obtain ⟨hrunaway, hseen⟩ := Prod.mk.inj (Option.some.inj hseen)
  obtain ⟨hfailed, hstate⟩ := Prod.mk.inj hseen
  have hexcluded : s'.stateOf c = .excluded := hstate
  have hno : r.included = false := by
    rw [Bool.eq_false_iff, Ne, hanswer q r s' hp c hc, hexcluded]
    decide
  obtain ⟨r', hp', hincluded, _⟩ := (settled_for_good s').2.2.1
    { condition := 0, gagged := true, held := 3 } c (hkept _ _ _ hp 0 c hc).1
    (by rw [hexcluded]; decide)
  refine ⟨r, s', r', hp, hrunaway, hfailed, hno, hp', ?_⟩
  rw [hincluded, hexcluded]
  rfl

end Session

end CondComp
