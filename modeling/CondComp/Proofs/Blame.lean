import CondComp.Proofs.Permanence

/-!
# Blame

A diagnostic that stands at a condition blames the condition. On a cycle of guards one condition is
evaluated many times at once, and all these evaluations fail; still it is blamed only once, because
an evaluation blames its condition only while the condition is open, and excludes it then. What
fails because a guard does not hold blames nobody.

* `Sink.blames`: how many diagnostics stand at a position;
* `Program.Sourced`: `static if`s stand in different places;
* `Fair`: no `static if` is blamed twice, and one that is blamed is excluded; **`resolveAt_fair`**:
  questions keep it so;
* **`blamed_at_most_once`**: it is so in every session.
-/

namespace CondComp

/-! ## Diagnostics at a position -/

/-- How many of the diagnostics taken stand at a position. -/
def Sink.blames (s : Sink) (x : Source) : Nat := s.taken.countP fun d => d.source = some x

theorem Store.blames_report (st : Store) (ctx : Context) (source : Source) (message : String)
    (x : Source) : (st.report ctx source message).sink.blames x =
      st.sink.blames x + if ctx.gagged = false ∧ source = x then 1 else 0 := by
  rw [report]
  cases ctx.gagged with
  | true => rfl
  | false => simp [Sink.blames, Sink.push, Diagnostic.errorAt, Array.countP_push]

/-- `static if`s stand in different places, and none of them in the internal one. -/
structure Program.Sourced (p : Program) : Prop where
  ne_internal {id : ConditionId} {c : Condition} {e : Expr} (hc : p.conditions[id]? = some c)
    (ht : c.test = .staticIf e) : c.source ≠ .internal
  distinct {id id' : ConditionId} {c c' : Condition} {e e' : Expr}
    (hc : p.conditions[id]? = some c) (hc' : p.conditions[id']? = some c')
    (ht : c.test = .staticIf e) (ht' : c'.test = .staticIf e') (h : c.source = c'.source) :
    id = id'

theorem Program.Sourced.of_nodup {p : Program}
    (hdup : (p.conditions.toList.map Condition.source).Nodup)
    (hint : ∀ c ∈ p.conditions, c.source ≠ .internal) : p.Sourced where
  ne_internal hc _ := hint _ (Array.mem_of_getElem? hc)
  distinct {id id' c c' _ _} hc hc' _ _ h := by
    have hs : (p.conditions.toList.map Condition.source)[id]? = some c.source := by simp [hc]
    have hs' : (p.conditions.toList.map Condition.source)[id']? = some c.source := by simp [hc', h]
    obtain ⟨hlt, _⟩ := List.getElem?_eq_some_iff.mp hs
    exact (List.getElem?_inj hlt hdup).mp (hs.trans hs'.symm)

theorem Program.Sourced.anti {p p' : Program} (h : p'.Sourced)
    (hp : ∀ (id : ConditionId) c, p.conditions[id]? = some c → p'.conditions[id]? = some c) :
    p.Sourced where
  ne_internal hc ht := h.ne_internal (hp _ _ hc) ht
  distinct hc hc' ht ht' heq := h.distinct (hp _ _ hc) (hp _ _ hc') ht ht' heq

/-! ## Fairness -/

/-- Whatever is blamed is a `static if` or nobody in particular. No `static if` is blamed twice,
and one that is blamed is excluded. -/
structure Fair (p : Program) (st : Store) : Prop where
  known : ∀ x, st.sink.blames x ≠ 0 → x = .internal ∨
    ∃ (id : ConditionId) (c : Condition) (e : Expr),
      p.conditions[id]? = some c ∧ c.test = .staticIf e ∧ c.source = x
  once : ∀ {id : ConditionId} {c : Condition} {e : Expr}, p.conditions[id]? = some c →
    c.test = .staticIf e →
      st.sink.blames c.source = 0 ∨ st.sink.blames c.source = 1 ∧ st.state c.cell = .excluded

section Questions

variable {p : Program} {ctx : Context} {st : Store} {id : ConditionId} {c : Condition} {e : Expr}

namespace Fair

theorem blames_eq_zero (h : Fair p st) (hc : p.conditions[id]? = some c)
    (ht : c.test = .staticIf e) (ho : st.state c.cell = .unresolved) :
    st.sink.blames c.source = 0 := by
  refine (h.once hc ht).resolve_right fun hx => ?_
  rw [ho] at hx
  exact Inclusion.noConfusion hx.2

/-- Without a new diagnostic everything stays fair, also when conditions are added: what is blamed
already stands elsewhere. -/
theorem mono {p' : Program} {st' : Store} (h : Fair p st) (hsrc : p'.Sourced)
    (hp : ∀ (id : ConditionId) c, p.conditions[id]? = some c → p'.conditions[id]? = some c)
    (hsink : ∀ x, st'.sink.blames x = st.sink.blames x)
    (hs : ∀ i, st.state i ≠ .unresolved → st'.state i = st.state i) : Fair p' st' where
  known x hx := by
    rw [hsink] at hx
    refine (h.known x hx).imp_right ?_
    rintro ⟨id, c, e, hc, ht, hcx⟩
    exact ⟨id, c, e, hp id c hc, ht, hcx⟩
  once {id c e} hc ht := by
    rw [hsink]
    by_cases hx : st.sink.blames c.source = 0
    · exact .inl hx
    · -- a place that is blamed belongs to a `static if` that was there before
      obtain ⟨id', c', e', hc', ht', hsame⟩ := (h.known _ hx).resolve_left (hsrc.ne_internal hc ht)
      obtain rfl := hsrc.distinct (hp id' c' hc') hc ht' ht hsame
      obtain rfl := Option.some.inj ((hp id' c' hc').symm.trans hc)
      obtain ⟨hone, hex⟩ := (h.once hc' ht').resolve_left hx
      exact .inr ⟨hone, by rw [hs _ (by rw [hex]; decide), hex]⟩

theorem report_close {source : Source} {v : Verdict} (h : Fair p st)
    (hw : p.WellFormed st.cells.size) (hsrc : p.Sourced) (hc : p.conditions[id]? = some c)
    (ht : c.test = .staticIf e) (message : String)
    (hblame : source = .internal ∨
      source = c.source ∧ st.state c.cell = .unresolved ∧ v.answer? false = some false) :
    Fair p ((st.report ctx source message).close c.cell ctx v) := by
  have hl : Later st ((st.report ctx source message).close c.cell ctx v) :=
    (Later.report st ctx source message).close _ _ _
  have hblames : ∀ x, ((st.report ctx source message).close c.cell ctx v).sink.blames x =
      st.sink.blames x + if ctx.gagged = false ∧ source = x then 1 else 0 := by
    intro x
    rw [Store.sink_close, Store.blames_report]
  constructor
  · intro x hx
    by_cases hnew : source = x
    · subst hnew
      exact hblame.imp_right fun hown => ⟨id, c, e, hc, ht, hown.1.symm⟩
    · rw [hblames, if_neg fun hn => hnew hn.2] at hx
      exact h.known x hx
  · intro id' c' e' hc' ht'
    rw [hblames]
    by_cases hnew : ctx.gagged = false ∧ source = c'.source
    · -- the condition that is blamed now was open, so nobody had blamed it
      obtain ⟨hvisible, rfl⟩ := hnew
      obtain ⟨hsame, ho, hv⟩ := hblame.resolve_left (hsrc.ne_internal hc' ht')
      obtain rfl := hsrc.distinct hc' hc ht' ht hsame
      obtain rfl := Option.some.inj (hc'.symm.trans hc)
      right
      refine ⟨by rw [h.blames_eq_zero hc ht ho, if_pos ⟨hvisible, rfl⟩], ?_⟩
      rw [Store.state_close, hvisible, hv, if_pos ⟨rfl, hw.cell_lt hc⟩, Store.state_report, ho]
      rfl
    · rw [if_neg hnew]
      refine (h.once hc' ht').imp_right fun ⟨hone, hex⟩ => ⟨hone, ?_⟩
      rw [hl.settled _ (by rw [hex]; decide), hex]

end Fair

/-- What an evaluation reports after its analysis blames nobody, or its condition for what all
guards let through. -/
theorem blame_of_ending {r : Option String} {k : Ending} (hk : p.ending c e r = some k) :
    k.fault = none ∨ (∃ f, k.fault = some (.internal, f)) ∨
      r = none ∧ k.verdict = .failed ∧ ∃ f, k.fault = some (c.source, f) := by
  cases ends_of_ending hk with
  | broken | value => exact .inl rfl
  | refused | faulty | notInterpretable => exact .inr (.inl ⟨_, rfl⟩)
  | notBoolean | notConstant => exact .inr (.inr ⟨rfl, rfl, _, rfl⟩)

theorem Fair.finish {st₂ : Store} {k : Ending} {r : Option String} {depth : Nat}
    (h : Fair p st₂) (hw : p.WellFormed st₂.cells.size) (hsrc : p.Sourced)
    (hc : p.conditions[id]? = some c) (ht : c.test = .staticIf e) (hk : p.ending c e r = some k)
    (ho : r = none → st₂.state c.cell = .unresolved) :
    Fair p (st₂.finish c.cell ctx depth k.fault k.verdict) := by
  have hleft : Fair p (st₂.leave c.cell depth) :=
    h.mono hsrc (fun _ _ hc => hc) (fun _ => rfl) fun i _ => st₂.state_leave c.cell i depth
  have hw' : p.WellFormed (st₂.leave c.cell depth).cells.size := by simpa using hw
  rw [Store.finish]
  rcases blame_of_ending hk with hf | ⟨f, hf⟩ | ⟨hr, hv, f, hf⟩
  · rw [hf, Store.reportAny]
    refine hleft.mono hsrc (fun _ _ hc => hc) (fun _ => by rw [Store.sink_close]) ?_
    exact ((Later.refl _).close c.cell ctx k.verdict).settled
  · rw [hf, Store.reportAny]
    exact hleft.report_close hw' hsrc hc ht _ (.inl rfl)
  · rw [hf, Store.reportAny]
    refine hleft.report_close hw' hsrc hc ht _ (.inr ⟨rfl, ?_, by rw [hv]; rfl⟩)
    rw [Store.state_leave, ho hr]

/-- **Questions blame fairly.** -/
theorem resolveAt_fair {room : Nat} {scope : Option Scope} {symbol : Option SymbolId}
    {st' : Store} {b : Bool} (hsrc : p.Sourced) (hw : p.WellFormed st.cells.size)
    (h : p.resolveAt ctx room id scope symbol st = some (b, st')) (hf : Fair p st) :
    Fair p st' := by
  refine resolveAt_induction (R := fun _ _ _ st _ st' => p.WellFormed st.cells.size → Fair p st →
    Fair p st') ?_ ?_ ?_ ?_ ?_ h hw hf
  · intro _ _ _ _ _ _ hf
    exact hf
  · intro _ _ _ _ _ _ _ _ hf
    exact hf
  · intro _ _ scope st c ns owner q st' _ ho _ hst _ hf
    refine hf.mono hsrc (fun _ _ hc => hc) (fun x => by simp [hst]) fun i hi => ?_
    rw [hst, Store.state_settle, if_neg]
    · simp
    · rintro ⟨rfl, _⟩
      exact hi ho
  · intro _ _ _ st c e v f st' hc ho ht hb hst hw hf
    have hv : v.answer? false = some false := by
      rcases bar?_eq_some hb with ⟨rfl, _⟩ | ⟨rfl, _⟩ | ⟨rfl, _⟩ <;> rfl
    rw [hst]
    exact hf.report_close hw hsrc hc ht _ (.inr ⟨rfl, ho, hv⟩)
  · intro room id s symbol st c e r st₂ k st' hc ho ht _ ha hk hst hw hf
    have hl : Later (st.enter c.cell (s.child symbol) (ctx.limits.depth - room)) st₂ :=
      ha.later_of_answers
    have hentered : Fair p (st.enter c.cell (s.child symbol) (ctx.limits.depth - room)) :=
      hf.mono hsrc (fun _ _ hc => hc) (fun _ => rfl) fun i _ => st.state_enter c.cell i _ _
    have hasked : Fair p st₂ :=
      (ha.imp fun _ _ _ _ hq => ⟨resolveAt_later hq.1, hq.2⟩).preserves (by simpa using hw) hentered
    rw [hst]
    refine hasked.finish (by rwa [hl.size, Store.size_enter]) hsrc hc ht hk ?_
    rintro rfl
    rw [ha.unchanged hw hc ht (ne_included_of_open hc ho), ho]

end Questions

/-! ## Sessions -/

namespace Session

variable {s s' : Session}

theorem taken_perform {step : Step} {a : Answer} (h : s.perform step = some (a, s'))
    (hresolve : ∀ q, step ≠ .resolve q)
    (hreport : ∀ message place, step ≠ .reportError message place false) :
    s'.store.sink.taken = s.store.sink.taken := by
  cases step with
  | resolve q => exact absurd rfl (hresolve q)
  | reportError message place gagged =>
    cases gagged with
    | true =>
      cases h
      rfl
    | false => exact absurd rfl (hreport message place)
  | request | declare =>
    rw [perform] at h
    split at h <;> cases h <;> rfl
  | copy c =>
    obtain ⟨c, _, h⟩ := Option.bind_eq_some_iff.mp h
    cases h
    split <;> rfl
  | inspectModule | inspectCondition | settle =>
    obtain ⟨_, _, h⟩ := Option.bind_eq_some_iff.mp h
    cases h
    rfl
  | hold c | free c =>
    obtain ⟨cells, rfl⟩ := cells_of_guard (c := c) (by simp) h
    rfl
  | _ =>
    cases h
    rfl

theorem fair_perform {step : Step} {a : Answer} (h : s.perform step = some (a, s'))
    (hreport : ∀ message place, step ≠ .reportError message place false)
    (hsrc : s'.program.Sourced) (hw : s.program.WellFormed s.store.cells.size)
    (hf : Fair s.program s.store) : Fair s'.program s'.store := by
  have hm := move_of_perform h
  have hp : ∀ (id : ConditionId) c, s.program.conditions[id]? = some c →
      s'.program.conditions[id]? = some c := fun _ _ => conditions_move hm
  have hsettled : ∀ i, s.store.state i ≠ .unresolved → s'.store.state i = s.store.state i :=
    fun _ => settled_move hm
  rcases inquiry_or_not h with ⟨q, r, rfl, rfl, hi⟩ | hresolve
  · obtain ⟨c, b, after, _, hres, _, rfl⟩ := inquire_eq_some hi
    have hheld : Fair s.program (s.holding q) :=
      hf.mono hsrc (fun _ _ hc => hc) (fun _ => by rw [sink_holding]) fun i _ => s.state_holding i
    have hafter : Fair s.program after :=
      resolveAt_fair hsrc (by rwa [size_holding]) hres hheld
    exact hafter.mono hsrc (fun _ _ hc => hc) (fun _ => by rw [sink_freeing])
      fun i _ => s.state_freeing i
  · refine hf.mono hsrc hp (fun x => ?_) hsettled
    rw [Sink.blames, taken_perform h hresolve hreport, Sink.blames]

theorem Reachable.fair
    (hs : s.Reachable fun step => ∀ message place, step ≠ .reportError message place false)
    (hsrc : s.program.Sourced) : Fair s.program s.store := by
  induction hs with
  | start mode limits => exact ⟨fun _ hx => absurd rfl hx, fun _ _ => .inl rfl⟩
  | step hr hk hp ih =>
    have hsrc₀ := hsrc.anti fun _ _ => conditions_move (move_of_perform hp)
    exact fair_perform hp hk hsrc hr.wellFormed (ih hsrc₀)

/-- **No condition is blamed twice.** At most one diagnostic stands at a `static if`, and once one
does, the condition is excluded, whatever steps follow. -/
theorem blamed_at_most_once
    (hs : s.Reachable fun step => ∀ message place, step ≠ .reportError message place false)
    (hsrc : s.program.Sourced) {id : ConditionId} {c : Condition} {e : Expr}
    (hc : s.program.conditions[id]? = some c) (ht : c.test = .staticIf e) :
    s.store.sink.taken.countP (fun d => d.source = some c.source) ≤ 1 ∧
      ((∃ d ∈ s.store.sink.taken, d.source = some c.source) →
        ∀ steps s', performAll steps s = some s' → s'.stateOf c = .excluded) := by
  have hf := hs.fair hsrc
  constructor
  · rcases hf.once hc ht with hnone | ⟨hone, _⟩
    · exact le_of_eq_of_le hnone (Nat.zero_le 1)
    · exact Nat.le_of_eq hone
  · rintro ⟨d, hd, hsource⟩ steps s' hp
    have hblamed : s.store.sink.blames c.source ≠ 0 :=
      Nat.pos_iff_ne_zero.mp (Array.countP_pos_iff.mpr ⟨d, hd, by simpa using hsource⟩)
    have hex : s.stateOf c = .excluded := ((hf.once hc ht).resolve_left hblamed).2
    rw [(settled_performAll hp hc).2 (by rw [hex]; decide), hex]

/-- Two `static if`s in a file that guard each other's names, and a third one that has no truth
value. A trial of the third comes first, then all of them are asked about. -/
def feudSteps : List Step :=
  [.addModule "m" (.ofText "m.d"), .addStaticIf (.ident "x") ⟨some 0, ⟨1, 1⟩⟩,
    .addStaticIf (.ident "y") ⟨some 0, ⟨2, 1⟩⟩, .addStaticIf (.int 1) ⟨some 0, ⟨3, 1⟩⟩,
    .addDecl ⟨"x", .bool true, some 1⟩, .addDecl ⟨"y", .bool true, some 0⟩,
    .resolve { condition := 2, scope := some {}, gagged := true },
    .resolve { condition := 0, scope := some {} }, .resolve { condition := 1, scope := some {} },
    .resolve { condition := 2, scope := some {} }]

/-- The session after these steps, when a condition may be entered again twice. -/
def feud : Session :=
  (performAll feudSteps (.start .disabled { reentry := 2, depth := 20 })).get
    (by decide +kernel)

/-- Four evaluations of the first condition have ended without a value, and one diagnostic blames
it; two of the third one have, and one diagnostic blames that. Both stay excluded. -/
theorem blamed_at_most_once_feud :
    (feud.store.journal.toList.countP fun e =>
      e = .concluded 0 .failed ∨ e = .concluded 0 .runaway) = 4 ∧
    (feud.store.sink.taken.countP fun d => d.source = some ⟨.added 0, ⟨1, 1⟩⟩) = 1 ∧
    (feud.store.journal.toList.countP fun e => e = .concluded 2 .failed) = 2 ∧
    (feud.store.sink.taken.countP fun d => d.source = some ⟨.added 0, ⟨3, 1⟩⟩) = 1 ∧
    ∀ steps s', performAll steps feud = some s' →
      s'.store.state 0 = .excluded ∧ s'.store.state 2 = .excluded := by
  have hs : feud.Reachable fun step => ∀ message place, step ≠ .reportError message place false :=
    (Session.Reachable.start _ _).performAll (Option.some_get _).symm
      (by simp [feudSteps])
  have hsrc : feud.program.Sourced := .of_nodup (by decide +kernel) (by decide +kernel)
  have hc : feud.program.conditions[0]? =
      some ⟨.staticIf (.ident "x"), ⟨.added 0, ⟨1, 1⟩⟩, 0⟩ := by decide +kernel
  have hc₂ : feud.program.conditions[2]? =
      some ⟨.staticIf (.int 1), ⟨.added 0, ⟨3, 1⟩⟩, 2⟩ := by decide +kernel
  obtain ⟨hle, hex⟩ := blamed_at_most_once hs hsrc hc rfl
  obtain ⟨hle₂, hex₂⟩ := blamed_at_most_once hs hsrc hc₂ rfl
  have hd : ∃ d ∈ feud.store.sink.taken, d.source = some ⟨.added 0, ⟨1, 1⟩⟩ := by decide +kernel
  have hd₂ : ∃ d ∈ feud.store.sink.taken, d.source = some ⟨.added 0, ⟨3, 1⟩⟩ := by decide +kernel
  refine ⟨by decide +kernel, ?_, by decide +kernel, ?_, fun steps s' hp => ?_⟩
  · exact Nat.le_antisymm hle (Array.countP_pos_iff.mpr (by simpa using hd))
  · exact Nat.le_antisymm hle₂ (Array.countP_pos_iff.mpr (by simpa using hd₂))
  · exact ⟨hex hd steps s' hp, hex₂ hd₂ steps s' hp⟩

end Session

end CondComp
