import CondComp.Proofs.Reachable
import CondComp.Proofs.Truth

/-!
# Adequacy

Questions are answered with the truth, whatever was asked before, and however deep and on whatever
circle a condition is met first.

* `Sound`: settled answers are true;
* `Program.WaitsFor`: the guard that an analysis has come to; `waitsFor_unique`;
* `Ready`: a question is asked while the conditions in `frames` are in flight. A condition that is
  in flight twice lies on a circle, and then nothing but the circle is entered any more;
* **`resolveAt_answers`**: questions end, and are answered with the truth;
* **`inquireAll_adequate`**: so are the inquiries of a session, in any order.
-/

namespace CondComp

/-! ## The conditions of a program -/

/-- The condition is a `static if`. -/
def Condition.isStaticIf (c : Condition) : Bool :=
  match c.test with
  | .staticIf _ => true
  | .directive .. => false

/-- The numbers of the `static if`s. -/
def Program.staticIfs (p : Program) : List ConditionId :=
  (List.range p.conditions.size).filter fun X => (p.conditions[X]?).any Condition.isStaticIf

theorem Program.IsStaticIf.mem {p : Program} {X : ConditionId} (h : p.IsStaticIf X) :
    X ∈ p.staticIfs := by
  obtain ⟨c, e, hc, ht⟩ := h
  have hlt : X < p.conditions.size := (Array.getElem?_eq_some_iff.mp hc).1
  refine List.mem_filter.mpr ⟨List.mem_range.mpr hlt, ?_⟩
  simp [hc, Condition.isStaticIf, ht]

/-! ## Conditions in flight -/

/-- Settled answers are true. -/
def Sound (p : Program) (ms : Modules) (st : Store) : Prop :=
  ∀ X, (p.stateIn st X = .included → Holds p ms X) ∧ (p.stateIn st X = .excluded → ¬ Holds p ms X)

/-- The analysis of the first condition has come to the second one: all guards before it are
included. -/
def Program.WaitsFor (p : Program) (st : Store) (X Y : ConditionId) : Prop :=
  ∃ c e pre x post, p.conditions[X]? = some c ∧ c.test = .staticIf e ∧
    (e.agenda p.decls).questions = pre ++ (x, Y) :: post ∧
    ∀ q ∈ pre, p.stateIn st q.2 = .included

/-- A store while the conditions in `frames` are in flight. -/
structure Orderly (p : Program) (ms : Modules) (frames : List ConditionId) (st : Store) : Prop where
  wellFormed : p.WellFormed st.cells.size
  notIncluded : ∀ X ∈ frames, p.stateIn st X ≠ .included
  nesting : ∀ X c e, p.conditions[X]? = some c → c.test = .staticIf e →
    st.nesting c.cell = frames.count X
  sound : Sound p ms st
  declarations : ms.SameDeclarations st.modules

/-- The store when `id` is asked about while the conditions in `frames` are in flight. -/
structure Ready (p : Program) (ms : Modules) (frames : List ConditionId) (id : ConditionId)
    (st : Store) : Prop extends Orderly p ms frames st where
  stalled : ∀ X ∈ frames, ∃ Y ∈ id :: frames, p.WaitsFor st X Y
  fresh : p.stateIn st id = .unresolved → frames.Nodup ∨ id ∈ frames

section Flight

variable {p : Program} {ms : Modules} {frames : List ConditionId} {id : ConditionId} {st : Store}

theorem Program.WaitsFor.asks {X Y : ConditionId} (h : p.WaitsFor st X Y) : p.Asks X Y := by
  obtain ⟨c, e, pre, x, post, hc, ht, hq, _⟩ := h
  exact ⟨c, e, x, hc, ht, hq ▸ List.mem_append_right _ List.mem_cons_self⟩

theorem Program.WaitsFor.later {X Y : ConditionId} {st' : Store} (h : p.WaitsFor st X Y)
    (hl : Later st st') : p.WaitsFor st' X Y := by
  obtain ⟨c, e, pre, x, post, hc, ht, hq, hpre⟩ := h
  exact ⟨c, e, pre, x, post, hc, ht, hq, fun q hm => hl.stateIn_included (hpre q hm)⟩

theorem find_of_split {qs pre post : List (String × ConditionId)} {x : String} {Y : ConditionId}
    (hq : qs = pre ++ (x, Y) :: post) (hpre : ∀ q ∈ pre, p.stateIn st q.2 = .included)
    (hY : p.stateIn st Y ≠ .included) :
    qs.find? (fun q => p.stateIn st q.2 ≠ .included) = some (x, Y) := by
  have hnone : pre.find? (fun q => p.stateIn st q.2 ≠ .included) = none := by
    simpa [List.find?_eq_none] using fun a b hm => hpre (a, b) hm
  rw [hq, List.find?_append, hnone]
  simp [hY]

theorem waitsFor_unique {X Y Y' : ConditionId} (h : p.WaitsFor st X Y) (h' : p.WaitsFor st X Y')
    (hY : p.stateIn st Y ≠ .included) (hY' : p.stateIn st Y' ≠ .included) : Y = Y' := by
  obtain ⟨c, e, pre, x, post, hc, ht, hq, hpre⟩ := h
  obtain ⟨c', e', pre', x', post', hc', ht', hq', hpre'⟩ := h'
  obtain ⟨rfl, rfl⟩ := eq_of_staticIf hc ht hc' ht'
  have hfind := find_of_split hq hpre hY
  rw [find_of_split hq' hpre' hY'] at hfind
  exact (congrArg Prod.snd (Option.some.inj hfind)).symm

theorem Ready.waiting (h : Ready p ms frames id st) : p.Waiting frames id := by
  intro X hX
  obtain ⟨Y, hY, hwaits⟩ := h.stalled X hX
  exact ⟨Y, hY, hwaits.asks⟩

theorem Ready.not_mem (h : Ready p ms frames id st) (hid : Holds p ms id) : id ∉ frames := by
  intro hm
  refine not_holds_of_mem (fun X hX => ?_) hm hid
  obtain ⟨Y, hY, hwaits⟩ := h.stalled X hX
  rcases List.mem_cons.mp hY with rfl | hY
  · exact ⟨Y, hm, hwaits.asks⟩
  · exact ⟨Y, hY, hwaits.asks⟩

theorem Orderly.enter {c : Condition} {e : Expr} (h : Orderly p ms frames st)
    (hc : p.conditions[id]? = some c) (ht : c.test = .staticIf e)
    (ho : p.stateIn st id ≠ .included) (child : Scope) (depth : Nat) :
    Orderly p ms (id :: frames) (st.enter c.cell child depth) where
  wellFormed := by simpa using h.wellFormed
  notIncluded X hX := by
    rw [stateIn_enter]
    rcases List.mem_cons.mp hX with rfl | hX
    · exact ho
    · exact h.notIncluded X hX
  nesting X d e' hd hte := by
    have hsame : c.cell = d.cell ∧ c.cell < st.cells.size ↔ X = id := by
      constructor
      · exact fun hcell => (h.wellFormed.own hc hd ht hcell.1).symm
      · rintro rfl
        obtain ⟨rfl, _⟩ := eq_of_staticIf hc ht hd hte
        exact ⟨rfl, h.wellFormed.cell_lt hc⟩
    rw [Store.nesting_enter, h.nesting X d e' hd hte, List.count_cons]
    by_cases hX : X = id
    · rw [if_pos (hsame.mpr hX), if_pos (by simp [hX])]
    · rw [if_neg (mt hsame.mp hX), if_neg (by simp [Ne.symm hX])]
      rfl
  sound X := by
    rw [stateIn_enter]
    exact h.sound X
  declarations := h.declarations

theorem Orderly.later {st' : Store} (h : Orderly p ms frames st) (hl : Later st st')
    (hopen : ∀ X ∈ frames, p.stateIn st' X ≠ .included) (hs : Sound p ms st') :
    Orderly p ms frames st' where
  wellFormed := by
    rw [hl.size]
    exact h.wellFormed
  notIncluded := hopen
  nesting X c e hc ht := by rw [hl.nesting, h.nesting X c e hc ht]
  sound := hs
  declarations := h.declarations.trans hl.declarations

/-- The next question of an analysis. If its condition is in flight already, the question is the one
that it waits for there. -/
theorem Orderly.next {c : Condition} {e : Expr} {pre post : List (String × ConditionId)}
    {x : String} {g : ConditionId} (h : Orderly p ms (id :: frames) st)
    (hc : p.conditions[id]? = some c) (ht : c.test = .staticIf e)
    (hq : (e.agenda p.decls).questions = pre ++ (x, g) :: post)
    (hpre : ∀ q ∈ pre, p.stateIn st q.2 = .included)
    (hstalled : ∀ X ∈ frames, ∃ Y ∈ id :: frames, p.WaitsFor st X Y)
    (hfresh : frames.Nodup ∨ id ∈ frames) : Ready p ms (id :: frames) g st where
  toOrderly := h
  stalled X hX := by
    rcases List.mem_cons.mp hX with rfl | hX
    · exact ⟨g, List.mem_cons_self, c, e, pre, x, post, hc, ht, hq, hpre⟩
    · obtain ⟨Y, hY, hwaits⟩ := hstalled X hX
      exact ⟨Y, List.mem_cons_of_mem _ hY, hwaits⟩
  fresh hg := by
    by_cases hid : id ∈ frames
    · obtain ⟨Y, hY, hwaits⟩ := hstalled id hid
      have hwaits' : p.WaitsFor st id g := ⟨c, e, pre, x, post, hc, ht, hq, hpre⟩
      have hgY : g = Y := waitsFor_unique hwaits' hwaits (by simp [hg]) (h.notIncluded Y hY)
      exact .inr (hgY ▸ hY)
    · exact .inl (List.nodup_cons.mpr ⟨hid, hfresh.resolve_right hid⟩)

/-- As long as no condition is in flight twice, fewer are in flight than there are. -/
theorem Ready.length_lt (h : Ready p ms frames id st) (hn : frames.Nodup) (hid : id ∉ frames)
    (hs : p.IsStaticIf id) : frames.length < p.staticIfs.length := by
  have hsub : id :: frames ⊆ p.staticIfs := by
    intro X hX
    rcases List.mem_cons.mp hX with rfl | hX
    · exact hs.mem
    · obtain ⟨Y, _, c, e, _, _, _, hc, ht, _⟩ := h.stalled X hX
      exact Program.IsStaticIf.mem ⟨c, e, hc, ht⟩
  exact (List.Nodup.subperm (List.nodup_cons.mpr ⟨hid, hn⟩) hsub).length_le

end Flight

/-! ## Answers -/

/-- A question ends, is answered with the truth, and settles nothing that is not true. -/
def Answers (p : Program) (ms : Modules) (question : EvalM Bool) (id : ConditionId) (st : Store) :
    Prop :=
  ∃ b st', question st = some (b, st') ∧ (b = true ↔ Holds p ms id) ∧ Sound p ms st'

section Answers

variable {p : Program} {ms : Modules} {ctx : Context} {frames : List ConditionId}
  {id : ConditionId} {st : Store}

theorem Sound.isIncluded_iff (h : Sound p ms st) (hs : p.stateIn st id ≠ .unresolved) :
    (p.stateIn st id).isIncluded = true ↔ Holds p ms id := by
  obtain ⟨hi, he⟩ := h id
  cases hst : p.stateIn st id with
  | unresolved => exact absurd hst hs
  | included => exact iff_of_true rfl (hi hst)
  | excluded => exact iff_of_false (by decide) (he hst)

theorem Sound.settle {st' : Store} (h : Sound p ms st)
    (hne : ∀ X, X ≠ id → p.stateIn st' X = p.stateIn st X)
    (hi : p.stateIn st' id = .included → Holds p ms id)
    (he : p.stateIn st' id = .excluded → ¬ Holds p ms id) : Sound p ms st' := by
  intro X
  by_cases hX : X = id
  · rw [hX]
    exact ⟨hi, he⟩
  · rw [hne X hX]
    exact h X

theorem askAll_answers {room : Nat} {child : Scope} {c : Condition} {e : Expr}
    (hc : p.conditions[id]? = some c) (ht : c.test = .staticIf e)
    (hbelow : ∀ g st, Ready p ms (id :: frames) g st →
      Answers p ms (p.below ctx room child g) g st)
    (hfresh : frames.Nodup ∨ id ∈ frames) {pre qs : List (String × ConditionId)}
    (hsplit : (e.agenda p.decls).questions = pre ++ qs)
    (hpre : ∀ q ∈ pre, p.stateIn st q.2 = .included) (h : Orderly p ms (id :: frames) st)
    (hstalled : ∀ X ∈ frames, ∃ Y ∈ id :: frames, p.WaitsFor st X Y) :
    ∃ r st', askAll (p.below ctx room child) qs st = some (r, st') ∧ Sound p ms st' ∧
      (r = none ↔ ∀ q ∈ qs, Holds p ms q.2) := by
  induction qs generalizing pre st with
  | nil => exact ⟨none, st, rfl, h.sound, by simp⟩
  | cons q qs ih =>
    obtain ⟨x, g⟩ := q
    have hready := h.next hc ht hsplit hpre hstalled hfresh
    obtain ⟨b, st₁, hb, hiff, hsound⟩ := hbelow g st hready
    rw [askAll_cons, hb]
    cases b with
    | false =>
      refine ⟨some x, st₁, rfl, hsound, by simp, fun hall => ?_⟩
      have := hiff.mpr (hall (x, g) List.mem_cons_self)
      cases this
    | true =>
      have hl := below_later hb
      obtain ⟨k, _, hres⟩ := below_eq_some hb
      have hopen := (resolveAt_kept hres h.wellFormed hready.waiting h.notIncluded).1
      have hpre₁ : ∀ q ∈ pre ++ [(x, g)], p.stateIn st₁ q.2 = .included := by
        intro q hq
        rcases List.mem_append.mp hq with hq | hq
        · exact hl.stateIn_included (hpre q hq)
        · rw [List.mem_singleton.mp hq]
          exact (eq_true_iff_included hres).mp rfl
      have hstalled₁ : ∀ X ∈ frames, ∃ Y ∈ id :: frames, p.WaitsFor st₁ X Y := by
        intro X hX
        obtain ⟨Y, hY, hwaits⟩ := hstalled X hX
        exact ⟨Y, hY, hwaits.later hl⟩
      obtain ⟨r, st', hr, hsound', hall⟩ := ih (by simpa using hsplit) hpre₁
        (h.later hl hopen hsound) hstalled₁
      refine ⟨r, st', hr, hsound', hall.trans ?_⟩
      simp [hiff.mp rfl]

theorem directive_answers {c : Condition} {ns : Namespace} {owner : ModuleId} {q : Query}
    (h : Orderly p ms frames st) (hc : p.conditions[id]? = some c)
    (ho : st.state c.cell = .unresolved) (ht : c.test = .directive ns owner q)
    (scope : Option Scope) (ev : Event) :
    let a := (st.answer p scope ns owner q).1
    let st' := ((st.answer p scope ns owner q).2.note ev).settle c.cell a.included
    ((st'.state c.cell).isIncluded = true ↔ Holds p ms id) ∧ Sound p ms st' := by
  intro a st'
  have ha : a.included = true ↔ ms.Satisfy p.globals ns owner q := by
    rw [← h.declarations.satisfy, ← included_answer, ← Store.fst_answer st p scope]
  have hcell : ∀ j, st'.state j = if c.cell = j ∧ c.cell < st.cells.size then
      (st.state j).settle a.included else st.state j := by
    intro j
    simp [st', Store.state_settle]
  have hown : st'.state c.cell = .ofBool a.included := by
    rw [hcell, if_pos ⟨rfl, h.wellFormed.cell_lt hc⟩, ho]
    rfl
  constructor
  · rw [hown, Inclusion.isIncluded_ofBool, ha, holds_directive hc ht]
  · intro X
    cases hd : p.conditions[X]? with
    | none => simp [Program.stateIn, hd]
    | some d =>
      rw [stateIn_eq hd]
      by_cases hsame : c.cell = d.cell
      · -- conditions on one cell hold together
        have htd := (h.wellFormed.test_eq hc hd hsame).symm.trans ht
        rw [← hsame, hown, holds_directive hd htd, ← ha]
        cases a.included <;> simp [Inclusion.ofBool]
      · rw [hcell, if_neg fun hj => hsame hj.1, ← stateIn_eq hd]
        exact h.sound X

theorem not_holds_of_bar {room : Nat} {scope : Option Scope} {c : Condition} {e : Expr}
    {v : Verdict} {f : Fault} (hac : NamesAcyclic p.decls)
    (hN : p.staticIfs.length ≤ ctx.limits.depth + 1)
    (hroom : room + frames.length = ctx.limits.depth + 1) (h : Ready p ms frames id st)
    (hscope : p.IsStaticIf id → scope.isSome) (hc : p.conditions[id]? = some c)
    (ho : p.stateIn st id = .unresolved) (ht : c.test = .staticIf e)
    (hb : c.bar? ctx (ctx.limits.depth + 1 - room) e scope st = some (v, f)) :
    ¬ Holds p ms id := by
  intro hid
  have hstatic : p.IsStaticIf id := ⟨c, e, hc, ht⟩
  rcases bar?_eq_some hb with ⟨_, hs⟩ | ⟨_, hrun⟩ | ⟨_, hp⟩
  · have := hscope hstatic
    rw [hs] at this
    cases this
  · -- a condition that holds is met for the first time, and with no other one twice in flight
    have hmem := h.not_mem hid
    have hlt := h.length_lt ((h.fresh ho).resolve_right hmem) hmem hstatic
    rw [h.nesting id c e hc ht, List.count_eq_zero_of_not_mem hmem] at hrun
    omega
  · have := ((holds_staticIf hac hc ht).mp hid).1
    rw [hp] at this
    cases this

theorem finish_answers {c : Condition} {e : Expr} {depth : Nat} {r : Option String} {k : Ending}
    (hac : NamesAcyclic p.decls) (hw : p.WellFormed st.cells.size)
    (hc : p.conditions[id]? = some c) (ht : c.test = .staticIf e) (hs : Sound p ms st)
    (ho : p.stateIn st id ≠ .included)
    (hall : r = none ↔ ∀ q ∈ (e.agenda p.decls).questions, Holds p ms q.2)
    (hk : p.ending c e r = some k) :
    let st' := st.finish c.cell ctx depth k.fault k.verdict
    ((st'.state c.cell).isIncluded = true ↔ Holds p ms id) ∧ Sound p ms st' := by
  intro st'
  have hne : ∀ X, X ≠ id → p.stateIn st' X = p.stateIn st X :=
    fun X hX => stateIn_finish_ne hw hc ht hX _ _
  have hiff : p.stateIn st' id = .included ↔ Holds p ms id := by
    rw [holds_staticIf hac hc ht]
    rcases ending_cases hk with ⟨b, rfl, rfl, hf, hv⟩ | ⟨hfail, hno⟩
    · have hself : p.stateIn st' id = (p.stateIn st id).settle b := stateIn_finish_value hw hc b
      cases b with
      | false =>
        rw [hself, settle_false_of_ne ho, hv]
        simp
      | true =>
        have hid : Holds p ms id := (holds_staticIf hac hc ht).mpr ⟨hf, hall.mp rfl, hv⟩
        refine iff_of_true ?_ ⟨hf, hall.mp rfl, hv⟩
        rw [hself]
        cases hst : p.stateIn st id with
        | unresolved => rfl
        | included => exact absurd hst ho
        | excluded => exact absurd hid ((hs id).2 hst)
    · refine iff_of_false (stateIn_finish_failed hw hc ho _ (by simp [hfail])) ?_
      rintro ⟨hf, hq, hv⟩
      exact hno true (hall.mpr hq) hf hv
  refine ⟨?_, hs.settle hne hiff.mp fun he hid => ?_⟩
  · rw [← stateIn_eq hc, ← hiff]
    simp [Inclusion.isIncluded]
  · rw [hiff.mpr hid] at he
    cases he

/-- If the questions of an analysis are answered with the truth, so is the question. -/
theorem resolveAt_answers_of {room : Nat} {scope : Option Scope} {symbol : Option SymbolId}
    (hac : NamesAcyclic p.decls) (hN : p.staticIfs.length ≤ ctx.limits.depth + 1)
    (hroom : room + frames.length = ctx.limits.depth + 1) (h : Ready p ms frames id st)
    (hscope : p.IsStaticIf id → scope.isSome)
    (hbelow : ∀ child g st, 0 < room → Ready p ms (id :: frames) g st →
      Answers p ms (p.below ctx room child g) g st) :
    Answers p ms (p.resolveAt ctx room id scope symbol) id st := by
  rw [Program.resolveAt_eq]
  cases stage p ctx (ctx.limits.depth + 1 - room) id scope st with
  | absent hc =>
    refine ⟨false, st, resolveWith_absent hc, iff_of_false (by decide) ?_, h.sound⟩
    intro hid
    cases hid <;> simp_all
  | settled c hc hset =>
    refine ⟨_, st, resolveWith_settled hc hset, ?_, h.sound⟩
    rw [← stateIn_eq hc] at hset ⊢
    exact h.sound.isIncluded_iff hset
  | directive c ns owner q hc ho ht =>
    exact ⟨_, _, resolveWith_directive hc ho ht, directive_answers h.toOrderly hc ho ht _ _⟩
  | barred c e v f hc ho ht hb =>
    have ho' : p.stateIn st id = .unresolved := by rw [stateIn_eq hc, ho]
    have hno := not_holds_of_bar hac hN hroom h hscope hc ho' ht hb
    have hfail : p.stateIn ((st.report ctx c.source f.message).close c.cell ctx v) id ≠ .included :=
      stateIn_barred_failed h.wellFormed hc (ne_included_of_open hc ho) f (bar?_not_value hb)
    refine ⟨_, _, resolveWith_barred hc ho ht hb, ?_, ?_⟩
    · exact iff_of_false (by rw [isIncluded_eq_false hc hfail]; decide) hno
    · exact h.sound.settle (fun X hX => stateIn_barred_ne h.wellFormed hc ht hX f v)
        (fun hi => absurd hi hfail) fun _ => hno
  | analysed c e s hc ho ht hs hb =>
    subst hs
    have ho' : p.stateIn st id = .unresolved := by rw [stateIn_eq hc, ho]
    have hopen : p.stateIn st id ≠ .included := ne_included_of_open hc ho
    obtain ⟨room', hroom'⟩ := exists_room hb
    have hstalled : ∀ X ∈ frames, ∃ Y ∈ id :: frames,
        p.WaitsFor (st.enter c.cell (s.child symbol) (ctx.limits.depth + 1 - room)) X Y := by
      simpa only [Program.WaitsFor, stateIn_enter] using h.stalled
    obtain ⟨r, st₂, ha, hsound, hall⟩ := askAll_answers hc ht
      (fun g st => hbelow (s.child symbol) g st (by omega)) (h.fresh ho') (List.nil_append _).symm
      (by simp) (h.toOrderly.enter hc ht hopen (s.child symbol) (ctx.limits.depth + 1 - room))
      hstalled
    have hw : p.WellFormed st₂.cells.size := by
      rw [(askAll_later ha).size, Store.size_enter]
      exact h.wellFormed
    have hopen₂ := analysis_not_included ha h.wellFormed hc ht hopen
    cases hk : p.ending c e r with
    | none => exact absurd (ending_eq_none.mp hk).2 (agenda_ne_endless hac e)
    | some k =>
      refine ⟨_, st₂.finish c.cell ctx (ctx.limits.depth + 1 - room) k.fault k.verdict, ?_,
        finish_answers hac hw hc ht hsound hopen₂ hall hk⟩
      rw [resolveWith_analysed hc ho ht hb, ha, Option.bind_some, hk]
      rfl

/-- **Questions end, and are answered with the truth.** -/
theorem resolveAt_answers {room : Nat} {scope : Option Scope} {symbol : Option SymbolId}
    (hac : NamesAcyclic p.decls) (hN : p.staticIfs.length ≤ ctx.limits.depth + 1)
    (hroom : room + frames.length = ctx.limits.depth + 1) (h : Ready p ms frames id st)
    (hscope : p.IsStaticIf id → scope.isSome) :
    Answers p ms (p.resolveAt ctx room id scope symbol) id st := by
  induction room generalizing frames id scope symbol st with
  | zero => exact resolveAt_answers_of hac hN hroom h hscope fun _ _ _ hpos => nomatch hpos
  | succ room ih =>
    refine resolveAt_answers_of hac hN hroom h hscope fun child g st _ hready => ?_
    exact ih (by simp only [List.length_cons]; omega) hready fun _ => rfl

theorem settled_of_visible {room : Nat} {scope : Option Scope} {symbol : Option SymbolId}
    {b : Bool} {st' : Store} {c : Condition} (hg : ctx.gagged = false)
    (h : p.resolveAt ctx room id scope symbol st = some (b, st'))
    (hw : p.WellFormed st.cells.size) (hc : p.conditions[id]? = some c) :
    st'.state c.cell ≠ .unresolved := by
  have hvisible : ∀ v : Verdict, ∃ b, v.answer? ctx.gagged = some b := by
    intro v
    rw [hg]
    cases v <;> exact ⟨_, rfl⟩
  refine resolveAt_induction (R := fun _ id _ st _ st' => p.WellFormed st.cells.size →
    ∀ c, p.conditions[id]? = some c → st'.state c.cell ≠ .unresolved) ?_ ?_ ?_ ?_ ?_ h hw c hc
  · intro _ id _ _ hno _ c hc
    rw [hno] at hc
    cases hc
  · intro _ id _ _ d hd hset _ c hc
    obtain rfl := Option.some.inj (hc.symm.trans hd)
    exact hset
  · intro _ id _ _ d _ _ _ st' hd _ _ hst hw c hc
    obtain rfl := Option.some.inj (hc.symm.trans hd)
    rw [hst, Store.state_settle, if_pos ⟨rfl, by simpa using hw.cell_lt hc⟩]
    exact settle_ne_unresolved _ _
  · intro _ id _ st d _ v f st' hd _ _ _ hst hw c hc
    obtain rfl := Option.some.inj (hc.symm.trans hd)
    obtain ⟨b, hv⟩ := hvisible v
    rw [hst, Store.state_close, if_pos ⟨rfl, hw.cell_lt hc⟩, hv]
    exact settle_ne_unresolved _ _
  · intro room id s symbol st d _ _ st₂ k st' hd _ _ _ ha _ hst hw c hc
    obtain rfl := Option.some.inj (hc.symm.trans hd)
    obtain ⟨b, hv⟩ := hvisible k.verdict
    have hl : Later (st.enter c.cell (s.child symbol) (ctx.limits.depth - room)) st₂ :=
      ha.later_of_answers
    have hlt : c.cell < st₂.cells.size := by
      rw [hl.size, Store.size_enter]
      exact hw.cell_lt hc
    rw [hst, Store.finish, Store.state_close, if_pos ⟨rfl, by simpa using hlt⟩, hv]
    exact settle_ne_unresolved _ _

end Answers

/-! ## Inquiries -/

namespace Session

/-- An inquiry that names a condition, has a scope for a `static if` and holds no guards, with a
depth limit that leaves room for every `static if`. -/
structure Admits (s : Session) (q : Inquiry) : Prop where
  condition_lt : q.condition < s.program.conditions.size
  scope : s.program.IsStaticIf q.condition → q.scope.isSome
  held : q.held = 0
  depth : s.program.staticIfs.length ≤ (q.limits.getD s.limits).depth + 1

/-- The inquiries of a list, one after the other. -/
def inquireAll : List Inquiry → Session → Option (List Resolution × Session)
  | [], s => some ([], s)
  | q :: qs, s => do
    let (r, s) ← s.inquire q
    let (rs, s) ← inquireAll qs s
    return (r :: rs, s)

variable {s : Session} {ms : Modules}

theorem ready_holding (hs : s.Reachable fun _ => True) (hsound : Sound s.program ms s.store)
    (hd : ms.SameDeclarations s.store.modules)
    (hfree : ∀ c ∈ s.program.conditions, s.store.nesting c.cell = 0) {q : Inquiry}
    (hq : q.held = 0) : Ready s.program ms [] q.condition (s.holding q) where
  wellFormed := by simpa using hs.wellFormed
  notIncluded := by simp
  nesting X c e hc _ := by
    rw [nesting_holding, hq, hfree c (Array.mem_of_getElem? hc)]
    simp
  sound X := by
    rw [stateIn_congr (s.state_holding (q := q))]
    exact hsound X
  declarations := by rwa [modules_holding]
  stalled := by simp
  fresh _ := .inl List.nodup_nil

theorem inquire_answers (hs : s.Reachable fun _ => True) (hac : NamesAcyclic s.program.decls)
    (hsound : Sound s.program ms s.store) (hd : ms.SameDeclarations s.store.modules)
    (hfree : ∀ c ∈ s.program.conditions, s.store.nesting c.cell = 0) {q : Inquiry}
    (hq : s.Admits q) : ∃ r s', s.inquire q = some (r, s') ∧
      (r.included = true ↔ Holds s.program ms q.condition) ∧
      (q.gagged = false → r.state ≠ .unresolved) ∧ Sound s.program ms s'.store ∧
      ms.SameDeclarations s'.store.modules ∧ s'.program = s.program ∧ s'.limits = s.limits := by
  have hready := ready_holding hs hsound hd hfree hq.held
  have hans : Answers s.program ms
      (s.program.resolve (s.contextOf q) q.condition q.scope q.symbol) q.condition (s.holding q) :=
    resolveAt_answers hac hq.depth rfl hready hq.scope
  obtain ⟨b, after, hres, hiff, hafter⟩ := hans
  obtain ⟨c, hc⟩ : ∃ c, s.program.conditions[q.condition]? = some c :=
    ⟨_, Array.getElem?_eq_getElem hq.condition_lt⟩
  refine ⟨_, _, inquire_of_resolve hc hres, hiff, fun hg => ?_, fun X => ?_, ?_, rfl, rfl⟩
  · simpa [resolution] using settled_of_visible hg hres hready.wellFormed hc
  · rw [stateIn_congr (s.state_freeing (q := q))]
    exact hafter X
  · have hl := (resolveAt_later hres).declarations
    rw [modules_holding] at hl
    rw [modules_freeing]
    exact hd.trans hl

theorem inquireAll_answers (hs : s.Reachable fun _ => True) (hac : NamesAcyclic s.program.decls)
    (hsound : Sound s.program ms s.store) (hd : ms.SameDeclarations s.store.modules)
    (hfree : ∀ c ∈ s.program.conditions, s.store.nesting c.cell = 0) (qs : List Inquiry)
    (hqs : ∀ q ∈ qs, s.Admits q) : ∃ rs s', inquireAll qs s = some (rs, s') ∧
      List.Forall₂ (fun q r => (r.included = true ↔ Holds s.program ms q.condition) ∧
        (q.gagged = false → r.state ≠ .unresolved)) qs rs ∧
      Sound s.program ms s'.store := by
  induction qs generalizing s with
  | nil => exact ⟨[], s, rfl, .nil, hsound⟩
  | cons q qs ih =>
    obtain ⟨r, s₁, hi, hr, hset, hsound₁, hd₁, hp, hlim⟩ :=
      inquire_answers hs hac hsound hd hfree (hqs q List.mem_cons_self)
    have hfree₁ : ∀ c ∈ s₁.program.conditions, s₁.store.nesting c.cell = 0 := by
      intro c hc
      rw [nesting_inquire hi, hfree c (by rwa [← hp])]
    have hstep := perform_resolve hi
    have hs₁ : s₁.Reachable fun _ => True := hs.step trivial hstep
    have hqs₁ : ∀ q' ∈ qs, s₁.Admits q' := by
      intro q' hq'
      obtain ⟨hlt, hscope, hheld, hdepth⟩ := hqs q' (List.mem_cons_of_mem _ hq')
      exact ⟨by rwa [hp], by rwa [hp], hheld, by rwa [hp, hlim]⟩
    rw [← hp] at hsound₁
    obtain ⟨rs, s', hrun, hrs, hsound'⟩ := ih hs₁ (by rwa [hp]) hsound₁ hd₁ hfree₁ hqs₁
    rw [hp] at hrs hsound'
    refine ⟨r :: rs, s', ?_, .cons ⟨hr, hset⟩ hrs, hsound'⟩
    rw [inquireAll, hi]
    simp [hrun]

end Session

/-- **Adequacy.** If every condition is open and no guard is held, then every list of inquiries has
results, which say what holds; visible ones settle it, and every settled answer is true. -/
theorem inquireAll_adequate {s : Session} (hs : s.Reachable fun _ => True)
    (hopen : ∀ c ∈ s.program.conditions, s.stateOf c = .unresolved)
    (hfree : ∀ c ∈ s.program.conditions, s.store.nesting c.cell = 0)
    (hac : NamesAcyclic s.program.decls) (qs : List Inquiry) (hqs : ∀ q ∈ qs, s.Admits q) :
    ∃ rs s', s.inquireAll qs = some (rs, s') ∧
      List.Forall₂ (fun q r => (r.included = true ↔
        Holds s.program s.store.modules q.condition) ∧
        (q.gagged = false → r.state ≠ .unresolved)) qs rs ∧
      ∀ id c, s.program.conditions[id]? = some c →
        (s'.stateOf c = .included → Holds s.program s.store.modules id) ∧
        (s'.stateOf c = .excluded → ¬ Holds s.program s.store.modules id) := by
  have hsound : Sound s.program s.store.modules s.store := by
    intro X
    have hX : s.program.stateIn s.store X = .unresolved := by
      cases hc : s.program.conditions[X]? with
      | none => simp [Program.stateIn, hc]
      | some c =>
        rw [stateIn_eq hc]
        exact hopen c (Array.mem_of_getElem? hc)
    simp [hX]
  obtain ⟨rs, s', hrun, hrs, hsound'⟩ :=
    Session.inquireAll_answers hs hac hsound (fun _ _ => ⟨rfl, rfl⟩) hfree qs hqs
  refine ⟨rs, s', hrun, hrs, fun id c hc => ?_⟩
  have := hsound' id
  rwa [stateIn_eq hc] at this

/-- A circle of two `static if`s, on which a third one that holds is met first. -/
def tangleSteps : List Step :=
  [.addStaticIf (.ident "a") {}, .addStaticIf (.and (.ident "b") (.ident "c")) {},
    .addStaticIf (.ident "d") {}, .addDirective .debug 0 (.level 0) {},
    .addDecl ⟨"a", .bool true, some 1⟩, .addDecl ⟨"b", .ident "e", some 2⟩,
    .addDecl ⟨"c", .bool true, some 0⟩, .addDecl ⟨"d", .ident "e", some 3⟩,
    .addDecl ⟨"e", .eq (.int 1) (.int 1), none⟩]

/-- The session after these steps, where no more than three evaluations may be in flight. -/
def tangle : Session :=
  (Session.performAll tangleSteps (.start .disabled { reentry := 5, depth := 2 })).get
    (by decide +kernel)

/-- A trial of the circle, and then every `static if`. -/
def tangleInquiries : List Inquiry :=
  [{ condition := 0, scope := some {}, gagged := true }, { condition := 2, scope := some {} },
    { condition := 1, scope := some {} }, { condition := 0, scope := some {} }]

theorem namesAcyclic_tangle : NamesAcyclic tangle.program.decls := by
  have hdecls : tangle.program.decls = [⟨"a", .bool true, some 1⟩, ⟨"b", .ident "e", some 2⟩,
      ⟨"c", .bool true, some 0⟩, ⟨"d", .ident "e", some 3⟩,
      ⟨"e", .eq (.int 1) (.int 1), none⟩] := by decide +kernel
  refine namesAcyclic_of_rank (fun x => if x = "e" then 0 else 1) fun x y hxy => ?_
  obtain ⟨d, hd, hy⟩ := hxy
  have hname : d.name = x := by simpa using List.find?_some hd
  have hmem : d ∈ tangle.program.decls := List.mem_of_find?_eq_some hd
  rw [hdecls] at hmem
  subst hname
  simp only [List.mem_cons, List.not_mem_nil, or_false] at hmem
  rcases hmem with rfl | rfl | rfl | rfl | rfl <;> simp_all [Expr.names]

theorem inquireAll_adequate_tangle : ∃ rs s', tangle.inquireAll tangleInquiries = some (rs, s') ∧
    rs.map Resolution.included = [false, true, false, false] ∧
    Holds tangle.program tangle.store.modules 2 ∧ ¬ Holds tangle.program tangle.store.modules 1 ∧
    ¬ Holds tangle.program tangle.store.modules 0 := by
  have hs : tangle.Reachable fun _ => True :=
    (Session.Reachable.start _ _).performAll (Option.some_get _).symm fun _ _ => trivial
  have hqs : ∀ q ∈ tangleInquiries, tangle.Admits q := by
    intro q hq
    simp only [tangleInquiries, List.mem_cons, List.not_mem_nil, or_false] at hq
    rcases hq with rfl | rfl | rfl | rfl <;>
      exact ⟨by decide +kernel, fun _ => rfl, rfl, by decide +kernel⟩
  obtain ⟨rs, s', hrun, hrs, _⟩ :=
    inquireAll_adequate hs (by decide +kernel) (by decide +kernel) namesAcyclic_tangle
      tangleInquiries hqs
  have hanswers : (tangle.inquireAll tangleInquiries).map
      (fun r => r.1.map Resolution.included) = some [false, true, false, false] := by
    decide +kernel
  rw [hrun] at hanswers
  have hmap : rs.map Resolution.included = [false, true, false, false] := Option.some.inj hanswers
  have hread : ∀ holds : ConditionId → Prop,
      List.Forall₂ (fun q r => (r.included = true ↔ holds q.condition) ∧
        (q.gagged = false → r.state ≠ .unresolved)) tangleInquiries rs →
      holds 2 ∧ ¬ holds 1 ∧ ¬ holds 0 := by
    intro holds hall
    obtain _ | ⟨⟨h₀, _⟩, _ | ⟨⟨h₁, _⟩, _ | ⟨⟨h₂, _⟩, _ | ⟨_, hnil⟩⟩⟩⟩ := hall
    cases hnil
    simp only [List.map_cons, List.map_nil, List.cons.injEq, and_true] at hmap
    rw [hmap.1] at h₀
    rw [hmap.2.1] at h₁
    rw [hmap.2.2.1] at h₂
    exact ⟨h₁.mp rfl, by simpa using h₂, by simpa using h₀⟩
  exact ⟨rs, s', hrun, hmap, hread _ hrs⟩

end CondComp
