import CondComp.Proofs.Descent
import Mathlib.Data.Int.CardIntervalMod

/-!
# Where the recursion guard strikes

Conditions that need each other in a ring, or in a chain that is too long, are not evaluated for
ever: the recursion guard ends the evaluation as soon as one condition was entered too often or too
many evaluations are in flight.

* `Row.wrap`: a row that starts again, as often as a ring does and never as far as a chain goes;
* **`Distinct.visits_self`**: how often a question came across a condition before;
* `Row.Ring`, `Row.Chain`; **`Chain.distinct`**: a chain has no way back;
* `Session.Untouched`: a condition that is open and on which no guard is held;
* **`inquire_fall`**, **`inquire_climb`**: inquiries about a row of such conditions;
* `Row.Struck`, `inquire_struck`: inquiries that the guard ends;
* **`guard_at_boundary`**: in rings and chains of every length and under all limits, what an inquiry
  answers, analyses, reports and settles.
-/

namespace CondComp

namespace Row

variable {w : Row} {p : Program} {k n t : Nat}

/-! ## Rows that start again -/

/-- The row that starts again after `k` conditions. -/
def wrap (w : Row) (k : Nat) : Row where
  id j := w.id (j % k)
  condition j := w.condition (j % k)
  name j := w.name (j % k)

@[simp] theorem id_wrap (j : Nat) : (w.wrap k).id j = w.id (j % k) := rfl

@[simp] theorem condition_wrap (j : Nat) : (w.wrap k).condition j = w.condition (j % k) := rfl

@[simp] theorem name_wrap (j : Nat) : (w.wrap k).name j = w.name (j % k) := rfl

/-- The first `k` conditions of a row are `k` different ones. -/
def Distinct (w : Row) (k : Nat) : Prop := ∀ i < k, ∀ j < k, w.id i = w.id j → i = j

/-- **A question comes across a condition** once in every round. -/
theorem Distinct.visits_self (h : w.Distinct k) (hk : 0 < k) (j : Nat) :
    (w.wrap k).visits j j = j / k := by
  have hsame : (fun i => (w.wrap k).id i = (w.wrap k).id j) = fun i => i ≡ j [MOD k] := by
    refine funext fun i => propext ⟨fun hid => ?_, fun hmod => congrArg w.id hmod⟩
    exact h _ (Nat.mod_lt i hk) _ (Nat.mod_lt j hk) hid
  have hcount := Nat.count_modEq_card j hk j
  rw [if_neg (Nat.lt_irrefl _), Nat.add_zero] at hcount
  rw [visits, ← hcount]
  simp only [hsame]

theorem Distinct.cell_inj (h : w.Distinct k) (hl : (w.wrap k).Leads p (k - 1)) {size : Nat}
    (hw : p.WellFormed size) {i j : Nat} (hi : i < k) (hj : j < k)
    (hcell : (w.condition i).cell = (w.condition j).cell) : i = j := by
  have hid := (hl.cell_eq_iff hw (Nat.le_sub_one_of_lt hi) (Nat.le_sub_one_of_lt hj)).mp
  simp only [id_wrap, condition_wrap, Nat.mod_eq_of_lt hi, Nat.mod_eq_of_lt hj] at hid
  exact h i hi j hj (hid hcell)

theorem mem_cells_wrap
    (hinj : ∀ i < k, ∀ j < k, (w.condition i).cell = (w.condition j).cell → i = j) {i : Nat}
    (hi : i < k) : (w.condition i).cell ∈ (w.wrap k).cells 0 t ↔ i < t := by
  simp only [cells, condition_wrap, List.mem_map, List.mem_range'_1, Nat.zero_le, true_and,
    Nat.zero_add]
  constructor
  · rintro ⟨j, hj, hcell⟩
    obtain rfl := hinj _ (Nat.mod_lt j (Nat.zero_lt_of_lt hi)) i hi hcell
    exact Nat.lt_of_le_of_lt (Nat.mod_le j k) hj
  · intro hit
    exact ⟨i, hit, by rw [Nat.mod_eq_of_lt hi]⟩

theorem exists_of_mem_cells_wrap (hk : 0 < k) {c : CellId} (h : c ∈ (w.wrap k).cells 0 t) :
    ∃ i < k, (w.condition i).cell = c := by
  obtain ⟨j, -, hcell⟩ := List.mem_map.mp h
  exact ⟨j % k, Nat.mod_lt j hk, hcell⟩

/-! ## Rings -/

/-- The first `k` conditions of a row form a ring: each of them consists of the name that the next
one guards, and the last of the name that the first one guards. -/
structure Ring (w : Row) (p : Program) (k : Nat) : Prop where
  pos : 0 < k
  condition (i : Nat) (hi : i < k) : p.conditions[w.id i]? = some (w.condition i)
  distinct : w.Distinct k
  test (i : Nat) (hi : i < k) :
    (w.condition i).test = .staticIf (.ident (w.name ((i + 1) % k)))
  decl (i : Nat) (hi : i < k) :
    firstDecl? p.decls (w.name i) = some ⟨w.name i, .bool true, some (w.id i)⟩

theorem Ring.leads (h : w.Ring p k) (t : Nat) : (w.wrap k).Leads p t where
  condition j _ := h.condition (j % k) (Nat.mod_lt j h.pos)
  test j _ := by
    rw [condition_wrap, name_wrap, h.test (j % k) (Nat.mod_lt j h.pos), Nat.mod_add_mod]
  last := ⟨_, h.test (t % k) (Nat.mod_lt t h.pos)⟩
  decl j _ := h.decl ((j + 1) % k) (Nat.mod_lt _ h.pos)

/-! ## Chains -/

/-- The first `n` conditions of a row form a chain: each of them consists of the name that the next
one guards, and the last one is `true`. -/
structure Chain (w : Row) (p : Program) (n : Nat) : Prop where
  pos : 0 < n
  condition (i : Nat) (hi : i < n) : p.conditions[w.id i]? = some (w.condition i)
  test (i : Nat) (hi : i + 1 < n) : (w.condition i).test = .staticIf (.ident (w.name (i + 1)))
  last : (w.condition (n - 1)).test = .staticIf (.bool true)
  decl (i : Nat) (hpos : 0 < i) (hi : i < n) :
    firstDecl? p.decls (w.name i) = some ⟨w.name i, .bool true, some (w.id i)⟩

theorem Chain.leads (h : w.Chain p n) (ht : t < n) : (w.wrap n).Leads p t where
  condition j hj := h.condition (j % n) (Nat.mod_lt j h.pos)
  test j hj := by
    rw [condition_wrap, name_wrap, Nat.mod_eq_of_lt (by omega), Nat.mod_eq_of_lt (by omega)]
    exact h.test j (by omega)
  last := by
    rw [condition_wrap, Nat.mod_eq_of_lt ht]
    rcases Nat.lt_or_ge (t + 1) n with hlt | hge
    · exact ⟨_, h.test t hlt⟩
    · obtain rfl : t = n - 1 := by omega
      exact ⟨_, h.last⟩
  decl j hj := by
    rw [id_wrap, name_wrap, Nat.mod_eq_of_lt (by omega)]
    exact h.decl (j + 1) (Nat.succ_pos j) (by omega)

theorem Chain.condition_eq (h : w.Chain p n) {i j : Nat} (hid : w.id i = w.id j) (hi : i < n)
    (hj : j < n) : w.condition i = w.condition j := by
  have hc := h.condition i hi
  rw [hid, h.condition j hj] at hc
  exact (Option.some.inj hc).symm

theorem Chain.id_ne (h : w.Chain p n) {i j : Nat} (hij : i < j) (hj : j < n) :
    w.id i ≠ w.id j := by
  obtain ⟨m, hm⟩ : ∃ m, j + m = n - 1 := ⟨n - 1 - j, by omega⟩
  intro hid
  -- The induction is on the distance from the end, because equal positions have equal successors.
  induction m generalizing i j with
  | zero =>
    obtain rfl : j = n - 1 := hm
    have htest := h.test i (by omega)
    rw [h.condition_eq hid (by omega) hj, h.last] at htest
    cases htest
  | succ m ih =>
    have htest := h.test i (by omega)
    rw [h.condition_eq hid (by omega) hj, h.test j (by omega)] at htest
    have hname : w.name (j + 1) = w.name (i + 1) := by
      injection htest with he
      injection he
    have hdecl := h.decl (i + 1) (Nat.succ_pos i) (by omega)
    rw [← hname, h.decl (j + 1) (Nat.succ_pos j) (by omega)] at hdecl
    have hnext : w.id (i + 1) = w.id (j + 1) := by
      injection hdecl with hd
      injection hd with _ _ hguard
      exact (Option.some.inj hguard).symm
    exact ih (Nat.succ_lt_succ hij) (by omega) (by omega) hnext

/-- **A chain has no way back.** -/
theorem Chain.distinct (h : w.Chain p n) : w.Distinct n := by
  intro i hi j hj hid
  rcases Nat.lt_trichotomy i j with hlt | heq | hgt
  · exact absurd hid (h.id_ne hlt hj)
  · exact heq
  · exact absurd hid.symm (h.id_ne hgt hi)

end Row

/-! ## Inquiries about a row -/

namespace Session

variable {s : Session} {q : Inquiry} {scope : Scope} {w : Row} {t : Nat}

/-- The condition is open, and no guard on it is held. -/
abbrev Untouched (s : Session) (c : Condition) : Prop :=
  s.stateOf c = .unresolved ∧ s.store.nesting c.cell = 0

theorem open_holding (hheld : q.held = 0) (hopen : ∀ i ≤ t, s.Untouched (w.condition i)) :
    w.Open t 0 (s.holding q) where
  state i hi := by rw [state_holding, ← stateOf_eq, (hopen i hi).1]
  nesting i hi := by
    rw [nesting_holding, hheld, (hopen i hi).2, ite_self, Row.visits, Nat.count_zero]

theorem analysed_freeing {ran : List CellId} {after : Store}
    (h : Analysed (s.holding q) ran after) : Analysed s.store ran (s.freeing q after) := by
  obtain ⟨events, hj, hran⟩ := h
  exact ⟨events, by rw [journal_freeing, hj, journal_holding], hran⟩

theorem inquire_of_analysed {b : Bool} {after : Store} {m : Nat} (hl : w.Leads s.program t)
    (hq : q.condition = w.id 0) (hscope : q.scope = some scope)
    (hr : s.program.resolve (s.contextOf q) (w.id 0) (some scope) q.symbol (s.holding q) =
      some (b, after)) (hran : Analysed (s.holding q) (w.cells 0 m) after) :
    ∃ res, s.inquire q = some (res, { s with store := s.freeing q after }) ∧
      res.included = b ∧ res.scopes.length = m ∧
      Analysed s.store (w.cells 0 m) (s.freeing q after) := by
  have hc : s.program.conditions[q.condition]? = some (w.condition 0) := by
    rw [hq, hl.condition 0 (Nat.zero_le t)]
  rw [← hq, ← hscope] at hr
  have hfreed := analysed_freeing hran
  have hsince : s.analysedSince { s with store := s.freeing q after } = w.cells 0 m :=
    analysedSince_eq hfreed
  have hlen : (w.cells 0 m).length = m := by simp [Row.cells]
  refine ⟨_, inquire_of_resolve hc hr, rfl, ?_, hfreed⟩
  rw [← hsince] at hlen
  exact (length_scopes _).trans hlen

section Outcome

variable {kind : Step → Prop} (hs : s.Reachable kind) (hscope : q.scope = some scope)
  (hheld : q.held = 0) (hq : q.condition = w.id 0) (hl : w.Leads s.program t)
  (hopen : ∀ i ≤ t, s.Untouched (w.condition i))
include hs hscope hheld hq hl hopen

/-- **An inquiry about a row that is too long** fails at its end. -/
theorem inquire_fall (hfree : ∀ i < t, w.visits i i ≤ (s.contextOf q).limits.reentry ∧
      i ≤ (s.contextOf q).limits.depth)
    (hstop : (s.contextOf q).limits.reentry < w.visits t t ∨
      (s.contextOf q).limits.depth < t) :
    ∃ res s', s.inquire q = some (res, s') ∧ res.included = false ∧ res.scopes.length = t ∧
      w.Fell (s.contextOf q) 0 t s.store s'.store := by
  have hw : s.program.WellFormed (s.holding q).cells.size := by
    simpa using hs.wellFormed
  obtain ⟨after, hres, hfell⟩ := Row.resolveAt_fall hw hl hfree hstop (Nat.zero_add t)
    (open_holding hheld hopen) scope q.symbol
  obtain ⟨res, hinq, hb, hlen, hran⟩ := inquire_of_analysed hl hq hscope hres hfell.analysed
  refine ⟨res, _, hinq, hb, hlen, ?_, fun i => ?_, hran⟩
  · rw [sink_freeing, hfell.sink, sink_holding]
  · rw [state_freeing, hfell.state, state_holding]

/-- **An inquiry about a row that is not too long** includes it, if its last condition is `true`. -/
theorem inquire_climb (hlast : (w.condition t).test = .staticIf (.bool true))
    (hfree : ∀ i ≤ t, w.visits i i ≤ (s.contextOf q).limits.reentry ∧
      i ≤ (s.contextOf q).limits.depth) :
    ∃ res s', s.inquire q = some (res, s') ∧ res.included = true ∧
      res.scopes.length = t + 1 ∧ w.Climbed 0 (t + 1) s.store s'.store := by
  have hw : s.program.WellFormed (s.holding q).cells.size := by
    simpa using hs.wellFormed
  obtain ⟨after, hres, hclimbed⟩ := Row.resolveAt_climb hw hl hlast hfree (Nat.zero_add t)
    (open_holding hheld hopen) scope q.symbol
  obtain ⟨res, hinq, hb, hlen, hran⟩ := inquire_of_analysed hl hq hscope hres hclimbed.analysed
  refine ⟨res, _, hinq, hb, hlen, ?_, fun i => ?_, hran⟩
  · rw [sink_freeing, hclimbed.sink, sink_holding]
  · rw [state_freeing, hclimbed.state, state_holding]

end Outcome

/-! ## The guard at its boundary -/

/-- What an inquiry about a row of `k` conditions comes to when the recursion guard ends it after
`t` analyses, where `d` is the limit on the evaluations in flight: the answer, the number of
analyses, the errors, which are only counted if they are suppressed, and the states. -/
structure Struck (w : Row) (k t d : Nat) (q : Inquiry) (s : Session) (res : Resolution)
    (s' : Session) : Prop where
  answer : res.included = false
  analyses : res.scopes.length = t
  sink : s'.store.sink = s.store.sink.takeAll q.gagged
    (.errorAt (w.condition (t % k)).source
        (if d < t then "unresolvable circular static if expression"
          else "error evaluating static if expression") ::
      (List.range t).reverse.map fun j =>
        .errorAt .internal ("undefined identifier " ++ w.name ((j + 1) % k)))
  state (i : Nat) (hi : i < k) : s'.stateOf (w.condition i) =
    if i = t % k ∨ q.gagged = false ∧ i ≤ t then .excluded else .unresolved
  others (c : Condition) (hc : ∀ i < k, c.cell ≠ (w.condition i).cell) :
    s'.stateOf c = s.stateOf c

/-- An inquiry that fell at the end of a row was ended by the guard. -/
theorem struck_of_fell {k : Nat} {res : Resolution} {s' : Session}
    (hinj : ∀ i < k, ∀ j < k, (w.condition i).cell = (w.condition j).cell → i = j) (hk : 0 < k)
    (hopen : ∀ i < k, s.stateOf (w.condition i) = .unresolved) (hres : res.included = false)
    (hlen : res.scopes.length = t)
    (hfell : (w.wrap k).Fell (s.contextOf q) 0 t s.store s'.store) :
    Struck w k t (s.contextOf q).limits.depth q s res s' where
  answer := hres
  analyses := hlen
  sink := by
    rw [hfell.sink, Nat.zero_add, Row.runaway, Row.refusals, Fault.runaway, ← List.range_eq_range']
    split_ifs <;> rfl
  state i hi := by
    have hcell : (w.condition i).cell = (w.condition (t % k)).cell ↔ i = t % k :=
      ⟨hinj i hi _ (Nat.mod_lt t hk), fun h => by rw [← h]⟩
    have hend : i = t → i = t % k := fun h => by rw [← h, Nat.mod_eq_of_lt hi]
    rw [stateOf_eq, hfell.state, Nat.zero_add, Row.condition_wrap, ← stateOf_eq, hopen i hi]
    simp only [hcell, Row.mem_cells_wrap hinj hi]
    refine if_congr ⟨?_, ?_⟩ rfl rfl
    · exact Or.imp_right (And.imp_right Nat.le_of_lt)
    · rintro (hlast | ⟨hg, hle⟩)
      · exact .inl hlast
      · exact (Nat.lt_or_eq_of_le hle).symm.imp hend (And.intro hg)
  others c hc := by
    rw [stateOf_eq, hfell.state, if_neg, ← stateOf_eq]
    rintro (hlast | ⟨-, hmem⟩)
    · exact hc _ (Nat.mod_lt _ hk) hlast
    · obtain ⟨i, hi, hcell⟩ := Row.exists_of_mem_cells_wrap hk hmem
      exact hc i hi hcell.symm

/-- **The guard ends an inquiry about a row** as soon as a condition was entered more than `r`
times or more than `d` evaluations are in flight, if the row goes that far. -/
theorem inquire_struck {kind : Step → Prop} {k r d : Nat} (hs : s.Reachable kind)
    (hscope : q.scope = some scope) (hheld : q.held = 0) (hq : q.condition = w.id 0) (hk : 0 < k)
    (hlimits : (s.contextOf q).limits = ⟨r, d⟩) (hd : w.Distinct k)
    (hround : (w.wrap k).Leads s.program (k - 1)) (ht : t = min (k * (r + 1)) (d + 1))
    (hl : (w.wrap k).Leads s.program t)
    (hopen : ∀ i < k, s.Untouched (w.condition i)) :
    ∃ res s', s.inquire q = some (res, s') ∧ Struck w k t d q s res s' := by
  have hfree : ∀ i < t, (w.wrap k).visits i i ≤ (s.contextOf q).limits.reentry ∧
      i ≤ (s.contextOf q).limits.depth := by
    intro i hi
    obtain ⟨hrounds, hdepth⟩ := Nat.lt_min.mp (ht ▸ hi)
    rw [hd.visits_self hk, hlimits]
    exact ⟨Nat.le_of_lt_succ (Nat.div_lt_of_lt_mul hrounds), Nat.le_of_lt_succ hdepth⟩
  have hstop : (s.contextOf q).limits.reentry < (w.wrap k).visits t t ∨
      (s.contextOf q).limits.depth < t := by
    rw [hd.visits_self hk, hlimits]
    rcases Nat.le_total (k * (r + 1)) (d + 1) with hle | hle
    · left
      rw [ht, Nat.min_eq_left hle, Nat.mul_div_cancel_left _ hk]
      exact Nat.lt_succ_self r
    · right
      rw [ht, Nat.min_eq_right hle]
      exact Nat.lt_succ_self d
  obtain ⟨res, s', hinq, hres, hlen, hfell⟩ := inquire_fall hs hscope hheld
    (by rw [hq, Row.id_wrap, Nat.zero_mod]) hl (fun i _ => hopen _ (Nat.mod_lt i hk)) hfree hstop
  have hstruck := struck_of_fell (fun i hi j hj => hd.cell_inj hround hs.wellFormed hi hj) hk
    (fun i hi => (hopen i hi).1) hres hlen hfell
  rw [hlimits] at hstruck
  exact ⟨res, s', hinq, hstruck⟩

/-- **A chain that is not too long is included** without an error. -/
theorem inquire_chain {kind : Step → Prop} {n : Nat} (hs : s.Reachable kind)
    (hscope : q.scope = some scope) (hheld : q.held = 0) (hq : q.condition = w.id 0)
    (h : w.Chain s.program n) (hfits : n ≤ (s.contextOf q).limits.depth + 1)
    (hopen : ∀ i < n, s.Untouched (w.condition i)) :
    ∃ res s', s.inquire q = some (res, s') ∧ res.included = true ∧ res.scopes.length = n ∧
      s'.store.sink = s.store.sink ∧
      (∀ i < n, s'.stateOf (w.condition i) = .included) ∧
      ∀ c, (∀ i < n, c.cell ≠ (w.condition i).cell) → s'.stateOf c = s.stateOf c := by
  have hl : (w.wrap n).Leads s.program (n - 1) := h.leads (Nat.sub_one_lt_of_lt h.pos)
  have hinj : ∀ i < n, ∀ j < n, (w.condition i).cell = (w.condition j).cell → i = j :=
    fun i hi j hj => h.distinct.cell_inj hl hs.wellFormed hi hj
  have hfree : ∀ i ≤ n - 1, (w.wrap n).visits i i ≤ (s.contextOf q).limits.reentry ∧
      i ≤ (s.contextOf q).limits.depth := by
    intro i hi
    have hin : i < n := Nat.lt_of_le_sub_one h.pos hi
    rw [h.distinct.visits_self h.pos, Nat.div_eq_of_lt hin]
    exact ⟨Nat.zero_le _, Nat.le_of_lt_succ (Nat.lt_of_lt_of_le hin hfits)⟩
  obtain ⟨res, s', hinq, hres, hlen, hclimbed⟩ := inquire_climb hs hscope hheld
    (by rw [hq, Row.id_wrap, Nat.zero_mod]) hl (fun i _ => hopen _ (Nat.mod_lt i h.pos))
    (by rw [Row.condition_wrap, Nat.mod_eq_of_lt (Nat.sub_one_lt_of_lt h.pos), h.last]) hfree
  rw [Nat.sub_add_cancel h.pos] at hlen hclimbed
  refine ⟨res, s', hinq, hres, hlen, hclimbed.sink, fun i hi => ?_, fun c hc => ?_⟩
  · rw [stateOf_eq, hclimbed.state, if_pos ((Row.mem_cells_wrap hinj hi).mpr hi)]
  · rw [stateOf_eq, hclimbed.state, if_neg, ← stateOf_eq]
    intro hmem
    obtain ⟨i, hi, hcell⟩ := Row.exists_of_mem_cells_wrap h.pos hmem
    exact hc i hi hcell.symm

/-- **The recursion guard strikes exactly at its boundary.** A ring of `k` conditions is ended after
`k * (r + 1)` or after `d + 1` analyses, whichever are fewer. A chain is included if `d + 1` of them
suffice, and is ended after as many if they do not. -/
theorem guard_at_boundary (hs : s.Reachable fun _ => True) (hscope : q.scope = some scope)
    (hheld : q.held = 0) (hq : q.condition = w.id 0) {r d : Nat}
    (hlimits : (s.contextOf q).limits = ⟨r, d⟩) :
    (∀ k, w.Ring s.program k → (∀ i < k, s.Untouched (w.condition i)) →
      ∃ res s', s.inquire q = some (res, s') ∧
        Struck w k (min (k * (r + 1)) (d + 1)) d q s res s') ∧
    (∀ n, w.Chain s.program n → (∀ i < n, s.Untouched (w.condition i)) →
      (n ≤ d + 1 → ∃ res s', s.inquire q = some (res, s') ∧ res.included = true ∧
        res.scopes.length = n ∧ s'.store.sink = s.store.sink ∧
        (∀ i < n, s'.stateOf (w.condition i) = .included) ∧
        ∀ c, (∀ i < n, c.cell ≠ (w.condition i).cell) → s'.stateOf c = s.stateOf c) ∧
      (d + 1 < n → ∃ res s', s.inquire q = some (res, s') ∧
        Struck w n (d + 1) d q s res s')) := by
  refine ⟨fun k hring hopen => ?_, fun n hchain hopen => ⟨fun hfits => ?_, fun hlong => ?_⟩⟩
  · exact inquire_struck hs hscope hheld hq hring.pos hlimits hring.distinct (hring.leads _) rfl
      (hring.leads _) hopen
  · exact inquire_chain hs hscope hheld hq hchain (by rwa [hlimits]) hopen
  · have ht : d + 1 = min (n * (r + 1)) (d + 1) := by
      refine (Nat.min_eq_right (Nat.le_trans hlong.le ?_)).symm
      exact Nat.le_mul_of_pos_right n (Nat.succ_pos r)
    exact inquire_struck hs hscope hheld hq hchain.pos hlimits hchain.distinct
      (hchain.leads (Nat.sub_one_lt_of_lt hchain.pos)) ht (hchain.leads hlong) hopen

/-- The steps that declare a ring of three conditions and a chain of two. -/
def carouselSteps : List Step :=
  [.addStaticIf (.ident "b") {}, .addStaticIf (.ident "c") {}, .addStaticIf (.ident "a") {},
    .addStaticIf (.ident "e") {}, .addStaticIf (.bool true) {},
    .addDecl ⟨"a", .bool true, some 0⟩, .addDecl ⟨"b", .bool true, some 1⟩,
    .addDecl ⟨"c", .bool true, some 2⟩, .addDecl ⟨"e", .bool true, some 4⟩]

/-- The session after these steps, where no more than two evaluations of one condition and five of
all conditions may be in flight. -/
def carousel : Session :=
  (performAll carouselSteps (.start .disabled { reentry := 1, depth := 4 })).get
    (by decide +kernel)

/-- The conditions of this session in a row, from one of them on. -/
def carouselFrom (first : ConditionId) : Row where
  id i := first + i
  condition i := (carousel.program.conditions[first + i]?).getD ⟨.staticIf .poisoned, .internal, 0⟩
  name i := ["a", "b", "c", "d", "e"].getD (first + i) ""

theorem ring_carousel : (carouselFrom 0).Ring carousel.program 3 where
  pos := by decide
  condition := by decide +kernel
  distinct := fun i _ j _ h => Nat.add_left_cancel h
  test := by decide +kernel
  decl := by decide +kernel

theorem chain_carousel : (carouselFrom 3).Chain carousel.program 2 where
  pos := by decide
  condition := by decide +kernel
  test := fun i hi => by
    obtain rfl : i = 0 := by omega
    decide +kernel
  last := by decide +kernel
  decl := fun i hpos hi => by
    obtain rfl : i = 1 := by omega
    decide +kernel

/-- The guard strikes in the second round of the ring. The chain is included, unless only one
evaluation may be in flight. -/
theorem guard_at_boundary_carousel :
    (∃ res s', carousel.inquire { condition := 0, scope := some {} } = some (res, s') ∧
      Struck (carouselFrom 0) 3 5 4 { condition := 0, scope := some {} } carousel res s') ∧
    (∃ res s', carousel.inquire { condition := 3, scope := some {} } = some (res, s') ∧
      res.included = true ∧ res.scopes.length = 2 ∧ s'.store.sink = carousel.store.sink) ∧
    ∃ res s', carousel.inquire { condition := 3, scope := some {}, limits := some ⟨1, 0⟩ } =
      some (res, s') ∧ Struck (carouselFrom 3) 2 1 0
        { condition := 3, scope := some {}, limits := some ⟨1, 0⟩ } carousel res s' := by
  have hs : carousel.Reachable fun _ => True :=
    (Session.Reachable.start _ _).performAll (Option.some_get _).symm fun _ _ => trivial
  have hring : ∀ i < 3, carousel.Untouched ((carouselFrom 0).condition i) := by
    decide +kernel
  have hchain : ∀ i < 2, carousel.Untouched ((carouselFrom 3).condition i) := by
    decide +kernel
  have hlimits : carousel.limits = ⟨1, 4⟩ := by decide +kernel
  refine ⟨?_, ?_, ?_⟩
  · exact (guard_at_boundary (q := { condition := 0, scope := some {} }) hs rfl rfl rfl
      hlimits).1 3 ring_carousel hring
  · obtain ⟨res, s', hinq, hres, hlen, hsink, -⟩ :=
      ((guard_at_boundary (q := { condition := 3, scope := some {} }) hs rfl rfl rfl
        hlimits).2 2 chain_carousel hchain).1 (by decide)
    exact ⟨res, s', hinq, hres, hlen, hsink⟩
  · exact ((guard_at_boundary (q := { condition := 3, scope := some {}, limits := some ⟨1, 0⟩ }) hs
      rfl rfl rfl rfl).2 2 chain_carousel hchain).2 (by decide)

end Session

end CondComp
