import CondComp.Proofs.Permanence
import CondComp.Proofs.Settlement
import Mathlib.Algebra.Group.Nat.Defs

/-!
# The counters

Each evaluation in flight is counted three times: by the depth of the circumstances in which guards
are asked about, by the nesting of its condition, and by the balance of constant evaluations. The
journal tells which evaluations are in flight, and the counters agree with it at every moment of a
question, also of one that has no end.

* `Event.flight`, `Store.inFlight`: the evaluations in flight, read from the journal;
* `Event.Tells`, `Telling`: entries of the journal that tell the counters as they are;
* `Tallied`: the counters of a store agree with its journal; `Tallied.enter`, `Tallied.leave`;
  **`resolveAt_tallied`**: whole questions keep it so;
* `Program.Moment`: the moments of a question; **`exists_moment`**: none is left out;
* `Moment.tallied`, **`counters_exact`**: the counters are exact and within bounds at every moment.
-/

namespace CondComp

/-! ## Evaluations in flight -/

/-- The evaluations in flight after an entry of the journal, by their cells, when `frames` were
before it. -/
def Event.flight (frames : List CellId) : Event → List CellId
  | entered i _ _ _ _ => i :: frames
  | left i _ _ _ => frames.erase i
  | _ => frames

/-- An entry tells the counters as they are when `frames` are in flight: what was counted before in
`st`, and what is in flight. A counter that goes up stays within the limits, and one that goes down
was not zero. -/
def Event.Tells (st : Store) (limits : Limits) (frames : List CellId) : Event → Prop
  | entered i _ depth nesting balance =>
    depth = frames.length ∧ depth ≤ limits.depth ∧
      nesting = st.nesting i + frames.count i + 1 ∧ nesting ≤ limits.reentry + 1 ∧
      balance = st.balance + frames.length + 1
  | left i depth nesting balance =>
    i ∈ frames ∧ depth + 1 = frames.length ∧ nesting + 1 = st.nesting i + frames.count i ∧
      balance + 1 = st.balance + frames.length
  | _ => True

/-- Entries that tell the counters as they are, one after the other. -/
def Telling (st : Store) (limits : Limits) : List CellId → List Event → Prop
  | _, [] => True
  | frames, e :: es => e.Tells st limits frames ∧ Telling st limits (e.flight frames) es

theorem telling_append {st : Store} {limits : Limits} {frames : List CellId}
    {es es' : List Event} : Telling st limits frames (es ++ es') ↔
      Telling st limits frames es ∧ Telling st limits (es.foldl Event.flight frames) es' := by
  induction es generalizing frames with
  | nil => simp [Telling]
  | cons e es ih => simp [Telling, ih, and_assoc]

theorem Telling.exists_tells {st : Store} {limits : Limits} {frames : List CellId}
    {es : List Event} (h : Telling st limits frames es) {e : Event} (he : e ∈ es) :
    ∃ frames, e.Tells st limits frames := by
  induction es generalizing frames with
  | nil => cases he
  | cons e' es ih =>
    rcases List.mem_cons.mp he with rfl | he
    · exact ⟨frames, h.1⟩
    · exact ih h.2 he

namespace Store

/-- The entries that the journal got since an earlier store. -/
def since (st m : Store) : List Event := m.journal.toList.drop st.journal.size

/-- The evaluations that began since an earlier store and have not ended, by their cells. -/
def inFlight (st m : Store) : List CellId := (st.since m).foldl Event.flight []

theorem since_eq {st m : Store} {es : List Event}
    (h : m.journal.toList = st.journal.toList ++ es) : st.since m = es := drop_journal h

end Store

/-! ## Counters that agree with the journal -/

/-- The evaluations `frames` are in flight in `m`, and were not in `st`; the counters and the
entries of the journal say so, and no counter is beyond its limit by them. -/
structure Tallied (limits : Limits) (st : Store) (frames : List CellId) (m : Store) : Prop where
  entries : ∃ es, m.journal.toList = st.journal.toList ++ es ∧
    es.foldl Event.flight [] = frames ∧ Telling st limits [] es
  size : m.cells.size = st.cells.size
  nesting : ∀ i, m.nesting i = st.nesting i + frames.count i
  bounded : ∀ i ∈ frames, st.nesting i + frames.count i ≤ limits.reentry + 1
  balance : m.balance = st.balance + frames.length

namespace Tallied

variable {limits : Limits} {st m m' : Store} {frames : List CellId} {i : CellId} {e : Event}

theorem refl (limits : Limits) (st : Store) : Tallied limits st [] st where
  entries := ⟨[], (List.append_nil _).symm, rfl, trivial⟩
  size := rfl
  nesting _ := rfl
  bounded _ hi := nomatch hi
  balance := (Int.add_zero _).symm

theorem inFlight_eq (h : Tallied limits st frames m) : st.inFlight m = frames := by
  obtain ⟨es, hj, hflight, _⟩ := h.entries
  rw [Store.inFlight, Store.since_eq hj, hflight]

theorem telling (h : Tallied limits st frames m) : Telling st limits [] (st.since m) := by
  obtain ⟨es, hj, _, htell⟩ := h.entries
  rwa [Store.since_eq hj]

theorem nesting_le (h : Tallied limits st frames m) (i : CellId) :
    m.nesting i ≤ max (st.nesting i) (limits.reentry + 1) := by
  rw [h.nesting i]
  by_cases hi : i ∈ frames
  · exact Nat.le_trans (h.bounded i hi) (Nat.le_max_right _ _)
  · rw [List.count_eq_zero_of_not_mem hi]
    exact Nat.le_max_left _ _

theorem push (h : Tallied limits st frames m) (hj : m'.journal = m.journal.push e)
    (ht : e.Tells st limits frames) : ∃ es, m'.journal.toList = st.journal.toList ++ es ∧
      es.foldl Event.flight [] = e.flight frames ∧ Telling st limits [] es := by
  obtain ⟨es, hes, hflight, htell⟩ := h.entries
  refine ⟨es ++ [e], by rw [hj, Array.toList_push, hes, List.append_assoc], ?_, ?_⟩
  · rw [List.foldl_append, hflight]
    rfl
  · rw [telling_append, hflight]
    exact ⟨htell, ht, trivial⟩

theorem enter (h : Tallied limits st frames m) (scope : Scope) (hi : i < m.cells.size)
    (hdepth : frames.length ≤ limits.depth) (hnest : m.nesting i ≤ limits.reentry) :
    Tallied limits st (i :: frames) (m.enter i scope frames.length) := by
  have hself : (m.enter i scope frames.length).nesting i = st.nesting i + frames.count i + 1 := by
    rw [Store.nesting_enter, if_pos ⟨rfl, hi⟩, h.nesting]
  have hle : st.nesting i + frames.count i + 1 ≤ limits.reentry + 1 := by
    rw [← h.nesting]
    exact Nat.succ_le_succ hnest
  constructor
  · refine h.push (m.journal_enter i scope frames.length) ⟨rfl, hdepth, hself, ?_, ?_⟩
    · rwa [hself]
    · rw [h.balance]
  · rw [Store.size_enter, h.size]
  · intro j
    by_cases hij : i = j
    · subst hij
      rw [hself, List.count_cons_self, Nat.add_assoc]
    · rw [Store.nesting_enter, if_neg fun hn => hij hn.1, h.nesting, List.count_cons_of_ne hij]
  · intro j hj
    by_cases hij : i = j
    · subst hij
      rwa [List.count_cons_self]
    · rw [List.count_cons_of_ne hij]
      exact h.bounded j (List.mem_of_ne_of_mem (Ne.symm hij) hj)
  · have hb : (m.enter i scope frames.length).balance = m.balance + 1 := rfl
    rw [hb, h.balance, List.length_cons]
    omega

theorem leave (h : Tallied limits st (i :: frames) m) (hi : i < m.cells.size) :
    Tallied limits st frames (m.leave i frames.length) := by
  have hself : (m.leave i frames.length).nesting i + 1 = st.nesting i + (i :: frames).count i := by
    rw [Store.nesting_leave, if_pos ⟨rfl, hi⟩, h.nesting, List.count_cons_self]
    omega
  constructor
  · have hentry := h.push (m.journal_leave i frames.length)
      ⟨List.mem_cons_self, rfl, hself, by rw [h.balance]; omega⟩
    rwa [Event.flight, List.erase_cons_head] at hentry
  · rw [Store.size_leave, h.size]
  · intro j
    by_cases hij : i = j
    · subst hij
      rw [List.count_cons_self] at hself
      omega
    · rw [Store.nesting_leave, if_neg fun hn => hij hn.1, h.nesting, List.count_cons_of_ne hij]
  · intro j hj
    have := h.bounded j (List.mem_cons_of_mem _ hj)
    have := List.count_le_count_cons (a := j) (b := i) (l := frames)
    omega
  · have hb : (m.leave i frames.length).balance = m.balance - 1 := rfl
    rw [hb, h.balance, List.length_cons]
    omega

theorem idle (h : Tallied limits st frames m) (hj : m'.journal = m.journal.push e)
    (he : ∀ frames, e.flight frames = frames ∧ e.Tells st limits frames)
    (hsize : m'.cells.size = m.cells.size) (hn : ∀ i, m'.nesting i = m.nesting i)
    (hb : m'.balance = m.balance) : Tallied limits st frames m' where
  entries := by
    have hentry := h.push hj (he frames).2
    rwa [(he frames).1] at hentry
  size := hsize.trans h.size
  nesting i := (hn i).trans (h.nesting i)
  bounded := h.bounded
  balance := hb.trans h.balance

theorem reportAny (h : Tallied limits st frames m) (ctx : Context)
    (fault : Option (Source × Fault)) : Tallied limits st frames (m.reportAny ctx fault) := by
  cases fault <;> exact ⟨h.entries, h.size, h.nesting, h.bounded, h.balance⟩

theorem close (h : Tallied limits st frames m) (i : CellId) (ctx : Context) (v : Verdict) :
    Tallied limits st frames (m.close i ctx v) :=
  h.idle (m.journal_close i ctx v) (fun _ => ⟨rfl, trivial⟩) (m.size_close i ctx v)
    (m.nesting_close i · ctx v) (m.balance_close i ctx v)

theorem finish (h : Tallied limits st (i :: frames) m) (hi : i < m.cells.size) (ctx : Context)
    (fault : Option (Source × Fault)) (v : Verdict) :
    Tallied limits st frames (m.finish i ctx frames.length fault v) :=
  ((h.leave hi).reportAny ctx fault).close i ctx v

theorem answered (h : Tallied limits st frames m) (p : Program) (scope : Option Scope)
    (c : Condition) (ns : Namespace) (owner : ModuleId) (q : Query) (b : Bool) :
    Tallied limits st frames (((m.answer p scope ns owner q).2.note
      (.answered c (m.answer p scope ns owner q).1 scope)).settle c.cell b) := by
  obtain ⟨log, ha⟩ := m.answer_eq p scope ns owner q
  refine h.idle (e := .answered c (m.answer p scope ns owner q).1 scope) ?_
    (fun _ => ⟨rfl, trivial⟩) (by simp) (fun j => by simp) ?_
  · simp [Store.settle, Store.modifyCell]
  · rw [ha]
    rfl

end Tallied

/-! ## Whole questions -/

section Questions

variable {p : Program} {ctx : Context} {st m m' : Store} {frames : List CellId}

/-- **A whole question leaves in flight what was, and the counters agree with the journal.** Each
evaluation in flight takes one of the levels that the depth limit leaves. -/
theorem resolveAt_tallied {room : Nat} {id : ConditionId} {scope : Option Scope}
    {symbol : Option SymbolId} {b : Bool}
    (h : p.resolveAt ctx room id scope symbol m = some (b, m')) (hw : p.WellFormed m.cells.size)
    (hroom : frames.length + room = ctx.limits.depth + 1)
    (ht : Tallied ctx.limits st frames m) : Tallied ctx.limits st frames m' := by
  refine resolveAt_induction (R := fun room _ _ m _ m' => p.WellFormed m.cells.size →
    ∀ frames, frames.length + room = ctx.limits.depth + 1 → Tallied ctx.limits st frames m →
      Tallied ctx.limits st frames m') ?_ ?_ ?_ ?_ ?_ h hw frames hroom ht
  · intro _ _ _ _ _ _ _ _ ht
    exact ht
  · intro _ _ _ _ _ _ _ _ _ _ ht
    exact ht
  · intro _ _ scope m c ns owner q m' _ _ _ hm _ frames _ ht
    rw [hm]
    exact ht.answered p scope c ns owner q _
  · intro _ _ _ m c e v f m' _ _ _ _ hm _ frames _ ht
    rw [hm]
    exact (ht.reportAny ctx (some (c.source, f))).close c.cell ctx v
  · intro room _ s symbol m c e r m₂ k m' hc _ _ hb ha _ hm hw frames hroom ht
    -- the analysis is given the number of evaluations in flight as its depth
    have hlen : ctx.limits.depth - room = frames.length := by omega
    rw [hlen] at hb ha hm
    obtain ⟨hnest, hdepth, _⟩ := bar?_eq_none.mp hb
    have hasked : Tallied ctx.limits st (c.cell :: frames) m₂ := by
      refine Asked.preserves (ha.imp fun _ _ _ _ hq =>
        ⟨resolveAt_later hq.1, fun hw ht => hq.2 hw _ ?_ ht⟩) (by simpa using hw)
        (ht.enter (s.child symbol) (hw.cell_lt hc) hdepth hnest)
      rw [List.length_cons]
      omega
    rw [hm]
    refine hasked.finish ?_ ctx k.fault k.verdict
    rw [hasked.size, ← ht.size]
    exact hw.cell_lt hc

end Questions

/-! ## Moments -/

namespace Program

variable (p : Program) (ctx : Context)

/-- With `room + 1` levels left, the condition `c` of a question is analysed, in a child of the
scope `s`. The questions `qs` of its analysis are answered, up to the first no, and lead to `m`. -/
structure Analysing (room : Nat) (id : ConditionId) (s : Scope) (symbol : Option SymbolId)
    (st : Store) (c : Condition) (e : Expr) (qs : List (String × ConditionId))
    (r : Option String) (m : Store) : Prop where
  condition : p.conditions[id]? = some c
  unsettled : st.state c.cell = .unresolved
  test : c.test = .staticIf e
  admitted : c.bar? ctx (ctx.limits.depth - room) e (some s) st = none
  asked : askAll (fun g => p.resolveAt ctx room g (some (s.child symbol)) none) qs
    (st.enter c.cell (s.child symbol) (ctx.limits.depth - room)) = some (r, m)

/-- The moments of a question that is put in the store `st`: the depth of the circumstances and the
store at that time. The questions that an analysis has asked so far have answers; what it is asking
now need not have one, and neither need the question itself. -/
inductive Moment : Nat → ConditionId → Option Scope → Option SymbolId → Store → Nat → Store → Prop
  /-- The question is put. -/
  | put (room : Nat) (id : ConditionId) (scope : Option Scope) (symbol : Option SymbolId)
      (st : Store) : Moment room id scope symbol st (ctx.limits.depth + 1 - room) st
  /-- The analysis has just begun, or it has asked about a number of guards. -/
  | analysing {room : Nat} {id : ConditionId} {s : Scope} {symbol : Option SymbolId}
      {st m : Store} {c : Condition} {e : Expr} {qs qs' : List (String × ConditionId)}
      {r : Option String} (hq : (e.agenda p.decls).questions = qs ++ qs')
      (ha : p.Analysing ctx room id s symbol st c e qs r m) :
      Moment (room + 1) id (some s) symbol st (ctx.limits.depth - room + 1) m
  /-- Something happens while the analysis asks about a guard. -/
  | within {room d : Nat} {id g : ConditionId} {x : String} {s : Scope}
      {symbol : Option SymbolId} {st m m' : Store} {c : Condition} {e : Expr}
      {qs qs' : List (String × ConditionId)}
      (hq : (e.agenda p.decls).questions = qs ++ (x, g) :: qs')
      (ha : p.Analysing ctx room id s symbol st c e qs none m)
      (hm : Moment room g (some (s.child symbol)) none m d m') :
      Moment (room + 1) id (some s) symbol st d m'
  /-- The analysis has ended, and its value is about to be found. -/
  | analysed {room : Nat} {id : ConditionId} {s : Scope} {symbol : Option SymbolId}
      {st m : Store} {c : Condition} {e : Expr} {r : Option String}
      (ha : p.Analysing ctx room id s symbol st c e (e.agenda p.decls).questions r m) :
      Moment (room + 1) id (some s) symbol st (ctx.limits.depth - room)
        (m.leave c.cell (ctx.limits.depth - room))
  /-- The question is answered. -/
  | answered {room : Nat} {id : ConditionId} {scope : Option Scope} {symbol : Option SymbolId}
      {st m : Store} {b : Bool} (h : p.resolveAt ctx room id scope symbol st = some (b, m)) :
      Moment room id scope symbol st (ctx.limits.depth + 1 - room) m

end Program

/-! ## No moment is left out -/

section Coverage

variable {p : Program} {ctx : Context} {st m st' : Store} {n : Nat}

namespace Store

/-- The journal of the first store is the beginning of that of the second one. -/
def Begins (st st' : Store) : Prop := st.journal.toList <+: st'.journal.toList

theorem Begins.refl (st : Store) : st.Begins st := List.prefix_rfl

theorem Begins.trans (h : st.Begins m) (h' : m.Begins st') : st.Begins st' :=
  List.IsPrefix.trans h h'

theorem Begins.of_push {e : Event} (h : st'.journal = st.journal.push e) : st.Begins st' :=
  ⟨[e], by rw [h, Array.toList_push]⟩

theorem Begins.take (h : st.Begins st') (hn : n ≤ st.journal.size) :
    st.journal.toList.take n = st'.journal.toList.take n := by
  obtain ⟨es, hes⟩ := h
  rw [← hes, List.take_append_of_le_length (by simpa using hn)]

theorem Begins.eq_take (h : st.Begins st') :
    st.journal.toList = st'.journal.toList.take st.journal.size := by
  rw [← h.take (Nat.le_refl _), List.take_of_length_le (by simp)]

end Store

theorem Asked.begins {qs : List (String × ConditionId)} {r : Option String}
    (h : Asked (fun _ st _ st' => st.Begins st') qs st r st') : st.Begins st' :=
  h.chain Store.Begins.refl Store.Begins.trans

theorem resolveAt_begins {room : Nat} {id : ConditionId} {scope : Option Scope}
    {symbol : Option SymbolId} {b : Bool}
    (h : p.resolveAt ctx room id scope symbol st = some (b, st')) : st.Begins st' := by
  obtain ⟨es, hes⟩ := resolveAt_recorded h
  exact ⟨es, hes.journal.symm⟩

/-- While questions are asked, the journal has `n` entries during one of them, or before all. -/
theorem exists_question {G : ConditionId → EvalM Bool}
    (hG : ∀ g st b st', G g st = some (b, st') → st.Begins st')
    {qs : List (String × ConditionId)} {r : Option String} (h : askAll G qs st = some (r, st'))
    (hle : st.journal.size ≤ n) (hge : n ≤ st'.journal.size) :
    n = st.journal.size ∨ ∃ qs₁ x g qs₂ m b m', qs = qs₁ ++ (x, g) :: qs₂ ∧
      askAll G qs₁ st = some (none, m) ∧ G g m = some (b, m') ∧ m'.Begins st' ∧
      m.journal.size ≤ n ∧ n ≤ m'.journal.size := by
  induction qs generalizing st with
  | nil =>
    cases h
    exact .inl (Nat.le_antisymm hge hle)
  | cons q qs ih =>
    obtain ⟨x, g⟩ := q
    rw [askAll_cons] at h
    obtain ⟨⟨b, m'⟩, hg, h⟩ := Option.bind_eq_some_iff.mp h
    right
    cases b with
    | false =>
      cases h
      exact ⟨[], x, g, qs, st, false, _, rfl, rfl, hg, .refl _, hle, hge⟩
    | true =>
      by_cases hn : n ≤ m'.journal.size
      · exact ⟨[], x, g, qs, st, true, m', rfl, rfl, hg,
          ((asked_of_askAll h).imp hG).begins, hle, hn⟩
      · obtain ⟨qs₁, y, g', qs₂, m, b, m₁, rfl, hqs₁, hrest⟩ :=
          (ih h (Nat.le_of_not_le hn)).resolve_left fun he => hn (Nat.le_of_eq he)
        refine ⟨(x, g) :: qs₁, y, g', qs₂, m, b, m₁, rfl, ?_, hrest⟩
        rw [askAll_cons, hg]
        exact hqs₁

theorem exists_moment_of_ends {room : Nat} {id : ConditionId} {scope : Option Scope}
    {symbol : Option SymbolId} {b : Bool}
    (h : p.resolveAt ctx room id scope symbol st = some (b, st'))
    (hn : n = st.journal.size ∨ n = st'.journal.size) :
    ∃ d m, p.Moment ctx room id scope symbol st d m ∧
      m.journal.toList = st'.journal.toList.take n := by
  rcases hn with rfl | rfl
  · exact ⟨_, st, .put .., (resolveAt_begins h).eq_take⟩
  · exact ⟨_, st', .answered h, (List.take_of_length_le (by simp)).symm⟩

theorem exists_moment_of_analysed {room : Nat} {id : ConditionId} {c : Condition} {e : Expr}
    {s : Scope} {symbol : Option SymbolId} {b : Bool}
    (hc : p.conditions[id]? = some c) (ho : st.state c.cell = .unresolved)
    (ht : c.test = .staticIf e) (hb : c.bar? ctx (ctx.limits.depth - room) e (some s) st = none)
    (ih : ∀ {g m b m'}, p.resolveAt ctx room g (some (s.child symbol)) none m = some (b, m') →
      m.journal.size ≤ n → n ≤ m'.journal.size →
        ∃ d m₀, p.Moment ctx room g (some (s.child symbol)) none m d m₀ ∧
          m₀.journal.toList = m'.journal.toList.take n)
    (h : p.resolveAt ctx (room + 1) id (some s) symbol st = some (b, st'))
    (hle : st.journal.size ≤ n) (hge : n ≤ st'.journal.size) :
    ∃ d m, p.Moment ctx (room + 1) id (some s) symbol st d m ∧
      m.journal.toList = st'.journal.toList.take n := by
  by_cases hends : n = st.journal.size ∨ n = st'.journal.size
  · exact exists_moment_of_ends h hends
  have hres := h
  rw [Program.resolveAt_eq, Nat.add_sub_add_right, resolveWith_analysed hc ho ht hb] at hres
  obtain ⟨⟨r, st₂⟩, ha, hres⟩ := Option.bind_eq_some_iff.mp hres
  obtain ⟨k, _, hres⟩ := Option.map_eq_some_iff.mp hres
  obtain ⟨-, rfl⟩ : _ ∧ st₂.finish c.cell ctx (ctx.limits.depth - room) k.fault k.verdict = st' :=
    Prod.mk.inj hres
  have hleft : st₂.Begins (st₂.leave c.cell (ctx.limits.depth - room)) :=
    .of_push (st₂.journal_leave _ _)
  have hend : (st₂.leave c.cell (ctx.limits.depth - room)).Begins
      (st₂.finish c.cell ctx (ctx.limits.depth - room) k.fault k.verdict) :=
    .of_push (st₂.journal_finish c.cell ctx k.verdict (ctx.limits.depth - room) k.fault)
  by_cases hn : n ≤ st₂.journal.size
  · have hentered : (st.enter c.cell (s.child symbol) (ctx.limits.depth - room)).journal.size =
        st.journal.size + 1 := by rw [Store.journal_enter, Array.size_push]
    rcases exists_question (fun _ _ _ _ hq => resolveAt_begins hq) ha (by omega) hn with
      hfirst | ⟨qs₁, x, g, qs₂, m, b, m', hq, hqs₁, hg, hrest, hle', hge'⟩
    · have hbegins := ((asked_of_askAll ha).imp fun _ _ _ _ hq => resolveAt_begins hq).begins
      have hnone : (e.agenda p.decls).questions = [] ++ (e.agenda p.decls).questions := rfl
      refine ⟨_, _, .analysing hnone ⟨hc, ho, ht, hb, rfl⟩, ?_⟩
      rw [hfirst]
      exact ((hbegins.trans hleft).trans hend).eq_take
    · obtain ⟨d, m₀, hm, htake⟩ := ih hg hle' hge'
      refine ⟨d, m₀, .within hq ⟨hc, ho, ht, hb, hqs₁⟩ hm, ?_⟩
      rw [htake, ((hrest.trans hleft).trans hend).take hge']
  · refine ⟨_, _, .analysed ⟨hc, ho, ht, hb, ha⟩, ?_⟩
    have hsize : n = (st₂.leave c.cell (ctx.limits.depth - room)).journal.size := by
      rw [Store.journal_finish, Array.size_push] at hge hends
      rw [Store.journal_leave, Array.size_push] at hge hends ⊢
      omega
    rw [hsize]
    exact hend.eq_take

theorem exists_moment_of {room : Nat} {id : ConditionId} {scope : Option Scope}
    {symbol : Option SymbolId} {b : Bool}
    (ih : ∀ {k child g m b m'}, room = k + 1 →
      p.resolveAt ctx k g (some child) none m = some (b, m') → m.journal.size ≤ n →
        n ≤ m'.journal.size → ∃ d m₀, p.Moment ctx k g (some child) none m d m₀ ∧
          m₀.journal.toList = m'.journal.toList.take n)
    (h : p.resolveAt ctx room id scope symbol st = some (b, st')) (hle : st.journal.size ≤ n)
    (hge : n ≤ st'.journal.size) : ∃ d m, p.Moment ctx room id scope symbol st d m ∧
      m.journal.toList = st'.journal.toList.take n := by
  -- only an analysis adds more than one entry
  have hshort : st'.journal.size ≤ st.journal.size + 1 →
      ∃ d m, p.Moment ctx room id scope symbol st d m ∧
        m.journal.toList = st'.journal.toList.take n :=
    fun hsize => exists_moment_of_ends h (by omega)
  have hres := h
  rw [Program.resolveAt_eq] at hres
  cases stage p ctx (ctx.limits.depth + 1 - room) id scope st with
  | absent hc =>
    rw [resolveWith_absent hc] at hres
    cases hres
    exact hshort (Nat.le_succ _)
  | settled c hc hs =>
    rw [resolveWith_settled hc hs] at hres
    cases hres
    exact hshort (Nat.le_succ _)
  | directive c ns owner q hc ho ht =>
    rw [resolveWith_directive hc ho ht] at hres
    cases hres
    refine hshort (Nat.le_of_eq ?_)
    simp [Store.settle, Store.modifyCell]
  | barred c e v f hc ho ht hb =>
    rw [resolveWith_barred hc ho ht hb] at hres
    cases hres
    refine hshort (Nat.le_of_eq ?_)
    simp [Store.report]
  | analysed c e s hc ho ht hs hb =>
    subst hs
    obtain ⟨k, rfl⟩ := exists_room hb
    rw [Nat.add_sub_add_right] at hb
    exact exists_moment_of_analysed hc ho ht hb (ih rfl) h hle hge

/-- **No moment is left out.** For every state of the journal between the beginning and the end of a
question there is a moment of the question at which the journal is in this state. -/
theorem exists_moment {room : Nat} {id : ConditionId} {scope : Option Scope}
    {symbol : Option SymbolId} {b : Bool}
    (h : p.resolveAt ctx room id scope symbol st = some (b, st')) (hle : st.journal.size ≤ n)
    (hge : n ≤ st'.journal.size) : ∃ d m, p.Moment ctx room id scope symbol st d m ∧
      m.journal.toList = st'.journal.toList.take n := by
  induction room generalizing id scope symbol st b st' with
  | zero => exact exists_moment_of (fun hk => nomatch hk) h hle hge
  | succ room ih =>
    refine exists_moment_of (fun hk hg => ?_) h hle hge
    obtain rfl := Nat.succ.inj hk
    exact ih hg

end Coverage

/-! ## The counters at every moment -/

section Moments

variable {p : Program} {ctx : Context} {room : Nat} {id : ConditionId} {scope : Option Scope}
  {symbol : Option SymbolId} {st m m' : Store} {frames : List CellId}

theorem Program.Analysing.tallied {s : Scope} {c : Condition} {e : Expr}
    {qs : List (String × ConditionId)} {r : Option String}
    (h : p.Analysing ctx room id s symbol m c e qs r m') (hw : p.WellFormed m.cells.size)
    (hroom : frames.length + (room + 1) = ctx.limits.depth + 1)
    (ht : Tallied ctx.limits st frames m) : Tallied ctx.limits st (c.cell :: frames) m' := by
  have hlen : ctx.limits.depth - room = frames.length := by omega
  have hbar := h.admitted
  have hasked := h.asked
  rw [hlen] at hbar hasked
  obtain ⟨hnest, hdepth, _⟩ := bar?_eq_none.mp hbar
  have hentered := ht.enter (s.child symbol) (hw.cell_lt h.condition) hdepth hnest
  refine ((asked_of_askAll hasked).imp fun _ _ _ _ hq =>
    ⟨resolveAt_later hq, fun hw ht => ?_⟩).preserves (by simpa using hw) hentered
  refine resolveAt_tallied hq hw ?_ ht
  rw [List.length_cons]
  omega

/-- **At every moment of a question the counters agree with the journal**, and the depth is the
number of evaluations in flight. -/
theorem Program.Moment.tallied {d : Nat} (h : p.Moment ctx room id scope symbol m d m')
    (hw : p.WellFormed m.cells.size) (hroom : frames.length + room = ctx.limits.depth + 1)
    (ht : Tallied ctx.limits st frames m) :
    ∃ frames', Tallied ctx.limits st frames' m' ∧ d = frames'.length ∧
      d ≤ ctx.limits.depth + 1 := by
  induction h generalizing frames with
  | put => exact ⟨frames, ht, by omega, Nat.sub_le _ _⟩
  | analysing _ ha =>
    refine ⟨_, ha.tallied hw hroom ht, ?_, by omega⟩
    rw [List.length_cons]
    omega
  | within _ ha _ ih =>
    have hasked := ha.tallied hw hroom ht
    refine ih (by rwa [hasked.size, ← ht.size]) ?_ hasked
    rw [List.length_cons]
    omega
  | @analysed room _ _ _ _ _ c _ _ ha =>
    have hlen : ctx.limits.depth - room = frames.length := by omega
    have hasked := ha.tallied hw hroom ht
    have hlt : c.cell < _ := hw.cell_lt ha.condition
    rw [hlen]
    exact ⟨frames, hasked.leave (by rwa [hasked.size, ← ht.size]), rfl, by omega⟩
  | answered ha => exact ⟨frames, resolveAt_tallied ha hw hroom ht, by omega, Nat.sub_le _ _⟩

/-- **The counters are exact and do not overflow**, at every moment of a question that is put from
outside while any guards are held. No moment of an answered question is left out, and at its end
every nesting is what it was. -/
theorem Program.counters_exact (hw : p.WellFormed st.cells.size)
    (hreentry : ctx.limits.reentry < 2 ^ 32 - 1) (hdepth : ctx.limits.depth < 2 ^ 32 - 1) :
    (∀ d m, p.Moment ctx (ctx.limits.depth + 1) id scope symbol st d m →
      d = (st.inFlight m).length ∧ d ≤ ctx.limits.depth + 1 ∧
      (∀ i, m.nesting i = st.nesting i + (st.inFlight m).count i ∧
        m.nesting i ≤ max (st.nesting i) (ctx.limits.reentry + 1)) ∧
      Telling st ctx.limits [] (st.since m) ∧
      ∀ i s depth nesting balance, .entered i s depth nesting balance ∈ st.since m →
        depth + 1 < 2 ^ 32 ∧ nesting < 2 ^ 32) ∧
    ∀ b st', p.resolve ctx id scope symbol st = some (b, st') →
      (∀ n, st.journal.size ≤ n → n ≤ st'.journal.size → ∃ d m,
        p.Moment ctx (ctx.limits.depth + 1) id scope symbol st d m ∧
          m.journal.toList = st'.journal.toList.take n) ∧
      st.inFlight st' = [] ∧ ∀ i, st'.nesting i = st.nesting i := by
  refine ⟨fun d m hm => ?_, fun b st' h => ?_⟩
  · obtain ⟨frames, ht, hd, hle⟩ := hm.tallied hw (Nat.zero_add _) (.refl ctx.limits st)
    rw [ht.inFlight_eq]
    refine ⟨hd, hle, fun i => ⟨ht.nesting i, ht.nesting_le i⟩, ht.telling, ?_⟩
    intro i s depth nesting balance he
    obtain ⟨_, _, hd, _, hn, _⟩ := ht.telling.exists_tells he
    omega
  · have ht := resolveAt_tallied h hw (Nat.zero_add _) (.refl ctx.limits st)
    exact ⟨fun n => exists_moment h, ht.inFlight_eq, (resolveAt_later h).nesting⟩

/-- Few evaluations may nest. -/
def Context.narrow : Context := { limits := { reentry := 2, depth := 8 } }

/-- With one guard held and two evaluations in flight, the nesting is as great as it may get. In the
end the guard is still held. -/
theorem Program.counters_exact_selfGuarded : ∃ m b st',
    Session.selfGuarded.program.Moment .narrow 9 0 (some {}) none
      (Session.selfGuarded.store.hold 0 1) 2 m ∧
    (Session.selfGuarded.store.hold 0 1).inFlight m = [0, 0] ∧ m.nesting 0 = 3 ∧
    Session.selfGuarded.program.resolve .narrow 0 (some {}) none
      (Session.selfGuarded.store.hold 0 1) = some (b, st') ∧ st'.nesting 0 = 1 := by
  have hs : Session.selfGuarded.Reachable fun _ => True :=
    (Session.Reachable.start _ _).performAll (Option.some_get _).symm fun _ _ => trivial
  let st := Session.selfGuarded.store.hold 0 1
  have hw : Session.selfGuarded.program.WellFormed st.cells.size := by
    rw [Store.size_hold]
    exact hs.wellFormed
  let child : Scope := Scope.child {} none
  let m₁ := st.enter 0 child 0
  let m := m₁.enter 0 (child.child none) 1
  have hc : Session.selfGuarded.program.conditions[0]? =
      some ⟨.staticIf (.ident "x"), .internal, 0⟩ := by decide +kernel
  have hq : (Expr.agenda Session.selfGuarded.program.decls (.ident "x")).questions =
      [] ++ ("x", 0) :: [] := by decide +kernel
  have hm : Session.selfGuarded.program.Moment .narrow 9 0 (some {}) none st 2 m :=
    .within hq ⟨hc, by decide +kernel, rfl, by decide +kernel, rfl⟩
      (.analysing hq ⟨hc, by decide +kernel, rfl, by decide +kernel, rfl⟩)
  have hflight : st.inFlight m = [0, 0] := by decide +kernel
  obtain ⟨_, _, hn, _⟩ := (counters_exact hw (by decide) (by decide)).1 2 m hm
  obtain ⟨⟨b, st'⟩, hres⟩ := Option.isSome_iff_exists.mp (by decide +kernel :
    (Session.selfGuarded.program.resolve .narrow 0 (some {}) none st).isSome = true)
  obtain ⟨_, _, hn'⟩ := (counters_exact hw (by decide) (by decide)).2 b st' hres
  refine ⟨m, b, st', hm, hflight, ?_, hres, ?_⟩
  · rw [(hn 0).1, hflight]
    decide +kernel
  · rw [hn' 0]
    decide +kernel

end Moments

end CondComp
