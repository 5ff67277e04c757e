import CondComp.Proofs.Counters

/-!
# The scopes of analyses

Each analysis takes place in a child of the scope in which its condition is asked about, and the
conditions that it asks about in turn are asked about in that child. A child keeps the modules of a
scope, and only the first one has the symbol that was asked with.

* `Store.scopesSince`: the scopes of the analyses that began; `Store.Opens`: those between two
  stores;
* `Scope.seen`: what an analysis sees; `Sees`: a question opened no other scopes;
* **`resolveAt_sees`**, **`Moment.sees`**: whole questions open no others, nor do their moments;
* **`scopes_seen`**: the scopes of an inquiry, and the balance of constant evaluations in them.
-/

namespace CondComp

/-! ## Scopes that are opened -/

namespace Store

/-- The scopes of the analyses that began since an earlier store, in order. -/
def scopesSince (st m : Store) : List Scope := (st.since m).filterMap Event.analysisScope?

/-- From `st` to `m`, analyses began in the scopes of a list, in order. -/
def Opens (st : Store) (scopes : List Scope) (m : Store) : Prop :=
  ∃ es, m.journal.toList = st.journal.toList ++ es ∧ es.filterMap Event.analysisScope? = scopes

namespace Opens

variable {st m m' : Store} {scopes scopes' : List Scope} {e : Event}

theorem scopesSince_eq (h : st.Opens scopes m) : st.scopesSince m = scopes := by
  obtain ⟨es, hj, hscopes⟩ := h
  rw [scopesSince, since_eq hj, hscopes]

theorem refl (st : Store) : st.Opens [] st := ⟨[], (List.append_nil _).symm, rfl⟩

theorem trans (h : st.Opens scopes m) (h' : m.Opens scopes' m') :
    st.Opens (scopes ++ scopes') m' := by
  obtain ⟨es, hj, hscopes⟩ := h
  obtain ⟨es', hj', hscopes'⟩ := h'
  exact ⟨es ++ es', by rw [hj', hj, List.append_assoc], by
    rw [List.filterMap_append, hscopes, hscopes']⟩

theorem of_push (h : m.journal = st.journal.push e) :
    st.Opens e.analysisScope?.toList m := by
  refine ⟨[e], by rw [h, Array.toList_push], ?_⟩
  cases he : e.analysisScope? <;> simp [he]

theorem push (h : st.Opens scopes m) (hj : m'.journal = m.journal.push e)
    (he : e.analysisScope? = none) : st.Opens scopes m' := by
  have hpush := of_push hj
  rw [he] at hpush
  exact List.append_nil scopes ▸ h.trans hpush

end Opens

end Store

/-! ## What analyses see -/

namespace Scope

/-- What the analysis with a number sees, of those that a question in a scope about a symbol
begins: a child of the scope, with the symbol in the first one alone. -/
def seen (s : Scope) (symbol : Option SymbolId) (k : Nat) : Scope where
  home := s.home
  instantiating := s.instantiating
  symbol := if k = 0 then symbol else none
  staticIf := true
  evaluatesConstants := true

theorem child_child (s : Scope) (symbol symbol' : Option SymbolId) :
    (s.child symbol).child symbol' = s.child symbol' := rfl

theorem seen_zero (s : Scope) (symbol : Option SymbolId) : s.seen symbol 0 = s.child symbol := rfl

theorem seen_succ (s : Scope) (symbol : Option SymbolId) (k : Nat) :
    s.seen symbol (k + 1) = s.child none := rfl

end Scope

/-- From `st` to `m`, analyses began in children of `s` without a symbol only. -/
def SeesInner (s : Scope) (st m : Store) : Prop :=
  ∃ scopes, st.Opens scopes m ∧ ∀ t ∈ scopes, t = s.child none

/-- From `st` to `m`, a question in a scope about a symbol began no analysis, or a first one in a
child of the scope with the symbol, and the others in children without one. -/
inductive Sees (scope : Option Scope) (symbol : Option SymbolId) (st m : Store) : Prop
  | nothing (h : st.Opens [] m)
  | first {s : Scope} {scopes : List Scope} (hs : scope = some s)
      (h : st.Opens (s.child symbol :: scopes) m) (hinner : ∀ t ∈ scopes, t = s.child none)

section Seen

variable {s : Scope} {scope : Option Scope} {symbol : Option SymbolId} {st m m' : Store}

theorem SeesInner.refl (s : Scope) (st : Store) : SeesInner s st st := ⟨[], .refl st, by simp⟩

theorem SeesInner.trans (h : SeesInner s st m) (h' : SeesInner s m m') : SeesInner s st m' := by
  obtain ⟨scopes, hopens, hall⟩ := h
  obtain ⟨scopes', hopens', hall'⟩ := h'
  refine ⟨_, hopens.trans hopens', fun t ht => ?_⟩
  rcases List.mem_append.mp ht with ht | ht
  · exact hall t ht
  · exact hall' t ht

namespace Sees

/-- **A guard is asked about without a symbol**, so that no analysis for it has one. -/
theorem inner (h : Sees (some (s.child symbol)) none st m) : SeesInner s st m := by
  cases h with
  | nothing h => exact ⟨[], h, by simp⟩
  | first hs h hinner =>
    cases hs
    refine ⟨_, h, fun t ht => ?_⟩
    rcases List.mem_cons.mp ht with rfl | ht
    · exact s.child_child symbol none
    · rw [hinner t ht, Scope.child_child]

theorem enter {i : CellId} {depth : Nat}
    (h : SeesInner s (st.enter i (s.child symbol) depth) m) : Sees (some s) symbol st m := by
  obtain ⟨scopes, hopens, hall⟩ := h
  exact .first rfl ((Store.Opens.of_push (st.journal_enter i (s.child symbol) depth)).trans hopens)
    hall

theorem push {e : Event} (h : Sees scope symbol st m) (hj : m'.journal = m.journal.push e)
    (he : e.analysisScope? = none) : Sees scope symbol st m' := by
  cases h with
  | nothing h => exact .nothing (h.push hj he)
  | first hs h hinner => exact .first hs (h.push hj he) hinner

theorem eq_seen (h : Sees scope symbol st m) {k : Nat} {t : Scope}
    (ht : (st.scopesSince m)[k]? = some t) : ∃ s, scope = some s ∧ t = s.seen symbol k := by
  cases h with
  | nothing h =>
    rw [h.scopesSince_eq] at ht
    cases ht
  | @first s scopes hs h hinner =>
    rw [h.scopesSince_eq] at ht
    refine ⟨s, hs, ?_⟩
    cases k with
    | zero =>
      cases ht
      exact (s.seen_zero symbol).symm
    | succ k =>
      rw [List.getElem?_cons_succ] at ht
      rw [hinner t (List.mem_of_getElem? ht), Scope.seen_succ]

end Sees

end Seen

/-! ## Whole questions -/

section Questions

variable {p : Program} {ctx : Context} {room : Nat} {id : ConditionId} {scope : Option Scope}
  {symbol : Option SymbolId} {st st' m m' : Store} {b : Bool}

/-- **A whole question** opens no other scopes than it may. -/
theorem resolveAt_sees (h : p.resolveAt ctx room id scope symbol st = some (b, st')) :
    Sees scope symbol st st' := by
  refine resolveAt_symbol_induction (R := fun _ _ scope symbol st _ st' =>
    Sees scope symbol st st') ?_ ?_ ?_ ?_ ?_ h
  · intro _ _ _ _ st _
    exact .nothing (.refl st)
  · intro _ _ _ _ st _ _ _
    exact .nothing (.refl st)
  · intro _ _ scope _ st c ns owner q st' _ _ _ hst
    subst hst
    refine .nothing ((Store.Opens.refl st).push
      (e := .answered c (st.answer p scope ns owner q).1 scope) ?_ rfl)
    simp [Store.settle, Store.modifyCell]
  · intro _ _ _ _ st c e v f st' _ _ _ _ hst
    subst hst
    exact .nothing ((Store.Opens.refl st).push (Store.journal_close _ c.cell ctx v) rfl)
  · intro room _ s symbol st c e r st₂ k st' _ _ _ _ ha _ hst
    subst hst
    have hasked : SeesInner s (st.enter c.cell (s.child symbol) (ctx.limits.depth - room)) st₂ :=
      (ha.imp fun _ _ _ _ hq => hq.2.inner).chain (SeesInner.refl s) SeesInner.trans
    exact ((Sees.enter hasked).push (st₂.journal_leave _ _) rfl).push
      (st₂.journal_finish _ ctx _ _ _) rfl

theorem Program.Analysing.seesInner {s : Scope} {c : Condition} {e : Expr}
    {qs : List (String × ConditionId)} {r : Option String}
    (h : p.Analysing ctx room id s symbol st c e qs r m) :
    SeesInner s (st.enter c.cell (s.child symbol) (ctx.limits.depth - room)) m :=
  ((asked_of_askAll h.asked).imp fun _ _ _ _ hq => (resolveAt_sees hq).inner).chain
    (SeesInner.refl s) SeesInner.trans

/-- **At every moment of a question** it has opened no other scopes than it may. -/
theorem Program.Moment.sees {d : Nat} (h : p.Moment ctx room id scope symbol m d m') :
    Sees scope symbol m m' := by
  induction h with
  | put => exact .nothing (.refl _)
  | analysing _ ha => exact .enter ha.seesInner
  | within _ ha _ ih => exact .enter (ha.seesInner.trans ih.inner)
  | analysed ha => exact (Sees.enter ha.seesInner).push (Store.journal_leave _ _ _) rfl
  | answered ha => exact resolveAt_sees ha

end Questions

/-! ## Inquiries -/

namespace Session

variable {s : Session}

@[simp] theorem balance_holding (q : Inquiry) : (s.holding q).balance = s.store.balance := by
  unfold holding
  cases s.guardedCell? q.condition <;> rfl

@[simp] theorem balance_freeing (q : Inquiry) (after : Store) :
    (s.freeing q after).balance = after.balance := by
  unfold freeing
  cases s.guardedCell? q.condition <;> rfl

theorem since_holding (q : Inquiry) (m : Store) : (s.holding q).since m = s.store.since m := by
  rw [Store.since, journal_holding, Store.since]

/-- **The scopes of analyses.** At every moment of an inquiry all analyses see children of its
scope, and the first one sees its symbol; the balance counts the evaluations in flight. No moment of
an inquiry with a result is left out, and it gives the balance back. -/
theorem scopes_seen (hs : s.Reachable fun _ => True) (q : Inquiry) :
    (∀ d m, s.program.Moment (s.contextOf q) ((s.contextOf q).limits.depth + 1) q.condition q.scope
        q.symbol (s.holding q) d m →
      (∀ k t, (s.store.scopesSince m)[k]? = some t →
        ∃ scope, q.scope = some scope ∧ t = scope.seen q.symbol k) ∧
      m.balance = s.store.balance + (s.store.inFlight m).length ∧
      ∀ es i t depth nesting balance es',
        s.store.since m = es ++ .entered i t depth nesting balance :: es' →
        balance = s.store.balance + (i :: es.foldl Event.flight []).length) ∧
    ∀ r s', s.inquire q = some (r, s') →
      (∀ n, s.store.journal.size ≤ n → n ≤ s'.store.journal.size → ∃ d m,
        s.program.Moment (s.contextOf q) ((s.contextOf q).limits.depth + 1) q.condition q.scope
            q.symbol (s.holding q) d m ∧
          m.journal.toList = s'.store.journal.toList.take n) ∧
      (∀ k t, r.scopes[k]? = some t → ∃ scope, q.scope = some scope ∧ t = scope.seen q.symbol k) ∧
      s'.store.balance = s.store.balance ∧ r.balance = 0 ∧
      r.marked = q.scope.any Scope.isMarked := by
  have hw : s.program.WellFormed (s.holding q).cells.size := by simpa using hs.wellFormed
  refine ⟨fun d m hm => ?_, fun r s' h => ?_⟩
  · obtain ⟨frames, ht, -⟩ := hm.tallied hw (Nat.zero_add _) (.refl _ (s.holding q))
    have hflight : s.store.inFlight m = frames := by
      rw [Store.inFlight, ← since_holding q, ← Store.inFlight, ht.inFlight_eq]
    refine ⟨fun k t hk => hm.sees.eq_seen (k := k) ?_, ?_, ?_⟩
    · rwa [Store.scopesSince, since_holding]
    · rw [hflight, ht.balance, balance_holding]
    · intro es i t depth nesting balance es' hes
      have htell := ht.telling
      rw [since_holding, hes, telling_append] at htell
      obtain ⟨-, ⟨-, -, -, -, hbalance⟩, -⟩ := htell
      rw [hbalance, balance_holding, List.length_cons]
      omega
  · obtain ⟨c, b, after, hc, hres, rfl, rfl⟩ := inquire_eq_some h
    have ht := resolveAt_tallied hres hw (Nat.zero_add _) (.refl _ (s.holding q))
    have hbalance : (s.freeing q after).balance = s.store.balance := by
      rw [balance_freeing, ht.balance, balance_holding]
      exact Int.add_zero _
    refine ⟨fun n hle hge => ?_, fun k t hk => (resolveAt_sees hres).eq_seen (k := k) ?_,
      hbalance, ?_, rfl⟩
    · rw [journal_freeing] at hge ⊢
      exact exists_moment hres (by rwa [journal_holding]) hge
    · rw [resolution, journal_freeing] at hk
      rwa [Store.scopesSince, since_holding]
    · rw [resolution, hbalance, Int.sub_self]

/-- An inquiry about a condition that is its own guard, in a scope with two modules, about a
symbol. -/
def templateInquiry : Inquiry where
  condition := 0
  scope := some { home := some 0, instantiating := some 1 }
  symbol := some 7

/-- While two evaluations are in flight the balance is two, and only the first analysis has seen the
symbol. In the end the balance is nothing. -/
theorem scopes_seen_selfGuarded :
    (∃ m, selfGuarded.program.Moment (selfGuarded.contextOf templateInquiry) 9 0
        templateInquiry.scope templateInquiry.symbol (selfGuarded.holding templateInquiry) 2 m ∧
      selfGuarded.store.inFlight m = [0, 0] ∧ m.balance = 2 ∧
      ∀ (k : Nat) (t : Scope), (selfGuarded.store.scopesSince m)[k]? = some t →
        t = ⟨some 0, some 1, if k = 0 then some 7 else none, true, true⟩) ∧
    ∃ r s', selfGuarded.inquire templateInquiry = some (r, s') ∧ r.scopes.length = 2 ∧
      s'.store.balance = 0 ∧ r.balance = 0 ∧ r.marked = false := by
  have hs : selfGuarded.Reachable fun _ => True :=
    (Reachable.start _ _).performAll (Option.some_get _).symm fun _ _ => trivial
  obtain ⟨hmoments, hresult⟩ := scopes_seen hs templateInquiry
  have hbalance : selfGuarded.store.balance = 0 := by decide +kernel
  constructor
  · let child : Scope := Scope.child { home := some 0, instantiating := some 1 } (some 7)
    let m₁ := (selfGuarded.holding templateInquiry).enter 0 child 0
    let m := m₁.enter 0 (child.child none) 1
    have hc : selfGuarded.program.conditions[0]? =
        some ⟨.staticIf (.ident "x"), .internal, 0⟩ := by decide +kernel
    have hq : (Expr.agenda selfGuarded.program.decls (.ident "x")).questions =
        [] ++ ("x", 0) :: [] := by decide +kernel
    have hm : selfGuarded.program.Moment (selfGuarded.contextOf templateInquiry) 9 0
        templateInquiry.scope templateInquiry.symbol (selfGuarded.holding templateInquiry) 2 m :=
      .within hq ⟨hc, by decide +kernel, rfl, by decide +kernel, rfl⟩
        (.analysing hq ⟨hc, by decide +kernel, rfl, by decide +kernel, rfl⟩)
    have hflight : selfGuarded.store.inFlight m = [0, 0] := by decide +kernel
    obtain ⟨hscopes, hm_balance, -⟩ := hmoments 2 m hm
    refine ⟨m, hm, hflight, ?_, fun k t hk => ?_⟩
    · rw [hm_balance, hbalance, hflight]
      rfl
    · obtain ⟨scope, hscope, rfl⟩ := hscopes k t hk
      cases hscope
      rfl
  · have hsome : (selfGuarded.inquire templateInquiry).map (·.1.scopes.length) = some 2 := by
      decide +kernel
    obtain ⟨⟨r, s'⟩, hi, hlen⟩ := Option.map_eq_some_iff.mp hsome
    obtain ⟨-, -, hb, hrb, hmarked⟩ := hresult r s' hi
    exact ⟨r, s', hi, hlen, by rw [hb, hbalance], hrb, hmarked⟩

end Session

end CondComp
