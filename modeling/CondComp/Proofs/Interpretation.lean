import CondComp.Proofs.Attempt

/-!
# Types and values

An expression whose analysis ended with a type can be evaluated, unless a trap is met on the way,
and its value has that type. The analysis asks about the guards of names and the evaluation does
not, but both follow a name to the value of its first declaration.

* `Meets`: what is met from an expression, in it or behind its names; `meets_join`, `meets_ident`;
* `Value.Fits`: the values of a type;
* `Interpreted`: an evaluation that agrees with a type; `Interpreted.join`, `Interpreted.ident`;
* **`interpreted_agenda`**: an agenda that ends with a type is followed by such an evaluation;
* `judge_of_interpreted`: the three verdicts on a boolean expression;
* **`checking_sound`**: what a successful analysis says about the value.
-/

namespace CondComp

/-! ## What is met -/

/-- The expression `m` is met from another one: it stands there, or it is met from the value of the
first declaration of a name that stands there. -/
inductive Meets (decls : List Decl) (m : Expr) : Expr → Prop
  | here : Meets decls m m
  | eqLeft {a b : Expr} (h : Meets decls m a) : Meets decls m (.eq a b)
  | eqRight {a b : Expr} (h : Meets decls m b) : Meets decls m (.eq a b)
  | andLeft {a b : Expr} (h : Meets decls m a) : Meets decls m (.and a b)
  | andRight {a b : Expr} (h : Meets decls m b) : Meets decls m (.and a b)
  | through {x : String} {d : Decl} (hd : firstDecl? decls x = some d)
      (h : Meets decls m d.value) : Meets decls m (.ident x)

/-- An expression is made of two others by an operator. -/
inductive Expr.Joins (a b : Expr) : Expr → Prop
  | eq : Joins a b (.eq a b)
  | and : Joins a b (.and a b)

/-- An expression without parts, which is no name. -/
def Expr.IsLeaf : Expr → Prop
  | ident _ | eq _ _ | and _ _ => False
  | _ => True

section Meets

variable {decls : List Decl} {m a b c : Expr}

theorem meets_leaf (hc : c.IsLeaf) : Meets decls m c ↔ m = c := by
  constructor
  · intro h
    cases h with
    | here => rfl
    | eqLeft | eqRight | andLeft | andRight | through => exact hc.elim
  · rintro rfl
    exact .here

theorem meets_join (hc : a.Joins b c) :
    Meets decls m c ↔ m = c ∨ Meets decls m a ∨ Meets decls m b := by
  constructor
  · intro h
    cases h with
    | here => exact .inl rfl
    | through => cases hc
    | eqLeft h | andLeft h =>
      cases hc
      exact .inr (.inl h)
    | eqRight h | andRight h =>
      cases hc
      exact .inr (.inr h)
  · rintro (rfl | h | h)
    · exact .here
    · cases hc with
      | eq => exact .eqLeft h
      | and => exact .andLeft h
    · cases hc with
      | eq => exact .eqRight h
      | and => exact .andRight h

theorem meets_ident {x : String} {d : Decl} (hd : firstDecl? decls x = some d) :
    Meets decls m (.ident x) ↔ m = .ident x ∨ Meets decls m d.value := by
  constructor
  · intro h
    cases h with
    | here => exact .inl rfl
    | through hd' h =>
      obtain rfl := Option.some.inj (hd.symm.trans hd')
      exact .inr h
  · rintro (rfl | h)
    · exact .here
    · exact .through hd h

end Meets

/-! ## Evaluations that agree with a type -/

/-- The values of a type. A value that is not known before the program runs is boolean. -/
def Value.Fits : Value → Ty → Prop
  | int _, t => t = .int
  | bool _, t => t = .bool
  | runtime, t => t = .bool

/-- The evaluation of an expression agrees with a type: it fails if and only if a trap is met, and
its value has the type otherwise. It meets neither a name without declaration nor a broken
expression. -/
structure Interpreted (decls : List Decl) (e : Expr) (v? : Option Value) (t : Ty) : Prop where
  fails : v? = none ↔ Meets decls .trap e
  fits : ∀ v, v? = some v → v.Fits t
  declared : ∀ x, Meets decls (.ident x) e → ∃ d, firstDecl? decls x = some d
  unbroken : ¬ Meets decls .poisoned e

namespace Interpreted

variable {decls : List Decl} {a b c : Expr} {v? w? : Option Value} {s t : Ty}

theorem value {v : Value} (hc : c.IsLeaf) (hv : v.Fits t) (htrap : c ≠ .trap)
    (hbroken : c ≠ .poisoned) : Interpreted decls c (some v) t where
  fails := by simp [meets_leaf hc, htrap.symm]
  fits _ h := Option.some.inj h ▸ hv
  declared x h := by
    obtain rfl := (meets_leaf hc).mp h
    exact hc.elim
  unbroken h := hbroken ((meets_leaf hc).mp h).symm

theorem trap : Interpreted decls .trap none .bool where
  fails := iff_of_true rfl .here
  fits _ h := nomatch h
  declared _ h := nomatch h
  unbroken h := nomatch h

/-- Both operands of an operator are evaluated, whatever their values are. -/
theorem join (ha : Interpreted decls a v? s) (hb : Interpreted decls b w? t) (hc : a.Joins b c)
    {f : Value → Value → Value} (hf : ∀ v w, (f v w).Fits .bool) :
    Interpreted decls c (v?.bind fun v => w?.bind fun w => some (f v w)) .bool where
  fails := by
    have hne : Expr.trap ≠ c := by
      rintro rfl
      cases hc
    rw [meets_join hc, ← ha.fails, ← hb.fails]
    cases v? <;> cases w? <;> simp [hne]
  fits u h := by
    obtain ⟨v, _, h⟩ := Option.bind_eq_some_iff.mp h
    obtain ⟨w, _, h⟩ := Option.bind_eq_some_iff.mp h
    cases h
    exact hf v w
  declared x h := by
    rcases (meets_join hc).mp h with rfl | h | h
    · cases hc
    · exact ha.declared x h
    · exact hb.declared x h
  unbroken h := by
    rcases (meets_join hc).mp h with rfl | h | h
    · cases hc
    · exact ha.unbroken h
    · exact hb.unbroken h

theorem ident {x : String} {d : Decl} (hd : firstDecl? decls x = some d)
    (h : Interpreted decls d.value v? t) : Interpreted decls (.ident x) v? t where
  fails := by simp [meets_ident hd, h.fails]
  fits := h.fits
  declared y hy := by
    rcases (meets_ident hd).mp hy with he | hy
    · cases he
      exact ⟨d, hd⟩
    · exact h.declared y hy
  unbroken hm := by
    rcases (meets_ident hd).mp hm with he | hm
    · cases he
    · exact h.unbroken hm

end Interpreted

/-! ## The analysis and the evaluation -/

section Agenda

variable {decls : List Decl} {e : Expr} {t : Ty}

theorem fits_and (v w : Value) : (v.and w).Fits .bool := by
  cases v <;> cases w <;> rfl

theorem interpreted_agendaWith {agendas : String → Agenda} {values : String → Option Value}
    (h : ∀ x t, (agendas x).finding = .typed t → Interpreted decls (.ident x) (values x) t)
    (he : (e.agendaWith agendas).finding = .typed t) :
    Interpreted decls e (e.evalWith values) t := by
  induction e generalizing t with
  | bool b | runtime | int n =>
    cases he
    exact .value trivial rfl Expr.noConfusion Expr.noConfusion
  | trap =>
    cases he
    exact .trap
  | poisoned => cases he
  | ident x => exact h x t he
  | eq a b iha ihb =>
    obtain ⟨s, hs, hb⟩ := typed_andThen.mp he
    obtain ⟨s', hs', hif⟩ := typed_andThen.mp hb
    have ht : t = .bool := by
      by_cases hss : s = s'
      · simp only [hss, if_true, Finding.typed.injEq] at hif
        exact hif.symm
      · simp [hss] at hif
    rw [ht]
    exact (iha hs).join (ihb hs') .eq fun _ _ => rfl
  | and a b iha ihb =>
    obtain ⟨s, hs, hb⟩ := typed_andThen.mp he
    obtain ⟨s', hs', hif⟩ := typed_andThen.mp hb
    cases hif
    exact (iha hs).join (ihb hs') .and fits_and

theorem interpreted_agendaOfName {hops : Nat} {x : String}
    (h : (agendaOfName decls hops x).finding = .typed t) :
    Interpreted decls (.ident x) (valueOf decls hops x) t := by
  induction hops generalizing x t with
  | zero => cases h
  | succ hops ih =>
    rw [agendaOfName] at h
    cases hd : firstDecl? decls x with
    | none => simp [hd] at h
    | some d =>
      simp only [hd, finding_guarded] at h
      have hvalue : valueOf decls (hops + 1) x = d.value.evalWith (valueOf decls hops) := by
        rw [valueOf, hd]
        rfl
      rw [hvalue]
      exact .ident hd (interpreted_agendaWith (fun _ _ => ih) h)

/-- **An agenda that ends with a type is followed by an evaluation that agrees with it.** -/
theorem interpreted_agenda (h : (e.agenda decls).finding = .typed t) :
    Interpreted decls e (e.eval decls) t :=
  interpreted_agendaWith (fun _ _ => interpreted_agendaOfName) h

end Agenda

section Analysis

variable {p : Program} {ctx : Context} {e : Expr} {t : Ty} {st st' : Store}

theorem typed_of_typeOf {guardHolds : ConditionId → EvalM Bool}
    (h : (p.typeOf ctx guardHolds e).run st = some (some t, st')) :
    (e.agenda p.decls).finding = .typed t := by
  rw [typeOf_run, Agenda.run, EvalM.bind_apply] at h
  obtain ⟨⟨refused, st₁⟩, _, h⟩ := Option.bind_eq_some_iff.mp h
  cases refused with
  | some x => cases h
  | none =>
    cases hf : (e.agenda p.decls).finding with
    | typed s =>
      simp only [hf, Finding.run] at h
      cases h
      rfl
    | faulty f | broken | endless =>
      simp only [hf, Finding.run] at h
      cases h

/-- **The verdict on a boolean expression**: its truth value; or a failure, because the value is not
known before the program runs, or because a trap is met. -/
theorem judge_of_interpreted (h : Interpreted p.decls e (e.eval p.decls) .bool) (source : Source)
    (st : Store) :
    (∃ b, e.eval p.decls = some (.bool b) ∧ p.judge ctx source e .bool st = some (.value b, st)) ∨
    (e.eval p.decls = some .runtime ∧ p.judge ctx source e .bool st =
      some (.failed, st.report ctx source (Fault.notConstant .runtime).message)) ∨
    (Meets p.decls .trap e ∧ p.judge ctx source e .bool st =
      some (.failed, st.report ctx .internal (Fault.notInterpretable e).message)) := by
  simp only [Program.judge, if_true]
  cases hv : e.eval p.decls with
  | none => exact .inr (.inr ⟨h.fails.mp hv, rfl⟩)
  | some v =>
    cases v with
    | bool b => exact .inl ⟨b, rfl, rfl⟩
    | int n => exact absurd (h.fits _ hv) Ty.noConfusion
    | runtime => exact .inr (.inl ⟨rfl, rfl⟩)

/-- **A successful analysis is sound for the evaluation.** The evaluation has a value of the type
that was found, known or not, or it meets a trap, whatever is answered about guards. -/
theorem checking_sound {guardHolds : ConditionId → EvalM Bool}
    (h : (p.typeOf ctx guardHolds e).run st = some (some t, st')) :
    (e.eval p.decls = none ↔ Meets p.decls .trap e) ∧
    (∀ v, e.eval p.decls = some v → ((∃ n, v = .int n) ↔ t = .int) ∧
      (t = .bool → (∃ b, v = .bool b) ∨ v = .runtime)) ∧
    (t = .bool →
      (∀ x, Meets p.decls (.ident x) e → ∃ d, firstDecl? p.decls x = some d) ∧
      ¬ Meets p.decls .poisoned e ∧
      ∀ source,
        (∃ b, e.eval p.decls = some (.bool b) ∧
          p.judge ctx source e t st' = some (.value b, st')) ∨
        (e.eval p.decls = some .runtime ∧ p.judge ctx source e t st' =
          some (.failed, st'.report ctx source (Fault.notConstant .runtime).message)) ∨
        (Meets p.decls .trap e ∧ p.judge ctx source e t st' =
          some (.failed, st'.report ctx .internal (Fault.notInterpretable e).message))) := by
  have hi : Interpreted p.decls e (e.eval p.decls) t := interpreted_agenda (typed_of_typeOf h)
  refine ⟨hi.fails, fun v hv => ?_, ?_⟩
  · have hfits := hi.fits v hv
    cases v with
    | int n =>
      have ht : t = .int := hfits
      simp [ht]
    | bool b | runtime =>
      have ht : t = .bool := hfits
      simp [ht]
  · rintro rfl
    exact ⟨hi.declared, hi.unbroken, fun source => judge_of_interpreted hi source st'⟩

end Analysis

/-- A number under a guard, a name for it, and a trap. -/
def tariff : Program where
  conditions := #[⟨.directive .version 0 (.level 0), .internal, 0⟩]
  decls := [⟨"rate", .int 3, some 0⟩, ⟨"fee", .ident "rate", some 0⟩, ⟨"pit", .trap, none⟩]

/-- The store before the guard is answered. -/
def tariffStore : Store where
  modules := ⟨#[{ name := "m", file := .internal }]⟩
  cells := #[{}]

/-- To a conjunction a number is no truth value, so that its own value is not known. A trap is met
behind its name. -/
theorem checking_sound_tariff :
    (∃ st, (tariff.typeOf {} (tariff.below {} 1 {}) (.and (.ident "fee") (.bool true))).run
        tariffStore = some (some .bool, st) ∧ st.state 0 = .included ∧
      tariff.judge {} .internal (.and (.ident "fee") (.bool true)) .bool st =
        some (.failed, st.report {} .internal (Fault.notConstant .runtime).message)) ∧
    ∃ st, (tariff.typeOf {} (tariff.below {} 1 {}) (.eq (.ident "pit") (.bool true))).run
        tariffStore = some (some .bool, st) ∧
      Meets tariff.decls .trap (.eq (.ident "pit") (.bool true)) := by
  have hfee : ((tariff.typeOf {} (tariff.below {} 1 {}) (.and (.ident "fee") (.bool true))).run
      tariffStore).map (fun r => (r.1, r.2.state 0)) = some (some .bool, .included) := by
    decide +kernel
  have hpit : ((tariff.typeOf {} (tariff.below {} 1 {}) (.eq (.ident "pit") (.bool true))).run
      tariffStore).map Prod.fst = some (some .bool) := by decide +kernel
  have hvalue : Expr.eval tariff.decls (.and (.ident "fee") (.bool true)) = some .runtime := by
    decide +kernel
  obtain ⟨⟨t, st⟩, h, hst⟩ := Option.map_eq_some_iff.mp hfee
  obtain ⟨rfl, hguard⟩ := Prod.mk.inj hst
  obtain ⟨⟨t, st₁⟩, h₁, rfl⟩ := Option.map_eq_some_iff.mp hpit
  refine ⟨⟨st, h, hguard, ?_⟩, st₁, h₁, (checking_sound h₁).1.mp (by decide +kernel)⟩
  obtain ⟨htrap, _, hbool⟩ := checking_sound h
  rcases (hbool rfl).2.2 .internal with ⟨b, hb, _⟩ | ⟨_, hjudge⟩ | ⟨hm, _⟩
  · rw [hvalue] at hb
    cases hb
  · exact hjudge
  · rw [htrap.mpr hm] at hvalue
    cases hvalue

end CondComp
