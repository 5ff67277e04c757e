import CondComp.Proofs.Agenda
import Mathlib.Data.List.Perm.Subperm
import Mathlib.Logic.Relation

/-!
# Names and what they stand for

* `Expr.names`, `Reaches`: the names that occur in an expression, and those reached from it through
  the values of first declarations;
* `HasType`: the types of expressions, guards aside;
* `Follows`, `NamesAcyclic`: no name stands for itself;
* **`typed_iff`**: an agenda ends with a type if and only if the expression has that type;
* **`exists_decl_of_reaches`**, **`reaches_of_mem`**: an agenda asks for the guards of the names
  reached, and for no others;
* `agenda_append`, `eval_append`: later declarations change neither the agenda nor the value of what
  has one.
-/

namespace CondComp

/-! ## Names -/

/-- The names that occur in an expression. -/
def Expr.names : Expr → List String
  | ident x => [x]
  | eq a b => a.names ++ b.names
  | and a b => a.names ++ b.names
  | _ => []

/-- A name is reached from an expression: it occurs there, or in the value of a name reached. -/
inductive Reaches (decls : List Decl) : Expr → String → Prop
  | occurs {e : Expr} {x : String} (h : x ∈ e.names) : Reaches decls e x
  | through {e : Expr} {x y : String} {d : Decl} (hy : y ∈ e.names)
      (hd : firstDecl? decls y = some d) (hx : Reaches decls d.value x) : Reaches decls e x

/-- The types of expressions. A name has the type of the value of its first declaration. -/
inductive HasType (decls : List Decl) : Expr → Ty → Prop
  | bool (b : Bool) : HasType decls (.bool b) .bool
  | runtime : HasType decls .runtime .bool
  | trap : HasType decls .trap .bool
  | int (n : Int) : HasType decls (.int n) .int
  | ident {x : String} {d : Decl} {t : Ty} (hd : firstDecl? decls x = some d)
      (hv : HasType decls d.value t) : HasType decls (.ident x) t
  | eq {a b : Expr} {t : Ty} (ha : HasType decls a t) (hb : HasType decls b t) :
      HasType decls (.eq a b) .bool
  | and {a b : Expr} {s t : Ty} (ha : HasType decls a s) (hb : HasType decls b t) :
      HasType decls (.and a b) .bool

/-- The second name occurs in the value of the first one. -/
def Follows (decls : List Decl) (x y : String) : Prop :=
  ∃ d, firstDecl? decls x = some d ∧ y ∈ d.value.names

/-- Following names through values never leads back. -/
def NamesAcyclic (decls : List Decl) : Prop := ∀ x, ¬ Relation.TransGen (Follows decls) x x

theorem not_transGen_self {α : Type} {r : α → α → Prop} {x : α} (h : Acc (Function.swap r) x) :
    ¬ Relation.TransGen r x x := by
  rw [← acc_transGen_iff] at h
  induction h with
  | intro x _ ih => exact fun hx => ih x (Relation.transGen_swap.mpr hx) hx

theorem namesAcyclic_of_rank {decls : List Decl} (r : String → Nat)
    (h : ∀ x y, Follows decls x y → r y < r x) : NamesAcyclic decls := by
  intro x hx
  have hlt : ∀ y, Relation.TransGen (Follows decls) x y → r y < r x := by
    intro y hy
    induction hy with
    | single hxy => exact h _ _ hxy
    | tail _ hyz ih => exact Nat.lt_trans (h _ _ hyz) ih
  exact Nat.lt_irrefl _ (hlt x hx)

/-! ## Agendas in sequence -/

theorem typed_andThen {a : Agenda} {f : Ty → Agenda} {t : Ty} :
    (a.andThen f).finding = .typed t ↔ ∃ s, a.finding = .typed s ∧ (f s).finding = .typed t := by
  obtain ⟨qs, finding⟩ := a
  cases finding <;> simp [Agenda.andThen]

theorem finding_andThen {a : Agenda} {f : Ty → Agenda} {k : Finding} (hk : ∀ t, k ≠ .typed t) :
    (a.andThen f).finding = k ↔
      a.finding = k ∨ ∃ s, a.finding = .typed s ∧ (f s).finding = k := by
  obtain ⟨qs, finding⟩ := a
  cases finding with
  | typed s => simp [Agenda.andThen, (hk s).symm]
  | faulty | broken | endless => simp [Agenda.andThen]

theorem endless_andThen {a : Agenda} {f : Ty → Agenda} :
    (a.andThen f).finding = .endless ↔
      a.finding = .endless ∨ ∃ s, a.finding = .typed s ∧ (f s).finding = .endless :=
  finding_andThen fun _ => Finding.noConfusion

theorem mem_questions_andThen {a : Agenda} {f : Ty → Agenda} {q : String × ConditionId} :
    q ∈ (a.andThen f).questions ↔
      q ∈ a.questions ∨ ∃ s, a.finding = .typed s ∧ q ∈ (f s).questions := by
  obtain ⟨qs, finding⟩ := a
  cases finding <;> simp [Agenda.andThen]

@[simp] theorem finding_guarded (x : String) (g : Option ConditionId) (a : Agenda) :
    (a.guarded x g).finding = a.finding := by
  cases g <;> rfl

theorem mem_questions_guarded {x : String} {g : Option ConditionId} {a : Agenda}
    {q : String × ConditionId} :
    q ∈ (a.guarded x g).questions ↔ (q.1 = x ∧ g = some q.2) ∨ q ∈ a.questions := by
  cases g with
  | none => simp [Agenda.guarded]
  | some g => simp [Agenda.guarded, Prod.ext_iff, eq_comm]

/-! ## Types -/

section Types

variable {decls : List Decl}

theorem hasType_of_agendaWith {lookup : String → Agenda}
    (h : ∀ x t, (lookup x).finding = .typed t → HasType decls (.ident x) t) {e : Expr} {t : Ty}
    (he : (e.agendaWith lookup).finding = .typed t) : HasType decls e t := by
  induction e generalizing t with
  | bool b => cases he; exact .bool b
  | int n => cases he; exact .int n
  | runtime => cases he; exact .runtime
  | trap => cases he; exact .trap
  | poisoned => cases he
  | ident x => exact h x t he
  | eq a b iha ihb =>
    obtain ⟨s, hs, hb⟩ := typed_andThen.mp he
    obtain ⟨s', hs', hif⟩ := typed_andThen.mp hb
    by_cases hss : s = s'
    · subst hss
      simp only [if_true, Finding.typed.injEq] at hif
      subst hif
      exact .eq (iha hs) (ihb hs')
    · simp [hss] at hif
  | and a b iha ihb =>
    obtain ⟨s, hs, hb⟩ := typed_andThen.mp he
    obtain ⟨s', hs', hif⟩ := typed_andThen.mp hb
    cases hif
    exact .and (iha hs) (ihb hs')

theorem hasType_of_agendaOfName {hops : Nat} {x : String} {t : Ty}
    (h : (agendaOfName decls hops x).finding = .typed t) : HasType decls (.ident x) t := by
  induction hops generalizing x t with
  | zero => cases h
  | succ hops ih =>
    rw [agendaOfName] at h
    cases hd : firstDecl? decls x with
    | none => simp [hd] at h
    | some d =>
      simp only [hd, finding_guarded] at h
      exact .ident hd (hasType_of_agendaWith (fun _ _ => ih) h)

theorem typed_or_endless {e : Expr} {t : Ty} (h : HasType decls e t) (hops : Nat) :
    (e.agendaWith (agendaOfName decls hops)).finding = .typed t ∨
      (e.agendaWith (agendaOfName decls hops)).finding = .endless := by
  induction h generalizing hops with
  | bool b | runtime | trap | int n => exact .inl rfl
  | ident hd _ ih =>
    cases hops with
    | zero => exact .inr rfl
    | succ hops => simpa [Expr.agendaWith, agendaOfName, hd] using ih hops
  | eq _ _ iha ihb | and _ _ iha ihb =>
    simp only [Expr.agendaWith, typed_andThen, endless_andThen]
    rcases iha hops with ha | ha
    · rcases ihb hops with hb | hb <;> simp [ha, hb]
    · simp [ha]

end Types

/-! ## Agendas without end -/

theorem exists_endless {lookup : String → Agenda} {e : Expr}
    (h : (e.agendaWith lookup).finding = .endless) :
    ∃ y ∈ e.names, (lookup y).finding = .endless := by
  induction e with
  | bool _ | int _ | runtime | trap | poisoned => cases h
  | ident x => exact ⟨x, List.mem_singleton_self x, h⟩
  | eq a b iha ihb | and a b iha ihb =>
    rcases endless_andThen.mp h with ha | ⟨s, _, hb⟩
    · obtain ⟨y, hy, hl⟩ := iha ha
      exact ⟨y, List.mem_append_left _ hy, hl⟩
    · rcases endless_andThen.mp hb with hb | ⟨s', _, hif⟩
      · obtain ⟨y, hy, hl⟩ := ihb hb
        exact ⟨y, List.mem_append_right _ hy, hl⟩
      · by_cases hss : s = s' <;> simp [hss] at hif

theorem name_mem_of_firstDecl {decls : List Decl} {x : String} {d : Decl}
    (h : firstDecl? decls x = some d) : x ∈ decls.map Decl.name := by
  have hx : d.name = x := by simpa using List.find?_some h
  exact List.mem_map.mpr ⟨d, List.mem_of_find?_eq_some h, hx⟩

/-- A way without end through more names than are declared meets one of them twice. -/
theorem agendaOfName_ne_endless {decls : List Decl} (hac : NamesAcyclic decls) (hops : Nat)
    (x : String) (visited : List String) (hn : visited.Nodup)
    (hv : ∀ v ∈ visited, v ∈ decls.map Decl.name ∧ Relation.TransGen (Follows decls) v x)
    (hlen : hops + visited.length = decls.length + 1) :
    (agendaOfName decls hops x).finding ≠ .endless := by
  induction hops generalizing x visited with
  | zero =>
    have hsub : visited ⊆ decls.map Decl.name := fun v hm => (hv v hm).1
    have := (List.Nodup.subperm hn hsub).length_le
    rw [List.length_map] at this
    omega
  | succ hops ih =>
    intro h
    rw [agendaOfName] at h
    cases hd : firstDecl? decls x with
    | none => simp [hd] at h
    | some d =>
      simp only [hd, finding_guarded] at h
      obtain ⟨y, hy, hend⟩ := exists_endless h
      have hxy : Follows decls x y := ⟨d, hd, hy⟩
      have hx : x ∉ visited := fun hm => hac x (hv x hm).2
      refine ih y (x :: visited) (List.nodup_cons.mpr ⟨hx, hn⟩) ?_ ?_ hend
      · intro v hm
        rcases List.mem_cons.mp hm with rfl | hm
        · exact ⟨name_mem_of_firstDecl hd, .single hxy⟩
        · exact ⟨(hv v hm).1, (hv v hm).2.tail hxy⟩
      · rw [List.length_cons]
        omega

theorem agenda_ne_endless {decls : List Decl} (hac : NamesAcyclic decls) (e : Expr) :
    (e.agenda decls).finding ≠ .endless := by
  intro h
  obtain ⟨y, _, hy⟩ := exists_endless h
  exact agendaOfName_ne_endless hac _ y [] List.nodup_nil (by simp) (by simp [hopLimit]) hy

/-- **An agenda ends with a type if and only if the expression has that type.** -/
theorem typed_iff {decls : List Decl} (hac : NamesAcyclic decls) {e : Expr} {t : Ty} :
    (e.agenda decls).finding = .typed t ↔ HasType decls e t := by
  constructor
  · exact hasType_of_agendaWith fun _ _ => hasType_of_agendaOfName
  · intro h
    exact (typed_or_endless h _).resolve_right (agenda_ne_endless hac e)

/-! ## Questions -/

section Questions

variable {decls : List Decl}

theorem names_of_typed {lookup : String → Agenda} {e : Expr} {t : Ty}
    (h : (e.agendaWith lookup).finding = .typed t) {x : String} (hx : x ∈ e.names) :
    (∃ s, (lookup x).finding = .typed s) ∧
      (lookup x).questions ⊆ (e.agendaWith lookup).questions := by
  induction e generalizing t with
  | bool _ | int _ | runtime | trap | poisoned => cases hx
  | ident y =>
    obtain rfl := List.mem_singleton.mp hx
    exact ⟨⟨t, h⟩, List.Subset.refl _⟩
  | eq a b iha ihb | and a b iha ihb =>
    obtain ⟨s, hs, hb⟩ := typed_andThen.mp h
    obtain ⟨s', hs', _⟩ := typed_andThen.mp hb
    rcases List.mem_append.mp hx with hx | hx
    · obtain ⟨ht, hsub⟩ := iha hs hx
      exact ⟨ht, fun q hq => mem_questions_andThen.mpr (.inl (hsub hq))⟩
    · obtain ⟨ht, hsub⟩ := ihb hs' hx
      refine ⟨ht, fun q hq => mem_questions_andThen.mpr (.inr ⟨s, hs, ?_⟩)⟩
      exact mem_questions_andThen.mpr (.inl (hsub hq))

/-- **Every name reached is declared, and its guard is on the agenda**, if the agenda ends with a
type. -/
theorem exists_decl_of_reaches {e : Expr} {x : String} (hx : Reaches decls e x) {hops : Nat}
    {t : Ty} (h : (e.agendaWith (agendaOfName decls hops)).finding = .typed t) :
    ∃ d, firstDecl? decls x = some d ∧ ∀ g, d.guard = some g →
      (x, g) ∈ (e.agendaWith (agendaOfName decls hops)).questions := by
  induction hx generalizing hops t with
  | @occurs e x hx =>
    obtain ⟨⟨s, hs⟩, hsub⟩ := names_of_typed h hx
    cases hops with
    | zero => cases hs
    | succ hops =>
      rw [agendaOfName] at hs hsub
      cases hd : firstDecl? decls x with
      | none => simp [hd] at hs
      | some d =>
        simp only [hd] at hsub
        exact ⟨d, rfl, fun g hg => hsub (mem_questions_guarded.mpr (.inl ⟨rfl, hg⟩))⟩
  | @through e x y d hy hd _ ih =>
    obtain ⟨⟨s, hs⟩, hsub⟩ := names_of_typed h hy
    cases hops with
    | zero => cases hs
    | succ hops =>
      rw [agendaOfName] at hs hsub
      simp only [hd, finding_guarded] at hs hsub
      obtain ⟨d', hd', hq⟩ := ih hs
      exact ⟨d', hd', fun g hg => hsub (mem_questions_guarded.mpr (.inr (hq g hg)))⟩

theorem exists_name_of_mem {lookup : String → Agenda} {e : Expr} {q : String × ConditionId}
    (h : q ∈ (e.agendaWith lookup).questions) : ∃ y ∈ e.names, q ∈ (lookup y).questions := by
  induction e with
  | bool _ | int _ | runtime | trap | poisoned => cases h
  | ident x => exact ⟨x, List.mem_singleton_self x, h⟩
  | eq a b iha ihb | and a b iha ihb =>
    rcases mem_questions_andThen.mp h with ha | ⟨s, _, hb⟩
    · obtain ⟨y, hy, hq⟩ := iha ha
      exact ⟨y, List.mem_append_left _ hy, hq⟩
    · rcases mem_questions_andThen.mp hb with hb | ⟨s', _, hif⟩
      · obtain ⟨y, hy, hq⟩ := ihb hb
        exact ⟨y, List.mem_append_right _ hy, hq⟩
      · cases hif

/-- **An agenda asks for guards of names reached only.** -/
theorem reaches_of_mem {hops : Nat} {e : Expr} {x : String} {g : ConditionId}
    (h : (x, g) ∈ (e.agendaWith (agendaOfName decls hops)).questions) :
    Reaches decls e x ∧ ∃ d, firstDecl? decls x = some d ∧ d.guard = some g := by
  induction hops generalizing e with
  | zero =>
    obtain ⟨y, _, hq⟩ := exists_name_of_mem h
    cases hq
  | succ hops ih =>
    obtain ⟨y, hy, hq⟩ := exists_name_of_mem h
    rw [agendaOfName] at hq
    cases hd : firstDecl? decls y with
    | none => simp [hd] at hq
    | some d =>
      simp only [hd] at hq
      rcases mem_questions_guarded.mp hq with ⟨rfl, hg⟩ | hq
      · exact ⟨.occurs hy, d, hd, hg⟩
      · obtain ⟨hr, hd'⟩ := ih hq
        exact ⟨.through hy hd hr, hd'⟩

end Questions

/-! ## Later declarations -/

section Later

variable {decls : List Decl} (ds : List Decl)

theorem firstDecl?_append {x : String} {d : Decl} (h : firstDecl? decls x = some d) :
    firstDecl? (decls ++ ds) x = some d := by
  rw [firstDecl?] at h
  simp [firstDecl?, List.find?_append, h]

theorem agendaWith_congr {l l' : String → Agenda}
    (h : ∀ x t, (l x).finding = .typed t → l' x = l x) {e : Expr} {t : Ty}
    (he : (e.agendaWith l).finding = .typed t) : e.agendaWith l' = e.agendaWith l := by
  induction e generalizing t with
  | bool _ | int _ | runtime | trap | poisoned => rfl
  | ident x => exact h x t he
  | eq a b iha ihb | and a b iha ihb =>
    obtain ⟨s, hs, hb⟩ := typed_andThen.mp he
    obtain ⟨s', hs', _⟩ := typed_andThen.mp hb
    rw [Expr.agendaWith, Expr.agendaWith, iha hs, ihb hs']

theorem agendaOfName_append {hops hops' : Nat} (hle : hops ≤ hops') {x : String} {t : Ty}
    (h : (agendaOfName decls hops x).finding = .typed t) :
    agendaOfName (decls ++ ds) hops' x = agendaOfName decls hops x := by
  induction hops generalizing hops' x t with
  | zero => cases h
  | succ hops ih =>
    obtain ⟨k, rfl⟩ : ∃ k, hops' = k + 1 := ⟨hops' - 1, by omega⟩
    rw [agendaOfName] at h ⊢
    cases hd : firstDecl? decls x with
    | none => simp [hd] at h
    | some d =>
      simp only [hd, finding_guarded] at h
      simp only [agendaOfName, firstDecl?_append ds hd, hd]
      rw [agendaWith_congr (fun y s hy => ih (by omega) hy) h]

theorem agenda_append {e : Expr} {t : Ty} (h : (e.agenda decls).finding = .typed t) :
    e.agenda (decls ++ ds) = e.agenda decls :=
  agendaWith_congr (fun _ _ => agendaOfName_append ds (by simp [hopLimit])) h

theorem evalWith_mono {l l' : String → Option Value} (h : ∀ x v, l x = some v → l' x = some v)
    {e : Expr} {v : Value} (he : e.evalWith l = some v) : e.evalWith l' = some v := by
  induction e generalizing v with
  | bool _ | int _ | runtime | trap | poisoned => exact he
  | ident x => exact h x v he
  | eq a b iha ihb | and a b iha ihb =>
    simp only [Expr.evalWith, Option.bind_eq_bind, Option.bind_eq_some_iff] at he ⊢
    obtain ⟨v, hv, w, hw, hr⟩ := he
    exact ⟨v, iha hv, w, ihb hw, hr⟩

theorem valueOf_append {hops hops' : Nat} (hle : hops ≤ hops') {x : String} {v : Value}
    (h : valueOf decls hops x = some v) : valueOf (decls ++ ds) hops' x = some v := by
  induction hops generalizing hops' x v with
  | zero => cases h
  | succ hops ih =>
    obtain ⟨k, rfl⟩ : ∃ k, hops' = k + 1 := ⟨hops' - 1, by omega⟩
    simp only [valueOf, Option.bind_eq_bind, Option.bind_eq_some_iff] at h ⊢
    obtain ⟨d, hd, hv⟩ := h
    exact ⟨d, firstDecl?_append ds hd, evalWith_mono (fun y w => ih (by omega)) hv⟩

theorem eval_append {e : Expr} {v : Value} (h : e.eval decls = some v) :
    e.eval (decls ++ ds) = some v :=
  evalWith_mono (fun _ _ => valueOf_append ds (by simp [hopLimit])) h

end Later

end CondComp
