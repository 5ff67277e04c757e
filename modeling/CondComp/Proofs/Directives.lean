import CondComp.CommandLine.Report
import CondComp.Proofs.Dependencies
import CondComp.Proofs.Settings
import CondComp.Proofs.Truth

/-!
# Directives in order

A query performs its directives one after the other, on tables that the earlier ones have changed.
What it prints and reports can be read off the order of the directives alone.

* `firstMention?`: the directive that mentions an identifier first;
* `Directive.Included`, `Directive.refusal?`, `Directive.IsOwn`: the answer to a question, the
  refusal of a declaration, and whether the module itself declares what is asked, by the order;
* `Recorded`: the table of a namespace records the directives so far; **`recorded_append`**: a
  directive more leaves it so;
* **`performAll_eq`**: directives print, report and log what the order says;
* **`run_by_order`**: so does a query.
-/

namespace CondComp

/-! ## What the order says -/

namespace Directive

/-- The directive mentions an identifier of a namespace. -/
def Mentions (ns : Namespace) (x : String) (d : Directive) : Prop :=
  d = .ask ns (.identifier x) ∨ d = .declare ns (.identifier x)

instance (ns : Namespace) (x : String) (d : Directive) : Decidable (d.Mentions ns x) :=
  inferInstanceAs (Decidable (_ ∨ _))

/-- The directive declares a level of a namespace that is at least `n`. -/
def Raises (ns : Namespace) (n : Nat) : Directive → Prop
  | .declare ns' (.level k) => ns' = ns ∧ n ≤ k
  | _ => False

instance (ns : Namespace) (n : Nat) (d : Directive) : Decidable (d.Raises ns n) :=
  match d with
  | .declare ns' (.level k) => inferInstanceAs (Decidable (ns' = ns ∧ n ≤ k))
  | .declare _ (.identifier _) => .isFalse id
  | .ask _ _ => .isFalse id

/-- The directive that mentions an identifier first, if it stands before position `i`. -/
def firstMention? (ds : List Directive) (i : Nat) (ns : Namespace) (x : String) :
    Option Directive :=
  (ds.findIdx? fun d => d.Mentions ns x).bind fun j => if j < i then ds[j]? else none

section Order

variable (g : Globals) (ds : List Directive) (i : Nat) (ns : Namespace)

/-- The answer to a question at position `i` is yes. A level is declared globally or by an earlier
directive; an identifier is defined globally, or declared before any directive asks about it. -/
def Included : Query → Prop
  | .level n => n = 0 ∨ n ≤ g.level ns ∨ ∃ d ∈ ds.take i, d.Raises ns n
  | .identifier x => g.isDefined ns x = true ∨
      isReserved ns x = false ∧ firstMention? ds i ns x = some (.declare ns (.identifier x))

instance (q : Query) : Decidable (Included g ds i ns q) :=
  match q with
  | .level _ => inferInstanceAs (Decidable (_ ∨ _ ∨ _))
  | .identifier _ => inferInstanceAs (Decidable (_ ∨ _ ∧ _))

/-- The module itself declares what a question at position `i` asks about. -/
def IsOwn : Query → Prop
  | .level _ => False
  | .identifier x => isReserved ns x = false ∧ .declare ns (.identifier x) ∈ ds.take i ∧
      (g.isDefined ns x = true ∨
        firstMention? ds i ns x = some (.declare ns (.identifier x)))

instance (q : Query) : Decidable (IsOwn g ds i ns q) :=
  match q with
  | .level _ => inferInstanceAs (Decidable False)
  | .identifier _ => inferInstanceAs (Decidable (_ ∧ _ ∧ _))

/-- Why the declaration of an identifier at position `i` is refused. -/
def refusal? : Directive → Option DeclareError
  | .declare ns (.identifier x) =>
    if isReserved ns x = true then some (.reserved x)
    else if g.isDefined ns x = false ∧
        firstMention? ds i ns x = some (.ask ns (.identifier x)) then
      some (.definedAfterUse ns x)
    else none
  | _ => none

/-- The line that a directive at position `i` prints. -/
def line? : Directive → Option String
  | .ask ns q => some (answerLine ns q (decide (Included g ds i ns q)))
  | .declare _ _ => none

/-- The error that a directive at position `i` reports. -/
def error? (file : FileId) (d : Directive) : Option Diagnostic :=
  (refusal? g ds i d).map fun e => .errorAt ⟨file, ⟨i + 1, 1⟩⟩ e.message

/-- The dependency that a directive at position `i` logs. -/
def dependency? : Directive → Option Dependency
  | .ask ns q =>
    if IsOwn g ds i ns q ∨ q.isLogged ns = false then none
    else some ⟨ns, queriedModule, commandLineFile, q⟩
  | .declare _ _ => none

end Order

/-- What `f` reads off the directives of a list, the first of which is at position `start`. -/
def readFrom {α : Type} (f : Nat → Directive → Option α) (start : Nat) (ds : List Directive) :
    List α := (ds.zipIdx start).filterMap fun d => f d.2 d.1

theorem readFrom_cons {α : Type} (f : Nat → Directive → Option α) (start : Nat) (d : Directive)
    (ds : List Directive) :
    readFrom f start (d :: ds) = (f start d).toList ++ readFrom f (start + 1) ds := by
  rw [readFrom, List.zipIdx_cons, List.filterMap_cons, readFrom]
  cases f start d <;> rfl

/-! ## First mentions -/

section Mentions

variable {ns : Namespace} {x : String} {pre : List Directive}

/-- The first directive of a list to mention an identifier. -/
def mention? (pre : List Directive) (ns : Namespace) (x : String) : Option Directive :=
  pre.find? fun d => d.Mentions ns x

theorem firstMention?_eq (ds : List Directive) (i : Nat) :
    firstMention? ds i ns x = mention? (ds.take i) ns x := by
  rw [mention?]
  induction ds generalizing i with
  | nil => simp [firstMention?]
  | cons d ds ih =>
    cases i with
    | zero =>
      cases h : (d :: ds).findIdx? fun d => decide (d.Mentions ns x) <;> simp [firstMention?, h]
    | succ i =>
      rw [List.take_succ_cons, List.find?_cons, ← ih, firstMention?, firstMention?,
        List.findIdx?_cons]
      by_cases hd : d.Mentions ns x
      · simp [hd]
      · simp only [hd, decide_false, Bool.false_eq_true, if_false, Option.bind_map]
        refine Option.bind_congr fun j _ => ?_
        simp

theorem firstMention?_append (ds : List Directive) :
    firstMention? (pre ++ ds) pre.length ns x = mention? pre ns x := by
  rw [firstMention?_eq, List.take_left]

theorem mem_of_mention? {d : Directive} (h : mention? pre ns x = some d) : d ∈ pre :=
  List.mem_of_find?_eq_some h

theorem mention?_cases (pre : List Directive) (ns : Namespace) (x : String) :
    mention? pre ns x = none ∨ mention? pre ns x = some (ask ns (.identifier x)) ∨
    mention? pre ns x = some (declare ns (.identifier x)) := by
  cases h : mention? pre ns x with
  | none => exact .inl rfl
  | some d =>
    have hd : d.Mentions ns x := by simpa using List.find?_some h
    rcases hd with rfl | rfl
    · exact .inr (.inl rfl)
    · exact .inr (.inr rfl)

theorem mention?_append_ask :
    (mention? (pre ++ [ask ns (.identifier x)]) ns x = some (declare ns (.identifier x)) ↔
      mention? pre ns x = some (declare ns (.identifier x))) ∧
    (mention? (pre ++ [ask ns (.identifier x)]) ns x = some (ask ns (.identifier x)) ↔
      mention? pre ns x ≠ some (declare ns (.identifier x))) := by
  have happend : mention? (pre ++ [ask ns (.identifier x)]) ns x =
      (mention? pre ns x).or (some (ask ns (.identifier x))) := by
    simp [mention?, List.find?_append, Mentions]
  rw [happend]
  rcases mention?_cases pre ns x with h | h | h <;> simp [h]

theorem mention?_append_declare :
    (mention? (pre ++ [declare ns (.identifier x)]) ns x = some (declare ns (.identifier x)) ↔
      mention? pre ns x ≠ some (ask ns (.identifier x))) ∧
    (mention? (pre ++ [declare ns (.identifier x)]) ns x = some (ask ns (.identifier x)) ↔
      mention? pre ns x = some (ask ns (.identifier x))) := by
  have happend : mention? (pre ++ [declare ns (.identifier x)]) ns x =
      (mention? pre ns x).or (some (declare ns (.identifier x))) := by
    simp [mention?, List.find?_append, Mentions]
  rw [happend]
  rcases mention?_cases pre ns x with h | h | h <;> simp [h]

theorem mention?_append_of_not {d : Directive} (h : ¬ d.Mentions ns x) :
    mention? (pre ++ [d]) ns x = mention? pre ns x := by
  simp [mention?, List.find?_append, h]

end Mentions

/-! ## What the tables record -/

/-- What a directive leaves of the table of a namespace of the module. -/
def tableAfter (g : Globals) (ns : Namespace) (t : Declared) : Directive → Declared
  | .ask ns' (.identifier x) => if ns' = ns then (t.lookup (g.get ns) x).2 else t
  | .ask _ (.level _) => t
  | .declare ns' (.identifier x) =>
    if ns' = ns then ((t.declare ns x).toOption).getD t else t
  | .declare ns' (.level n) => if ns' = ns then t.raiseLevel n else t

/-- The table of a namespace records the directives so far: what is declared in it, what was asked
about in vain, and the level. -/
structure Recorded (g : Globals) (ns : Namespace) (pre : List Directive) (t : Declared) : Prop where
  defined (x : String) : x ∈ t.defined ↔ isReserved ns x = false ∧
    declare ns (.identifier x) ∈ pre ∧
      (g.isDefined ns x = true ∨ mention? pre ns x = some (declare ns (.identifier x)))
  missed (x : String) (hx : isReserved ns x = false) : x ∈ t.missed ↔
    g.isDefined ns x = false ∧ mention? pre ns x = some (ask ns (.identifier x))
  level (n : Nat) : n ≤ t.level ↔ n = 0 ∨ ∃ d ∈ pre, d.Raises ns n

section Tables

variable {g : Globals} {ns : Namespace} {pre : List Directive} {t : Declared}

theorem mem_tableAfter {d : Directive} {x : String} (h : ¬ d.Mentions ns x) :
    (x ∈ (d.tableAfter g ns t).defined ↔ x ∈ t.defined) ∧
      (x ∈ (d.tableAfter g ns t).missed ↔ x ∈ t.missed) := by
  unfold tableAfter
  split
  · next ns' y =>
    have hne : ns' = ns → x ≠ y := by
      rintro rfl rfl
      exact h (.inl rfl)
    split_ifs with hns
    · unfold Declared.lookup
      split <;> simp [Declared.miss, hne hns]
    · simp
  · simp
  · next ns' y =>
    have hne : ns' = ns → x ≠ y := by
      rintro rfl rfl
      exact h (.inr rfl)
    split_ifs with hns
    · unfold Declared.declare
      split_ifs <;> simp [Except.toOption, Declared.define, hne hns]
    · simp
  · split_ifs <;> simp [Declared.raiseLevel]

theorem le_level_tableAfter (d : Directive) (n : Nat) :
    n ≤ (d.tableAfter g ns t).level ↔ n ≤ t.level ∨ d.Raises ns n := by
  unfold tableAfter
  split
  · split_ifs
    · simp [(Declared.lookup_snd _ _ _).2, Raises]
    · simp [Raises]
  · simp [Raises]
  · split_ifs
    · unfold Declared.declare
      split_ifs <;> simp [Except.toOption, Declared.define, Raises]
    · simp [Raises]
  · split_ifs with hns
    · simp only [Declared.raiseLevel, Raises, hns, true_and]
      omega
    · simp [Raises, hns]

theorem mem_tableAfter_ask (x : String) :
    (x ∈ ((ask ns (.identifier x)).tableAfter g ns t).defined ↔ x ∈ t.defined) ∧
      (x ∈ ((ask ns (.identifier x)).tableAfter g ns t).missed ↔
        x ∈ t.missed ∨ x ∉ t.defined ∧ g.isDefined ns x = false) := by
  rw [tableAfter, if_pos rfl]
  simp only [Declared.lookup, Declared.definition, Globals.isDefined, decide_eq_false_iff_not]
  by_cases hd : x ∈ t.defined
  · simp [hd]
  · by_cases hg : x ∈ (g.get ns).identifiers
    · simp [hd, hg]
    · simp [hd, hg, Declared.miss]

theorem mem_tableAfter_declare (x : String) :
    (x ∈ ((declare ns (.identifier x)).tableAfter g ns t).defined ↔
        x ∈ t.defined ∨ isReserved ns x = false ∧ x ∉ t.missed) ∧
      ((declare ns (.identifier x)).tableAfter g ns t).missed = t.missed := by
  rw [tableAfter, if_pos rfl, Declared.declare]
  by_cases hr : isReserved ns x = true
  · simp [hr, Except.toOption]
  · by_cases hm : x ∈ t.missed
    · simp [hr, hm, Except.toOption]
    · simp [hr, hm, Except.toOption, Declared.define]

theorem recorded_nil : Recorded g ns [] {} where
  defined x := by simp [IdentifierSet.mem_iff, IdentifierSet.empty]
  missed x _ := by simp [IdentifierSet.mem_iff, IdentifierSet.empty, mention?]
  level n := by simp

/-- **A directive more is recorded in the table that it leaves.** -/
theorem recorded_append (h : Recorded g ns pre t) (d : Directive) :
    Recorded g ns (pre ++ [d]) (d.tableAfter g ns t) := by
  constructor
  · intro x
    by_cases hd : d.Mentions ns x
    · rcases hd with rfl | rfl
      · rw [(mem_tableAfter_ask x).1, h.defined, mention?_append_ask.1]
        simp
      · rw [(mem_tableAfter_declare x).1, h.defined, mention?_append_declare.1]
        have hne : mention? pre ns x = some (declare ns (.identifier x)) →
            mention? pre ns x ≠ some (ask ns (.identifier x)) := by simp_all
        by_cases hr : isReserved ns x = false
        · rw [h.missed x hr]
          cases hg : g.isDefined ns x with
          | true => simp [hr]
          | false =>
            simp only [hr, true_and, Bool.false_eq_true, false_or]
            simp
            tauto
        · simp [hr]
    · have hne : d ≠ declare ns (.identifier x) := fun he => hd (.inr he)
      rw [(mem_tableAfter hd).1, h.defined, mention?_append_of_not hd]
      simp [Ne.symm hne]
  · intro x hx
    by_cases hd : d.Mentions ns x
    · rcases hd with rfl | rfl
      · rw [(mem_tableAfter_ask x).2, h.missed x hx, h.defined, mention?_append_ask.2]
        have hmem : mention? pre ns x = some (declare ns (.identifier x)) →
            declare ns (.identifier x) ∈ pre := mem_of_mention?
        have hne : mention? pre ns x = some (ask ns (.identifier x)) →
            mention? pre ns x ≠ some (declare ns (.identifier x)) := by simp_all
        cases hg : g.isDefined ns x with
        | true => simp
        | false =>
          simp only [hx, true_and, Bool.false_eq_true, false_or, and_true]
          tauto
      · rw [(mem_tableAfter_declare x).2, h.missed x hx, mention?_append_declare.2]
    · rw [(mem_tableAfter hd).2, h.missed x hx, mention?_append_of_not hd]
  · intro n
    rw [le_level_tableAfter, h.level]
    simp [or_assoc, or_and_right, exists_or]

end Tables

/-! ## Performing directives -/

section Perform

variable {p : Program} {m : ModuleId} {file : FileId} {pre ds : List Directive} {st : Store}

/-- A module whose tables record the directives so far. -/
structure Records (p : Program) (m : ModuleId) (file : FileId) (pre : List Directive)
    (st : Store) : Prop where
  label : st.modules.label? m = some (queriedModule, file)
  table (ns : Namespace) : Recorded p.globals ns pre (st.modules.declared m ns)

theorem Records.lt_count (h : Records p m file pre st) : m < st.modules.count := by
  by_contra hm
  have hnone : st.modules.get? m = none := Array.getElem?_eq_none (Nat.le_of_not_lt hm)
  have hlabel := h.label
  rw [Modules.label?, hnone] at hlabel
  cases hlabel

theorem Records.satisfy_iff (h : Records p m file pre st) (ds : List Directive) (ns : Namespace)
    (q : Query) : st.modules.Satisfy p.globals ns m q ↔
      Included p.globals (pre ++ ds) pre.length ns q := by
  cases q with
  | level n =>
    rw [Modules.Satisfy, Included, List.take_left, (h.table ns).level]
    simp only [Globals.level]
    tauto
  | identifier x =>
    have hmem : mention? pre ns x = some (declare ns (.identifier x)) →
        declare ns (.identifier x) ∈ pre := mem_of_mention?
    rw [Modules.Satisfy, Included, firstMention?_append, (h.table ns).defined]
    simp only [Globals.isDefined, decide_eq_true_eq]
    tauto

theorem Records.declares_iff (h : Records p m file pre st) (ds : List Directive) (ns : Namespace)
    (q : Query) : st.modules.Declares ns m q ↔ IsOwn p.globals (pre ++ ds) pre.length ns q := by
  cases q with
  | level n => rfl
  | identifier x =>
    rw [Modules.Declares, IsOwn, firstMention?_append, List.take_left, (h.table ns).defined]

theorem Records.declare_eq (h : Records p m file pre st) (ds : List Directive) (ns : Namespace)
    (x : String) : (st.modules.declared m ns).declare ns x =
      match refusal? p.globals (pre ++ ds) pre.length (declare ns (.identifier x)) with
      | some e => .error e
      | none => .ok ((st.modules.declared m ns).define x) := by
  rw [refusal?, firstMention?_append, Declared.declare]
  by_cases hr : isReserved ns x = true
  · simp [hr]
  · have hr' : isReserved ns x = false := by simpa using hr
    rw [if_neg hr, if_neg hr]
    by_cases hm : x ∈ (st.modules.declared m ns).missed
    · rw [if_pos hm, if_pos (((h.table ns).missed x hr').mp hm)]
    · rw [if_neg hm, if_neg fun hm' => hm (((h.table ns).missed x hr').mpr hm')]

theorem Records.modules_declare (h : Records p m file pre st) (ds : List Directive) (ns : Namespace)
    (x : String) : st.modules.declare m ns x =
      match refusal? p.globals (pre ++ ds) pre.length (declare ns (.identifier x)) with
      | some e => .error e
      | none => .ok (st.modules.setDeclared m ns ((st.modules.declared m ns).define x)) := by
  rw [Modules.declare, h.declare_eq ds]
  cases refusal? p.globals (pre ++ ds) pre.length (declare ns (.identifier x)) <;> rfl

theorem declared_perform (hm : m < st.modules.count) (d : Directive) (source : Source)
    (ns : Namespace) : (d.perform p m source st).2.modules.declared m ns =
      d.tableAfter p.globals ns (st.modules.declared m ns) := by
  cases d with
  | ask ns' q =>
    cases q with
    | level n => simp [perform, tableAfter, Modules.answer]
    | identifier x =>
      simp only [perform, tableAfter, Store.modules_answer, Modules.answer, Modules.lookup,
        Modules.declared_setDeclared]
      by_cases hns : ns' = ns
      · simp [hns, hm]
      · simp [hns, Ne.symm hns]
  | declare ns' q =>
    cases q with
    | level n =>
      simp only [perform, tableAfter, Modules.raiseLevel, Modules.declared_modifyDeclared]
      by_cases hns : ns' = ns
      · simp [hns, hm]
      · simp [hns, Ne.symm hns]
    | identifier x =>
      simp only [perform, tableAfter, Modules.declare]
      cases hd : (st.modules.declared m ns').declare ns' x with
      | error e =>
        by_cases hns : ns' = ns
        · subst hns
          simp [hd, Except.map, Except.toOption]
        · simp [Except.map, hns]
      | ok t =>
        simp only [Except.map, Modules.declared_setDeclared]
        by_cases hns : ns' = ns
        · subst hns
          simp [hd, hm, Except.toOption]
        · simp [hns, Ne.symm hns]

theorem label?_perform (d : Directive) (source : Source) (m' : ModuleId) :
    (d.perform p m source st).2.modules.label? m' = st.modules.label? m' := by
  cases d with
  | ask ns q => simp [perform]
  | declare ns q =>
    cases q with
    | level n => simp [perform, Modules.raiseLevel]
    | identifier x =>
      simp only [perform, Modules.declare]
      cases (st.modules.declared m ns).declare ns x <;> simp [Except.map]

theorem Records.next (h : Records p m file pre st) (d : Directive) (source : Source) :
    Records p m file (pre ++ [d]) (d.perform p m source st).2 where
  label := by rw [label?_perform, h.label]
  table ns := by
    rw [declared_perform h.lt_count]
    exact recorded_append (h.table ns) d

/-- What a directive prints, reports and logs. -/
theorem Records.reads (h : Records p m file pre st) (hfile : p.files.shown file =
    commandLineFile) (d : Directive) (ds : List Directive) :
    let i := pre.length
    let r := d.perform p m ⟨file, ⟨i + 1, 1⟩⟩ st
    r.1 = (line? p.globals (pre ++ ds) i d).getD "" ∧
      r.2.sink = st.sink.pushAll (error? p.globals (pre ++ ds) i file d).toList ∧
      r.2.log = st.log.recordAll (dependency? p.globals (pre ++ ds) i d).toList := by
  cases d with
  | ask ns q =>
    have hline : (st.modules.answer p.globals ns q m).1.included =
        decide (Included p.globals (pre ++ ds) pre.length ns q) := by
      rw [Bool.eq_iff_iff, included_answer, h.satisfy_iff ds, decide_eq_true_iff]
    refine ⟨?_, ?_, ?_⟩
    · simp [perform, line?, hline]
    · simp [perform, error?, refusal?, Sink.pushAll]
    · have hdep : Dependency.ofDirective? p.files st.modules (some { home := some m }) ns m q =
          some ⟨ns, queriedModule, commandLineFile, q⟩ := by
        simp [Dependency.ofDirective?_eq, Scope.referencing?, Scope.referencing, h.label, hfile]
      simp only [perform, Store.log_answer, Dependency.ofAnswer?, hdep, dependency?]
      simp only [h.declares_iff ds]
  | declare ns q =>
    cases q with
    | level n => simp [perform, line?, error?, refusal?, dependency?, Sink.pushAll,
        DependencyLog.recordAll]
    | identifier x =>
      simp only [perform, line?, error?, dependency?, h.modules_declare ds]
      cases refusal? p.globals (pre ++ ds) pre.length (declare ns (.identifier x)) <;>
        simp [Sink.pushAll, DependencyLog.recordAll]

/-- **Directives print, report and log what the order says.** -/
theorem performAll_eq (h : Records p m file pre st) (hfile : p.files.shown file = commandLineFile)
    (ds : List Directive) :
    let g := p.globals
    let r := performAll p m file (pre.length + 1) ds st
    r.1 = String.join (readFrom (line? g (pre ++ ds)) pre.length ds) ∧
      r.2.sink = st.sink.pushAll
        (readFrom (fun i => error? g (pre ++ ds) i file) pre.length ds) ∧
      r.2.log = st.log.recordAll (readFrom (dependency? g (pre ++ ds)) pre.length ds) := by
  induction ds generalizing pre st with
  | nil => simp [performAll, readFrom, Sink.pushAll, DependencyLog.recordAll]
  | cons d ds ih =>
    obtain ⟨hline, hsink, hlog⟩ := h.reads hfile d (d :: ds)
    obtain ⟨ihline, ihsink, ihlog⟩ := ih (h.next d ⟨file, ⟨pre.length + 1, 1⟩⟩)
    simp only [List.append_assoc, List.singleton_append, List.length_append,
      List.length_singleton] at ihline ihsink ihlog
    simp only [performAll, readFrom_cons, ihline, ihsink, ihlog, hline, hsink, hlog]
    refine ⟨?_, ?_, ?_⟩
    · cases line? p.globals (pre ++ d :: ds) pre.length d <;> simp [String.join_cons]
    · simp [Sink.pushAll]
    · rw [DependencyLog.recordAll_append]

end Perform

end Directive

/-! ## Queries -/

theorem Sink.taken_pushAll (s : Sink) (ds : List Diagnostic) :
    (s.pushAll ds).taken.toList = s.taken.toList ++ ds := by
  induction ds generalizing s with
  | nil => simp [pushAll]
  | cons d ds ih =>
    rw [pushAll, List.foldl_cons, ← pushAll, ih]
    simp [push]

theorem Sink.errors_eq_zero_iff {delivery : Delivery} {warnings errors : List Diagnostic}
    (hw : ∀ d ∈ warnings, d.isError = false) (he : ∀ d ∈ errors, d.isError = true) :
    ((({ delivery := delivery } : Sink).pushAll warnings).pushAll errors).errors = 0 ↔
      errors = [] := by
  rw [Sink.errors, ← Array.countP_toList, List.countP_eq_zero, taken_pushAll, taken_pushAll]
  constructor
  · intro hno
    refine List.eq_nil_iff_forall_not_mem.mpr fun d hd => ?_
    exact hno d (List.mem_append_right _ hd) (he d hd)
  · rintro rfl d hd
    simp [hw d (by simpa using hd)]

theorem Target.isError_of_mem_warnings {t : Target} {d : Diagnostic} (h : d ∈ t.warnings) :
    d.isError = false := by
  simp only [warnings, List.mem_append] at h
  rcases h with h | h <;> split_ifs at h <;> simp_all [Diagnostic.isError, Diagnostic.plainWarning]

namespace QueryCommand

open Directive

theorem readFrom_error?_eq_nil (g : Globals) (ds : List Directive) (file : FileId) :
    readFrom (fun i => error? g ds i file) 0 ds = [] ↔ readFrom (refusal? g ds) 0 ds = [] := by
  simp [readFrom, List.filterMap_eq_nil_iff, error?]

theorem isError_of_mem_readFrom {g : Globals} {ds : List Directive} {file : FileId}
    {d : Diagnostic} (h : d ∈ readFrom (fun i => error? g ds i file) 0 ds) : d.isError = true := by
  obtain ⟨⟨e, i⟩, _, h⟩ := List.mem_filterMap.mp h
  obtain ⟨e, _, rfl⟩ := Option.map_eq_some_iff.mp h
  rfl

theorem text_recordAll (mode : LogMode) (ds : List Dependency) :
    ((DependencyLog.forMode mode).recordAll ds).text =
      if mode = .print then String.join (ds.map fun d => d.render ++ "\n") else "" := by
  rw [DependencyLog.recordAll_eq]
  by_cases h : mode = .print
  · simp [DependencyLog.forMode, DependencyLog.text, DependencyLog.lines, h, Function.comp_def]
  · simp [DependencyLog.forMode, DependencyLog.text, DependencyLog.lines, h]

theorem runUnder_eq (c : QueryCommand) (g : Globals) (sink : Sink) :
    let ds := c.directives
    c.runUnder g sink =
      { output := String.join (readFrom (line? g ds) 0 ds) ++
          (if c.options.log = .print then
            String.join ((readFrom (dependency? g ds) 0 ds).map fun d => d.render ++ "\n")
          else "")
        sink := sink.pushAll (readFrom (fun i => error? g ds i (.added 0)) 0 ds)
        files := ⟨#[.ofText commandLineFile]⟩ } := by
  intro ds
  have hfile : (⟨#[.ofText commandLineFile]⟩ : Files).shown (.added 0) = commandLineFile := by
    decide +kernel
  let p : Program := { files := ⟨#[.ofText commandLineFile]⟩, globals := g }
  let st : Store :=
    { modules := ⟨#[{ name := queriedModule, file := .added 0 }]⟩
      sink := sink
      log := .forMode c.options.log }
  have hstart : Records p 0 (.added 0) [] st := by
    refine ⟨rfl, fun ns => ?_⟩
    cases ns <;> exact recorded_nil
  obtain ⟨hline, hsink, hlog⟩ := performAll_eq hstart hfile ds
  have hrun : c.runUnder g sink =
      let r := performAll p 0 (.added 0) 1 ds st
      { output := r.1 ++ r.2.log.text, sink := r.2.sink, files := p.files } := rfl
  simp only [List.nil_append, List.length_nil, Nat.zero_add] at hline hsink hlog
  simp only [hrun, hline, hsink, hlog]
  rw [text_recordAll]

/-- **What a query prints, reports and logs follows from the order of its directives.** -/
theorem run_by_order (c : QueryCommand) (delivery : Delivery) :
    let o := c.options
    let ds := c.directives
    let r := c.run delivery
    match Globals.ofBuild o with
    | .error _ =>
      r.output = "" ∧
      r.sink.taken.toList = o.target.warnings ++
        o.reservedRequests.map (fun x => .plainError (reservedMessage x)) ∧
      r.succeeded = false
    | .ok g =>
      r.output = String.join (readFrom (line? g ds) 0 ds) ++
        (if o.log = .print then
          String.join ((readFrom (dependency? g ds) 0 ds).map fun d => d.render ++ "\n") else "") ∧
      r.sink.taken.toList = o.target.warnings ++
        readFrom (fun i => error? g ds i (.added 0)) 0 ds ∧
      (∀ i, Source.text r.files ⟨.added 0, ⟨i + 1, 1⟩⟩ =
        "<command-line>:" ++ (i + 1).repr ++ ":1") ∧
      (r.succeeded = true ↔ readFrom (refusal? g ds) 0 ds = []) := by
  intro o ds r
  have hwarnings : ∀ d ∈ o.target.warnings, d.isError = false :=
    fun d => Target.isError_of_mem_warnings
  have htaken : ∀ es, ((({ delivery := delivery } : Sink).pushAll o.target.warnings).pushAll
      es).taken.toList = o.target.warnings ++ es := by
    intro es
    simp [Sink.taken_pushAll]
  cases hbuild : Globals.ofBuild o with
  | error errors =>
    obtain ⟨rfl, hne⟩ := Globals.ofBuild_eq_error hbuild
    have hr : r = QueryReport.mk "" ((({ delivery := delivery } : Sink).pushAll
        o.target.warnings).pushAll (o.reservedRequests.map fun x =>
          .plainError (reservedMessage x))) {} := by
      simp [r, run, hbuild, o, Function.comp_def, ConfigError.message]
    rw [hr]
    refine ⟨rfl, htaken _, ?_⟩
    rw [QueryReport.succeeded, decide_eq_false_iff_not, Sink.errors_eq_zero_iff hwarnings]
    · simpa using hne
    · simp [Diagnostic.plainError, Diagnostic.isError]
  | ok g =>
    have hr : r = c.runUnder g (({ delivery := delivery } : Sink).pushAll o.target.warnings) := by
      simp [r, run, hbuild, o]
    rw [hr, runUnder_eq]
    refine ⟨rfl, htaken _, fun i => ?_, ?_⟩
    · have hfile : (⟨#[.ofText commandLineFile]⟩ : Files).shown (.added 0) = "<command-line>" := by
        decide +kernel
      rw [Source.text, hfile]
      have hcolumn : ":" ++ Nat.repr 1 = ":1" := by decide +kernel
      simpa [Location.text, String.append_assoc] using hcolumn
    · rw [QueryReport.succeeded, decide_eq_true_iff, Sink.errors_eq_zero_iff hwarnings
        fun d => isError_of_mem_readFrom]
      exact readFrom_error?_eq_nil g ds (.added 0)

end QueryCommand

end CondComp
