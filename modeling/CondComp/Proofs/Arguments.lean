import CondComp.CommandLine.Invocation
import CondComp.Proofs.Directives
import CondComp.Proofs.Spelling

/-!
# Arguments

Two commands take options: one prints the predefined identifiers of the build that the options ask
for, the other asks and declares in such a build. They read the options in two separate ways.

* `Setting.IsOption`: an argument is read as an option; **`read_eq_version`**: the options that
  request a version identifier;
* `Setting.AreRead`: the settings of a list of options; **`identifiers_applyAll`**: the identifiers
  that they request;
* **`parse_predefined`**, **`parse_question`**: both commands arrive at the same build;
* **`run_question`**: the answer to a single question about a version identifier;
* **`print_and_query_agree`**: it is yes for what the first command prints, and for what the options
  request.
-/

namespace CondComp

/-! ## Options -/

namespace Setting

/-- An argument that is read as an option. -/
def IsOption (arg : String) : Prop := ∃ s, read arg = .ok (some s)

instance (arg : String) : Decidable (IsOption arg) :=
  match h : read arg with
  | .ok (some s) => .isTrue ⟨s, h⟩
  | .ok none => .isFalse fun ⟨_, hs⟩ => by cases h.symm.trans hs
  | .error _ => .isFalse fun ⟨_, hs⟩ => by cases h.symm.trans hs

theorem not_isOption_of_eq {arg : String}
    (h : arg = "-h" ∨ arg = "--help" ∨ arg = printPredefined) : ¬ IsOption arg := by
  rintro ⟨s, hs⟩
  rcases h with rfl | rfl | rfl <;> cases hs

theorem read_query : read "query" = .ok none := by decide +kernel

/-- **The options that request a version identifier.** -/
theorem read_eq_version {arg x : String} :
    read arg = .ok (some (identifier .version x)) ↔
      arg = "-version=" ++ x ∧ isIdentifier x = true := by
  rw [read_eq_ok]
  constructor
  · intro h
    generalize hs : identifier .version x = s at h
    cases h with
    | value ns h =>
      cases h with
      | level => cases hs
      | identifier hx =>
        cases hs
        exact ⟨rfl, hx⟩
    | _ => cases hs
  · rintro ⟨rfl, hx⟩
    exact .value .version (.identifier hx)

/-! ## The settings of options -/

/-- The settings of a list of options. -/
def AreRead : List Setting → List String → Prop :=
  List.Forall₂ fun s arg => read arg = .ok (some s)

/-- The identifier of a namespace that a setting requests. -/
def identifier? (ns : Namespace) : Setting → Option String
  | identifier ns' x => if ns' = ns then some x else none
  | _ => none

variable {settings : List Setting} {args : List String}

theorem exists_areRead (h : ∀ arg ∈ args, IsOption arg) : ∃ settings, AreRead settings args := by
  induction args with
  | nil => exact ⟨[], .nil⟩
  | cons arg args ih =>
    obtain ⟨s, hs⟩ := h arg List.mem_cons_self
    obtain ⟨settings, hsettings⟩ := ih fun arg hm => h arg (List.mem_cons_of_mem _ hm)
    exact ⟨s :: settings, .cons hs hsettings⟩

theorem identifier?_eq_some {s : Setting} {ns : Namespace} {x : String} :
    s.identifier? ns = some x ↔ s = identifier ns x := by
  cases s with
  | identifier ns' y =>
    rw [identifier?]
    split_ifs with h
    · simp [h]
    · simp [h]
  | _ => simp [identifier?]

/-- **The version identifiers that options request** are those of the options themselves. -/
theorem mem_versions (h : AreRead settings args) {x : String} :
    x ∈ settings.filterMap (identifier? .version) ↔
      "-version=" ++ x ∈ args ∧ isIdentifier x = true := by
  induction h with
  | nil => simp
  | @cons s arg settings args hs _ ih =>
    have hhead : s.identifier? .version = some x ↔
        arg = "-version=" ++ x ∧ isIdentifier x = true := by
      rw [identifier?_eq_some, ← read_eq_version, hs]
      simp
    have hcons : x ∈ (s :: settings).filterMap (identifier? .version) ↔
        s.identifier? .version = some x ∨ x ∈ settings.filterMap (identifier? .version) := by
      simp [List.mem_filterMap]
    rw [hcons, hhead, ih, List.mem_cons, eq_comm (a := arg)]
    exact or_and_right.symm

theorem identifiers_apply (o : BuildOptions) (ns : Namespace) (s : Setting) :
    ((apply o s).requests.get ns).identifiers =
      (o.requests.get ns).identifiers ++ (s.identifier? ns).toList := by
  cases s with
  | identifier ns' x => cases ns <;> cases ns' <;> simp [apply, identifier?]
  | level ns' n => cases ns <;> cases ns' <;> simp [apply, identifier?]
  | _ => simp [apply, identifier?]

/-- **Settings request their identifiers**, in order. -/
theorem identifiers_get_applyAll (o : BuildOptions) (ns : Namespace) (settings : List Setting) :
    ((applyAll o settings).requests.get ns).identifiers =
      (o.requests.get ns).identifiers ++ settings.filterMap (identifier? ns) := by
  induction settings generalizing o with
  | nil => simp [applyAll]
  | cons s settings ih =>
    rw [applyAll, List.foldl_cons, ← applyAll, ih, identifiers_apply, List.append_assoc]
    cases hs : s.identifier? ns <;> simp [hs]

theorem identifiers_applyAll (o : BuildOptions) (settings : List Setting) :
    (applyAll o settings).requests.version.identifiers =
      o.requests.version.identifiers ++ settings.filterMap (identifier? .version) :=
  identifiers_get_applyAll o .version settings

end Setting

/-! ## Commands -/

section Commands

open Setting

variable {opts : List String} {settings : List Setting}

theorem readFrom_append (h : AreRead settings opts) (started : Bool) (rest : List String) :
    Item.readFrom started (opts ++ rest) =
      (Item.readFrom started rest).map fun items => settings.map .setting ++ items := by
  induction h with
  | nil =>
    simp only [List.nil_append, List.map_nil]
    cases Item.readFrom started rest <;> rfl
  | cons hs _ ih =>
    rw [List.cons_append, Item.readFrom, hs, ih]
    cases Item.readFrom started rest <;> rfl

theorem mapM_readSetting (h : AreRead settings opts) : opts.mapM readSetting = .ok settings := by
  induction h with
  | nil => rfl
  | cons hs _ ih =>
    rw [List.mapM_cons, readSetting, hs, ih]
    rfl

theorem readDirectiveValue_of_isIdentifier {x : String} (hx : isIdentifier x = true) :
    readDirectiveValue x = .ok (.identifier x) := by
  have hplus : dropPlus x.toList = x.toList := by
    unfold dropPlus
    split
    · next cs hcs =>
      rw [isIdentifier_eq_false hcs (by decide +kernel)] at hx
      cases hx
    · rfl
  have hvalue : Query.ofDirective? x = some (.identifier x) := by
    simp [Query.ofDirective?, hplus, isDecimal_of_isIdentifier hx, hx]
  rw [readDirectiveValue, hvalue]

theorem readFrom_question {x : String} (hx : isIdentifier x = true) :
    Item.readFrom false ["query", "version", x] =
      .ok [.start, .directive (.ask .version (.identifier x))] := by
  have hversion : read "version" = .ok none := by decide +kernel
  have hsplit : splitAtEquals? "version" = none := by decide +kernel
  have hkeyword : readKeyword "version" = .ok .version := by decide +kernel
  simp [Item.readFrom, read_query, hversion, hsplit, hkeyword,
    readDirectiveValue_of_isIdentifier hx]
  rfl

theorem isOption_of_mem (h : AreRead settings opts) {arg : String} (hm : arg ∈ opts) :
    IsOption arg := by
  induction h with
  | nil => cases hm
  | cons hs _ ih =>
    rcases List.mem_cons.mp hm with rfl | hm
    · exact ⟨_, hs⟩
    · exact ih hm

theorem parse_cons {first : String} (rest : List String)
    (h : IsOption first ∨ first = printPredefined ∨ first = "query") :
    Command.parse (first :: rest) =
      if printPredefined ∈ first :: rest then
        (parsePredefined (first :: rest)).map .predefined
      else (QueryCommand.parse (first :: rest)).map .query := by
  have hno : ¬ (first = "-h" ∨ first = "--help") := by
    intro hhelp
    rcases h with h | rfl | rfl
    · exact not_isOption_of_eq (hhelp.imp_right .inl) h
    · exact absurd hhelp (by decide +kernel)
    · exact absurd hhelp (by decide +kernel)
  rw [Command.parse, if_neg hno]

theorem parse_append {before : List String} {command : String} (rest : List String)
    (h : ∀ arg ∈ before, IsOption arg) (hc : command = printPredefined ∨ command = "query") :
    Command.parse (before ++ command :: rest) =
      if printPredefined ∈ before ++ command :: rest then
        (parsePredefined (before ++ command :: rest)).map .predefined
      else (QueryCommand.parse (before ++ command :: rest)).map .query := by
  cases before with
  | nil => exact parse_cons rest (.inr hc)
  | cons first before => exact parse_cons _ (.inl (h first List.mem_cons_self))

/-- **The command that prints the predefined identifiers** reads the options around its own. -/
theorem parse_predefined {before after : List String} (h : AreRead settings (before ++ after)) :
    Command.parse (before ++ printPredefined :: after) =
      .ok (.predefined (applyAll {} settings)) := by
  have hmem : printPredefined ∈ before ++ printPredefined :: after := by simp
  have hfilter : (before ++ printPredefined :: after).filter (· ≠ printPredefined) =
      before ++ after := by
    have hkeep : ∀ arg ∈ before ++ after, decide (arg ≠ printPredefined) = true := by
      intro arg hm
      exact decide_eq_true fun he => not_isOption_of_eq (.inr (.inr he)) (isOption_of_mem h hm)
    rw [List.filter_append, List.filter_cons_of_neg (by simp), ← List.filter_append,
      List.filter_eq_self.mpr hkeep]
  have hparse : parsePredefined (before ++ printPredefined :: after) =
      .ok (applyAll {} settings) := by
    rw [parsePredefined, hfilter, mapM_readSetting h]
    rfl
  have hbefore : ∀ arg ∈ before, IsOption arg := fun arg hm =>
    isOption_of_mem h (List.mem_append_left _ hm)
  rw [parse_append after hbefore (.inl rfl), if_pos hmem, hparse]
  rfl

/-- **A query** reads the options before its question. -/
theorem parse_question (h : AreRead settings opts) {x : String} (hx : isIdentifier x = true) :
    Command.parse (opts ++ ["query", "version", x]) =
      .ok (.query ⟨[.ask .version (.identifier x)], applyAll {} settings⟩) := by
  have hmem : printPredefined ∉ opts ++ ["query", "version", x] := by
    have hx' : isIdentifier printPredefined = false := by decide +kernel
    have hne : x ≠ printPredefined := by
      rintro rfl
      rw [hx'] at hx
      cases hx
    have hopts : printPredefined ∉ opts := fun hm =>
      not_isOption_of_eq (.inr (.inr rfl)) (isOption_of_mem h hm)
    simp only [List.mem_append, List.mem_cons, List.not_mem_nil, or_false, not_or]
    exact ⟨hopts, by decide +kernel, by decide +kernel, hne.symm⟩
  have hparse : QueryCommand.parse (opts ++ ["query", "version", x]) =
      .ok ⟨[.ask .version (.identifier x)], applyAll {} settings⟩ := by
    have hdirectives : (settings.map Item.setting).filterMap Item.directive? = [] := by
      simp [List.filterMap_eq_nil_iff, Item.directive?]
    have hsettings : (settings.map Item.setting).filterMap Item.setting? = settings := by
      simp [List.filterMap_map, Function.comp_def, Item.setting?]
    rw [QueryCommand.parse, Item.readAll, readFrom_append h, readFrom_question hx]
    change QueryCommand.ofItems (settings.map .setting ++
      [.start, .directive (.ask .version (.identifier x))]) = _
    have hstart : [Item.start, .directive (.ask .version (.identifier x))].filterMap
        Item.setting? = [] := rfl
    rw [QueryCommand.ofItems, List.filterMap_append, List.filterMap_append, hdirectives, hsettings,
      hstart, List.append_nil]
    rfl
  have hopts : ∀ arg ∈ opts, IsOption arg := fun arg hm => isOption_of_mem h hm
  rw [parse_append _ hopts (.inr rfl), if_neg hmem, hparse]
  rfl

end Commands

/-! ## A single question -/

theorem answerLine_version (x : String) (b : Bool) :
    Directive.answerLine .version (.identifier x) b =
      "version (" ++ x ++ "): " ++ (if b then "included" else "excluded") ++ "\n" := by
  have hopen : "version (" = "version" ++ " (" := by decide +kernel
  have hclose : "): " = ")" ++ ": " := by decide +kernel
  rw [hopen, hclose]
  cases b <;> simp [Directive.answerLine, Test.text, Namespace.keyword, Query.text,
    Inclusion.ofBool, Inclusion.name, String.append_assoc]

theorem render_question (x : String) :
    Dependency.render ⟨.version, queriedModule, commandLineFile, .identifier x⟩ =
      "depsVersion __query (<command-line>) : " ++ x := by
  have hstart : Namespace.label .version ++ queriedModule ++ " (" ++
      escapeFileName commandLineFile ++ ") : " = "depsVersion __query (<command-line>) : " := by
    decide +kernel
  rw [Dependency.render, hstart]
  rfl

theorem Globals.ofBuild_isOk {o : BuildOptions} (h : o.reservedRequests = []) :
    ∃ g, ofBuild o = .ok g := by
  rw [ofBuild_eq, errors_requested, h]
  exact ⟨_, rfl⟩

namespace QueryCommand

open Directive

section Question

variable {o : BuildOptions} {g : Globals} (x : String)

/-- The directives of a query that asks one question. -/
def question : List Directive := [.ask .version (.identifier x)]

theorem included_question (h : o.reservedRequests = []) (hg : Globals.ofBuild o = .ok g) :
    Included g (question x) 0 .version (.identifier x) ↔
      x ∈ o.predefined ∨ x ∈ o.requests.version.identifiers := by
  have hallowed : x ∈ o.requests.version.identifiers → isReservedVersion x = false := by
    intro hx
    have hno : x ∉ o.reservedRequests := by simp [h]
    simpa [BuildOptions.reservedRequests, hx] using hno
  have hfirst : firstMention? (question x) 0 .version x = none := firstMention?_eq (question x) 0
  rw [Included, hfirst, Globals.isDefined_of_ofBuild hg, isReserved_version]
  simp only [PerNamespace.get, true_and, reduceCtorEq, and_false, or_false]
  exact or_congr_right (and_iff_left_of_imp hallowed)

theorem lines_question : readFrom (line? g (question x)) 0 (question x) =
    [answerLine .version (.identifier x)
      (decide (Included g (question x) 0 .version (.identifier x)))] := rfl

theorem dependencies_question : readFrom (dependency? g (question x)) 0 (question x) =
    if Query.isLogged .version (.identifier x) = true then
      [⟨.version, queriedModule, commandLineFile, .identifier x⟩] else [] := by
  have hown : ¬ IsOwn g (question x) 0 .version (.identifier x) := by simp [IsOwn]
  have hfirst : dependency? g (question x) 0 (.ask .version (.identifier x)) =
      if Query.isLogged .version (.identifier x) = true then
        some ⟨.version, queriedModule, commandLineFile, .identifier x⟩ else none := by
    cases hl : Query.isLogged .version (.identifier x) <;> simp [dependency?, hown, hl]
  have hcons : readFrom (dependency? g (question x)) 0 (question x) =
      (dependency? g (question x) 0 (.ask .version (.identifier x))).toList ++ [] :=
    readFrom_cons ..
  rw [hcons, hfirst, List.append_nil]
  split_ifs <;> rfl

theorem log_question :
    String.join ((readFrom (dependency? g (question x)) 0 (question x)).map (·.render ++ "\n")) =
      if Query.isLogged .version (.identifier x) = true then
        "depsVersion __query (<command-line>) : " ++ x ++ "\n" else "" := by
  rw [dependencies_question, ← render_question]
  split_ifs <;> simp

/-- **The answer to a single question** about a version identifier, if no request is refused. -/
theorem run_question (h : o.reservedRequests = []) (delivery : Delivery) :
    let r := run delivery ⟨question x, o⟩
    r.succeeded = true ∧
      r.output = "version (" ++ x ++ "): " ++
        (if x ∈ o.predefined ∨ x ∈ o.requests.version.identifiers then "included"
          else "excluded") ++ "\n" ++
        if o.log = .print ∧ Query.isLogged .version (.identifier x) = true then
          "depsVersion __query (<command-line>) : " ++ x ++ "\n" else "" := by
  obtain ⟨g, hg⟩ := Globals.ofBuild_isOk h
  intro r
  have hr : r = runUnder g (({ delivery := delivery } : Sink).pushAll o.target.warnings)
      ⟨question x, o⟩ := by
    simp [r, run, hg]
  have herrors : readFrom (fun i => error? g (question x) i (.added 0)) 0 (question x) = [] := rfl
  have hwarnings : ∀ d ∈ o.target.warnings, d.isError = false :=
    fun d => Target.isError_of_mem_warnings
  rw [hr, runUnder_eq]
  dsimp only
  refine ⟨?_, ?_⟩
  · rw [QueryReport.succeeded, herrors, decide_eq_true_iff,
      Sink.errors_eq_zero_iff hwarnings (by simp)]
  · rw [lines_question, log_question, answerLine_version, ite_and]
    simp [included_question x h hg]

end Question

theorem run_refused {o : BuildOptions} (h : o.reservedRequests ≠ []) (ds : List Directive)
    (delivery : Delivery) :
    (run delivery ⟨ds, o⟩).succeeded = false ∧ (run delivery ⟨ds, o⟩).output = "" := by
  have hwarnings : ∀ d ∈ o.target.warnings, d.isError = false :=
    fun d => Target.isError_of_mem_warnings
  have hbuild : Globals.ofBuild o = .error (o.reservedRequests.map .reserved) := by
    rw [Globals.ofBuild_eq, Globals.errors_requested, if_neg (by simpa using h)]
  rw [run, hbuild]
  refine ⟨?_, rfl⟩
  rw [QueryReport.succeeded, decide_eq_false_iff_not, Sink.errors_eq_zero_iff hwarnings]
  · simpa using h
  · simp [Diagnostic.plainError, Diagnostic.isError]

end QueryCommand

/-! ## The two commands -/

open Setting in
/-- **The command that prints the predefined identifiers and the query agree.** After the same
options, a query includes an identifier if and only if it is printed or requested, and it fails if
a reserved one is requested. -/
theorem print_and_query_agree {opts : List String} (hopts : ∀ arg ∈ opts, IsOption arg)
    {x : String} (hx : isIdentifier x = true) (style : Style) :
    ∃ o : BuildOptions,
      (∀ before after, opts = before ++ after →
        Command.parse (before ++ printPredefined :: after) = .ok (.predefined o) ∧
        invoke style (before ++ printPredefined :: after) =
          { succeeded := true, output := String.join (o.predefined.map (· ++ "\n")) }) ∧
      Command.parse (opts ++ ["query", "version", x]) =
        .ok (.query ⟨[.ask .version (.identifier x)], o⟩) ∧
      let r := invoke style (opts ++ ["query", "version", x])
      ((∀ y, isIdentifier y = true → isReservedVersion y = true → "-version=" ++ y ∉ opts) →
        r.succeeded = true ∧
        r.output = "version (" ++ x ++ "): " ++
          (if x ∈ o.predefined ∨ "-version=" ++ x ∈ opts then "included" else "excluded") ++ "\n" ++
          if o.log = .print ∧ Query.isLogged .version (.identifier x) = true then
            "depsVersion __query (<command-line>) : " ++ x ++ "\n" else "") ∧
      ((∃ y, isIdentifier y = true ∧ isReservedVersion y = true ∧ "-version=" ++ y ∈ opts) →
        r.succeeded = false ∧ r.output = "") := by
  obtain ⟨settings, h⟩ := exists_areRead hopts
  let o := applyAll {} settings
  have hversions : ∀ y, y ∈ o.requests.version.identifiers ↔
      "-version=" ++ y ∈ opts ∧ isIdentifier y = true := by
    intro y
    rw [identifiers_applyAll, ← mem_versions h]
    rfl
  have hreserved : ∀ y, y ∈ o.reservedRequests ↔
      isIdentifier y = true ∧ isReservedVersion y = true ∧ "-version=" ++ y ∈ opts := by
    intro y
    rw [BuildOptions.reservedRequests, List.mem_filter, hversions]
    tauto
  have hquery := parse_question h hx
  have hinvoke : invoke style (opts ++ ["query", "version", x]) =
      Command.invoke style (.query ⟨[.ask .version (.identifier x)], o⟩) := by
    rw [invoke, hquery]
  refine ⟨o, fun before after he => ?_, hquery, ?_, ?_⟩
  · subst he
    have hprint := parse_predefined h
    exact ⟨hprint, by rw [invoke, hprint]; rfl⟩
  · intro hno
    have hnone : o.reservedRequests = [] :=
      List.eq_nil_iff_forall_not_mem.mpr fun y hy =>
        hno y ((hreserved y).mp hy).1 ((hreserved y).mp hy).2.1 ((hreserved y).mp hy).2.2
    obtain ⟨hsucceeded, houtput⟩ := QueryCommand.run_question x hnone .print
    rw [hinvoke]
    refine ⟨hsucceeded, houtput.trans ?_⟩
    simp only [hversions, hx, and_true]
  · rintro ⟨y, hy⟩
    have hne : o.reservedRequests ≠ [] := List.ne_nil_of_mem ((hreserved y).mpr hy)
    rw [hinvoke]
    exact QueryCommand.run_refused hne _ .print

/-- Options that request an identifier of the user's own for a system of their choice. -/
def ownOptions : List String := ["-version=Own", "--freebsd", "-deps", "-version=3"]

theorem print_and_query_agree_own : ∃ o : BuildOptions,
    Command.parse ("-version=Own" :: printPredefined :: ["--freebsd", "-deps", "-version=3"]) =
      .ok (.predefined o) ∧
    Command.parse (ownOptions ++ ["query", "version", "Own"]) =
      .ok (.query ⟨[.ask .version (.identifier "Own")], o⟩) ∧
    (invoke .plain (ownOptions ++ ["query", "version", "Own"])).succeeded = true ∧
    (invoke .plain (ownOptions ++ ["query", "version", "Own"])).output =
      "version (Own): included\ndepsVersion __query (<command-line>) : Own\n" ∧
    (invoke .plain (ownOptions ++ ["-version=D_Own"] ++ ["query", "version", "Own"])).succeeded =
      false := by
  have hx : isIdentifier "Own" = true := by decide +kernel
  have hallowed : ∀ arg ∈ ownOptions, (afterStart? "-version=" arg).all
      (fun y => !(isIdentifier y && isReservedVersion y)) = true := by decide +kernel
  have hno : ∀ y, isIdentifier y = true → isReservedVersion y = true →
      "-version=" ++ y ∉ ownOptions := by
    intro y hy hr hm
    have := hallowed _ hm
    rw [afterStart?_eq_some.mpr rfl] at this
    simp [hy, hr] at this
  obtain ⟨o, hprint, hquery, hanswer, _⟩ := print_and_query_agree
    (by decide +kernel : ∀ arg ∈ ownOptions, Setting.IsOption arg) hx .plain
  obtain ⟨_, _, _, _, hrefused⟩ := print_and_query_agree
    (by decide +kernel : ∀ arg ∈ ownOptions ++ ["-version=D_Own"], Setting.IsOption arg) hx .plain
  refine ⟨o, (hprint ["-version=Own"] _ rfl).1, hquery, (hanswer hno).1, by decide +kernel,
    (hrefused ⟨"D_Own", ?_⟩).1⟩
  decide +kernel

end CondComp
