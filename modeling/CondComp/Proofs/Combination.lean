import CondComp.Proofs.Grammar

/-!
# Options in combination

Several options set the same field of a build, and the options for an operating system rebuild the
whole target. Nevertheless each field depends on its own options alone.

* `Setting.os?`, `arch?`, `log?`, `level?`: what a setting gives; `Setting.last?`: what the last one
  of several gives; `Setting.word?`: the settings that have a single text;
* **`applyAll_last`**, **`applyAll_set`**, **`arch_applyAll`**: the fields after settings;
* `Setting.field`: the field of a setting; **`apply_comm`**: settings of different fields commute;
* **`acceptAll_swap`**: options of different fields may change places; **`options_of_parse`**: the
  options of a command come from all its arguments;
* `BuildOptions.Combined`, **`options_combine`**: the options of a build, field by field.
-/

namespace CondComp

namespace Setting

/-! ## What settings give -/

/-- The operating system that a setting gives. -/
def os? : Setting → Option Os
  | os v => some v
  | _ => none

/-- The architecture that a setting gives. -/
def arch? : Setting → Option Arch
  | arch a => some a
  | _ => none

/-- What a setting does with the dependency log. -/
def log? : Setting → Option LogMode
  | log mode => some mode
  | _ => none

/-- The level of a namespace that a setting gives. -/
def level? (ns : Namespace) : Setting → Option Nat
  | level ns' n => if ns' = ns then some n else none
  | _ => none

/-- The text of a setting that has only one. -/
def word? : Setting → Option String
  | unittest => some "-unittest"
  | release => some "-release"
  | coverage => some "-cov"
  | documentation => some "-D"
  | positionIndependent => some "-fPIC"
  | _ => none

section Last

variable {α : Type}

/-- What the last one of several settings gives. -/
def last? (f : Setting → Option α) (settings : List Setting) : Option α :=
  (settings.filterMap f).getLast?

@[simp] theorem last?_nil (f : Setting → Option α) : last? f [] = none := rfl

theorem last?_cons (f : Setting → Option α) (s : Setting) (settings : List Setting) :
    last? f (s :: settings) = (last? f settings).or (f s) := by
  cases hs : f s with
  | none => rw [last?, List.filterMap_cons_none hs, last?, Option.or_none]
  | some a => rw [last?, List.filterMap_cons_some hs, List.getLast?_cons, Option.or_some, last?]

end Last

/-! ## Fields -/

section Fields

variable {α : Type} (o : BuildOptions) (settings : List Setting)

theorem applyAll_cons (s : Setting) :
    applyAll o (s :: settings) = applyAll (apply o s) settings := rfl

/-- **The last setting counts**, else what there was before. -/
theorem applyAll_last (view : BuildOptions → Option α) {f : Setting → Option α}
    (h : ∀ o s, view (apply o s) = (f s).or (view o)) :
    view (applyAll o settings) = (last? f settings).or (view o) := by
  induction settings generalizing o with
  | nil => rfl
  | cons s settings ih => rw [applyAll_cons, ih, h, last?_cons, Option.or_assoc]

/-- **A setting with a fixed value** gives it wherever it stands. -/
theorem applyAll_set (view : BuildOptions → α) {t : Setting} {v : α}
    (h : ∀ o s, view (apply o s) = if s = t then v else view o) :
    view (applyAll o settings) = if t ∈ settings then v else view o := by
  induction settings generalizing o with
  | nil => rfl
  | cons s settings ih =>
    rw [applyAll_cons, ih, h]
    by_cases hs : s = t
    · simp [hs]
    · simp [hs, Ne.symm hs]

theorem arch_apply (s : Setting) : (apply o s).target.arch =
    (s.arch?.or o.target.arch).or (s.os?.map fun _ => .x86_64) := by
  cases s with
  | os v =>
    have hv : v.usualArch = .x86_64 := by cases v <;> rfl
    simp [apply, Target.withOs, arch?, os?, hv]
  | _ => simp [apply, Target.withArch, arch?, os?]

/-- **The architecture** is the one that was set last, else the one before, else the usual one if
an operating system was set. -/
theorem arch_applyAll : (applyAll o settings).target.arch =
    ((last? arch? settings).or o.target.arch).or ((last? os? settings).map fun _ => .x86_64) := by
  induction settings generalizing o with
  | nil => simp [applyAll]
  | cons s settings ih =>
    -- Every operating system has the same usual architecture, so that it does not matter which of
    -- them comes first.
    have husual : (s.os?.map fun _ => Arch.x86_64).or
        ((last? os? settings).map fun _ => Arch.x86_64) =
          (last? os? (s :: settings)).map fun _ => Arch.x86_64 := by
      rw [last?_cons]
      cases s.os? <;> cases last? os? settings <;> rfl
    rw [applyAll_cons, ih, arch_apply, ← husual, last?_cons]
    simp only [Option.or_assoc]

theorem level_apply (ns : Namespace) (s : Setting) : ((apply o s).requests.get ns).level =
    (s.level? ns).or (o.requests.get ns).level := by
  cases s with
  | level ns' n => cases ns <;> cases ns' <;> simp [apply, level?]
  | identifier ns' x => cases ns <;> cases ns' <;> simp [apply, level?]
  | _ => simp [apply, level?]

end Fields

/-! ## Different fields -/

/-- The fields that options set. -/
inductive Field
  | unittest
  | release
  | coverage
  | documentation
  | pic
  | log
  | os
  | arch
  | level (ns : Namespace)
  | identifiers (ns : Namespace)
  deriving DecidableEq, Repr

/-- The field that a setting sets. -/
def field : Setting → Field
  | unittest => .unittest
  | release => .release
  | coverage => .coverage
  | documentation => .documentation
  | positionIndependent => .pic
  | log _ => .log
  | os _ => .os
  | arch _ => .arch
  | level ns _ => .level ns
  | identifier ns _ => .identifiers ns

/-- **Settings of different fields commute.** -/
theorem apply_comm (o : BuildOptions) {s t : Setting} (h : s.field ≠ t.field) :
    apply (apply o s) t = apply (apply o t) s := by
  -- An operating system keeps an architecture that is set before it, and an architecture keeps the
  -- operating system. Only the settings of namespaces have to be compared any further.
  cases s <;> cases t <;> first
    | rfl
    | exact absurd rfl h
    | next ns _ ns' _ =>
      cases ns <;> cases ns' <;> first
        | rfl
        | exact absurd rfl h

/-! ## Settings and their texts -/

section Words

variable {s t : Setting} {arg word : String}

theorem spelled_iff_of_word? (hs : s.word? = some word) : s.Spelled arg ↔ arg = word := by
  constructor
  · intro h
    cases h with
    | value ns hq =>
      cases hq <;> cases hs
    | debug | print | os | file | arch => cases hs
    | unittest | release | coverage | documentation | positionIndependent =>
      cases hs
      rfl
  · rintro rfl
    cases s <;> cases hs
    exacts [.unittest, .release, .coverage, .documentation, .positionIndependent]

theorem mem_iff_of_word? {settings : List Setting} {args : List String}
    (h : List.Forall₂ Spelled settings args) (ht : t.word? = some word) :
    t ∈ settings ↔ word ∈ args := by
  induction h with
  | nil => simp
  | @cons s arg settings args hs _ ih =>
    have hhead : t = s ↔ word = arg := by
      rw [eq_comm (a := word), ← spelled_iff_of_word? ht]
      constructor
      · rintro rfl
        exact hs
      · intro harg
        simpa [read_eq_ok.mpr harg] using read_eq_ok.mpr hs
    rw [List.mem_cons, List.mem_cons, hhead, ih]

/-- **A flag** is set if it was set before or its option is there. -/
theorem applyAll_flag (o : BuildOptions) {settings : List Setting} {args : List String}
    (h : List.Forall₂ Spelled settings args) (t : Setting) (ht : t.word? = some word)
    (view : BuildOptions → Bool)
    (hview : ∀ o s, view (apply o s) = if s = t then true else view o) :
    view (applyAll o settings) = true ↔ view o = true ∨ word ∈ args := by
  rw [applyAll_set o settings view hview, ← mem_iff_of_word? h ht]
  by_cases hm : t ∈ settings <;> simp [hm]

end Words

end Setting

/-! ## Values and hyphens -/

theorem Query.Spelled.not_hyphen {q : Query} {value : String} (h : q.Spelled value) :
    afterStart? "-" value = none := by
  rw [Option.eq_none_iff_forall_ne_some]
  intro rest hrest
  have hcs : value.toList = '-' :: rest.toList := by
    rw [afterStart?_eq_some.mp hrest, String.toList_append]
    rfl
  cases h with
  | level hs hdigits =>
    rcases hs with hs | hs
    · rw [← hs, hcs] at hdigits
      simp [isDecimal] at hdigits
    · rw [hcs] at hs
      cases hs
  | identifier hx =>
    rw [isIdentifier_eq_false hcs (by decide +kernel)] at hx
    cases hx

/-! ## Arguments -/

namespace BuildOptions

open Setting

section Accept

variable (o : BuildOptions) {arg : String} {args : List String} {s t : Setting}

theorem accept_of_spelled (h : s.Spelled arg) : o.accept arg = (.ok true, s.apply o) := by
  rw [accept, read_eq_ok.mpr h]

theorem accept_of_no_option (h : Setting.read arg = .ok none) : o.accept arg = (.ok false, o) := by
  rw [accept, h]

theorem fst_accept_eq_true : (o.accept arg).1 = .ok true ↔ IsOption arg := by
  unfold accept IsOption
  split <;> simp [*]

/-- **What is no option changes nothing.** -/
theorem snd_accept_of_ne (h : (o.accept arg).1 ≠ .ok true) : (o.accept arg).2 = o := by
  unfold accept at h ⊢
  split at h
  · exact absurd rfl h
  · simp [*]
  · simp [*]

theorem acceptAll_cons (arg : String) (args : List String) :
    o.acceptAll (arg :: args) = (o.accept arg).2.acceptAll args := rfl

theorem acceptAll_append (args args' : List String) :
    o.acceptAll (args ++ args') = (o.acceptAll args).acceptAll args' := List.foldl_append

theorem acceptAll_of_spelled {settings : List Setting} (h : List.Forall₂ Spelled settings args) :
    o.acceptAll args = applyAll o settings := by
  induction h generalizing o with
  | nil => rfl
  | cons hs _ ih => rw [acceptAll_cons, accept_of_spelled o hs, ih, applyAll_cons]

/-- **Options of different fields may change places.** -/
theorem acceptAll_swap {arg' : String} (before after : List String) (hs : s.Spelled arg)
    (ht : t.Spelled arg') (h : s.field ≠ t.field) :
    o.acceptAll (before ++ arg :: arg' :: after) =
      o.acceptAll (before ++ arg' :: arg :: after) := by
  simp only [acceptAll_append, acceptAll_cons, accept_of_spelled _ hs, accept_of_spelled _ ht,
    apply_comm _ h]

end Accept

/-! ## Commands -/

section Commands

variable {args : List String}

theorem acceptAll_item (o : BuildOptions) {item : Item} {unit : List String}
    (h : item.Spelled unit) : o.acceptAll unit = applyAll o item.setting?.toList := by
  cases h with
  | setting h => exact o.acceptAll_of_spelled (.cons (read_eq_ok.mp h) .nil)
  | start =>
    rw [acceptAll_cons, accept_of_no_option o read_query]
    rfl
  | declare ns =>
    rw [acceptAll_cons, accept_of_no_option o (read_declaration ns _)]
    rfl
  | ask ns hq =>
    rw [acceptAll_cons, accept_of_no_option o (read_keyword_alone ns), acceptAll_cons,
      accept_of_no_option o (read_eq_none hq.not_hyphen)]
    rfl

theorem acceptAll_items (o : BuildOptions) {items : List Item} {units : List (List String)}
    (h : List.Forall₂ Item.Spelled items units) :
    o.acceptAll units.flatten = applyAll o (items.filterMap Item.setting?) := by
  induction h generalizing o with
  | nil => rfl
  | @cons item unit items units hitem _ ih =>
    rw [List.flatten_cons, acceptAll_append, acceptAll_item o hitem, ih]
    cases hs : item.setting? with
    | none => rw [List.filterMap_cons_none hs]; rfl
    | some s => rw [List.filterMap_cons_some hs]; rfl

theorem options_of_parse_query {c : QueryCommand} (h : QueryCommand.parse args = .ok c) :
    c.options = acceptAll {} args := by
  obtain ⟨items, units, hunits, rfl, -, rfl⟩ := QueryCommand.parse_eq_ok.mp h
  exact (acceptAll_items {} hunits).symm

theorem spelled_of_mapM {settings : List Setting} (h : args.mapM readSetting = .ok settings) :
    List.Forall₂ Spelled settings args := by
  induction args generalizing settings with
  | nil =>
    cases h
    exact .nil
  | cons arg args ih =>
    rw [List.mapM_cons] at h
    obtain ⟨s, hs, h⟩ := exists_of_bind_eq_ok h
    obtain ⟨settings', hsettings, h⟩ := exists_of_bind_eq_ok h
    cases h
    obtain ⟨r, hr, hs⟩ := exists_of_bind_eq_ok hs
    cases r with
    | none => cases hs
    | some s' =>
      cases hs
      exact .cons (read_eq_ok.mp hr) (ih hsettings)

theorem options_of_parsePredefined {o : BuildOptions} (h : parsePredefined args = .ok o) :
    o = acceptAll {} args := by
  obtain ⟨settings, hsettings, ho⟩ := exists_of_bind_eq_ok h
  cases ho
  have hprint : Setting.read printPredefined = .error (.unrecognizedOption printPredefined) := by
    decide +kernel
  have hskip : ∀ (o : BuildOptions) arg,
      (if decide (arg ≠ printPredefined) = true then (o.accept arg).2 else o) =
        (o.accept arg).2 := by
    intro o arg
    split_ifs with hne
    · rfl
    · obtain rfl : arg = printPredefined := by simpa using hne
      rw [accept, hprint]
  rw [← acceptAll_of_spelled {} (spelled_of_mapM hsettings), acceptAll, List.foldl_filter]
  simp only [hskip, acceptAll]

end Commands

end BuildOptions

theorem exists_of_map_eq_ok {ε α β : Type} {r : Except ε α} {f : α → β} {b : β}
    (h : r.map f = .ok b) : ∃ a, r = .ok a ∧ f a = b := by
  cases r with
  | error e => cases h
  | ok a =>
    cases h
    exact ⟨a, rfl, rfl⟩

/-- **The options of a command** come from all its arguments. -/
theorem Command.options_of_parse {args : List String} {command : Command} {o : BuildOptions}
    (h : Command.parse args = .ok command) (ho : command.options? = some o) :
    o = BuildOptions.acceptAll {} args := by
  unfold Command.parse at h
  split at h
  · cases h
    cases ho
  · split_ifs at h
    · cases h
      cases ho
    · obtain ⟨o', hparse, rfl⟩ := exists_of_map_eq_ok h
      cases ho
      exact BuildOptions.options_of_parsePredefined hparse
    · obtain ⟨c, hparse, rfl⟩ := exists_of_map_eq_ok h
      cases ho
      exact BuildOptions.options_of_parse_query hparse

/-! ## Field by field -/

namespace BuildOptions

open Setting

/-- The options of a build after arguments that spell settings, field by field. -/
structure Combined (o : BuildOptions) (args : List String) (settings : List Setting)
    (o' : BuildOptions) : Prop where
  os : o'.target.os = (last? os? settings).or o.target.os
  arch : o'.target.arch =
    ((last? arch? settings).or o.target.arch).or ((last? os? settings).map fun _ => .x86_64)
  log : o'.log = (last? log? settings).getD o.log
  level : ∀ ns, (o'.requests.get ns).level =
    (last? (level? ns) settings).or (o.requests.get ns).level
  identifiers : ∀ ns, (o'.requests.get ns).identifiers =
    (o.requests.get ns).identifiers ++ settings.filterMap (identifier? ns)
  unittest : o'.unittest = true ↔ o.unittest = true ∨ "-unittest" ∈ args
  release : o'.release = true ↔ o.release = true ∨ "-release" ∈ args
  coverage : o'.coverage = true ↔ o.coverage = true ∨ "-cov" ∈ args
  documentation : o'.documentation = true ↔ o.documentation = true ∨ "-D" ∈ args
  pic : o'.pic = if "-fPIC" ∈ args then some true else o.pic
  noBoundsChecks : o'.noBoundsChecks = o.noBoundsChecks

theorem combined_acceptAll (o : BuildOptions) {args : List String} {settings : List Setting}
    (h : List.Forall₂ Spelled settings args) : o.Combined args settings (o.acceptAll args) := by
  rw [acceptAll_of_spelled o h]
  have hlog : some (applyAll o settings).log = (last? log? settings).or (some o.log) :=
    applyAll_last o settings (some ·.log) fun o s => by cases s <;> rfl
  have hpic : (applyAll o settings).pic =
      if Setting.positionIndependent ∈ settings then some true else o.pic :=
    applyAll_set o settings (·.pic) fun o s => by cases s <;> simp [apply]
  -- No option sets this one.
  have hchecks : some (applyAll o settings).noBoundsChecks =
      (last? (fun _ => none) settings).or (some o.noBoundsChecks) :=
    applyAll_last o settings (some ·.noBoundsChecks) fun o s => by cases s <;> rfl
  exact
    { os := applyAll_last o settings (·.target.os) fun o s => by cases s <;> rfl
      arch := arch_applyAll o settings
      log := by simpa using hlog
      level := fun ns => applyAll_last o settings (fun o => (o.requests.get ns).level)
        fun o s => level_apply o ns s
      identifiers := fun ns => identifiers_get_applyAll o ns settings
      unittest := applyAll_flag o h Setting.unittest rfl (·.unittest)
        fun o s => by cases s <;> simp [apply]
      release := applyAll_flag o h Setting.release rfl (·.release)
        fun o s => by cases s <;> simp [apply]
      coverage := applyAll_flag o h Setting.coverage rfl (·.coverage)
        fun o s => by cases s <;> simp [apply]
      documentation := applyAll_flag o h Setting.documentation rfl (·.documentation)
        fun o s => by cases s <;> simp [apply]
      pic := by
        have hword := mem_iff_of_word? h (t := .positionIndependent) rfl
        simp only [hpic, hword]
      noBoundsChecks := by simpa [last?] using hchecks }

/-- **Options combine field by field**: each field is what the last option for it gives. So options
of different fields may change places, and the options of a command come from all its arguments. -/
theorem options_combine :
    (∀ (o : BuildOptions) args, (∀ arg ∈ args, IsOption arg) →
      ∃ settings, List.Forall₂ Spelled settings args ∧
        o.Combined args settings (o.acceptAll args)) ∧
    (∀ (o : BuildOptions) before after arg arg' (s t : Setting), s.Spelled arg → t.Spelled arg' →
      s.field ≠ t.field →
      o.acceptAll (before ++ arg :: arg' :: after) = o.acceptAll (before ++ arg' :: arg :: after)) ∧
    (∀ (o : BuildOptions) arg, ((o.accept arg).1 = .ok true ↔ IsOption arg) ∧
      ((o.accept arg).1 ≠ .ok true → (o.accept arg).2 = o)) ∧
    ∀ args command o, Command.parse args = .ok command → command.options? = some o →
      o = acceptAll {} args := by
  refine ⟨?_, ?_, fun o _ => ⟨o.fst_accept_eq_true, o.snd_accept_of_ne⟩, ?_⟩
  · intro o args h
    obtain ⟨settings, hsettings⟩ := exists_areRead h
    have hspelled : List.Forall₂ Spelled settings args := hsettings.imp fun _ _ => read_eq_ok.mp
    exact ⟨settings, hspelled, o.combined_acceptAll hspelled⟩
  · exact fun o before after _ _ _ _ hs ht h => o.acceptAll_swap before after hs ht h
  · exact fun _ _ _ h ho => Command.options_of_parse h ho

/-- Options for two operating systems and for two levels of one namespace, among others. -/
def mixedOptions : List String :=
  ["--freebsd", "-debug=3", "-fPIC", "--windows", "-debug", "-version=Own", "-deps=log"]

/-- The target of a build is unknown at first. An architecture may come before or after an operating
system, a text that is no value changes nothing, and options may stand on both sides of a query. -/
theorem options_combine_mixed :
    (∃ settings, List.Forall₂ Spelled settings mixedOptions ∧
      Combined { target := {} } mixedOptions settings (acceptAll { target := {} } mixedOptions) ∧
      (acceptAll { target := {} } mixedOptions).pic = some true) ∧
    acceptAll { target := {} } ["-cov", "--freebsd", "--target-arch=arm64", "--windows"] =
      acceptAll { target := {} } ["-cov", "--target-arch=arm64", "--freebsd", "--windows"] ∧
    (accept { release := true } "-version=1st").2 = { release := true } ∧
    (acceptAll {} ["--target-arch=arm64", "query", "version", "linux", "--freebsd"]).target =
      ⟨some .aarch64, some .freeBsd⟩ := by
  obtain ⟨hfields, hswap, hrefused, hcommand⟩ := options_combine
  refine ⟨?_, ?_, (hrefused _ _).2 (by decide +kernel), ?_⟩
  · obtain ⟨settings, hspelled, hcombined⟩ :=
      hfields { target := {} } mixedOptions (by decide +kernel)
    exact ⟨settings, hspelled, hcombined, hcombined.pic.trans (if_pos (by decide +kernel))⟩
  · exact hswap _ ["-cov"] ["--windows"] _ _ _ _ (@Spelled.os _ .freeBsd (by decide))
      (@Spelled.arch .aarch64 "arm64" (by decide)) (by decide)
  · have hparse : Command.parse ["--target-arch=arm64", "query", "version", "linux", "--freebsd"] =
        .ok (.query ⟨[.ask .version (.identifier "linux")],
          { target := ⟨some .aarch64, some .freeBsd⟩ }⟩) := by decide +kernel
    rw [← hcommand _ _ _ hparse rfl]

end BuildOptions

end CondComp
