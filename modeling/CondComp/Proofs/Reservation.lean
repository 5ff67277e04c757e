import CondComp.Proofs.Constancy
import CondComp.Proofs.Settings

/-!
# Reserved identifiers

What the compiler says about the identifiers that belong to it depends on what it predefines for a
build alone. Requests for them are refused, and so are declarations.

* `Modules.Unreserved`: no module declares a reserved identifier; **`Grown.unreserved`**;
* `Session.IsFresh`: a compilation under given settings, in which nothing is declared yet;
* **`reserved_by_build`**: answers about reserved identifiers follow from what is predefined.
-/

namespace CondComp

/-! ## Modules -/

namespace Modules

variable {ms ms' : Modules} {g : Globals} {ns : Namespace} {owner : ModuleId} {x : String}

/-- No module declares a reserved identifier. -/
def Unreserved (ms : Modules) : Prop :=
  ∀ m ns, ∀ x ∈ (ms.declared m ns).defined, isReserved ns x = false

theorem Grown.unreserved (h : ms.Grown ms') (hu : ms.Unreserved) : ms'.Unreserved := by
  intro m ns x hx
  by_cases hd : x ∈ (ms.declared m ns).defined
  · exact hu m ns x hd
  · exact ((h.table m ns).declared x hx hd).1

theorem Unreserved.not_mem (hu : ms.Unreserved) (hx : isReserved ns x = true) (m : ModuleId) :
    x ∉ (ms.declared m ns).defined := by
  intro hd
  have := hu m ns x hd
  rw [hx] at this
  cases this

theorem Unreserved.satisfy_iff (hu : ms.Unreserved) (hx : isReserved ns x = true) :
    ms.Satisfy g ns owner (.identifier x) ↔ g.isDefined ns x = true := by
  rw [Satisfy, or_iff_right (hu.not_mem hx owner), Globals.isDefined, decide_eq_true_iff]

theorem Unreserved.lookup_fst (hu : ms.Unreserved) (hx : isReserved ns x = true) (m : ModuleId) :
    (ms.lookup g ns x m).1 = if g.isDefined ns x = true then .everywhere else .nowhere := by
  simp only [lookup, Declared.lookup, Declared.definition, if_neg (hu.not_mem hx m),
    Globals.isDefined, decide_eq_true_eq]
  by_cases hg : x ∈ (g.get ns).identifiers <;> simp [hg]

theorem declare_reserved (hx : isReserved ns x = true) (m : ModuleId) :
    ms.declare m ns x = .error (.reserved x) := by
  rw [declare, Declared.declare, if_pos hx]
  rfl

end Modules

/-! ## Compilations -/

/-- The answer is about an identifier of a namespace, for whatever module. -/
def Told.IsAbout (ns : Namespace) (x : String) (t : Told) : Prop :=
  t.ns = ns ∧ t.query = .identifier x

namespace Session

variable {s s' : Session} {g : Globals}

/-- A compilation under given settings, in which no module declares anything and no condition was
added yet. -/
structure IsFresh (s : Session) (g : Globals) : Prop where
  globals : s.program.globals = g
  conditions : s.program.conditions = #[]
  declared : ∀ m ns, s.store.modules.declared m ns = {}

/-- What is known of a compilation from the answers seen and the settings that it began with. -/
structure Guarded (g : Globals) (seen : List Told) (s : Session) : Prop extends
    Constant seen s where
  globals : s.program.globals = g
  unreserved : s.store.modules.Unreserved

theorem guarded_observe (hs : s.IsFresh g) {steps : List Step} {seen : List Told}
    (h : observe answers steps s = some (seen, s')) : Guarded g seen s' := by
  have hstart : Guarded g [] s := by
    refine ⟨⟨faithful_start hs.conditions, by simp, .nil⟩, hs.globals, fun m ns x hx => ?_⟩
    simp [hs.declared, IdentifierSet.mem_iff, IdentifierSet.empty] at hx
  have hnext : ∀ seen s step a s', Guarded g seen s → answers.allows s step = true →
      s.perform step = some (a, s') → Guarded g (seen ++ answers.sees s step a s') s' := by
    intro seen s step a s' hg ha hp
    obtain ⟨hplain, _⟩ := Bool.and_eq_true_iff.mp ha
    obtain ⟨hgrown, hglobals⟩ := grown_perform hg.faithful.wellFormed hplain hp
    exact ⟨constant_perform hg.toConstant ha hp, hglobals.trans hg.globals,
      hgrown.unreserved hg.unreserved⟩
  have hrun : Guarded g ([] ++ seen) s' := observe_induction hnext h hstart
  exact hrun

theorem Guarded.answer_iff {seen : List Told} (h : Guarded g seen s) {t : Told} (ht : t ∈ seen)
    {ns : Namespace} {x : String} (hx : isReserved ns x = true) (habout : t.IsAbout ns x) :
    t.answer = true ↔ g.isDefined ns x = true := by
  obtain ⟨rfl, hq⟩ := habout
  have hcorrect : t.answer = true ↔ _ := (h.upholds t ht).correct hq
  rw [hcorrect, hq, h.unreserved.satisfy_iff hx, h.globals]

/-- **Reserved identifiers cannot be influenced from outside.** The build alone decides every answer
about one, and every declaration of one is refused and changes nothing. -/
theorem reserved_by_build {o : BuildOptions} (ho : Globals.ofBuild o = .ok g) (hs : s.IsFresh g)
    {steps : List Step} {seen : List Told} (h : observe answers steps s = some (seen, s'))
    {x : String} (hx : isReservedVersion x = true) :
    (∀ t ∈ seen, t.IsAbout .version x → (t.answer = true ↔ x ∈ o.predefined)) ∧
    (∀ m, (s'.perform (.lookup m .version x)).map Prod.fst =
      some (.definition (if x ∈ o.predefined then .everywhere else .nowhere))) ∧
    (∀ m, s'.perform (.declare m .version x) =
      some (.refusedDeclaration (.reserved x), s')) ∧
    ∀ requests g₁ s₁ steps₁ seen₁ s₁', Globals.ofBuild { o with requests := requests } = .ok g₁ →
      s₁.IsFresh g₁ → observe answers steps₁ s₁ = some (seen₁, s₁') →
      ∀ t ∈ seen, ∀ t₁ ∈ seen₁, t.IsAbout .version x → t₁.IsAbout .version x →
        t.answer = t₁.answer := by
  have hreserved : isReserved .version x = true := by rwa [isReserved_version]
  have hguarded := guarded_observe hs h
  have hpredefined := Globals.isDefined_reserved ho hx
  have hanswer : ∀ t ∈ seen, t.IsAbout .version x → (t.answer = true ↔ x ∈ o.predefined) :=
    fun t ht habout => (hguarded.answer_iff ht hreserved habout).trans hpredefined
  refine ⟨hanswer, fun m => ?_, fun m => ?_, ?_⟩
  · have hlookup := hguarded.unreserved.lookup_fst (g := s'.program.globals) hreserved m
    rw [hguarded.globals] at hlookup
    simp only [hpredefined] at hlookup
    rw [perform, hguarded.globals, ← hlookup]
    rfl
  · rw [perform, Modules.declare_reserved hreserved]
  · intro requests g₁ s₁ steps₁ seen₁ s₁' ho₁ hs₁ h₁ t ht t₁ ht₁ habout habout₁
    have hpredefined₁ := Globals.isDefined_reserved ho₁ hx
    have hanswer₁ := ((guarded_observe hs₁ h₁).answer_iff ht₁ hreserved habout₁).trans hpredefined₁
    exact Bool.eq_iff_iff.mpr ((hanswer t ht habout).trans hanswer₁.symm)

/-- A build that requests an identifier and a level. -/
def fancyBuild : BuildOptions := { requests := ⟨{ identifiers := ["Fancy"], level := some 3 }, {}⟩ }

/-- The same build with other requests. -/
def tracedBuild : BuildOptions :=
  { fancyBuild with requests := ⟨{}, { identifiers := ["Trace"], level := some 1 }⟩ }

/-- A compilation that begins with the settings of a build. -/
def compilation (o : BuildOptions) : Session :=
  (start .print {}).withGlobals ((Globals.ofBuild o).toOption.getD .empty)

/-- A module tries to declare a reserved identifier, and asks about it, through a guard too. -/
def graspSteps (x : String) : List Step :=
  [.addModule "m" (.ofText "m.d"), .declare 0 .version x, .isDefined 0 .version x,
    .addDirective .version 0 (.identifier x) {}, .addDecl ⟨"k", .bool true, some 0⟩,
    .addStaticIf (.ident "k") {},
    .resolve { condition := 1, scope := some { home := some 0 }, gagged := true }]

theorem isFresh_compilation (o : BuildOptions) :
    (compilation o).IsFresh ((Globals.ofBuild o).toOption.getD .empty) :=
  ⟨rfl, rfl, fun _ _ => rfl⟩

theorem reserved_by_build_grasp : ∃ seen seen₁ s' s₁',
    observe answers (graspSteps "D_Version2") (compilation fancyBuild) = some (seen, s') ∧
    observe answers (graspSteps "D_Version2" ++ [.declare 0 .version "Own", .lookup 0 .version
      "D_Version2"]) (compilation tracedBuild) = some (seen₁, s₁') ∧
    seen.map (·.answer) = [true, true] ∧ seen₁.map (·.answer) = [true, true, true] ∧
    (∀ t ∈ seen, t.IsAbout .version "D_Version2" →
      (t.answer = true ↔ "D_Version2" ∈ fancyBuild.predefined)) ∧
    (∀ m, s'.perform (.declare m .version "D_Version2") =
      some (.refusedDeclaration (.reserved "D_Version2"), s')) ∧
    (∀ t ∈ seen, ∀ t₁ ∈ seen₁, t.IsAbout .version "D_Version2" →
      t₁.IsAbout .version "D_Version2" → t.answer = t₁.answer) := by
  have ho : Globals.ofBuild fancyBuild =
      .ok ((Globals.ofBuild fancyBuild).toOption.getD .empty) := by decide +kernel
  have ho₁ : Globals.ofBuild tracedBuild =
      .ok ((Globals.ofBuild tracedBuild).toOption.getD .empty) := by decide +kernel
  have hrun : (observe answers (graspSteps "D_Version2") (compilation fancyBuild)).map
      (fun r => r.1.map (·.answer)) = some [true, true] := by decide +kernel
  have hrun₁ : (observe answers (graspSteps "D_Version2" ++ [.declare 0 .version "Own",
      .lookup 0 .version "D_Version2"]) (compilation tracedBuild)).map
      (fun r => r.1.map (·.answer)) = some [true, true, true] := by decide +kernel
  obtain ⟨⟨seen, s'⟩, h, hseen⟩ := Option.map_eq_some_iff.mp hrun
  obtain ⟨⟨seen₁, s₁'⟩, h₁, hseen₁⟩ := Option.map_eq_some_iff.mp hrun₁
  obtain ⟨hanswer, _, hrefused, hsame⟩ := reserved_by_build ho (isFresh_compilation _) h
    (by decide +kernel : isReservedVersion "D_Version2" = true)
  exact ⟨seen, seen₁, s', s₁', h, h₁, hseen, hseen₁, hanswer, hrefused,
    hsame _ _ _ _ _ _ ho₁ (isFresh_compilation _) h₁⟩

end Session

end CondComp
