import CondComp.Globals
import Mathlib.Tactic.SplitIfs

/-!
# The settings of a build

* `BuildOptions.reservedRequests`: the requests of a build that ask for a reserved identifier;
* `Globals.Lists`: the order in which settings list their identifiers;
* `defineAll`: identifiers defined one after the other; `Lists.defineAll`, `level_defineAll`;
* `requestAll_eq`: what the requests of a namespace are refused, and what they define;
* `errors_requested`, `lists_requested`, `level_requested`: the same for a build;
* **`ofBuild_eq_error`**: settings are refused with every reserved request, in order;
* **`isDefined_of_ofBuild`**: otherwise everything predefined and everything requested is defined,
  and nothing else; `isDefined_reserved`: of the reserved identifiers, what is predefined;
* **`ofBuild_exact`**: when the settings of a build are refused, with what errors, and which
  identifiers and levels they have otherwise.
-/

namespace CondComp

/-- The requested version identifiers that belong to the compiler, in order. -/
def BuildOptions.reservedRequests (o : BuildOptions) : List String :=
  o.requests.version.identifiers.filter isReservedVersion

@[simp] theorem isReserved_version (x : String) : isReserved .version x = isReservedVersion x := by
  simp [isReserved]

@[simp] theorem isReserved_debug (x : String) : isReserved .debug x = false := rfl

namespace Globals

/-! ## Definitions in order -/

/-- The identifiers of settings are given names, each of them listed where it stands first. -/
def Lists (g : Globals) (names : PerNamespace (List String)) : Prop :=
  ∀ ns, (g.get ns).identifiers.toList = (names.get ns).eraseDups

/-- Defines identifiers in a namespace, from left to right. -/
def defineAll (g : Globals) (ns : Namespace) (xs : List String) : Globals :=
  xs.foldl (fun g x => g.modify ns (·.define x)) g

section Lists

variable {x : String} {g : Globals} {names : PerNamespace (List String)} {ns ns' : Namespace}

theorem lists_empty : empty.Lists (.both []) := by
  intro ns
  cases ns <;> rfl

theorem Lists.isDefined (h : g.Lists names) : g.isDefined ns x = true ↔ x ∈ names.get ns := by
  rw [Globals.isDefined, decide_eq_true_iff, IdentifierSet.mem_iff, h ns, List.mem_eraseDups]

theorem Lists.define (h : g.Lists names) (ns : Namespace) (x : String) :
    Lists (g.modify ns (·.define x)) (names.modify ns (· ++ [x])) := by
  intro ns'
  simp only [PerNamespace.get_modify]
  split_ifs with he
  · exact IdentifierSet.toList_insert_of_eraseDups (h ns) x
  · exact h ns'

theorem Lists.setLevel (h : g.Lists names) (ns : Namespace) (n : Nat) :
    (g.setLevel ns n).Lists names := by
  intro ns'
  simp only [Globals.setLevel, PerNamespace.get_modify]
  split_ifs with he
  · rw [he]
    exact h ns
  · exact h ns'

theorem Lists.defineAll (h : g.Lists names) (ns : Namespace) (xs : List String) :
    (g.defineAll ns xs).Lists (names.modify ns (· ++ xs)) := by
  induction xs generalizing g names with
  | nil =>
    have hnil : names.modify ns (· ++ []) = names := by cases ns <;> simp [PerNamespace.modify]
    rw [hnil]
    exact h
  | cons x xs ih =>
    have hcons : (names.modify ns (· ++ [x])).modify ns (· ++ xs) =
        names.modify ns (· ++ x :: xs) := by cases ns <;> simp [PerNamespace.modify]
    rw [← hcons]
    exact ih (h.define ns x)

theorem level_defineAll (g : Globals) (xs : List String) :
    (g.defineAll ns xs).level ns' = g.level ns' := by
  induction xs generalizing g with
  | nil => rfl
  | cons x xs ih =>
    have hdefine : level (g.modify ns (·.define x)) ns' = g.level ns' := by
      cases ns <;> cases ns' <;> rfl
    exact (ih _).trans hdefine

theorem level_setLevel (g : Globals) (n : Nat) :
    (g.setLevel ns n).level ns' = if ns' = ns then n else g.level ns' := by
  cases ns <;> cases ns' <;> rfl

end Lists

/-! ## Requests -/

section Requests

variable {g : Globals} {names : PerNamespace (List String)} {ns ns' : Namespace}

theorem requestNext_eq (acc : List ConfigError × Globals) (x : String) :
    requestNext ns acc x = if isReserved ns x = true then (acc.1 ++ [.reserved x], acc.2)
      else (acc.1, acc.2.modify ns (·.define x)) := by
  rw [requestNext, request]
  split_ifs <;> rfl

/-- Of the identifiers requested, the reserved ones are refused and the others defined. -/
theorem foldl_requestNext (xs : List String) (acc : List ConfigError × Globals) :
    xs.foldl (requestNext ns) acc =
      (acc.1 ++ (xs.filter (isReserved ns)).map .reserved,
        acc.2.defineAll ns (xs.filter fun x => !isReserved ns x)) := by
  induction xs generalizing acc with
  | nil => simp [defineAll]
  | cons x xs ih =>
    rw [List.foldl_cons, ih, requestNext_eq]
    split_ifs with hx
    · simp [hx]
    · simp [hx, defineAll]

theorem errors_requestAll (r : Request) (acc : List ConfigError × Globals) :
    (requestAll r acc ns).1 = acc.1 ++ (r.identifiers.filter (isReserved ns)).map .reserved :=
  congrArg Prod.fst (foldl_requestNext r.identifiers acc)

theorem globals_requestAll (r : Request) (acc : List ConfigError × Globals) :
    (requestAll r acc ns).2 =
      let g := acc.2.defineAll ns (r.identifiers.filter fun x => !isReserved ns x)
      (r.level.map (g.setLevel ns)).getD g := by
  rw [requestAll, foldl_requestNext]

theorem Lists.requestAll (r : Request) (acc : List ConfigError × Globals)
    (h : acc.2.Lists names) (ns : Namespace) : (requestAll r acc ns).2.Lists
      (names.modify ns (· ++ r.identifiers.filter (fun x => !isReserved ns x))) := by
  rw [globals_requestAll]
  have hall := h.defineAll ns (r.identifiers.filter fun x => !isReserved ns x)
  cases r.level with
  | none => exact hall
  | some n => exact hall.setLevel ns n

theorem level_requestAll (r : Request) (acc : List ConfigError × Globals) :
    (requestAll r acc ns).2.level ns' =
      if ns' = ns then r.level.getD (acc.2.level ns) else acc.2.level ns' := by
  rw [globals_requestAll]
  cases r.level with
  | none =>
    dsimp only [Option.map_none, Option.getD_none]
    rw [level_defineAll]
    split_ifs with h
    · rw [h]
    · rfl
  | some n =>
    dsimp only [Option.map_some, Option.getD_some]
    rw [level_setLevel, level_defineAll]

end Requests

/-! ## Builds -/

/-- What the requests of a build come to: the refusals, and the settings without them. -/
def requested (o : BuildOptions) : List ConfigError × Globals :=
  requestAll o.requests.debug (requestAll o.requests.version ([], predefinedFor o) .version) .debug

theorem ofBuild_eq (o : BuildOptions) : ofBuild o =
    if (requested o).1.isEmpty then .ok (requested o).2 else .error (requested o).1 := rfl

theorem errors_requested (o : BuildOptions) :
    (requested o).1 = o.reservedRequests.map .reserved := by
  have hversion : isReserved .version = isReservedVersion := funext isReserved_version
  have hdebug : isReserved .debug = fun _ => false := funext isReserved_debug
  rw [requested, errors_requestAll, errors_requestAll, hversion, hdebug]
  simp [BuildOptions.reservedRequests]

theorem predefinedFor_eq (o : BuildOptions) :
    predefinedFor o = empty.defineAll .version o.predefined := rfl

/-- **What settings list**: what is predefined, then the requests that are not refused. -/
theorem lists_requested (o : BuildOptions) : (requested o).2.Lists
    ⟨o.predefined ++ o.requests.version.identifiers.filter (fun x => !isReservedVersion x),
      o.requests.debug.identifiers⟩ := by
  have hpredefined : (predefinedFor o).Lists ⟨o.predefined, []⟩ := by
    rw [predefinedFor_eq]
    exact lists_empty.defineAll .version o.predefined
  have hversion := Lists.requestAll o.requests.version ([], predefinedFor o) hpredefined .version
  have hdebug := Lists.requestAll o.requests.debug _ hversion .debug
  have hall : o.requests.debug.identifiers.filter (fun x => !isReserved .debug x) =
      o.requests.debug.identifiers := List.filter_eq_self.mpr fun _ _ => rfl
  simp only [isReserved_version, hall] at hdebug
  exact hdebug

/-- **The levels of settings** are those requested, or zero. -/
theorem level_requested (o : BuildOptions) (ns : Namespace) :
    (requested o).2.level ns = (o.requests.get ns).level.getD 0 := by
  have hzero : (predefinedFor o).level ns = 0 := by
    rw [predefinedFor_eq, level_defineAll]
    cases ns <;> rfl
  rw [requested, level_requestAll, level_requestAll, level_requestAll]
  cases ns with
  | version => simp [hzero, PerNamespace.get]
  | debug => simp [hzero, PerNamespace.get]

variable {x : String} {ns : Namespace} {o : BuildOptions} {g : Globals}

/-- **Settings are refused with every reserved request, in order.** -/
theorem ofBuild_eq_error {errors : List ConfigError} (h : ofBuild o = .error errors) :
    errors = o.reservedRequests.map .reserved ∧ o.reservedRequests ≠ [] := by
  rw [ofBuild_eq, errors_requested] at h
  split_ifs at h with he
  cases h
  exact ⟨rfl, by simpa using he⟩

/-- **Settings that are not refused define what is predefined and what is requested.** -/
theorem isDefined_of_ofBuild (h : ofBuild o = .ok g) :
    g.isDefined ns x = true ↔ ns = .version ∧ x ∈ o.predefined ∨
      x ∈ (o.requests.get ns).identifiers ∧ isReserved ns x = false := by
  rw [ofBuild_eq] at h
  split_ifs at h
  cases h
  rw [(lists_requested o).isDefined]
  cases ns <;> simp [PerNamespace.get]

theorem isDefined_reserved (h : ofBuild o = .ok g) (hx : isReservedVersion x = true) :
    g.isDefined .version x = true ↔ x ∈ o.predefined := by
  rw [isDefined_of_ofBuild h]
  simp [hx]

/-- **The settings of a build** are refused with one error for each reserved version identifier that
is requested, and otherwise list what is predefined and then what is requested, each name once. -/
theorem ofBuild_exact (o : BuildOptions) :
    ((∃ errors, ofBuild o = .error errors) ↔
      ∃ x ∈ o.requests.version.identifiers, isReservedVersion x = true) ∧
    (∀ errors, ofBuild o = .error errors →
      errors = (o.requests.version.identifiers.filter isReservedVersion).map .reserved) ∧
    ∀ g, ofBuild o = .ok g →
      g.version.identifiers.toList =
        (o.predefined ++ o.requests.version.identifiers).eraseDups ∧
      g.debug.identifiers.toList = o.requests.debug.identifiers.eraseDups ∧
      ∀ ns, g.level ns = (o.requests.get ns).level.getD 0 := by
  have hsome : o.reservedRequests ≠ [] ↔
      ∃ x ∈ o.requests.version.identifiers, isReservedVersion x = true := by
    simp [BuildOptions.reservedRequests]
  refine ⟨?_, fun errors h => (ofBuild_eq_error h).1, fun g h => ?_⟩
  · rw [← hsome]
    constructor
    · rintro ⟨errors, h⟩
      exact (ofBuild_eq_error h).2
    · intro hne
      rw [ofBuild_eq, errors_requested, if_neg (by simpa using hne)]
      exact ⟨_, rfl⟩
  · rw [ofBuild_eq, errors_requested] at h
    split_ifs at h with he
    cases h
    have hkept : o.requests.version.identifiers.filter (fun x => !isReservedVersion x) =
        o.requests.version.identifiers := by
      refine List.filter_eq_self.mpr fun x hx => ?_
      cases hr : isReservedVersion x with
      | false => rfl
      | true => exact absurd (by simpa using he) (hsome.mpr ⟨x, hx, hr⟩)
    have hlists := lists_requested o
    rw [hkept] at hlists
    exact ⟨hlists .version, hlists .debug, level_requested o⟩

end Globals

end CondComp
