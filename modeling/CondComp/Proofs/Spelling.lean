import CondComp.CommandLine.Command
import CondComp.Proofs.LogReading
import Mathlib.Data.List.Basic

/-!
# The spelling of options

* `afterStart?_eq_some`: what it means that a text starts with another one;
* `Query.Plain`: the texts of a value in an option; `Setting.Spelled`: the texts of an option;
* **`read_eq_ok`**: an argument is read as what it spells.
-/

namespace CondComp

theorem afterStart?_eq_some {start s rest : String} :
    afterStart? start s = some rest ↔ s = start ++ rest := by
  rw [afterStart?, Option.map_eq_some_iff]
  constructor
  · rintro ⟨cs, h, rfl⟩
    rw [List.isPrefixOf?_eq_some_iff_append_eq] at h
    rw [← String.toList_inj, String.toList_append, String.toList_ofList, h]
  · rintro rfl
    exact ⟨rest.toList, by simp, String.ofList_toList⟩

theorem afterStart?_append (start rest : String) : afterStart? start (start ++ rest) = some rest :=
  afterStart?_eq_some.mpr rfl

/-! ## Values -/

theorem isIdentifier_eq_false {x : String} {c : Char} {cs : List Char} (hx : x.toList = c :: cs)
    (hc : isIdentifierStart c = false) : isIdentifier x = false := by
  rw [isIdentifier, hx, spellsIdentifier, hc, Bool.false_and]

namespace Query

/-- The texts of a value in an option: one or more digits for a level that can be written, or an
identifier. -/
inductive Plain : Query → String → Prop
  | level {s : String} (hdigits : isDecimal s.toList = true)
      (hle : decimalValue s.toList ≤ maxLevel) : Plain (.level (decimalValue s.toList)) s
  | identifier {x : String} (hx : isIdentifier x = true) : Plain (.identifier x) x

/-- What an option with a value sets in a namespace. -/
def setting (ns : Namespace) : Query → Setting
  | level n => .level ns n
  | identifier x => .identifier ns x

theorem ofOption_eq_ok {s : String} {q : Query} : ofOption s = .ok q ↔ q.Plain s := by
  constructor
  · intro h
    unfold ofOption at h
    split_ifs at h with hdigits hle hx
    · cases h
      exact .level hdigits hle
    · cases h
      exact .identifier hx
  · rintro (⟨hdigits, hle⟩ | hx)
    · simp [ofOption, hdigits, hle]
    · simp [ofOption, isDecimal_of_isIdentifier hx, hx]

end Query

namespace Setting

theorem readValue_eq_ok {ns : Namespace} {value : String} {s : Setting} :
    readValue ns value = .ok s ↔ ∃ q : Query, q.setting ns = s ∧ q.Plain value := by
  simp only [← Query.ofOption_eq_ok, readValue]
  split
  · next n h => simp [h, Query.setting]
  · next x h => simp [h, Query.setting]
  · next h => simp [h]
  · next h => simp [h]

theorem readFileName_eq_ok {name : String} {s : Setting} :
    readFileName name = .ok s ↔ name ≠ "" ∧ log (.file name) = s := by
  rw [readFileName]
  split_ifs with h <;> simp [h]

theorem readArch_eq_ok {name : String} {s : Setting} :
    readArch name = .ok s ↔ ∃ a, Arch.ofText? name = some a ∧ arch a = s := by
  rw [readArch]
  cases Arch.ofText? name <;> simp

/-! ## Options -/

/-- The options that name an operating system. -/
def osWords : List (String × Os) :=
  [("--windows", .windows), ("--mac", .mac), ("--macos", .mac), ("--linux", .linux),
    ("--freebsd", .freeBsd)]

/-- The texts of an option. -/
inductive Spelled : Setting → String → Prop
  | unittest : Spelled unittest "-unittest"
  | release : Spelled release "-release"
  | coverage : Spelled coverage "-cov"
  | documentation : Spelled documentation "-D"
  | positionIndependent : Spelled positionIndependent "-fPIC"
  | debug : Spelled (level .debug 1) "-debug"
  | print : Spelled (log .print) "-deps"
  | os {word : String} {v : Os} (h : (word, v) ∈ osWords) : Spelled (os v) word
  | value (ns : Namespace) {q : Query} {value : String} (h : q.Plain value) :
      Spelled (q.setting ns) ("-" ++ ns.keyword ++ "=" ++ value)
  | file {name : String} (h : name ≠ "") : Spelled (log (.file name)) ("-deps=" ++ name)
  | arch {a : Arch} {name : String} (h : Arch.ofText? name = some a) :
      Spelled (arch a) ("--target-arch=" ++ name)

theorem spelled_of_ofWord? {arg : String} {s : Setting} (h : ofWord? arg = some s) :
    s.Spelled arg := by
  unfold ofWord? at h
  split at h
  all_goals cases h
  exacts [.unittest, .release, .coverage, .documentation, .positionIndependent, .debug, .print,
    .os (by decide), .os (by decide), .os (by decide), .os (by decide), .os (by decide)]

theorem ofWord?_append {v : String × (String → Except ArgumentError Setting)} (hv : v ∈ valued)
    (value : String) : ofWord? (v.1 ++ value) = none := by
  have hno : ∀ word, afterStart? v.1 word = none → v.1 ++ value ≠ word := by
    rintro word h rfl
    rw [afterStart?_append] at h
    cases h
  simp only [valued, List.mem_cons, List.not_mem_nil, or_false] at hv
  unfold ofWord?
  split
  all_goals first
    | rfl
    | refine absurd ‹_ = _› (hno _ ?_)
      rcases hv with rfl | rfl | rfl | rfl <;> decide +kernel

theorem read_append {v : String × (String → Except ArgumentError Setting)} (hv : v ∈ valued)
    (value : String) : read (v.1 ++ value) = (v.2 value).map some := by
  have hfirst : (valued.findSome? fun w => (afterStart? w.1 (v.1 ++ value)).map w.2) =
      some (v.2 value) := by
    simp only [valued, List.mem_cons, List.not_mem_nil, or_false] at hv
    rcases hv with rfl | rfl | rfl | rfl <;>
      simp [valued, flag, Namespace.keyword, afterStart?, List.isPrefixOf?]
  rw [read, ofWord?_append hv, hfirst]

theorem map_some_eq_ok {ε α : Type} {r : Except ε α} {a : α} :
    r.map some = .ok (some a) ↔ r = .ok a := by
  cases r <;> simp [Except.map]

theorem spelled_append {v : String × (String → Except ArgumentError Setting)} (hv : v ∈ valued)
    {value : String} {s : Setting} (h : v.2 value = .ok s) : s.Spelled (v.1 ++ value) := by
  simp only [valued, List.mem_cons, List.not_mem_nil, or_false] at hv
  rcases hv with rfl | rfl | rfl | rfl
  · obtain ⟨q, rfl, hq⟩ := readValue_eq_ok.mp h
    exact .value .version hq
  · obtain ⟨q, rfl, hq⟩ := readValue_eq_ok.mp h
    exact .value .debug hq
  · obtain ⟨hne, rfl⟩ := readFileName_eq_ok.mp h
    exact .file hne
  · obtain ⟨a, ha, rfl⟩ := readArch_eq_ok.mp h
    exact .arch ha

theorem flag_mem_valued (ns : Namespace) : (flag ns, readValue ns) ∈ valued := by
  cases ns <;> simp [valued]

theorem read_of_spelled {arg : String} {s : Setting} (h : s.Spelled arg) :
    read arg = .ok (some s) := by
  cases h with
  | unittest | release | coverage | documentation | positionIndependent | debug | print => rfl
  | os h =>
    simp only [osWords, List.mem_cons, List.not_mem_nil, or_false, Prod.mk.injEq] at h
    rcases h with ⟨rfl, rfl⟩ | ⟨rfl, rfl⟩ | ⟨rfl, rfl⟩ | ⟨rfl, rfl⟩ | ⟨rfl, rfl⟩ <;> rfl
  | value ns h =>
    exact (read_append (flag_mem_valued ns) _).trans
      (map_some_eq_ok.mpr (readValue_eq_ok.mpr ⟨_, rfl, h⟩))
  | file h =>
    have hv : ("-deps=", readFileName) ∈ valued := by simp [valued]
    exact (read_append hv _).trans (map_some_eq_ok.mpr (readFileName_eq_ok.mpr ⟨h, rfl⟩))
  | arch h =>
    have hv : ("--target-arch=", readArch) ∈ valued := by simp [valued]
    exact (read_append hv _).trans (map_some_eq_ok.mpr (readArch_eq_ok.mpr ⟨_, h, rfl⟩))

/-- **An argument is read as an option if and only if it spells it.** -/
theorem read_eq_ok {arg : String} {s : Setting} :
    read arg = .ok (some s) ↔ s.Spelled arg := by
  refine ⟨fun h => ?_, read_of_spelled⟩
  rw [read] at h
  split at h
  · next s' hs =>
    cases h
    exact spelled_of_ofWord? hs
  · split at h
    · next r hr =>
      obtain ⟨v, hv, hr⟩ := List.exists_of_findSome?_eq_some hr
      obtain ⟨value, hvalue, rfl⟩ := Option.map_eq_some_iff.mp hr
      rw [afterStart?_eq_some.mp hvalue]
      exact spelled_append hv (map_some_eq_ok.mp h)
    · split_ifs at h
      cases h

end Setting

end CondComp
