import CondComp.Proofs.Dependencies
import Mathlib.Data.List.Induction

/-!
# Reading the log

The text of the log can be read back: no two lists of dependencies have the same text, whatever the
names of files are.

* `cutAt`: reading up to a character; `readFileName`: reading an escaped name up to its parenthesis;
* `Dependency.read?`: reading a dependency; `Dependency.readAll?`: reading all of them;
* **`readFileName_escape`**, **`read?_render`**, **`readAll?_text`**: what was written is read back;
* `trailingBackslashes`; **`odd_trailing_of_parenthesis`**: in an escaped name every parenthesis is
  escaped;
* **`text_readable`**: the log is read back, and its text determines it.
-/

namespace CondComp

/-! ## Reading up to a character -/

/-- What stands before a character, and what follows it. -/
def cutAt (c : Char) (cs : List Char) : List Char × List Char :=
  (cs.takeWhile (· ≠ c), (cs.dropWhile (· ≠ c)).tail)

theorem cutAt_append {c : Char} {xs : List Char} (h : c ∉ xs) (rest : List Char) :
    cutAt c (xs ++ c :: rest) = (xs, rest) := by
  have hne : ∀ x ∈ xs, decide (x ≠ c) = true := by
    rintro x hx
    exact decide_eq_true fun he => h (he ▸ hx)
  rw [cutAt, List.takeWhile_append_of_pos hne, List.dropWhile_append_of_pos hne]
  simp

theorem length_cutAt (c : Char) (cs : List Char) :
    (cutAt c cs).2.length ≤ cs.length - 1 := by
  have hle := (List.dropWhile_suffix (l := cs) (fun x => decide (x ≠ c))).length_le
  rw [cutAt, List.length_tail]
  exact Nat.sub_le_sub_right hle 1

/-! ## Names of files -/

/-- Reads an escaped name up to the first parenthesis that is not escaped and closes. -/
def readFileName : List Char → Option (List Char × List Char)
  | [] => none
  | ')' :: rest => some ([], rest)
  | '\\' :: c :: rest => (readFileName rest).map fun r => (c :: r.1, r.2)
  | c :: rest => (readFileName rest).map fun r => (c :: r.1, r.2)

theorem length_readFileName {cs name rest : List Char} (h : readFileName cs = some (name, rest)) :
    rest.length ≤ cs.length := by
  fun_induction readFileName cs generalizing name with
  | case1 => cases h
  | case2 cs =>
    cases h
    exact Nat.le_succ _
  | case3 c cs ih =>
    obtain ⟨r, hr, h⟩ := Option.map_eq_some_iff.mp h
    cases h
    exact Nat.le_succ_of_le (Nat.le_succ_of_le (ih hr))
  | case4 c cs _ _ ih =>
    obtain ⟨r, hr, h⟩ := Option.map_eq_some_iff.mp h
    cases h
    exact Nat.le_succ_of_le (ih hr)

/-- **An escaped name is read back**, whatever it is. -/
theorem readFileName_escape (name rest : List Char) :
    readFileName (name.flatMap escapeChar ++ ')' :: rest) = some (name, rest) := by
  induction name with
  | nil => rfl
  | cons c cs ih =>
    rw [List.flatMap_cons, List.append_assoc]
    by_cases hc : c = '(' ∨ c = ')' ∨ c = '\\'
    · have hescape : escapeChar c = ['\\', c] := if_pos hc
      rw [hescape, List.cons_append, List.singleton_append, readFileName, ih]
      rfl
    · have hplain : escapeChar c = [c] := if_neg hc
      rw [not_or, not_or] at hc
      rw [hplain, List.singleton_append, readFileName.eq_4, ih]
      · rfl
      · exact hc.2.1
      · exact fun _ _ he => absurd he hc.2.2

/-! ## Queries -/

/-- Reads a query: digits are a level, anything else is an identifier. -/
def Query.ofText (cs : List Char) : Query :=
  if isDecimal cs then .level (decimalValue cs) else .identifier (.ofList cs)

theorem toList_repr (n : Nat) : n.repr.toList = Nat.toDigits 10 n := by
  rw [Nat.repr_eq_ofList_toDigits, String.toList_ofList]

theorem isDecimal_repr (n : Nat) : isDecimal n.repr.toList = true := by
  have hdigits : n.repr.toList.all Char.isDigit = true := by
    rw [toList_repr]
    exact List.all_eq_true.mpr fun c hc => Nat.isDigit_of_mem_toDigits (by decide) (by decide) hc
  rw [isDecimal, hdigits]
  simp

theorem decimalValue_repr (n : Nat) : decimalValue n.repr.toList = n := by
  have hvalue : Nat.ofDigitChars 10 (Nat.toDigits 10 n) 0 = n := Nat.ofDigitChars_ten_toDigits
  rw [Nat.ofDigitChars_eq_foldl] at hvalue
  rw [toList_repr]
  exact hvalue

theorem isIdentifierStart_of_isDigit {c : Char} (h : c.isDigit = true) :
    isIdentifierStart c = false := by
  have hdigits : ∀ n < 58, 48 ≤ n → isIdentifierStart (Char.ofNat n) = false := by decide +kernel
  obtain ⟨hlow, hhigh⟩ := Char.isDigit_iff_toNat.mp h
  rw [← Char.ofNat_toNat c]
  exact hdigits _ (Nat.lt_succ_of_le hhigh) hlow

theorem isDecimal_of_isIdentifier {x : String} (h : isIdentifier x = true) :
    isDecimal x.toList = false := by
  unfold isIdentifier at h
  cases hx : x.toList with
  | nil => rfl
  | cons c cs =>
    rw [hx, spellsIdentifier, Bool.and_eq_true] at h
    have hno : c.isDigit = false := by
      cases hd : c.isDigit with
      | false => rfl
      | true =>
        rw [isIdentifierStart_of_isDigit hd] at h
        cases h.1
    simp [isDecimal, hno]

theorem newline_not_mem_identifier {x : String} (h : isIdentifier x = true) : '\n' ∉ x.toList := by
  have hstart : isIdentifierStart '\n' = false := by decide +kernel
  have hrest : isIdentifierRest '\n' = false := by decide +kernel
  unfold isIdentifier at h
  cases hx : x.toList with
  | nil => simp
  | cons c cs =>
    rw [hx, spellsIdentifier, Bool.and_eq_true] at h
    intro hm
    rcases List.mem_cons.mp hm with rfl | hm
    · rw [hstart] at h
      cases h.1
    · have := List.all_eq_true.mp h.2 _ hm
      rw [hrest] at this
      cases this

/-! ## Dependencies -/

/-- The namespace of a label, which is read up to its space. -/
def Namespace.ofLabel? (cs : List Char) : Option Namespace :=
  [version, debug].find? fun ns => ns.label.toList = cs ++ [' ']

theorem Namespace.ofLabel?_label (ns : Namespace) (rest : List Char) :
    ofLabel? (cutAt ' ' (ns.label.toList ++ rest)).1 = some ns ∧
      (cutAt ' ' (ns.label.toList ++ rest)).2 = rest := by
  cases ns with
  | version => exact ⟨by rfl, rfl⟩
  | debug => exact ⟨by rfl, rfl⟩

namespace Dependency

/-- The name of the module holds no opening parenthesis, and the query is a level or an
identifier. -/
def Legible (d : Dependency) : Prop :=
  '(' ∉ d.moduleName.toList ∧ d.query.identifier?.all isIdentifier = true

instance : DecidablePred Legible := fun _ => inferInstanceAs (Decidable (_ ∧ _))

/-- Reads a dependency and the end of its line. -/
def read? (cs : List Char) : Option (Dependency × List Char) := do
  let label := cutAt ' ' cs
  let ns ← Namespace.ofLabel? label.1
  let name := cutAt '(' label.2
  let file ← readFileName name.2
  let query := cutAt '\n' (file.2.drop " : ".length)
  return (⟨ns, .ofList name.1.dropLast, .ofList file.1, .ofText query.1⟩, query.2)

theorem length_read? {cs rest : List Char} {d : Dependency} (h : read? cs = some (d, rest)) :
    rest.length < cs.length := by
  obtain ⟨ns, hns, h⟩ := Option.bind_eq_some_iff.mp h
  obtain ⟨⟨file, more⟩, hfile, h⟩ := Option.bind_eq_some_iff.mp h
  cases h
  have hpos : 0 < cs.length := by
    cases cs with
    | nil => cases hns
    | cons => exact Nat.zero_lt_succ _
  have hlabel := length_cutAt ' ' cs
  have hname := length_cutAt '(' (cutAt ' ' cs).2
  have hmore := length_readFileName hfile
  have hquery := length_cutAt '\n' (more.drop " : ".length)
  rw [List.length_drop] at hquery
  show (cutAt '\n' (more.drop " : ".length)).2.length < cs.length
  omega

theorem query_text {d : Dependency} (h : d.Legible) :
    Query.ofText d.query.text.toList = d.query ∧ '\n' ∉ d.query.text.toList := by
  obtain ⟨_, hq⟩ := h
  cases hd : d.query with
  | level n =>
    rw [Query.text, Query.ofText, isDecimal_repr, decimalValue_repr]
    refine ⟨rfl, fun hm => ?_⟩
    rw [toList_repr] at hm
    cases Nat.isDigit_of_mem_toDigits (by decide) (by decide) hm
  | identifier x =>
    rw [hd] at hq
    rw [Query.text, Query.ofText, isDecimal_of_isIdentifier hq, String.ofList_toList]
    exact ⟨rfl, newline_not_mem_identifier hq⟩

/-- **A dependency is read back**, whatever follows it. -/
theorem read?_render {d : Dependency} (h : d.Legible) (rest : List Char) :
    read? (d.render.toList ++ '\n' :: rest) = some (d, rest) := by
  obtain ⟨hquery, hline⟩ := query_text h
  have htext : d.render.toList ++ '\n' :: rest = d.ns.label.toList ++
      ((d.moduleName.toList ++ [' ']) ++ '(' :: (d.file.toList.flatMap escapeChar ++
        ')' :: (" : ".toList ++ (d.query.text.toList ++ '\n' :: rest)))) := by
    simp [render, escapeFileName]
  have hname : '(' ∉ d.moduleName.toList ++ [' '] := by simp [h.1]
  have hgap : ∀ cs : List Char, (" : ".toList ++ cs).drop " : ".length = cs := fun _ => rfl
  rw [htext, read?]
  simp only [Namespace.ofLabel?_label, Option.bind_eq_bind, Option.bind_some, cutAt_append hname,
    readFileName_escape, hgap, cutAt_append hline, hquery, List.dropLast_concat,
    String.ofList_toList]
  rfl

/-- Reads dependencies to the end of a text. -/
def readAll? (cs : List Char) : Option (List Dependency) :=
  match h : read? cs with
  | none => if cs = [] then some [] else none
  | some (d, rest) =>
    have := length_read? h
    (readAll? rest).map (d :: ·)
termination_by cs.length

theorem readAll?_nil : readAll? [] = some [] := by
  rw [readAll?]
  rfl

theorem readAll?_render {d : Dependency} (h : d.Legible) (rest : List Char) :
    readAll? (d.render.toList ++ '\n' :: rest) = (readAll? rest).map (d :: ·) := by
  rw [readAll?]
  split
  · next hno =>
    rw [read?_render h] at hno
    cases hno
  · next d' rest' hsome =>
    rw [read?_render h] at hsome
    cases hsome
    rfl

/-- **What was written is read back**, line by line. -/
theorem readAll?_lines {ds : List Dependency} (h : ∀ d ∈ ds, d.Legible) :
    readAll? (ds.flatMap fun d => d.render.toList ++ ['\n']) = some ds := by
  induction ds with
  | nil => exact readAll?_nil
  | cons d ds ih =>
    obtain ⟨hd, hds⟩ := List.forall_mem_cons.mp h
    rw [List.flatMap_cons, List.append_assoc, List.singleton_append, readAll?_render hd, ih hds]
    rfl

end Dependency

/-! ## Escaped names -/

theorem toList_escapeFileName (s : String) :
    (escapeFileName s).toList = s.toList.flatMap escapeChar := String.toList_ofList

/-- Different names stay different when they are escaped. -/
theorem escapeFileName_injective : Function.Injective escapeFileName := by
  intro s s' h
  have hsame : s.toList.flatMap escapeChar = s'.toList.flatMap escapeChar := by
    rw [← toList_escapeFileName, h, toList_escapeFileName]
  have hread := readFileName_escape s.toList []
  rw [hsame, readFileName_escape] at hread
  exact String.toList_injective (congrArg Prod.fst (Option.some.inj hread)).symm

/-- The number of backslashes at the end. -/
def trailingBackslashes (cs : List Char) : Nat := (cs.reverse.takeWhile (· = '\\')).length

theorem trailingBackslashes_concat (cs : List Char) (c : Char) :
    trailingBackslashes (cs ++ [c]) = if c = '\\' then trailingBackslashes cs + 1 else 0 := by
  by_cases h : c = '\\'
  · simp [trailingBackslashes, h]
  · simp [trailingBackslashes, h]

/-- An escaped name ends in an even number of backslashes: those of its own are doubled. -/
theorem trailingBackslashes_escape (cs : List Char) :
    trailingBackslashes (cs.flatMap escapeChar) % 2 = 0 := by
  induction cs using List.reverseRecOn with
  | nil => rfl
  | append_singleton cs c ih =>
    rw [List.flatMap_append, List.flatMap_singleton]
    by_cases hc : c = '(' ∨ c = ')' ∨ c = '\\'
    · have hescape : cs.flatMap escapeChar ++ escapeChar c =
          (cs.flatMap escapeChar ++ ['\\']) ++ [c] := by simp [escapeChar, hc]
      rw [hescape, trailingBackslashes_concat, trailingBackslashes_concat, if_pos rfl]
      split_ifs
      · omega
      · rfl
    · have hplain : escapeChar c = [c] := if_neg hc
      rw [not_or, not_or] at hc
      rw [hplain, trailingBackslashes_concat, if_neg hc.2.2]

theorem eq_of_escapeChar {c d : Char} {pre post : List Char} (h : escapeChar d = pre ++ c :: post)
    (hc : c = '(' ∨ c = ')') : pre = ['\\'] := by
  have hslash : c ≠ '\\' := by
    rintro rfl
    simp at hc
  unfold escapeChar at h
  split_ifs at h with hd
  · match pre with
    | [] => exact absurd (List.cons.inj h).1.symm hslash
    | [_] => rw [(List.cons.inj h).1]
    | _ :: _ :: _ => simp at h
  · match pre with
    | [] => exact absurd (hc.imp_right .inl) ((List.cons.inj h).1 ▸ hd)
    | _ :: _ => simp at h

/-- **In an escaped name every parenthesis is escaped**: the backslashes before it are odd in
number. -/
theorem odd_before_parenthesis {cs pre post : List Char} {c : Char}
    (h : cs.flatMap escapeChar = pre ++ c :: post) (hc : c = '(' ∨ c = ')') :
    trailingBackslashes pre % 2 = 1 := by
  induction cs using List.reverseRecOn generalizing post with
  | nil => simp at h
  | append_singleton cs d ih =>
    rw [List.flatMap_append, List.flatMap_singleton] at h
    rcases List.append_eq_append_iff.mp h with ⟨more, rfl, hd⟩ | ⟨more, hcs, hpost⟩
    · have heven := trailingBackslashes_escape cs
      rw [eq_of_escapeChar hd hc, trailingBackslashes_concat, if_pos rfl]
      omega
    · cases more with
      | nil =>
        have hd : escapeChar d = [] ++ c :: post := hpost.symm
        cases eq_of_escapeChar hd hc
      | cons c' more =>
        cases hpost
        exact ih hcs

/-! ## The text of the log -/

namespace DependencyLog

theorem toList_text (log : DependencyLog) : log.text.toList =
    log.records.toList.flatMap fun d => d.render.toList ++ ['\n'] := by
  simp [text, lines, String.toList_join, List.flatMap_map, Function.comp_def]

theorem readAll?_text {ds : List Dependency} (h : ∀ d ∈ ds, d.Legible) :
    Dependency.readAll? ((forMode .print).recordAll ds).text.toList = some ds := by
  have hrecords : ((forMode .print).recordAll ds).records.toList = ds := by
    simp [recordAll_eq, forMode]
  rw [toList_text, hrecords]
  exact Dependency.readAll?_lines h

/-- **The log is uniquely decodable.** The dependencies of a log can be read back from its text, if
they are legible; the names of files may be any texts. -/
theorem text_readable :
    (∀ ds : List Dependency, (∀ d ∈ ds, d.Legible) →
      Dependency.readAll? ((forMode .print).recordAll ds).text.toList = some ds) ∧
    (∀ ds es : List Dependency, (∀ d ∈ ds, d.Legible) → (∀ d ∈ es, d.Legible) →
      ((forMode .print).recordAll ds).text = ((forMode .print).recordAll es).text → ds = es) ∧
    Function.Injective escapeFileName ∧
    ∀ s pre c post, (escapeFileName s).toList = pre ++ c :: post → c = '(' ∨ c = ')' →
      trailingBackslashes pre % 2 = 1 := by
  refine ⟨fun ds h => readAll?_text h, fun ds es hds hes h => ?_, escapeFileName_injective, ?_⟩
  · have hread := readAll?_text hds
    rw [h, readAll?_text hes] at hread
    exact (Option.some.inj hread).symm
  · intro s pre c post h hc
    rw [toList_escapeFileName] at h
    exact odd_before_parenthesis h hc

/-- Two dependencies, the first in a file whose name imitates the end of a line. -/
def trickyDependencies : List Dependency :=
  [⟨.version, "a )\n", "x\\) : A\ndepsDebug b (", .identifier "é1"⟩,
    ⟨.debug, "", "\\", .level 4294967295⟩]

theorem text_readable_tricky :
    ((forMode .print).recordAll trickyDependencies).text =
      "depsVersion a )\n (x\\\\\\) : A\ndepsDebug b \\() : é1\ndepsDebug  (\\\\) : 4294967295\n" ∧
    Dependency.readAll? ((forMode .print).recordAll trickyDependencies).text.toList =
      some trickyDependencies := by
  refine ⟨by decide +kernel, text_readable.1 _ ?_⟩
  decide +kernel

end DependencyLog

end CondComp
