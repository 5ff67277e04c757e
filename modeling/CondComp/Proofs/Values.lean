import CondComp.Proofs.Grammar

/-!
# Values in options and in directives

A value is read by one rule in an option and by another one in a directive: the first takes digits
for a level before it looks at the bound, the second looks at the bound first and skips a plus. They
differ by that sign alone.

* `Query.Signed`: a level with a sign; **`Query.spelled_iff`**: the texts that directives read;
* `ReadByOption`, `ReadByDirectives`: what a text is read as; **`readByOption_iff`**,
  **`readByDirectives_iff`**: it is what the text spells;
* **`values_read_alike`**: both rules agree, except for the sign.
-/

namespace CondComp

/-! ## Texts -/

namespace Query

/-- The texts of a level with a sign. -/
def Signed (n : Nat) (s : String) : Prop := ∃ digits, s = "+" ++ digits ∧ (level n).Plain digits

variable {q q' : Query} {s : String}

theorem toList_plus (s : String) : ("+" ++ s).toList = '+' :: s.toList := by
  rw [String.toList_append]
  rfl

/-- **What directives read** is what options read, and levels with a sign. -/
theorem spelled_iff : q.Spelled s ↔ q.Plain s ∨ ∃ n, q = level n ∧ Signed n s := by
  constructor
  · rintro (@⟨_, digits, hs, hdigits, hle⟩ | hx)
    · have hplain : (level (decimalValue digits)).Plain (.ofList digits) := by
        have h := Plain.level (s := .ofList digits) (by simpa using hdigits) (by simpa using hle)
        simpa using h
      rcases hs with rfl | hs
      · rw [String.ofList_toList] at hplain
        exact .inl hplain
      · refine .inr ⟨_, rfl, _, ?_, hplain⟩
        rw [← String.toList_inj, toList_plus, hs, String.toList_ofList]
    · exact .inl (.identifier hx)
  · rintro ((⟨hdigits, hle⟩ | hx) | ⟨n, rfl, digits, rfl, ⟨hdigits, hle⟩⟩)
    · exact .level (.inl rfl) hdigits hle
    · exact .identifier hx
    · exact .level (.inr (toList_plus digits)) hdigits hle

theorem Signed.not_plain {n : Nat} (h : Signed n s) (q : Query) : ¬ q.Plain s := by
  obtain ⟨digits, rfl, -⟩ := h
  intro hplain
  cases hplain with
  | level hdigits =>
    rw [toList_plus] at hdigits
    simp [isDecimal] at hdigits
  | identifier hx =>
    rw [isIdentifier_eq_false (toList_plus digits) (by decide +kernel)] at hx
    cases hx

theorem Spelled.unique (h : q.Spelled s) (h' : q'.Spelled s) : q = q' := by
  have hread := readDirectiveValue_eq_ok.mpr h
  rw [readDirectiveValue_eq_ok.mpr h'] at hread
  cases hread
  rfl

theorem plain_text (h : q.Writable) : q.Plain q.text := by
  cases q with
  | level n =>
    have hplain := Plain.level (isDecimal_repr n) ((decimalValue_repr n).symm ▸ h)
    rwa [decimalValue_repr] at hplain
  | identifier x => exact .identifier h

theorem setting_injective (ns : Namespace) (h : q.setting ns = q'.setting ns) : q = q' := by
  cases q <;> cases q' <;> cases h <;> rfl

end Query

/-! ## Readers -/

section Readers

variable (ns : Namespace) (s : String)

/-- The option of a namespace reads a text as a value. -/
def ReadByOption (q : Query) : Prop :=
  Setting.read (Setting.flag ns ++ s) = .ok (some (q.setting ns))

/-- The option of a namespace refuses a text. -/
def RefusedByOption : Prop := ∃ e, Setting.read (Setting.flag ns ++ s) = .error e

/-- A question and a declaration in a namespace both read a text as a value. -/
def ReadByDirectives (q : Query) : Prop :=
  QueryCommand.parse ["query", ns.keyword, s] = .ok ⟨[.ask ns q], {}⟩ ∧
    QueryCommand.parse ["query", ns.keyword ++ "=" ++ s] = .ok ⟨[.declare ns q], {}⟩

/-- A question and a declaration in a namespace both refuse a text. -/
def RefusedByDirectives : Prop :=
  QueryCommand.parse ["query", ns.keyword, s] = .error (.malformedValue s) ∧
    QueryCommand.parse ["query", ns.keyword ++ "=" ++ s] = .error (.malformedValue s)

theorem read_flag : Setting.read (Setting.flag ns ++ s) = (Setting.readValue ns s).map some :=
  Setting.read_append (Setting.flag_mem_valued ns) s

variable {ns s} {q : Query}

/-- **An option reads what is plain.** -/
theorem readByOption_iff : ReadByOption ns s q ↔ q.Plain s := by
  rw [ReadByOption, read_flag, Setting.map_some_eq_ok, Setting.readValue_eq_ok]
  constructor
  · rintro ⟨q', hq, hplain⟩
    rwa [Query.setting_injective ns hq] at hplain
  · exact fun h => ⟨q, rfl, h⟩

theorem refusedByOption_iff : RefusedByOption ns s ↔ ∀ q : Query, ¬ q.Plain s := by
  rw [RefusedByOption, read_flag]
  cases hread : Setting.readValue ns s with
  | error e =>
    refine iff_of_true ⟨e, rfl⟩ fun q h => ?_
    rw [Setting.readValue_eq_ok.mpr ⟨q, rfl, h⟩] at hread
    cases hread
  | ok v =>
    obtain ⟨q, -, h⟩ := Setting.readValue_eq_ok.mp hread
    refine iff_of_false ?_ fun hno => hno q h
    rintro ⟨e, he⟩
    cases he

variable (ns s)

theorem parse_start (rest : List String) : QueryCommand.parse ("query" :: rest) =
    Item.readFrom true rest >>= fun items => QueryCommand.ofItems (.start :: items) := by
  rw [QueryCommand.parse, Item.readAll, Item.readFrom, Setting.read_query]
  cases Item.readFrom true rest <;> rfl

theorem parse_ask : QueryCommand.parse ["query", ns.keyword, s] =
    (readDirectiveValue s).map fun q => ⟨[.ask ns q], {}⟩ := by
  rw [parse_start, Item.readFrom_ask]
  cases readDirectiveValue s <;> rfl

theorem parse_declare : QueryCommand.parse ["query", ns.keyword ++ "=" ++ s] =
    (readDirectiveValue s).map fun q => ⟨[.declare ns q], {}⟩ := by
  rw [parse_start, Item.readFrom_declare]
  cases readDirectiveValue s <;> rfl

variable {ns s} {q : Query}

/-- **Directives read what is spelled.** -/
theorem readByDirectives_iff : ReadByDirectives ns s q ↔ q.Spelled s := by
  rw [ReadByDirectives, parse_ask, parse_declare, ← readDirectiveValue_eq_ok]
  cases readDirectiveValue s <;> simp [Except.map]

theorem refusedByDirectives_iff : RefusedByDirectives ns s ↔ ∀ q : Query, ¬ q.Spelled s := by
  rw [RefusedByDirectives, parse_ask, parse_declare]
  simp only [← readDirectiveValue_eq_ok]
  unfold readDirectiveValue
  cases Query.ofDirective? s <;> simp [Except.map]

end Readers

/-! ## Agreement -/

/-- **Values in options and in directives are read alike**, or are refused by all of them, except
that a level with a sign is read by directives alone. -/
theorem values_read_alike (ns : Namespace) (s : String) :
    (∀ q, (ReadByOption ns s q ↔ q.Plain s) ∧ (ReadByDirectives ns s q ↔ q.Spelled s)) ∧
    (∀ n, Query.Signed n s → RefusedByOption ns s ∧ ReadByDirectives ns s (.level n)) ∧
    ((∀ n, ¬ Query.Signed n s) →
      (∃ q, ReadByOption ns s q ∧ ReadByDirectives ns s q) ∨
        RefusedByOption ns s ∧ RefusedByDirectives ns s) ∧
    (∀ n x, ¬ ((Query.level n).Spelled s ∧ (Query.identifier x).Spelled s)) ∧
    ∀ q : Query, q.Writable → ReadByOption ns q.text q ∧ ReadByDirectives ns q.text q := by
  refine ⟨fun q => ⟨readByOption_iff, readByDirectives_iff⟩, ?_, ?_, ?_, ?_⟩
  · intro n h
    exact ⟨refusedByOption_iff.mpr h.not_plain,
      readByDirectives_iff.mpr (Query.spelled_iff.mpr (.inr ⟨n, rfl, h⟩))⟩
  · intro hno
    have hsame : ∀ q : Query, q.Spelled s ↔ q.Plain s := by
      intro q
      rw [Query.spelled_iff]
      exact or_iff_left fun ⟨n, _, h⟩ => hno n h
    simp only [readByOption_iff, readByDirectives_iff, refusedByOption_iff,
      refusedByDirectives_iff, hsame, and_self]
    by_cases h : ∃ q : Query, q.Plain s
    · exact .inl h
    · exact .inr (not_exists.mp h)
  · rintro n x ⟨hlevel, hidentifier⟩
    cases hlevel.unique hidentifier
  · intro q h
    exact ⟨readByOption_iff.mpr (Query.plain_text h),
      readByDirectives_iff.mpr (Query.spelled_text h)⟩

/-- A level with a sign and zeros in front, and an identifier that is no ASCII text. -/
theorem values_read_alike_plus :
    (RefusedByOption .debug "+007" ∧ ReadByDirectives .debug "+007" (.level 7)) ∧
    ((∃ q, ReadByOption .version "Größe" q ∧ ReadByDirectives .version "Größe" q) ∨
      RefusedByOption .version "Größe" ∧ RefusedByDirectives .version "Größe") ∧
    ReadByOption .debug "4294967295" (.level maxLevel) ∧
      ReadByDirectives .debug "4294967295" (.level maxLevel) := by
  have hsigned : Query.Signed 7 "+007" :=
    ⟨"007", by decide, Query.ofOption_eq_ok.mp (by decide +kernel)⟩
  have hno : ∀ n, ¬ Query.Signed n "Größe" := by
    rintro n ⟨digits, h, -⟩
    have hcs := congrArg String.toList h
    rw [Query.toList_plus] at hcs
    cases hcs
  exact ⟨(values_read_alike .debug "+007").2.1 7 hsigned,
    (values_read_alike .version "Größe").2.2.1 hno,
    (values_read_alike .debug "").2.2.2.2 (.level maxLevel) (by decide)⟩

end CondComp
