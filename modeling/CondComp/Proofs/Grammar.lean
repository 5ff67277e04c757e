import CondComp.Proofs.Arguments
import Mathlib.Data.List.TakeWhile
import Mathlib.Tactic.MkIffOfInductiveProp

/-!
# The grammar of queries

The arguments of a query are a sequence of units. A unit is an option, the word `query`, a
declaration, or a question, whose value is an argument of its own. Options may stand anywhere
between units; of the others, the word comes first.

* `Query.Spelled`, `Item.Spelled`: the texts of a value, and the units of an item;
* `readFrom_spelled`, `exists_spelled`: one unit is read, and what was read is a unit;
* **`readFrom_eq_ok`**: which arguments are read as which items;
* `IsQuery`: the items of a query; **`isQuery_iff_allowed`**: those that may follow each other;
* `Interleaved`: a list that is made of two others;
* **`parse_eq_ok`**, **`parse_interleaved`**, **`parse_words`**: the arguments that are parsed,
  where options may be given, and the directives that are parsed again;
* **`parse_exact`**: the three together.
-/

namespace CondComp

/-! ## Values -/

/-- The texts of a value: one or more digits, possibly after a `+`, for a level that can be written,
or an identifier. -/
inductive Query.Spelled : Query → String → Prop
  | level {s : String} {digits : List Char} (hs : s.toList = digits ∨ s.toList = '+' :: digits)
      (hdigits : isDecimal digits = true) (hle : decimalValue digits ≤ maxLevel) :
      Spelled (.level (decimalValue digits)) s
  | identifier {x : String} (hx : isIdentifier x = true) : Spelled (.identifier x) x

theorem eq_or_of_dropPlus (cs : List Char) : cs = dropPlus cs ∨ cs = '+' :: dropPlus cs := by
  unfold dropPlus
  split
  · exact .inr rfl
  · exact .inl rfl

theorem dropPlus_of_isDecimal {cs digits : List Char} (h : isDecimal digits = true)
    (hcs : cs = digits ∨ cs = '+' :: digits) : dropPlus cs = digits := by
  rcases hcs with rfl | rfl
  · unfold dropPlus
    split
    · simp [isDecimal] at h
    · rfl
  · rfl

theorem readDirectiveValue_eq_ok {s : String} {q : Query} :
    readDirectiveValue s = .ok q ↔ q.Spelled s := by
  constructor
  · intro h
    unfold readDirectiveValue Query.ofDirective? at h
    dsimp only at h
    split_ifs at h with hlevel hx
    · cases h
      rw [Bool.and_eq_true, decide_eq_true_iff] at hlevel
      exact .level (eq_or_of_dropPlus _) hlevel.1 hlevel.2
    · cases h
      exact .identifier hx
  · rintro (⟨hs, hdigits, hle⟩ | hx)
    · rw [readDirectiveValue, Query.ofDirective?, dropPlus_of_isDecimal hdigits hs]
      simp [hdigits, hle]
    · exact readDirectiveValue_of_isIdentifier hx

/-- A value can be written in a directive. -/
def Query.Writable : Query → Prop
  | .level n => n ≤ maxLevel
  | .identifier x => isIdentifier x = true

instance (q : Query) : Decidable q.Writable :=
  match q with
  | .level n => inferInstanceAs (Decidable (n ≤ maxLevel))
  | .identifier x => inferInstanceAs (Decidable (isIdentifier x = true))

theorem Query.spelled_text {q : Query} (h : q.Writable) : q.Spelled q.text := by
  cases q with
  | level n =>
    have hspelled := Spelled.level (.inl rfl) (isDecimal_repr n) ((decimalValue_repr n).symm ▸ h)
    rwa [decimalValue_repr] at hspelled
  | identifier x => exact .identifier h

/-! ## Units -/

theorem exists_of_bind_eq_ok {ε α β : Type} {r : Except ε α} {f : α → Except ε β} {b : β}
    (h : r >>= f = .ok b) : ∃ a, r = .ok a ∧ f a = .ok b := by
  cases r with
  | error e => cases h
  | ok a => exact ⟨a, rfl, h⟩

theorem Setting.ofWord?_eq_none {arg : String} (h : afterStart? "-" arg = none) :
    ofWord? arg = none := by
  unfold ofWord?
  split
  all_goals first
    | rfl
    | exact absurd h (by decide +kernel)

theorem Setting.read_eq_none {arg : String} (h : afterStart? "-" arg = none) :
    read arg = .ok none := by
  have hvalued : ∀ v ∈ valued, afterStart? v.1 arg = none := by
    intro v hv
    have hstart : (afterStart? "-" v.1).isSome = true := by
      revert v
      decide +kernel
    obtain ⟨rest, hrest⟩ := Option.isSome_iff_exists.mp hstart
    cases hafter : afterStart? v.1 arg with
    | none => rfl
    | some value =>
      rw [afterStart?_eq_some] at hrest hafter
      rw [afterStart?_eq_some.mpr (by rw [hafter, hrest, String.append_assoc])] at h
      cases h
  have hnone : (valued.findSome? fun v => (afterStart? v.1 arg).map v.2) = none :=
    List.findSome?_eq_none_iff.mpr fun v hv => by rw [hvalued v hv, Option.map_none]
  rw [read, ofWord?_eq_none h, hnone]
  simp [h]

theorem readKeyword_eq_ok {text : String} {ns : Namespace} :
    readKeyword text = .ok ns ↔ text = ns.keyword := by
  constructor
  · intro h
    unfold readKeyword Namespace.ofKeyword? at h
    split_ifs at h with hversion hdebug
    · cases h
      exact hversion
    · cases h
      exact hdebug
  · rintro rfl
    rw [readKeyword, Namespace.ofKeyword?_keyword]

theorem Setting.read_keyword (ns : Namespace) (rest : String) :
    read (ns.keyword ++ rest) = .ok none := by
  apply read_eq_none
  cases ns <;> simp [afterStart?, Namespace.keyword, List.isPrefixOf?]

theorem Setting.read_keyword_alone (ns : Namespace) : read ns.keyword = .ok none := by
  rw [← String.append_empty (s := ns.keyword)]
  exact read_keyword ns ""

theorem Setting.read_declaration (ns : Namespace) (value : String) :
    read (ns.keyword ++ "=" ++ value) = .ok none := by
  rw [String.append_assoc]
  exact read_keyword ns _

theorem equals_not_mem_keyword (ns : Namespace) : '=' ∉ ns.keyword.toList := by
  cases ns <;> decide +kernel

theorem splitAtEquals?_append {keyword : String} (h : '=' ∉ keyword.toList) (value : String) :
    splitAtEquals? (keyword ++ "=" ++ value) = some (keyword, value) := by
  have hkeep : ∀ c ∈ keyword.toList, decide (c ≠ '=') = true :=
    fun c hc => decide_eq_true fun he => h (he ▸ hc)
  have hs : (keyword ++ "=" ++ value).toList = keyword.toList ++ '=' :: value.toList := by simp
  have hstop : ('=' :: value.toList).takeWhile (· ≠ '=') = [] := by simp
  have hstart : ('=' :: value.toList).dropWhile (· ≠ '=') = '=' :: value.toList := by simp
  rw [splitAtEquals?, hs, List.dropWhile_append_of_pos hkeep, List.takeWhile_append_of_pos hkeep,
    hstop, hstart, List.append_nil]
  simp

theorem eq_of_splitAtEquals? {s keyword value : String}
    (h : splitAtEquals? s = some (keyword, value)) : s = keyword ++ "=" ++ value := by
  unfold splitAtEquals? at h
  split at h
  · cases h
  · next c cs hcs =>
    have hc : c = '=' := by
      have hhead := List.head?_dropWhile_not (· ≠ '=') s.toList
      rw [hcs] at hhead
      simpa using hhead
    have hall := List.takeWhile_append_dropWhile (p := (· ≠ '=')) (l := s.toList)
    rw [hcs, hc] at hall
    cases h
    simp only [← String.toList_inj, String.toList_append, String.toList_ofList, List.append_assoc]
    exact hall.symm

theorem splitAtEquals?_eq_none {s : String} (h : '=' ∉ s.toList) : splitAtEquals? s = none := by
  have hdrop : s.toList.dropWhile (· ≠ '=') = [] :=
    List.dropWhile_eq_nil_iff.mpr fun c hc => decide_eq_true fun he => h (he ▸ hc)
  rw [splitAtEquals?, hdrop]

namespace Item

/-- The arguments that spell an item. The value of a question is an argument of its own. -/
inductive Spelled : Item → List String → Prop
  | setting {s : Setting} {arg : String} (h : Setting.read arg = .ok (some s)) :
      Spelled (.setting s) [arg]
  | start : Spelled .start ["query"]
  | declare (ns : Namespace) {q : Query} {value : String} (h : q.Spelled value) :
      Spelled (.directive (.declare ns q)) [ns.keyword ++ "=" ++ value]
  | ask (ns : Namespace) {q : Query} {value : String} (h : q.Spelled value) :
      Spelled (.directive (.ask ns q)) [ns.keyword, value]

/-- Whether the word `query` was read after an item, if the item may stand there. -/
def after? (started : Bool) : Item → Option Bool
  | setting _ => some started
  | start => if started then none else some true
  | directive _ => if started then some true else none

theorem readFrom_ask (ns : Namespace) (value : String) (rest : List String) :
    readFrom true (ns.keyword :: value :: rest) = readDirectiveValue value >>= fun q =>
      (readFrom true rest).map (directive (.ask ns q) :: ·) := by
  rw [readFrom, Setting.read_keyword_alone, splitAtEquals?_eq_none (equals_not_mem_keyword ns)]
  simp only [readKeyword_eq_ok.mpr rfl]
  cases readDirectiveValue value <;> cases readFrom true rest <;> rfl

theorem readFrom_declare (ns : Namespace) (value : String) (rest : List String) :
    readFrom true ((ns.keyword ++ "=" ++ value) :: rest) = readDirectiveValue value >>= fun q =>
      (readFrom true rest).map (directive (.declare ns q) :: ·) := by
  rw [readFrom, Setting.read_declaration, splitAtEquals?_append (equals_not_mem_keyword ns)]
  simp only [readKeyword_eq_ok.mpr rfl]
  cases readDirectiveValue value <;> cases readFrom true rest <;> rfl

variable {started started' : Bool} {item : Item} {unit : List String}

/-- A unit is read as its item, if the item may stand there. -/
theorem readFrom_spelled (h : Spelled item unit) (hs : item.after? started = some started')
    (rest : List String) : readFrom started (unit ++ rest) =
      (readFrom started' rest).map (item :: ·) := by
  cases h with
  | setting h =>
    cases hs
    rw [List.cons_append, readFrom, h, List.nil_append]
    cases readFrom started rest <;> rfl
  | start =>
    cases started
    · cases hs
      rw [List.cons_append, readFrom, Setting.read_query, List.nil_append]
      cases readFrom true rest <;> rfl
    · cases hs
  | @declare ns q value h =>
    cases started
    · cases hs
    · cases hs
      rw [List.cons_append, readFrom_declare, readDirectiveValue_eq_ok.mpr h, List.nil_append]
      rfl
  | @ask ns q value h =>
    cases started
    · cases hs
    · cases hs
      rw [List.cons_append, List.cons_append, readFrom_ask, readDirectiveValue_eq_ok.mpr h,
        List.nil_append]
      rfl

/-- What is read first is a unit of an item that may stand there. -/
theorem exists_spelled {arg : String} {rest : List String} {items : List Item}
    (h : readFrom started (arg :: rest) = .ok items) :
    ∃ item unit rest' started' items', arg :: rest = unit ++ rest' ∧ Spelled item unit ∧
      item.after? started = some started' ∧ readFrom started' rest' = .ok items' ∧
      items = item :: items' := by
  rw [readFrom] at h
  obtain ⟨setting?, hread, hitems⟩ := exists_of_bind_eq_ok h
  cases setting? with
  | some s =>
    obtain ⟨items', hrest, he⟩ := exists_of_bind_eq_ok hitems
    cases he
    exact ⟨_, [arg], rest, started, items', rfl, .setting hread, rfl, hrest, rfl⟩
  | none =>
    dsimp only at hitems
    split_ifs at hitems with hstarted hquery
    · split at hitems
      · next keyword value hsplit =>
        obtain ⟨ns, hns, hvalue⟩ := exists_of_bind_eq_ok hitems
        obtain ⟨q, hq, hreads⟩ := exists_of_bind_eq_ok hvalue
        obtain ⟨items', hrest, he⟩ := exists_of_bind_eq_ok hreads
        have harg := eq_of_splitAtEquals? hsplit
        rw [readKeyword_eq_ok.mp hns] at harg
        cases he
        exact ⟨_, [arg], rest, true, items', rfl,
          harg ▸ .declare ns (readDirectiveValue_eq_ok.mp hq), by simp [after?, hstarted],
          hstarted ▸ hrest, rfl⟩
      · obtain ⟨ns, hns, hvalue⟩ := exists_of_bind_eq_ok hitems
        have harg := readKeyword_eq_ok.mp hns
        cases rest with
        | nil => cases hvalue
        | cons value rest =>
          obtain ⟨q, hq, hreads⟩ := exists_of_bind_eq_ok hvalue
          obtain ⟨items', hrest, he⟩ := exists_of_bind_eq_ok hreads
          cases he
          exact ⟨_, [arg, value], rest, true, items', rfl,
            harg ▸ .ask ns (readDirectiveValue_eq_ok.mp hq), by simp [after?, hstarted],
            hstarted ▸ hrest, rfl⟩
    · obtain ⟨items', hrest, he⟩ := exists_of_bind_eq_ok hitems
      cases he
      exact ⟨_, [arg], rest, true, items', rfl, hquery ▸ .start, by simp [after?, hstarted],
        hrest, rfl⟩

theorem Spelled.ne_nil (h : Spelled item unit) : unit ≠ [] := by
  cases h <;> exact List.cons_ne_nil _ _

/-- Items that may follow each other, before or after the word `query`. -/
def Allowed : Bool → List Item → Prop
  | _, [] => True
  | started, item :: items => ∃ started', item.after? started = some started' ∧
      Allowed started' items

/-- **Arguments are read as items** if and only if they are a sequence of units that spell them, and
the items may follow each other. -/
theorem readFrom_eq_ok {args : List String} {items : List Item} :
    readFrom started args = .ok items ↔
      (∃ units, List.Forall₂ Spelled items units ∧ units.flatten = args) ∧
        Allowed started items := by
  constructor
  · -- A question takes two arguments, so that the induction is on their number.
    intro h
    induction hn : args.length using Nat.strongRecOn generalizing started args items with
    | ind n ih =>
      cases args with
      | nil =>
        cases h
        exact ⟨⟨[], .nil, rfl⟩, trivial⟩
      | cons arg rest =>
        obtain ⟨item, unit, rest', started', items', hargs, hitem, hafter, hrest, rfl⟩ :=
          exists_spelled h
        have hlt : rest'.length < n := by
          have := List.length_pos_iff.mpr hitem.ne_nil
          rw [← hn, hargs, List.length_append]
          omega
        obtain ⟨⟨units, hunits, rfl⟩, hallowed⟩ := ih _ hlt hrest rfl
        exact ⟨⟨unit :: units, .cons hitem hunits, hargs.symm⟩, started', hafter, hallowed⟩
  · rintro ⟨⟨units, hunits, rfl⟩, hallowed⟩
    induction hunits generalizing started with
    | nil => rfl
    | cons hitem _ ih =>
      obtain ⟨started', hafter, hallowed⟩ := hallowed
      rw [List.flatten_cons, readFrom_spelled hitem hafter, ih hallowed]
      rfl

/-- The items of a query: the word `query` is among them once, no directive precedes it, and there
is a directive. -/
@[mk_iff]
structure IsQuery (items : List Item) : Prop where
  once : items.count start = 1
  precedes : items.Pairwise fun earlier later => later = start → earlier.directive? = none
  asks : ∃ d, directive d ∈ items

theorem allowed_true {items : List Item} : Allowed true items ↔ start ∉ items := by
  induction items with
  | nil => simp [Allowed]
  | cons item items ih => cases item <;> simp [Allowed, after?, ih]

/-- **The items of a query** are those that may follow each other, with a directive among them. -/
theorem isQuery_iff_allowed {items : List Item} :
    IsQuery items ↔ Allowed false items ∧ ∃ d, directive d ∈ items := by
  induction items with
  | nil => simp [isQuery_iff]
  | cons item items ih =>
    cases item with
    | setting s =>
      have hquery : IsQuery (setting s :: items) ↔ IsQuery items := by
        simp [isQuery_iff, directive?]
      rw [hquery, ih]
      simp [Allowed, after?]
    | start =>
      have hallowed : Allowed false (start :: items) ↔ start ∉ items := by
        rw [← allowed_true]
        simp [Allowed, after?]
      have hasks : (∃ d, directive d ∈ start :: items) ↔ ∃ d, directive d ∈ items := by simp
      rw [hallowed, hasks]
      constructor
      · intro h
        have honce := h.once
        rw [List.count_cons_self] at honce
        exact ⟨List.count_eq_zero.mp (by omega), hasks.mp h.asks⟩
      · rintro ⟨hno, hd⟩
        refine ⟨by rw [List.count_cons_self, List.count_eq_zero.mpr hno], .cons ?_ ?_, hasks.mpr hd⟩
        · exact fun _ _ _ => rfl
        · exact List.pairwise_of_forall_mem_list fun _ _ later hlater he => absurd (he ▸ hlater) hno
    | directive d =>
      have hno : ¬ IsQuery (directive d :: items) := by
        -- The word would have to follow this directive.
        intro h
        have hstart : start ∈ items := by
          have honce := h.once
          rw [List.count_cons_of_ne Item.noConfusion] at honce
          exact List.count_pos_iff.mp (by omega)
        cases List.rel_of_pairwise_cons h.precedes hstart rfl
      simp [hno, Allowed, after?]

end Item

/-! ## Interleavings -/

/-- A list is made of two others, each in its own order. -/
inductive Interleaved {α : Type} : List α → List α → List α → Prop
  | nil : Interleaved [] [] []
  | left (x : α) {xs ys zs : List α} (h : Interleaved xs ys zs) : Interleaved (x :: xs) ys (x :: zs)
  | right (y : α) {xs ys zs : List α} (h : Interleaved xs ys zs) :
      Interleaved xs (y :: ys) (y :: zs)

namespace Interleaved

variable {α β : Type} {xs ys zs : List α}

theorem filterMap_left (h : Interleaved xs ys zs) {f : α → Option β} (hf : ∀ y ∈ ys, f y = none) :
    zs.filterMap f = xs.filterMap f := by
  induction h with
  | nil => rfl
  | left x _ ih => rw [List.filterMap_cons, List.filterMap_cons, ih hf]
  | right y _ ih =>
    rw [List.filterMap_cons_none (hf y List.mem_cons_self)]
    exact ih fun y hy => hf y (List.mem_cons_of_mem _ hy)

theorem symm (h : Interleaved xs ys zs) : Interleaved ys xs zs := by
  induction h with
  | nil => exact .nil
  | left x _ ih => exact .right x ih
  | right y _ ih => exact .left y ih

theorem self (ys : List α) : Interleaved [] ys ys := by
  induction ys with
  | nil => exact .nil
  | cons y ys ih => exact .right y ih

theorem exists_forall₂ {R : α → β → Prop} {us vs ws : List β} (h : Interleaved us vs ws)
    (hleft : List.Forall₂ R xs us) (hright : List.Forall₂ R ys vs) :
    ∃ zs, Interleaved xs ys zs ∧ List.Forall₂ R zs ws := by
  induction h generalizing xs ys with
  | nil =>
    cases hleft
    cases hright
    exact ⟨[], .nil, .nil⟩
  | left u _ ih =>
    cases hleft with
    | cons hu hleft =>
      obtain ⟨zs, hzs, hrel⟩ := ih hleft hright
      exact ⟨_, .left _ hzs, .cons hu hrel⟩
  | right v _ ih =>
    cases hright with
    | cons hv hright =>
      obtain ⟨zs, hzs, hrel⟩ := ih hleft hright
      exact ⟨_, .right _ hzs, .cons hv hrel⟩

end Interleaved

theorem Item.Allowed.interleaved {started : Bool} {options line items : List Item}
    (h : Interleaved options line items) (hoptions : ∀ item ∈ options, ∃ s, item = .setting s)
    (hline : Allowed started line) : Allowed started items := by
  induction h generalizing started with
  | nil => trivial
  | left x _ ih =>
    obtain ⟨s, rfl⟩ := hoptions x List.mem_cons_self
    exact ⟨started, rfl, ih (fun item hm => hoptions item (List.mem_cons_of_mem _ hm)) hline⟩
  | right y _ ih =>
    obtain ⟨started', hafter, hline⟩ := hline
    exact ⟨started', hafter, ih hoptions hline⟩

/-! ## Queries -/

theorem Item.mem_directives {items : List Item} {d : Directive} :
    d ∈ items.filterMap directive? ↔ directive d ∈ items := by
  have hsome : ∀ item : Item, item.directive? = some d ↔ item = directive d := by
    intro item
    cases item <;> simp [directive?]
  simp [List.mem_filterMap, hsome]

/-- A directive as it is written on the command line. -/
def Directive.words : Directive → List String
  | ask ns q => [ns.keyword, q.text]
  | declare ns q => [ns.keyword ++ "=" ++ q.text]

/-- The query of a directive. -/
def Directive.query : Directive → Query
  | ask _ q | declare _ q => q

theorem Directive.spelled_words {d : Directive} (h : d.query.Writable) :
    Item.Spelled (.directive d) d.words := by
  cases d with
  | ask ns q => exact .ask ns (Query.spelled_text h)
  | declare ns q => exact .declare ns (Query.spelled_text h)

namespace QueryCommand

/-- **What is parsed as a query**: arguments that are a sequence of units which spell the items of
one. -/
theorem parse_eq_ok {args : List String} {command : QueryCommand} :
    parse args = .ok command ↔
      ∃ items units, List.Forall₂ Item.Spelled items units ∧ units.flatten = args ∧
        Item.IsQuery items ∧ command = ⟨items.filterMap Item.directive?,
          Setting.applyAll {} (items.filterMap Item.setting?)⟩ := by
  have hasks : ∀ items : List Item,
      (items.filterMap Item.directive?).isEmpty = false ↔ ∃ d, .directive d ∈ items := by
    intro items
    rw [List.isEmpty_eq_false_iff_exists_mem]
    exact exists_congr fun d => Item.mem_directives
  constructor
  · intro h
    obtain ⟨items, hitems, hcommand⟩ := exists_of_bind_eq_ok h
    obtain ⟨⟨units, hunits, hargs⟩, hallowed⟩ := Item.readFrom_eq_ok.mp hitems
    rw [ofItems] at hcommand
    split_ifs at hcommand with hempty
    rw [Bool.not_eq_true] at hempty
    cases hcommand
    exact ⟨items, units, hunits, hargs,
      Item.isQuery_iff_allowed.mpr ⟨hallowed, (hasks items).mp hempty⟩, rfl⟩
  · rintro ⟨items, units, hunits, hargs, hquery, rfl⟩
    obtain ⟨hallowed, hd⟩ := Item.isQuery_iff_allowed.mp hquery
    rw [parse, Item.readAll, Item.readFrom_eq_ok.mpr ⟨⟨units, hunits, hargs⟩, hallowed⟩]
    change ofItems items = _
    simp [ofItems, (hasks items).mpr hd]

/-- **Options may be given anywhere** between the units of a query. -/
theorem parse_interleaved {ds : List Directive} (hne : ds ≠ []) {settings : List Setting}
    {opts : List String} (hopts : Setting.AreRead settings opts) {line mixed : List (List String)}
    (hline : List.Forall₂ Item.Spelled (.start :: ds.map .directive) line)
    (h : Interleaved (opts.map fun arg => [arg]) line mixed) :
    parse mixed.flatten = .ok ⟨ds, Setting.applyAll {} settings⟩ := by
  have hspelled : List.Forall₂ Item.Spelled (settings.map .setting)
      (opts.map fun arg => [arg]) := by
    rw [List.forall₂_map_left_iff, List.forall₂_map_right_iff]
    exact hopts.imp fun _ _ => .setting
  obtain ⟨items, hitems, hmixed⟩ := h.exists_forall₂ hspelled hline
  have hdirectives : items.filterMap Item.directive? = ds := by
    rw [hitems.symm.filterMap_left (by simp [Item.directive?]), List.filterMap_cons_none rfl,
      List.filterMap_map]
    exact List.filterMap_some
  have hsettings : items.filterMap Item.setting? = settings := by
    rw [hitems.filterMap_left (by simp [Item.setting?]), List.filterMap_map]
    exact List.filterMap_some
  have hallowed : Item.Allowed false items :=
    .interleaved hitems (by simp) ⟨true, rfl, Item.allowed_true.mpr (by simp)⟩
  obtain ⟨d, hd⟩ := List.exists_mem_of_ne_nil ds hne
  have hquery : Item.IsQuery items := Item.isQuery_iff_allowed.mpr
    ⟨hallowed, d, Item.mem_directives.mp (hdirectives.symm ▸ hd)⟩
  exact parse_eq_ok.mpr ⟨items, mixed, hmixed, rfl, hquery, by rw [hdirectives, hsettings]⟩

/-- **A query that is written is parsed again.** -/
theorem parse_words {ds : List Directive} (hne : ds ≠ []) (h : ∀ d ∈ ds, d.query.Writable) :
    parse ("query" :: ds.flatMap Directive.words) = .ok ⟨ds, {}⟩ := by
  have hline : List.Forall₂ Item.Spelled (.start :: ds.map .directive)
      (["query"] :: ds.map Directive.words) := by
    refine .cons .start ?_
    rw [List.forall₂_map_left_iff, List.forall₂_map_right_iff, List.forall₂_same]
    exact fun d hd => Directive.spelled_words (h d hd)
  have hparse := parse_interleaved hne .nil hline (.self _)
  rwa [List.flatten_cons, ← List.flatMap_def] at hparse

/-- **Parsing accepts exactly its grammar and loses nothing.** So options may be interleaved with a
query in any way, and a list of directives that can be written is parsed again as it was. -/
theorem parse_exact :
    (∀ args command, parse args = .ok command ↔
      ∃ items units, List.Forall₂ Item.Spelled items units ∧ units.flatten = args ∧
        Item.IsQuery items ∧ command = ⟨items.filterMap Item.directive?,
          Setting.applyAll {} (items.filterMap Item.setting?)⟩) ∧
    (∀ (ds : List Directive) settings opts line mixed, ds ≠ [] → Setting.AreRead settings opts →
      List.Forall₂ Item.Spelled (.start :: ds.map .directive) line →
      Interleaved (opts.map fun arg => [arg]) line mixed →
      parse mixed.flatten = .ok ⟨ds, Setting.applyAll {} settings⟩) ∧
    ∀ ds : List Directive, ds ≠ [] → (∀ d ∈ ds, d.query.Writable) →
      parse ("query" :: ds.flatMap Directive.words) = .ok ⟨ds, {}⟩ :=
  ⟨fun _ _ => parse_eq_ok,
    fun _ _ _ _ _ hne hopts hline hmixed => parse_interleaved hne hopts hline hmixed,
    fun _ => parse_words⟩

/-- A question about an identifier that is a keyword, and the declaration of a level. -/
def keywordDirectives : List Directive :=
  [.ask .version (.identifier "version"), .declare .debug (.level 2)]

/-- Options around the units of a query leave its directives as they are. Between a keyword and its
value there is no place for one. -/
theorem parse_exact_keyword :
    parse ["-version=Own", "query", "--freebsd", "version", "version", "-deps", "debug=+2"] =
      .ok ⟨keywordDirectives, Setting.applyAll {}
        [.identifier .version "Own", .os .freeBsd, .log .print]⟩ ∧
    parse ["query", "version", "version", "debug=2"] = .ok ⟨keywordDirectives, {}⟩ ∧
    ¬ ∃ items units, List.Forall₂ Item.Spelled items units ∧
      units.flatten = ["query", "version", "-deps", "Own"] ∧ Item.IsQuery items := by
  have hopts : Setting.AreRead [.identifier .version "Own", .os .freeBsd, .log .print]
      ["-version=Own", "--freebsd", "-deps"] :=
    .cons (by decide +kernel) (.cons (by decide +kernel) (.cons (by decide +kernel) .nil))
  have hline : List.Forall₂ Item.Spelled (.start :: keywordDirectives.map .directive)
      [["query"], ["version", "version"], ["debug=+2"]] :=
    .cons .start (.cons (.ask .version (.identifier (by decide +kernel)))
      (.cons (.declare .debug (@Query.Spelled.level "+2" ['2'] (.inr rfl) rfl (by decide))) .nil))
  have hmixed : Interleaved [["-version=Own"], ["--freebsd"], ["-deps"]]
      [["query"], ["version", "version"], ["debug=+2"]]
      [["-version=Own"], ["query"], ["--freebsd"], ["version", "version"], ["-deps"],
        ["debug=+2"]] :=
    .left _ (.right _ (.left _ (.right _ (.left _ (.right _ .nil)))))
  refine ⟨parse_exact.2.1 _ _ _ _ _ (by decide) hopts hline hmixed,
    parse_exact.2.2 keywordDirectives (by decide) (by decide +kernel), ?_⟩
  rintro ⟨items, units, hunits, hargs, hquery⟩
  have hparse := (parse_exact.1 _ _).mpr ⟨items, units, hunits, hargs, hquery, rfl⟩
  have hrefused : parse ["query", "version", "-deps", "Own"] =
      .error (.malformedValue "-deps") := by decide +kernel
  rw [hrefused] at hparse
  cases hparse

end QueryCommand

end CondComp
