import CondComp.Inclusion.Script
import CondComp.Proofs.Settlement
import Mathlib.Data.List.ReduceOption

/-!
# The first value wins

A script uses one write-once answer, and its computations use it in turn, to any depth. Whatever
their shape, the answer is the first value that any use brings.

* `Script.uses`: the uses at the top of a script; `run_eq_mapM`: a script makes them in order;
* `Script.values`: the values that uses bring, in the order in which the uses end; `Script.walk`:
  the same, with the places where computations may begin;
* **`snd_run`**: a script runs along its walk; **`snd_run_of_open`**: what it leaves of an open
  answer;
* `fst_perform`, `snd_perform_of_settled`, `computed_lt_perform`: what a use replies, and when it
  computes;
* **`first_value_wins`**: all of these together.
-/

namespace CondComp

/-! ## Uses -/

namespace Use

/-- What a use replies when it leaves the answer in a state. -/
def replyIn : Use → Inclusion → Reply
  | inspect, s => .state s
  | _, s => .truth s.isIncluded

end Use

namespace Script

/-- The uses at the top of a script. -/
def uses : Script → List Use
  | done => []
  | inspect next => .inspect :: next.uses
  | isIncluded next => .isIncluded :: next.uses
  | settle b next => .settle b :: next.uses
  | resolve inner result next => .resolve inner.run result :: next.uses

theorem run_eq_mapM (s : Script) : s.run = s.uses.mapM Use.report := by
  induction s with
  | done => rfl
  | inspect next ih | isIncluded next ih | settle _ next ih | resolve _ _ next _ ih =>
    rw [uses, List.mapM_cons, ← ih]
    rfl

/-- The values that the uses of a script bring, in the order in which the uses end: a computation
ends after all uses of its own. -/
def values : Script → List Bool
  | done => []
  | inspect next | isIncluded next => next.values
  | settle b next => b :: next.values
  | resolve inner result next => inner.values ++ result.toList ++ next.values

/-- A walk through a script and into all of its computations: `none` where a computation may begin,
and `some b` where a use brings a value. -/
def walk : Script → List (Option Bool)
  | done => []
  | inspect next | isIncluded next => next.walk
  | settle b next => some b :: next.walk
  | resolve inner result next => none :: (inner.walk ++ result.toList.map some ++ next.walk)

theorem reduceOption_walk (s : Script) : s.walk.reduceOption = s.values := by
  induction s with
  | done => rfl
  | inspect next ih | isIncluded next ih => exact ih
  | settle b next ih => rw [walk, List.reduceOption_cons_of_some, ih, values]
  | resolve inner result next ihi ih =>
    have hresult : (result.toList.map some).reduceOption = result.toList := by cases result <;> rfl
    rw [walk, List.reduceOption_cons_of_none, List.reduceOption_append, List.reduceOption_append,
      ihi, hresult, ih, values]

end Script

/-! ## Running along a walk -/

namespace Memo

/-- What the next place of a walk does to a memo. While the answer is open a computation begins
there, or a value settles it. -/
def pass (m : Memo) : Option Bool → Memo
  | none => if m.state = .unresolved then { m with computed := m.computed + 1 } else m
  | some b => { m with state := m.state.settle b }

variable {m : Memo}

theorem pass_of_settled (h : m.state ≠ .unresolved) (place : Option Bool) : m.pass place = m := by
  have hs : m.state.isSettled = true := decide_eq_true h
  cases place with
  | none => exact if_neg h
  | some b => rw [pass, Inclusion.settle, if_pos hs]

theorem foldl_pass_of_settled (h : m.state ≠ .unresolved) (places : List (Option Bool)) :
    places.foldl pass m = m := by
  induction places with
  | nil => rfl
  | cons place places ih => rw [List.foldl_cons, pass_of_settled h, ih]

/-- Along a walk the first value settles the answer, and computations begin up to there. -/
theorem foldl_pass (places : List (Option Bool)) (n : Nat) :
    places.foldl pass ⟨.unresolved, n⟩ =
      ⟨Inclusion.settleAny .unresolved places.reduceOption.head?,
        n + (places.takeWhile Option.isNone).length⟩ := by
  induction places generalizing n with
  | nil => rfl
  | cons place places ih =>
    cases place with
    | none =>
      rw [List.foldl_cons, List.reduceOption_cons_of_none, List.takeWhile_cons_of_pos rfl,
        List.length_cons, Nat.add_comm _ 1, ← Nat.add_assoc]
      exact ih (n + 1)
    | some b =>
      have hb : (Inclusion.unresolved.settle b) ≠ .unresolved := by cases b <;> decide
      rw [List.foldl_cons, List.reduceOption_cons_of_some, List.takeWhile_cons_of_neg (by simp)]
      exact foldl_pass_of_settled hb places

/-! ## Making uses -/

theorem bind_apply {α β : Type} (x : StateM Memo α) (f : α → StateM Memo β) (m : Memo) :
    (x >>= f) m = f (x m).1 (x m).2 := rfl

/-- An open answer is settled with what the computation brings, unless the computation has settled
it itself; a settled one is not computed. -/
theorem resolve_apply (compute : StateM Memo (Option Bool)) (m : Memo) : resolve compute m =
    if m.state.isSettled then (m.state.isIncluded, m)
    else
      let closed : Memo :=
        { (compute m).2 with state := (compute m).2.state.settleAny (compute m).1 }
      (closed.state.isIncluded, closed) := by
  have hget : (return (← get).state : StateM Memo Inclusion) m = (m.state, m) := rfl
  rw [resolve, answerOnce, bind_apply, hget]
  split_ifs with h
  · rfl
  · rw [bind_apply, bind_apply]
    cases (compute m).1 <;> rfl

end Memo

namespace Use

variable {m : Memo}

/-- What is left of an open memo by a computation that makes the uses of `inner` and then brings
`result`. -/
def closing (m : Memo) (inner : StateM Memo (List Outcome)) (result : Option Bool) : Memo :=
  let after := (inner { m with computed := m.computed + 1 }).2
  { after with state := after.state.settleAny result }

theorem perform_resolve (inner : StateM Memo (List Outcome)) (result : Option Bool) :
    (resolve inner result).perform m =
      if m.state.isSettled then (.truth m.state.isIncluded, m)
      else (.truth (closing m inner result).state.isIncluded, closing m inner result) := by
  rw [perform, Memo.bind_apply, Memo.resolve_apply]
  split_ifs
  · rfl
  · rfl

/-- **A use replies with what the answer is when it ends.** -/
theorem fst_perform (u : Use) (m : Memo) :
    (u.perform m).1 = u.replyIn (u.perform m).2.state := by
  cases u with
  | inspect | isIncluded | settle => rfl
  | resolve inner result =>
    rw [perform_resolve]
    split_ifs
    · rfl
    · rfl

end Use

namespace Script

theorem snd_run_resolve (inner : Script) (result : Option Bool) (next : Script) (m : Memo) :
    ((resolve inner result next).run m).2 =
      (next.run ((Use.resolve inner.run result).perform m).2).2 := rfl

/-- **A script runs along its walk.** What a settled answer keeps from being computed brings
values too, but these no longer change anything. -/
theorem snd_run (s : Script) (m : Memo) : (s.run m).2 = s.walk.foldl Memo.pass m := by
  induction s generalizing m with
  | done => rfl
  | inspect next ih | isIncluded next ih => exact ih m
  | settle b next ih => exact ih _
  | resolve inner result next ihi ih =>
    rw [snd_run_resolve, ih, Use.perform_resolve, walk, List.foldl_cons, List.foldl_append]
    congr 1
    split_ifs with h
    · rw [Inclusion.isSettled, decide_eq_true_iff] at h
      rw [Memo.pass_of_settled h, Memo.foldl_pass_of_settled h]
    · rw [Inclusion.isSettled, decide_eq_true_iff, not_not] at h
      have hopen : m.pass none = { m with computed := m.computed + 1 } := if_pos h
      rw [hopen, List.foldl_append, ← ihi]
      cases result <;> rfl

/-- **The first value of a script wins**, and computations begin up to there. -/
theorem snd_run_of_open (s : Script) (n : Nat) : (s.run ⟨.unresolved, n⟩).2 =
    ⟨s.values.head?.elim .unresolved .ofBool, n + (s.walk.takeWhile Option.isNone).length⟩ := by
  rw [snd_run, Memo.foldl_pass, reduceOption_walk]
  cases s.values.head? <;> rfl

theorem computed_le_run (s : Script) (m : Memo) : m.computed ≤ (s.run m).2.computed := by
  rw [snd_run]
  generalize s.walk = places
  induction places generalizing m with
  | nil => exact Nat.le_refl _
  | cons place places ih =>
    refine Nat.le_trans ?_ (ih _)
    cases place with
    | none =>
      rw [Memo.pass]
      split_ifs
      · exact Nat.le_succ _
      · exact Nat.le_refl _
    | some b => exact Nat.le_refl _

end Script

namespace Use

variable {m : Memo}

/-- **A use of a settled answer changes nothing.** -/
theorem snd_perform_of_settled (u : Use) (h : m.state ≠ .unresolved) : (u.perform m).2 = m := by
  have hs : m.state.isSettled = true := decide_eq_true h
  cases u with
  | inspect | isIncluded => rfl
  | settle b => exact Memo.pass_of_settled h (some b)
  | resolve inner result => rw [perform_resolve, if_pos hs]

/-- **A computation is made if and only if the answer is open.** -/
theorem computed_lt_perform (inner : Script) (result : Option Bool) (m : Memo) :
    m.computed < ((resolve inner.run result).perform m).2.computed ↔ m.state = .unresolved := by
  by_cases h : m.state = .unresolved
  · have ho : m.state.isSettled = false := by rw [h]; rfl
    rw [perform_resolve, ho, iff_true_right h]
    exact inner.computed_le_run { m with computed := m.computed + 1 }
  · rw [snd_perform_of_settled _ h, iff_false_right h]
    exact Nat.lt_irrefl _

end Use

namespace Script

/-- **The first value wins.** A script ends with the first of its values, and makes the computations
that a walk meets before it. Each use replies with the answer as it is when the use ends, computes
only if it found the answer open, and changes no settled answer. -/
theorem first_value_wins (s : Script) (n : Nat) :
    s.run = s.uses.mapM Use.report ∧
    (s.run ⟨.unresolved, n⟩).2 =
      ⟨s.values.head?.elim .unresolved .ofBool, n + (s.walk.takeWhile Option.isNone).length⟩ ∧
    s.walk.reduceOption = s.values ∧
    (∀ (u : Use) (m : Memo), (u.perform m).1 = u.replyIn (u.perform m).2.state ∧
      (m.state ≠ .unresolved → (u.perform m).2 = m)) ∧
    ∀ (inner : Script) result (m : Memo),
      m.computed < ((Use.resolve inner.run result).perform m).2.computed ↔
        m.state = .unresolved :=
  ⟨s.run_eq_mapM, s.snd_run_of_open n, s.reduceOption_walk,
    fun u m => ⟨u.fst_perform m, u.snd_perform_of_settled⟩, Use.computed_lt_perform⟩

/-- A computation in a computation settles the answer before either of them ends, so that no value
that comes later counts, and the last use does not compute. -/
example : outcomes (.resolve (.resolve (.settle false .done) (some true) .done) none
    (.resolve .done (some true) .done)) =
      [⟨.truth false, .excluded, 2⟩, ⟨.truth false, .excluded, 0⟩] := by decide

end Script

end CondComp
