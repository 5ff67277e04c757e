import CondComp.Inclusion

/-!
# Nested uses of one answer

A script is a sequence of uses of one write-once answer. A use may be a computation, and a
computation may itself consist of uses of the same answer, to any depth.

* `Memo`: the answer together with the number of computations so far;
* `Use`, `Use.perform`, `Use.report`: one use and its `Outcome`;
* `Script`, `Script.run`: a script on an answer, with one outcome for each use at the top.
-/

namespace CondComp

/-- A write-once answer and the number of computations made for it. -/
structure Memo where
  state : Inclusion := .unresolved
  computed : Nat := 0
  deriving DecidableEq, Repr

namespace Memo

/-- Settles an open answer. -/
def settle (b : Bool) : StateM Memo Unit := modify fun m => { m with state := m.state.settle b }

/-- Counts a computation. -/
def count : StateM Memo Unit := modify fun m => { m with computed := m.computed + 1 }

/-- Answers from the memo, or else by a computation. -/
def resolve (compute : StateM Memo (Option Bool)) : StateM Memo Bool :=
  answerOnce (return (← get).state) settle compute

end Memo

/-- What a use answers. -/
inductive Reply
  | state (s : Inclusion)
  | truth (b : Bool)
  deriving DecidableEq, Repr

/-- A use of the answer: its reply, the state that it leaves, and the computations made in it. -/
structure Outcome where
  reply : Reply
  state : Inclusion
  computed : Nat
  deriving DecidableEq, Repr

/-! ## Uses -/

/-- One use of the answer. A computation makes uses of its own before it gives its result. -/
inductive Use
  | inspect
  | isIncluded
  | settle (included : Bool)
  | resolve (inner : StateM Memo (List Outcome)) (result : Option Bool)

namespace Use

/-- Makes a use. A computation first counts itself, then makes its own uses, then gives its
result. -/
def perform : Use → StateM Memo Reply
  | inspect => return .state (← get).state
  | isIncluded => return .truth (← get).state.isIncluded
  | settle b => do
    Memo.settle b
    return .truth (← get).state.isIncluded
  | resolve inner result => do
    let b ← Memo.resolve do
      Memo.count
      let _ ← inner
      return result
    return .truth b

/-- Makes a use and reports it. -/
def report (u : Use) : StateM Memo Outcome := do
  let before ← get
  let reply ← u.perform
  let after ← get
  return ⟨reply, after.state, after.computed - before.computed⟩

end Use

/-! ## Scripts -/

/-- Uses of one write-once answer, in order. -/
inductive Script
  | done
  | inspect (next : Script)
  | isIncluded (next : Script)
  | settle (included : Bool) (next : Script)
  | resolve (inner : Script) (result : Option Bool) (next : Script)
  deriving DecidableEq, Repr

namespace Script

/-- Runs a script: makes the uses at its top and reports each of them. -/
def run : Script → StateM Memo (List Outcome)
  | done => return []
  | inspect next => return (← Use.inspect.report) :: (← next.run)
  | isIncluded next => return (← Use.isIncluded.report) :: (← next.run)
  | settle b next => return (← (Use.settle b).report) :: (← next.run)
  | resolve inner result next =>
    return (← (Use.resolve inner.run result).report) :: (← next.run)

/-- The outcomes of a script on an open answer. -/
def outcomes (s : Script) : List Outcome := (s.run {}).1

end Script

end CondComp
