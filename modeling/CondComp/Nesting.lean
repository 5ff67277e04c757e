import CondComp.Inclusion

/-!
# Nesting

A condition counts the guards that are held on it. Each of its evaluations in flight holds one.

* `NestingGuards`: the guards held; `NestingGuards.acquire`, `NestingGuards.release?`;
* `GuardedCondition`: a condition with its answer and the guards held on it.
-/

namespace CondComp

/-- The guards held on a condition. Guards are numbered, and no number is used twice. -/
structure NestingGuards where
  issued : Nat := 0
  held : List Nat := []
  deriving DecidableEq, Repr

namespace NestingGuards

/-- The number of guards held. -/
def nesting (g : NestingGuards) : Nat := g.held.length

/-- Takes a new guard. -/
def acquire (g : NestingGuards) : Nat × NestingGuards :=
  (g.issued, { issued := g.issued + 1, held := g.issued :: g.held })

/-- Gives a guard back, if it is held. -/
def release? (g : NestingGuards) (id : Nat) : Option NestingGuards :=
  if id ∈ g.held then some { g with held := g.held.erase id } else none

end NestingGuards

/-- A condition with its answer and the guards held on it. -/
structure GuardedCondition where
  text : String
  state : Inclusion := .unresolved
  guards : NestingGuards := {}
  deriving DecidableEq, Repr

namespace GuardedCondition

/-- A copy of a condition has no answer yet, and no guards. -/
def copy (c : GuardedCondition) : GuardedCondition := { text := c.text }

/-- Settles the answer of a condition, if it is open. -/
def settle (c : GuardedCondition) (b : Bool) : GuardedCondition :=
  { c with state := c.state.settle b }

/-- Takes a new guard on a condition. -/
def acquire (c : GuardedCondition) : Nat × GuardedCondition :=
  let (id, guards) := c.guards.acquire
  (id, { c with guards := guards })

/-- Gives a guard on a condition back, and says whether it was held. -/
def release (c : GuardedCondition) (id : Nat) : Bool × GuardedCondition :=
  match c.guards.release? id with
  | none => (false, c)
  | some guards => (true, { c with guards := guards })

end GuardedCondition

end CondComp
