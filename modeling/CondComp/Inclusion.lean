/-!
# Inclusion

Whether what a condition guards is part of the program: not known yet, included, or excluded. The
answer is written once.

* `Inclusion`, `Inclusion.settle`: a settled answer never changes;
* `answerOnce`: answers from what is settled, else computes. The computation may itself settle the
  answer, which then wins, and it may leave the answer open.
-/

namespace CondComp

/-- What is known about a condition. -/
inductive Inclusion
  | unresolved
  | included
  | excluded
  deriving DecidableEq, Repr

namespace Inclusion

/-- The settled answer of a truth value. -/
def ofBool : Bool → Inclusion
  | true => included
  | false => excluded

/-- The answer is `included`. -/
def isIncluded (s : Inclusion) : Bool := s = included

/-- The answer is settled. -/
def isSettled (s : Inclusion) : Bool := s ≠ unresolved

/-- Settles an open answer; one that is settled stays. -/
def settle (s : Inclusion) (b : Bool) : Inclusion := if s.isSettled then s else ofBool b

/-- The name of the state. -/
def name : Inclusion → String
  | unresolved => "unresolved"
  | included => "included"
  | excluded => "excluded"

@[simp] theorem isSettled_ofBool (b : Bool) : (ofBool b).isSettled = true := by cases b <;> rfl

@[simp] theorem isIncluded_ofBool (b : Bool) : (ofBool b).isIncluded = b := by cases b <;> rfl

/-- The first settlement wins. -/
theorem settle_settle (s : Inclusion) (a b : Bool) : (s.settle a).settle b = s.settle a := by
  cases s <;> cases a <;> rfl

end Inclusion

/-- Answers from the state if it is settled. Otherwise computes, settles with the result if there is
one, and answers from the state as it then is. -/
def answerOnce {m : Type → Type} [Monad m] (state : m Inclusion) (settle : Bool → m Unit)
    (compute : m (Option Bool)) : m Bool := do
  let s ← state
  if s.isSettled then
    return s.isIncluded
  (← compute).forM settle
  return (← state).isIncluded

end CondComp
