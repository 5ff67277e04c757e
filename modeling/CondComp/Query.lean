import CondComp.Identifier

/-!
# Queries

A directive asks about an identifier or about a level. The same two forms stand in options and in
directives on the command line, where they are read by two slightly different rules.

* `Query`, `Query.text`;
* `decimalValue`, `isDecimal`, `maxLevel`: levels in decimal digits;
* `Query.ofDirective?`: the value of a directive, whose level may carry a `+`;
* `Query.ofOption`: the value of an option, whose level is digits alone.
-/

namespace CondComp

/-- What a directive asks about. -/
inductive Query
  | level (n : Nat)
  | identifier (x : String)
  deriving DecidableEq, Repr

namespace Query

/-- A query as it is written in a directive. -/
def text : Query → String
  | level n => n.repr
  | identifier x => x

/-- The identifier asked about. -/
def identifier? : Query → Option String
  | level _ => none
  | identifier x => some x

end Query

/-! ## Levels in decimal digits -/

/-- The greatest level that can be written. -/
def maxLevel : Nat := 4294967295

/-- The number that decimal digits denote. -/
def decimalValue (cs : List Char) : Nat := cs.foldl (fun n c => 10 * n + (c.toNat - 48)) 0

/-- `cs` is one or more decimal digits. -/
def isDecimal (cs : List Char) : Bool := !cs.isEmpty && cs.all Char.isDigit

/-- Drops one leading `+`. -/
def dropPlus : List Char → List Char
  | '+' :: cs => cs
  | cs => cs

/-! ## Reading values -/

/-- Why the value of an option cannot be read. -/
inductive ValueError
  | levelTooLarge
  | malformed
  deriving DecidableEq, Repr

namespace Query

/-- Reads the value of a directive: a level, with or without a leading `+`, or an identifier. -/
def ofDirective? (s : String) : Option Query :=
  let digits := dropPlus s.toList
  if isDecimal digits && decimalValue digits ≤ maxLevel then some (level (decimalValue digits))
  else if isIdentifier s then some (identifier s)
  else none

/-- Reads the value of an option: digits are a level, anything else has to be an identifier. -/
def ofOption (s : String) : Except ValueError Query :=
  if isDecimal s.toList then
    if decimalValue s.toList ≤ maxLevel then .ok (level (decimalValue s.toList))
    else .error .levelTooLarge
  else if isIdentifier s then .ok (identifier s)
  else .error .malformed

end Query

end CondComp
