import CondComp.CommandLine.Setting

/-!
# Commands

A command line gives options in any place, and directives after the word `query`. A directive is a
question (`version X`) or a declaration (`version=X`).

* `Directive`; `Item`, `Item.readAll`: the arguments as options, the word `query`, and directives;
* `QueryCommand`, `QueryCommand.parse`;
* `Command`, `Command.parse`, `Command.options?`.
-/

namespace CondComp

/-- Directives of the command line. -/
inductive Directive
  /-- Asks whether a condition is included. -/
  | ask (ns : Namespace) (q : Query)
  /-- Declares inside the module that is asked. -/
  | declare (ns : Namespace) (q : Query)
  deriving DecidableEq, Repr

/-- The parts of a command line. -/
inductive Item
  | setting (s : Setting)
  | start
  | directive (d : Directive)
  deriving DecidableEq, Repr

/-! ## Reading arguments -/

/-- Splits a text at its first `=`. -/
def splitAtEquals? (s : String) : Option (String × String) :=
  match s.toList.dropWhile (· ≠ '=') with
  | [] => none
  | _ :: value => some (.ofList (s.toList.takeWhile (· ≠ '=')), .ofList value)

/-- Reads a keyword. -/
def readKeyword (text : String) : Except ArgumentError Namespace :=
  match Namespace.ofKeyword? text with
  | some ns => .ok ns
  | none => .error (.unknownKeyword text)

/-- Reads the value of a directive. -/
def readDirectiveValue (text : String) : Except ArgumentError Query :=
  match Query.ofDirective? text with
  | some q => .ok q
  | none => .error (.malformedValue text)

namespace Item

/-- Reads arguments from left to right, before or after the word `query`. The value of a question is
the next argument, whatever it looks like. -/
def readFrom (started : Bool) : List String → Except ArgumentError (List Item)
  | [] => .ok []
  | arg :: rest => do
    match ← Setting.read arg with
    | some s => return setting s :: (← readFrom started rest)
    | none =>
      if started then
        match splitAtEquals? arg with
        | some (keyword, value) =>
          let ns ← readKeyword keyword
          let q ← readDirectiveValue value
          return directive (.declare ns q) :: (← readFrom started rest)
        | none =>
          let ns ← readKeyword arg
          match rest with
          | [] => throw (.missingValue arg)
          | value :: rest =>
            let q ← readDirectiveValue value
            return directive (.ask ns q) :: (← readFrom started rest)
      else if arg = "query" then return start :: (← readFrom true rest)
      else throw (.unknownCommand arg)

/-- Reads a command line. -/
def readAll (args : List String) : Except ArgumentError (List Item) := readFrom false args

/-- The setting of an option. -/
def setting? : Item → Option Setting
  | setting s => some s
  | _ => none

/-- The directive of an item. -/
def directive? : Item → Option Directive
  | directive d => some d
  | _ => none

end Item

/-! ## Commands -/

/-- Asks and declares in a module, in order. -/
structure QueryCommand where
  directives : List Directive
  options : BuildOptions
  deriving DecidableEq, Repr

namespace QueryCommand

/-- The command of a list of items; there has to be a directive. -/
def ofItems (items : List Item) : Except ArgumentError QueryCommand :=
  let directives := items.filterMap Item.directive?
  if directives.isEmpty then .error .noDirectives
  else .ok ⟨directives, Setting.applyAll {} (items.filterMap Item.setting?)⟩

/-- Parses the arguments of a query. -/
def parse (args : List String) : Except ArgumentError QueryCommand := do
  ofItems (← Item.readAll args)

end QueryCommand

/-- The option that asks for the predefined identifiers. -/
def printPredefined : String := "--print-predefined"

/-- Reads an argument that has to be an option. -/
def readSetting (arg : String) : Except ArgumentError Setting := do
  match ← Setting.read arg with
  | some s => return s
  | none => throw (.unexpectedArgument arg)

/-- Parses the arguments of the command that prints the predefined identifiers: options alone. -/
def parsePredefined (args : List String) : Except ArgumentError BuildOptions := do
  let settings ← (args.filter (· ≠ printPredefined)).mapM readSetting
  return Setting.applyAll {} settings

/-- The commands. -/
inductive Command
  | help
  | query (command : QueryCommand)
  | predefined (options : BuildOptions)
  deriving DecidableEq, Repr

namespace Command

/-- The options of a command. -/
def options? : Command → Option BuildOptions
  | help => none
  | query c => some c.options
  | predefined o => some o

/-- Parses a command line. -/
def parse (args : List String) : Except ArgumentError Command :=
  match args with
  | [] => .ok help
  | first :: _ =>
    if first = "-h" ∨ first = "--help" then .ok help
    else if printPredefined ∈ args then (parsePredefined args).map predefined
    else (QueryCommand.parse args).map query

end Command

end CondComp
