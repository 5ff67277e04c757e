import CondComp.Build
import CondComp.Query

/-!
# Options

* `ArgumentError`: why arguments are refused, and `ArgumentError.message`;
* `Setting`: what one option sets; `Setting.read` reads an argument, `Setting.apply` changes the
  options of a build;
* `BuildOptions.accept`, `BuildOptions.acceptAll`: arguments change the options of a build if they
  are options.
-/

namespace CondComp

/-- Why arguments are refused. -/
inductive ArgumentError
  | missingFileName
  | unsupportedArch (text : String)
  | unrecognizedOption (arg : String)
  | levelTooLarge (value flag : String)
  | missingValue (after : String)
  | unknownCommand (arg : String)
  | unknownKeyword (text : String)
  | malformedValue (text : String)
  | noDirectives
  | unexpectedArgument (arg : String)
  deriving DecidableEq, Repr

namespace ArgumentError

/-- The message of a refusal. -/
def message : ArgumentError → String
  | missingFileName => "Expected filename after '-deps='"
  | unsupportedArch text => "Unsupported target architecture '" ++ text ++ "'"
  | unrecognizedOption arg => "Unrecognized option '" ++ arg ++ "'"
  | levelTooLarge value flag => "Level '" ++ value ++ "' for '" ++ flag ++ "' is too large"
  | missingValue after => "Expected identifier or level after '" ++ after ++ "'"
  | unknownCommand arg => "Unknown command '" ++ arg ++ "'"
  | unknownKeyword text => "Expected 'version' or 'debug', got '" ++ text ++ "'"
  | malformedValue text => "Expected identifier or level, got '" ++ text ++ "'"
  | noDirectives => "No directives to evaluate"
  | unexpectedArgument arg => "Unexpected argument '" ++ arg ++ "'"

/-- The line that is printed for a refusal. -/
def line (e : ArgumentError) : String := "error: " ++ e.message ++ "\n"

end ArgumentError

/-- The rest of `s` after `start`, if `s` starts with it. -/
def afterStart? (start s : String) : Option String :=
  (List.isPrefixOf? start.toList s.toList).map String.ofList

/-- What one option sets. -/
inductive Setting
  | unittest
  | release
  | coverage
  | documentation
  | positionIndependent
  | log (mode : LogMode)
  | os (os : Os)
  | arch (arch : Arch)
  | level (ns : Namespace) (n : Nat)
  | identifier (ns : Namespace) (x : String)
  deriving DecidableEq, Repr

namespace Setting

/-! ## Reading -/

/-- The options that are words of their own. -/
def ofWord? : String → Option Setting
  | "-unittest" => some unittest
  | "-release" => some release
  | "-cov" => some coverage
  | "-D" => some documentation
  | "-fPIC" => some positionIndependent
  | "-debug" => some (level .debug 1)
  | "-deps" => some (log .print)
  | "--windows" => some (os .windows)
  | "--mac" => some (os .mac)
  | "--macos" => some (os .mac)
  | "--linux" => some (os .linux)
  | "--freebsd" => some (os .freeBsd)
  | _ => none

/-- The option of a namespace that takes a value. -/
def flag (ns : Namespace) : String := "-" ++ ns.keyword ++ "="

/-- Reads the value of the option of a namespace. -/
def readValue (ns : Namespace) (value : String) : Except ArgumentError Setting :=
  match Query.ofOption value with
  | .ok (.level n) => .ok (level ns n)
  | .ok (.identifier x) => .ok (identifier ns x)
  | .error .levelTooLarge => .error (.levelTooLarge value (flag ns))
  | .error .malformed => .error (.missingValue (flag ns))

/-- Reads the name of the dependency file. -/
def readFileName (name : String) : Except ArgumentError Setting :=
  if name = "" then .error .missingFileName else .ok (log (.file name))

/-- Reads the name of an architecture. -/
def readArch (name : String) : Except ArgumentError Setting :=
  match Arch.ofText? name with
  | some a => .ok (arch a)
  | none => .error (.unsupportedArch name)

/-- The options that end in a value, each with the reader of the value. -/
def valued : List (String × (String → Except ArgumentError Setting)) :=
  [(flag .version, readValue .version), (flag .debug, readValue .debug), ("-deps=", readFileName),
    ("--target-arch=", readArch)]

/-- Reads an argument. An argument that does not start with a hyphen is no option. -/
def read (arg : String) : Except ArgumentError (Option Setting) :=
  match ofWord? arg with
  | some s => .ok (some s)
  | none =>
    match valued.findSome? fun v => (afterStart? v.1 arg).map v.2 with
    | some r => r.map some
    | none => if (afterStart? "-" arg).isSome then .error (.unrecognizedOption arg) else .ok none

/-! ## Effect -/

/-- Changes the options of a build. -/
def apply (o : BuildOptions) : Setting → BuildOptions
  | unittest => { o with unittest := true }
  | release => { o with release := true }
  | coverage => { o with coverage := true }
  | documentation => { o with documentation := true }
  | positionIndependent => { o with pic := some true }
  | log mode => { o with log := mode }
  | os v => { o with target := o.target.withOs v }
  | arch a => { o with target := o.target.withArch a }
  | level ns n => { o with requests := o.requests.modify ns fun r => { r with level := some n } }
  | identifier ns x =>
    { o with
      requests := o.requests.modify ns fun r => { r with identifiers := r.identifiers ++ [x] } }

/-- Changes the options of a build by the settings of a list, from left to right. -/
def applyAll (o : BuildOptions) (settings : List Setting) : BuildOptions := settings.foldl apply o

end Setting

namespace BuildOptions

/-- Changes the options of a build by an argument, if it is an option, and tells whether it is. -/
def accept (o : BuildOptions) (arg : String) : Except ArgumentError Bool × BuildOptions :=
  match Setting.read arg with
  | .ok (some s) => (.ok true, s.apply o)
  | .ok none => (.ok false, o)
  | .error e => (.error e, o)

/-- Changes the options of a build by arguments, in order. -/
def acceptAll (o : BuildOptions) (args : List String) : BuildOptions :=
  args.foldl (fun o arg => (o.accept arg).2) o

end BuildOptions

end CondComp
