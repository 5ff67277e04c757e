import CondComp.CommandLine.Report

/-!
# Invocations

* `usage`: the help text;
* `Invocation`: what an invocation prints, and whether it succeeds; `Command.invoke`, `invoke`.
-/

namespace CondComp

/-- The help text. -/
def usage : String := String.join <| List.map (· ++ "\n")
  ["usage: condc [OPTIONS] query DIRECTIVE...",
    "       condc [OPTIONS] --print-predefined",
    "",
    "directives (evaluated in order, inside a single module):",
    "    version IDENT|LEVEL    query a version condition",
    "    debug IDENT|LEVEL      query a debug condition",
    "    version=IDENT|LEVEL    declare inside the module, like `version = IDENT;`",
    "    debug=IDENT|LEVEL      declare inside the module, like `debug = IDENT;`",
    "",
    "options:",
    "    -version=IDENT|LEVEL   define a version identifier or level globally",
    "    -debug[=IDENT|LEVEL]   define a debug identifier or level globally",
    "    -deps                  print the dependencies of evaluated conditions",
    "    -deps=FILE             dependency file (conditions are not written to it)",
    "    -unittest              compile in unittests",
    "    -release               disable asserts",
    "    -cov                   instrument for code coverage",
    "    -D                     generate documentation",
    "    -fPIC                  generate position independent code",
    "    --windows | --mac | --linux | --freebsd",
    "    --target-arch=x86_64|aarch64"]

/-- What an invocation prints, and whether it succeeds. -/
structure Invocation where
  succeeded : Bool
  output : String := ""
  errors : String := ""
  deriving DecidableEq, Repr

namespace Command

/-- Carries out a command. Help counts as a failure, because nothing was compiled. -/
def invoke (style : Style) : Command → Invocation
  | help => { succeeded := false, output := usage }
  | query c =>
    let r := c.run .print
    { succeeded := r.succeeded, output := r.output, errors := r.sink.printed r.files style }
  | predefined o =>
    { succeeded := true, output := String.join (o.predefined.map (· ++ "\n")) }

end Command

/-- Parses a command line and carries the command out. -/
def invoke (style : Style) (args : List String) : Invocation :=
  match Command.parse args with
  | .ok command => command.invoke style
  | .error e => { succeeded := false, errors := e.line }

end CondComp
