import CondComp.CommandLine.Invocation

/-!
# The program

* `main`: carries out the command line; the exit code is zero if and only if it succeeds.
-/

/-- Prints what the invocation prints; errors are coloured on a terminal. -/
def main (args : List String) : IO UInt32 := do
  let stdout ← IO.getStdout
  let stderr ← IO.getStderr
  let style := if ← stderr.isTty then CondComp.Style.coloured else CondComp.Style.plain
  let r := CondComp.invoke style args
  stderr.putStr r.errors
  stdout.putStr r.output
  stdout.flush
  return if r.succeeded then 0 else 1
