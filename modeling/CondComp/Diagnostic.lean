import CondComp.Source

/-!
# Diagnostics

* `Diagnostic`: an error or a warning, with or without a position, and its text `Diagnostic.render`;
* `Style`: whether the word that names the severity is coloured;
* `Sink`: takes diagnostics, counts the errors, and either keeps the diagnostics or prints them;
  errors that are suppressed are only counted.
-/

namespace CondComp

/-- How grave a diagnostic is. -/
inductive Severity
  | error
  | warning
  deriving DecidableEq, Repr

/-- Whether the word that names the severity is coloured. -/
inductive Style
  | plain
  | coloured
  deriving DecidableEq, Repr

namespace Severity

/-- The word that opens a message. -/
def word : Severity → String
  | error => "error:"
  | warning => "warning:"

/-- The terminal's number for the colour of the word: red for errors, yellow for warnings. -/
def colour : Severity → String
  | error => "31"
  | warning => "33"

/-- The word in a style; coloured words are bold. -/
def render (s : Severity) : Style → String
  | .plain => s.word
  | .coloured => "\x1b[1;" ++ s.colour ++ "m" ++ s.word ++ "\x1b[0m"

end Severity

/-- An error or a warning. -/
structure Diagnostic where
  severity : Severity
  message : String
  source : Option Source := none
  deriving DecidableEq, Repr

namespace Diagnostic

/-- An error at a position. -/
def errorAt (source : Source) (message : String) : Diagnostic := ⟨.error, message, some source⟩

/-- An error without a position. -/
def plainError (message : String) : Diagnostic := ⟨.error, message, none⟩

/-- A warning without a position. -/
def plainWarning (message : String) : Diagnostic := ⟨.warning, message, none⟩

/-- The diagnostic is an error. -/
def isError (d : Diagnostic) : Bool := d.severity = .error

/-- The position of a diagnostic as it stands before the message. -/
def position (fs : Files) (d : Diagnostic) : String :=
  match d.source with
  | none => ""
  | some s => s.text fs ++ ": "

/-- A diagnostic as it is shown. -/
def render (fs : Files) (style : Style) (d : Diagnostic) : String :=
  d.position fs ++ d.severity.render style ++ " " ++ d.message

end Diagnostic

/-! ## Sinks -/

/-- What a sink does with the diagnostics that it takes. -/
inductive Delivery
  | collect
  | print
  deriving DecidableEq, Repr

/-- The diagnostics of a compilation so far. -/
structure Sink where
  delivery : Delivery := .collect
  taken : Array Diagnostic := #[]
  gagged : Nat := 0
  deriving DecidableEq, Repr

namespace Sink

/-- Takes a diagnostic. -/
def push (s : Sink) (d : Diagnostic) : Sink := { s with taken := s.taken.push d }

/-- Takes the diagnostics of a list from left to right. -/
def pushAll (s : Sink) (ds : List Diagnostic) : Sink := ds.foldl push s

/-- Counts an error that is suppressed. -/
def countGagged (s : Sink) : Sink := { s with gagged := s.gagged + 1 }

/-- The number of errors taken. -/
def errors (s : Sink) : Nat := s.taken.countP Diagnostic.isError

@[simp] theorem errors_push (s : Sink) (d : Diagnostic) :
    (s.push d).errors = s.errors + if d.isError then 1 else 0 := by
  simp [errors, push, Array.countP_push]

@[simp] theorem errors_countGagged (s : Sink) : s.countGagged.errors = s.errors := rfl

/-- The diagnostics kept: none in a sink that prints. -/
def collected (s : Sink) : Array Diagnostic :=
  match s.delivery with
  | .collect => s.taken
  | .print => #[]

/-- The text printed: one line for each diagnostic in a sink that prints, else nothing. -/
def printed (s : Sink) (fs : Files) (style : Style) : String :=
  match s.delivery with
  | .collect => ""
  | .print => String.join (s.taken.toList.map fun d => d.render fs style ++ "\n")

/-- The counts of a sink on one line. -/
def summary (s : Sink) : String :=
  "Diagnostics \x7b errors: " ++ s.errors.repr ++ ", gagged: " ++ s.gagged.repr ++ ", .. \x7d"

end Sink

end CondComp
