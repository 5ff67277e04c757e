/-!
# Source positions

* `Location`: a line and a column, ordered by line first;
* `Path`: a file path, which is a sequence of bytes, and `Path.shown`, its text in messages;
* `FileId`, `Files`: the files of a compilation; `FileId.internal` stands for constructs that the
  compiler itself makes;
* `Source`: a location in a file.
-/

namespace CondComp

/-- A position in a file; lines and columns count from one. -/
structure Location where
  line : Nat
  column : Nat
  deriving DecidableEq, Repr, Ord

namespace Location

/-- The first position of a file. -/
def start : Location := ⟨1, 1⟩

/-- A location as it is shown in messages. -/
def text (l : Location) : String := l.line.repr ++ ":" ++ l.column.repr

end Location

/-! ## Files -/

/-- A file path. Paths need not be text. -/
structure Path where
  bytes : ByteArray

namespace Path

instance : DecidableEq Path := fun p q =>
  match ByteArray.decEq p.bytes q.bytes with
  | isTrue h => isTrue (congrArg mk h)
  | isFalse h => isFalse fun e => h (congrArg bytes e)

/-- The path with the given text. -/
def ofText (s : String) : Path := ⟨s.toUTF8⟩

/-- What is shown for a path that is not text. -/
def unreadable : String := "<invalid unicode filename>"

/-- A path as it is shown in messages: its text, if its bytes are the UTF-8 form of one. -/
def shown (p : Path) : String := (String.fromUTF8? p.bytes).getD unreadable

end Path

/-- Names a file of the compilation. -/
inductive FileId
  | internal
  | added (index : Nat)
  deriving DecidableEq, Repr

/-- The files of a compilation, in the order in which they were added. -/
structure Files where
  added : Array Path := #[]
  deriving DecidableEq

namespace Files

/-- Adds a file, which gets the next index. -/
def add (fs : Files) (p : Path) : FileId × Files :=
  (.added fs.added.size, ⟨fs.added.push p⟩)

/-- The name of the internal file. -/
def internalName : String := "<internal>"

/-- The name of a file in messages. -/
def shown (fs : Files) : FileId → String
  | .internal => internalName
  | .added i => ((fs.added[i]?).map Path.shown).getD internalName

/-- The number of files, the internal one included. -/
def count (fs : Files) : Nat := fs.added.size + 1

end Files

/-! ## Positions in files -/

/-- A location in a file. -/
structure Source where
  file : FileId
  location : Location
  deriving DecidableEq, Repr

namespace Source

/-- The position of what the compiler itself makes. -/
def internal : Source := ⟨.internal, .start⟩

/-- The position lies in the internal file. -/
def isInternal (s : Source) : Bool := s.file = .internal

/-- A position as it is shown in messages. -/
def text (fs : Files) (s : Source) : String := fs.shown s.file ++ ":" ++ s.location.text

end Source

end CondComp
