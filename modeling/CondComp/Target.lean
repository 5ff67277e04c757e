/-!
# Targets

The platform that a build is for: an architecture and an operating system, each possibly unknown.

* `Arch`, `Arch.ofText?`, `Arch.pointerBits`;
* `Os`, `Os.isPosix`;
* `Target`, `Target.generic`, `Target.withArch`, `Target.withOs`, `Target.host`.
-/

namespace CondComp

/-- The supported architectures. -/
inductive Arch
  | x86_64
  | aarch64
  deriving DecidableEq, Repr

namespace Arch

/-- The name of an architecture. -/
def name : Arch → String
  | x86_64 => "x86_64"
  | aarch64 => "aarch64"

/-- The architecture of a name; each has a second, customary name. -/
def ofText? (s : String) : Option Arch :=
  if s = "x86_64" ∨ s = "amd64" then some x86_64
  else if s = "aarch64" ∨ s = "arm64" then some aarch64
  else none

/-- The width of a pointer in bits. -/
def pointerBits : Arch → Nat
  | x86_64 | aarch64 => 64

/-- The least significant byte of a word comes first. -/
def isLittleEndian : Arch → Bool
  | x86_64 | aarch64 => true

end Arch

/-- The supported operating systems. -/
inductive Os
  | windows
  | mac
  | linux
  | freeBsd
  deriving DecidableEq, Repr

namespace Os

/-- The name of an operating system. -/
def name : Os → String
  | windows => "windows"
  | mac => "macos"
  | linux => "linux"
  | freeBsd => "freebsd"

/-- The operating system follows the POSIX standard. -/
def isPosix (os : Os) : Bool := os ≠ windows

/-- The architecture that is usual for an operating system. -/
def usualArch : Os → Arch
  | windows | mac | linux | freeBsd => .x86_64

end Os

/-- The platform that a build is for. -/
structure Target where
  arch : Option Arch := none
  os : Option Os := none
  deriving DecidableEq, Repr

namespace Target

/-- The platform that the compiler itself was built for, and on which it runs. It is fixed when the
compiler is built; this is the one of a build for Linux on x86-64. -/
def host : Target := ⟨some .x86_64, some .linux⟩

/-- The platform with an operating system and its usual architecture. -/
def generic (os : Os) : Target := ⟨some os.usualArch, some os⟩

/-- Sets the architecture. -/
def withArch (t : Target) (a : Arch) : Target := { t with arch := some a }

/-- Sets the operating system; an unknown architecture becomes the usual one. -/
def withOs (t : Target) (os : Os) : Target := ⟨some (t.arch.getD os.usualArch), some os⟩

/-- The operating system is Windows. -/
def isWindows (t : Target) : Bool := t.os = some .windows

/-- The operating system is known and follows the POSIX standard. -/
def isPosix (t : Target) : Bool := t.os.any Os.isPosix

/-- The width of a pointer in bits, 64 on an unknown architecture. -/
def pointerBits (t : Target) : Nat := (t.arch.map Arch.pointerBits).getD 64

/-- The least significant byte comes first, also on an unknown architecture. -/
def isLittleEndian (t : Target) : Bool := (t.arch.map Arch.isLittleEndian).getD true

/-- The name of the architecture. -/
def archName (t : Target) : String := (t.arch.map Arch.name).getD "unknown"

/-- The name of the operating system. -/
def osName (t : Target) : String := (t.os.map Os.name).getD "unknown"

/-- A target as it is shown. -/
def text (t : Target) : String := t.archName ++ " " ++ t.osName

end Target

end CondComp
