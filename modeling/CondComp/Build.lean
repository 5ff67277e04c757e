import CondComp.Namespace
import CondComp.Target

/-!
# Builds

* `BuildOptions`: everything that is requested for a build;
* `BuildOptions.predefined`: the version identifiers that the compiler sets by itself for a build.
-/

namespace CondComp

/-- What happens to the dependency log. -/
inductive LogMode
  | disabled
  | print
  | file (name : String)
  deriving DecidableEq, Repr

/-- The identifiers and the level that are requested for one namespace. -/
structure Request where
  identifiers : List String := []
  level : Option Nat := none
  deriving DecidableEq, Repr

/-- Everything that is requested for a build. -/
structure BuildOptions where
  target : Target := .host
  log : LogMode := .disabled
  requests : PerNamespace Request := .both {}
  unittest : Bool := false
  release : Bool := false
  coverage : Bool := false
  documentation : Bool := false
  pic : Option Bool := none
  noBoundsChecks : Bool := false
  deriving DecidableEq, Repr

namespace BuildOptions

/-- Asserts stay in, unless the build is a release without tests. -/
def hasAsserts (o : BuildOptions) : Bool := !o.release || o.unittest

/-- The code is position independent: as requested, else on POSIX systems. -/
def positionIndependent (o : BuildOptions) : Bool := o.pic.getD o.target.isPosix

/-! ## Predefined identifiers -/

/-- The identifiers of an operating system. -/
def osIdentifiers (t : Target) : List String :=
  match t.os with
  | none => []
  | some .windows => ["Windows", if t.pointerBits = 64 then "Win64" else "Win32"]
  | some .mac => ["Posix", "OSX"]
  | some .linux => ["Posix", "linux"]
  | some .freeBsd => ["Posix", "FreeBSD", "BSD"]

/-- The identifiers of an architecture. -/
def archIdentifiers : Option Arch → List String
  | none => []
  | some .x86_64 => ["X86_64", "D_InlineAsm_X86_64", "D_SIMD"]
  | some .aarch64 => ["AArch64"]

/-- The list with `x` alone if `b` holds. -/
def onlyIf (b : Bool) (x : String) : List String := if b then [x] else []

/-- The version identifiers that the compiler sets by itself, in order. -/
def predefined (o : BuildOptions) : List String :=
  ["all", "D_Version2", "D_HardFloat"] ++ osIdentifiers o.target ++ archIdentifiers o.target.arch ++
    [if o.target.isLittleEndian then "LittleEndian" else "BigEndian"] ++
    onlyIf (o.target.pointerBits = 64) "D_LP64" ++
    onlyIf o.positionIndependent "D_PIC" ++
    onlyIf o.coverage "D_Coverage" ++
    onlyIf o.documentation "D_Ddoc" ++
    onlyIf o.noBoundsChecks "D_NoBoundsChecks" ++
    onlyIf o.unittest "unittest" ++
    onlyIf o.hasAsserts "assert"

end BuildOptions

end CondComp
