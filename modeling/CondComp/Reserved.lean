/-!
# Reserved version identifiers

Some version identifiers belong to the compiler. They describe the platform, the architecture and
the features of a build, and nobody else may set them.

* `reservedVersions`, `reservedStart`, `isReservedVersion`;
* `testingVersions`, `isTestingVersion`.
-/

namespace CondComp

/-- The reserved version identifiers that are listed by name. -/
def reservedVersions : List String :=
  ["DigitalMars", "GNU", "LDC", "SDC", "Windows", "Win32", "Win64", "linux", "OSX", "FreeBSD",
   "OpenBSD", "NetBSD", "DragonFlyBSD", "BSD", "Solaris", "Posix", "AIX", "Haiku", "SkyOS",
   "SysV3", "SysV4", "Hurd", "Android", "Cygwin", "MinGW", "X86", "X86_64", "ARM", "ARM_Thumb",
   "ARM_SoftFloat", "ARM_SoftFP", "ARM_HardFloat", "AArch64", "PPC", "PPC_SoftFloat",
   "PPC_HardFloat", "PPC64", "IA64", "MIPS32", "MIPS64", "MIPS_O32", "MIPS_N32", "MIPS_O64",
   "MIPS_N64", "MIPS_EABI", "MIPS_SoftFloat", "MIPS_HardFloat", "SPARC", "SPARC_V8Plus",
   "SPARC_SoftFloat", "SPARC_HardFloat", "SPARC64", "S390", "S390X", "HPPA", "HPPA64", "SH",
   "SH64", "Alpha", "Alpha_SoftFloat", "Alpha_HardFloat", "LittleEndian", "BigEndian",
   "D_Coverage", "D_Ddoc", "D_InlineAsm_X86", "D_InlineAsm_X86_64", "D_LP64", "D_X32",
   "D_HardFloat", "D_SoftFloat", "D_PIC", "D_SIMD", "D_Version2", "D_NoBoundsChecks", "unittest",
   "assert", "all", "none"]

/-- Every identifier that starts like this is reserved, listed or not. -/
def reservedStart : String := "D_"

/-- The version identifier `x` belongs to the compiler. -/
def isReservedVersion (x : String) : Bool :=
  reservedStart.toList.isPrefixOf x.toList || reservedVersions.contains x

/-- The reserved identifiers that stand for builds with tests. -/
def testingVersions : List String := ["unittest", "assert"]

/-- The version identifier `x` stands for a build with tests. -/
def isTestingVersion (x : String) : Bool := testingVersions.contains x

end CondComp
