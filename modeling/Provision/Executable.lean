import Provision.Platform
import Provision.Bytes

/-!
# Executable formats

The first bytes of an executable file tell its format. Only the formats of the published platforms
matter.
-/

namespace Provision

/-- The formats of native executables. -/
inductive Executable where
  | elf
  | mach
  | pe
deriving DecidableEq, Repr

namespace Executable

/-- How many bytes a header has. -/
def headerSize : Nat := 16

/-- The first bytes of Mach-O files: both word sizes in both byte orders, and the fat format. -/
def machMagics : List Bytes :=
  [[0xFE, 0xED, 0xFA, 0xCE], [0xFE, 0xED, 0xFA, 0xCF], [0xCE, 0xFA, 0xED, 0xFE],
    [0xCF, 0xFA, 0xED, 0xFE], [0xCA, 0xFE, 0xBA, 0xBE]]

/-- The format that a content begins with; anything shorter than a header has none. -/
def ofContent? (bytes : Bytes) : Option Executable :=
  if bytes.length < headerSize then none
  else if bytes.startsWith [0x7F, 0x45, 0x4C, 0x46] then some .elf
  else if bytes.startsWith [0x4D, 0x5A] then some .pe
  else if machMagics.any bytes.startsWith then some .mach
  else none

/-- The format of the executables of a key. -/
def ofKey : Key → Executable
  | .darwinArm64 | .darwinX64 => .mach
  | .linuxArm64 | .linuxX64 => .elf
  | .win32X64 => .pe

end Executable

end Provision
