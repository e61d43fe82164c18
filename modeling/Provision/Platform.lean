/-!
# Platforms

A platform is an operating system and a processor architecture in Node's words. Five combinations
have a published binary; each is named by a `Key`, from which the release naming, the sub-package
and the file name of the binary follow.

* `Platform.parse?` reads `OS-ARCH`, `Platform.key?` finds the supported key.
* `Key.parse?` reads a key by its canonical name `Key.name`.
-/

namespace Provision

/-- The container of a published archive. -/
inductive ArchiveFormat where
  | tarGz
  | zip
deriving DecidableEq, Repr

/-- The file extension of a container, without the leading dot. -/
def ArchiveFormat.extension : ArchiveFormat → String
  | .tarGz => "tar.gz"
  | .zip => "zip"

/-- A supported combination of operating system and architecture. -/
inductive Key where
  | darwinArm64
  | darwinX64
  | linuxArm64
  | linuxX64
  | win32X64
deriving DecidableEq, Repr

/-- How release files of a key are named. -/
structure Naming where
  os : String
  arch : String
  format : ArchiveFormat
deriving DecidableEq, Repr

namespace Key

/-- All keys in canonical order. -/
def all : List Key := [.darwinArm64, .darwinX64, .linuxArm64, .linuxX64, .win32X64]

/-- The canonical name. -/
def name : Key → String
  | .darwinArm64 => "darwin-arm64"
  | .darwinX64 => "darwin-x64"
  | .linuxArm64 => "linux-arm64"
  | .linuxX64 => "linux-x64"
  | .win32X64 => "win32-x64"

/-- All canonical names, for messages. -/
def supportedList : String := ", ".intercalate (all.map name)

/-- The release naming of a key. -/
def naming : Key → Naming
  | .darwinArm64 => ⟨"darwin", "arm64", .tarGz⟩
  | .darwinX64 => ⟨"darwin", "amd64", .tarGz⟩
  | .linuxArm64 => ⟨"linux", "arm64", .tarGz⟩
  | .linuxX64 => ⟨"linux", "amd64", .tarGz⟩
  | .win32X64 => ⟨"windows", "amd64", .zip⟩

/-- The package that ships the binary for a key. -/
def package (k : Key) : String := "@anthropic-claude/comment-checker-" ++ k.name

/-- Is this a Windows key? -/
def isWindows : Key → Bool
  | .win32X64 => true
  | _ => false

/-- The file name of the binary. -/
def binary (k : Key) : String :=
  if k.isWindows then "comment-checker.exe" else "comment-checker"

/-- Why a text is no key. -/
def unknownMessage (s : String) : String :=
  "Unknown platform key '" ++ s ++ "'. Supported: " ++ supportedList

/-- The key with the given canonical name. -/
def parse? (s : String) : Option Key := all.find? fun k => k.name == s

end Key

/-- An operating system and an architecture, in Node's words. -/
structure Platform where
  os : String
  arch : String
deriving DecidableEq, Repr

namespace Platform

/-- The platform of the host that this library models. -/
def host : Platform := ⟨"linux", "x64"⟩

/-- The two architecture classes that are published: everything but `arm64` counts as `x64`. -/
def archClass (arch : String) : String := if arch = "arm64" then "arm64" else "x64"

/-- The key of a platform; there is none for Windows on `arm64` nor for other systems. -/
def key? (p : Platform) : Option Key :=
  let arm := p.arch = "arm64"
  if p.os = "darwin" then some (if arm then .darwinArm64 else .darwinX64)
  else if p.os = "linux" then some (if arm then .linuxArm64 else .linuxX64)
  else if p.os = "win32" then (if arm then none else some .win32X64)
  else none

/-- The form `OS-ARCH`. -/
def text (p : Platform) : String := p.os ++ "-" ++ p.arch

/-- Why a text is no platform. -/
def invalidMessage (s : String) : String :=
  "Invalid platform '" ++ s ++ "', expected OS-ARCH"

/-- The characters before and after the last dash. -/
def splitLastDash (cs : List Char) : Option (List Char × List Char) :=
  let back := cs.reverse
  match back.dropWhile (· ≠ '-') with
  | [] => none
  | _ :: front => some (front.reverse, (back.takeWhile (· ≠ '-')).reverse)

/-- Reads `OS-ARCH`, split at the last dash; neither side may be empty. -/
def parse? (s : String) : Option Platform :=
  match splitLastDash s.toList with
  | some (os@(_ :: _), arch@(_ :: _)) => some ⟨String.ofList os, String.ofList arch⟩
  | _ => none

end Platform

end Provision
