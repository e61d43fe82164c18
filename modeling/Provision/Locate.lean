import Provision.Package.Resolve
import Provision.Problem

/-!
# Locating the binary

The binary of the platform's own package is used when there is an executable one; otherwise the one
in the `bin` directory of the main package.

* `Locate.run` gives the path of an executable binary or says why there is none.
* `Locate.packageRoot` is the directory of the main package, and `Locate.onHost` locates the binary
  from there.
-/

namespace Provision.Locate

/-- The variable that names the directory of the main package. -/
def rootVariable : String := "COMMENT_CHECKER_ROOT"

/-- The directory that holds the binary. -/
def binDir (root : Path) : Path := root.entry "bin"

/-- Where the binary for a key is below a package directory. -/
def binaryIn (root : Path) (key : Key) : Path := (binDir root).entry key.binary

/-- The directory of a package, given the path of its manifest. -/
def packageDir (manifest : Path) : Path := manifest.parent?.getD ⟨[]⟩

/-- The binary in the platform's package, if that is installed. -/
def packagedBinary? (root : Path) (key : Key) : Program (Option Path) := do
  let manifest ← Resolve.manifest? root key.package
  return manifest.map fun m => binaryIn (packageDir m) key

/-- Locates the binary for a key. -/
def forKey (root : Path) (key : Key) : Attempt Problem Path := do
  let packaged ← packagedBinary? root key
  if let some p := packaged then
    if ← Program.ask (.isExecutable p) then return p
  let own := binaryIn root key
  if ← Program.ask (.isExecutable own) then return own
  match packaged with
  | some p => throw (.binaryMissing key.package p)
  | none => throw (.packageNotFound key.package)

/-- Locates the binary for a platform. -/
def run (root : Path) (platform : Platform) : Attempt Problem Path :=
  match platform.key? with
  | none => throw (.unsupportedPlatform platform.text)
  | some key => forKey root key

/-- The directory of the main package: the one that the environment names, or else the current
one. -/
def packageRoot : Attempt Report Path := do
  match ← Program.ask (.env rootVariable) with
  | some root => if root.isEmpty then .ofProgram (.ask .currentDir) else return .ofText root
  | none => .ofProgram (.ask .currentDir)

/-- Locates the binary for this machine, starting at the directory of the main package. Not to have
such a directory is a failure of its own. -/
def onHost : Attempt Report (Except Problem Path) := do
  let root ← packageRoot
  let found ← (run root .host).run
  return found

end Provision.Locate
