import Provision.Config
import Provision.Download
import Provision.Executable
import Provision.Outcome

/-!
# Installing

An install run puts the binary of a release into the `bin` directory of the main package. It checks
the platform and whether the binary is there, reads the version from the package's manifest,
downloads the archive, unpacks it into a staging directory and moves the result into place, the
binary last.

* `Install.run` is the whole run; every failure is part of its outcome.
* `Install.provide` is the part that changes files. The archive and the staging directory are gone
  after it, whatever happened.
* `Install.stage` and `Install.finalize` are the steps after the download.
-/

namespace Provision.Install

/-- The mode of an installed binary. -/
def binaryMode : Nat := 0o755

/-- Moves `source` to `target`; a directory at `target` is removed first. -/
def replace (source target : Path) : Attempt Report Unit := do
  if ← Program.ask (.isDir target) then
    Attempt.removeTree target
  Attempt.rename source target

/-! ## Staging -/

/-- The only directory of a listing with one item. -/
def onlyDirectory? : List Path → Program (Option Path)
  | [only] => do
    if ← .ask (.isDir only) then return some only else return none
  | _ => return none

/-- Finds the binary at the top of the staging directory, or in the only directory there. -/
def findBinary (staging : Path) (name : String) : Attempt Report Path := do
  let direct := staging.entry name
  if ← Program.ask (.isFile direct) then return direct
  let items ← Attempt.list staging
  if let some wrapper ← onlyDirectory? items then
    let nested := wrapper.entry name
    if ← Program.ask (.isFile nested) then return nested
  throw (.ofMessage ("Archive does not contain " ++ name))

/-- Does the file begin like an executable for the key? -/
def isNative (path : Path) (key : Key) : Program Bool := do
  match ← .ask (.openFile path) with
  | .error _ => return false
  | .ok s => return Executable.ofContent? s.bytes == some (.ofKey key)

/-- Makes an empty staging directory. -/
def clearStaging (staging : Path) : Attempt Report Unit := do
  if ← Program.ask (.pathExists staging) then
    Attempt.removeTree staging
  Attempt.createDirs staging

/-- Unpacks the archive into the staging directory and finds a binary there that is not empty. -/
def stage (extractor : Extractor) (key : Key) (archive staging : Path) : Attempt Report Path := do
  clearStaging staging
  extractor.run key.naming.format archive staging
  let binary ← findBinary staging key.binary
  if (← Attempt.size binary) = 0 then
    throw (.ofMessage ("Extracted " ++ key.binary ++ " is empty"))
  if !(← isNative binary key) then
    logWarn (binary.quoted ++ " does not look like a native " ++ key.name ++ " executable")
  return binary

/-! ## Moving into place -/

/-- Moves the other staged items into the binary's directory. One that cannot be moved is only
warned about. -/
def moveOthers (staged directory : Path) : List Path → Program Unit
  | [] => return ()
  | item :: rest => do
    if !item.sameAs staged then
      if let some name := item.fileName? then
        let target := directory.child name
        if let .error e ← (replace item target).run then
          logWarn ("Failed to install " ++ target.quoted ++ ": " ++ e.message)
    moveOthers staged directory rest

/-- Makes the staged binary executable and moves all that was staged with it into place. -/
def finalize (key : Key) (staged directory binary : Path) : Attempt Report Unit := do
  if !key.isWindows then
    (Attempt.setMode staged binaryMode).context "Failed to make binary executable"
  let some source := staged.parent?
    | throw (.ofMessage ("Staged binary " ++ staged.quoted ++ " has no parent"))
  moveOthers staged directory (← Attempt.list source)
  (replace staged binary).context ("Failed to move binary to " ++ binary.quoted)

/-! ## The run -/

/-- The name of the staging directory for an archive. -/
def stagingName (asset : String) : String := "." ++ asset ++ ".staging"

/-- Says what is being downloaded. -/
def announce (key : Key) (asset : Release.Asset) : Program Unit := do
  printLine .out (Outcome.line
    ("Downloading " ++ key.name ++ " binary from GitHub Releases..."))
  printLine .out (Outcome.line ("URL: " ++ asset.url))

/-- Unpacks the downloaded archive and moves the binary into place. -/
def unpackAndFinalize (extractor : Extractor) (key : Key)
    (archive staging directory binary : Path) :
    Attempt Problem Unit :=
  Guard.always staging do
    let staged ← (stage extractor key archive staging).mapFailure .extraction
    (finalize key staged directory binary).mapFailure .finalize

/-- Downloads, unpacks and moves into place. -/
def provide (extractor : Extractor) (key : Key) (asset : Release.Asset) (directory binary : Path) :
    Attempt Problem Unit := do
  announce key asset
  ((Attempt.createDirs directory).context ("Failed to create " ++ directory.quoted)).mapFailure
    .finalize
  let archive := directory.entry asset.name
  Guard.always archive do
    let size ← (Download.run asset.url archive).mapFailure .network
    logInfo ("Downloaded " ++ asset.name ++ " (" ++ toString size ++ " bytes)")
    unpackAndFinalize extractor key archive (directory.entry (stagingName asset.name)) directory
      binary

/-- Installs the binary for a key, unless it is there. -/
def runFor (c : Config) (key : Key) : Program Outcome := do
  let binary := Locate.binaryIn c.root key
  if ← .ask (.isFile binary) then return .alreadyInstalled binary
  match ← (Manifest.loadFrom c.root).run with
  | .error e => return .failed (.metadata e) (Release.indexUrl c.host)
  | .ok m =>
    let version := m.releaseVersion
    let asset := Release.asset c.host version key.naming
    match ← (provide c.extractor key asset (Locate.binDir c.root) binary).run with
    | .ok () => return .installed key binary
    | .error e => return .failed e (Release.pageUrl c.host version)

/-- Installs the binary for the platform, unless it is there or there is none. -/
def run (c : Config) : Program Outcome :=
  match c.platform.key? with
  | some key => runFor c key
  | none => do
    logWarn ("Skipping install on unsupported platform " ++ c.platform.text)
    return .skipped c.platform.text

end Provision.Install
