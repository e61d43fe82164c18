import Provision.Archive.Extract
import Provision.Linux.Files
import Provision.Transcript

/-!
# The Linux host

A host that behaves like a Linux system with a file system of its own, the tools `tar` and `unzip`
and a network that is a parameter.

* `Linux.handle` answers every call; each failing call says what was being done and which system
  error it met.
* `Linux.runTool` plays the external tools with the archive readers of this library.
-/

namespace Provision

/-- The state of the Linux host. -/
structure Linux where
  files : Linux.Files := {}
  env : List (String × String) := []
  transcript : Transcript := {}
deriving DecidableEq, Repr

namespace Linux

variable {α : Type}

/-- The result of a system call inside a context. -/
def inContext (context : String) (r : Except Errno α) : Except Report α :=
  r.mapError fun e => e.report.context context

/-- Changes the files inside a context. -/
def change (l : Linux) (context : String) (r : Except Errno Files) : Except Report Unit × Linux :=
  match r with
  | .ok files => (.ok (), { l with files })
  | .error e => (.error (e.report.context context), l)

/-- Changes the files inside a context, also when the call failed. -/
def changeAnyway (l : Linux) (context : String) (r : Except Errno Unit × Files) :
    Except Report Unit × Linux :=
  (inContext context r.1, { l with files := r.2 })

/-- Reads a whole file as text. -/
def readText (f : Files) (path : Path) : Except Report String :=
  let failed (message : String) : Except Report String :=
    .error ((Report.ofMessage message).context "Failed to read file to string")
  match f.contents path with
  | .error e => failed e.message
  | .ok (.error e) => failed e.message
  | .ok (.ok bytes) =>
    match Utf8.decode? bytes with
    | some text => .ok text
    | none => failed "stream did not contain valid UTF-8"

/-- Opens a file for reading. -/
def openFile (f : Files) (path : Path) : Except Report Stream :=
  inContext "Failed to open file" <| (f.contents path).map fun
    | .ok bytes => ⟨bytes, none⟩
    | .error e => ⟨[], some e.message⟩

/-- The size that directories are given. -/
def directorySize : Nat := 4096

/-- The size of what a path leads to. -/
def size (f : Files) (path : Path) : Except Report Nat :=
  inContext "Failed to read file metadata" <| (f.findNode .followed path).map fun
    | (_, .file bytes _) => bytes.length
    | _ => directorySize

/-- The path of the current directory. -/
def currentDir (f : Files) : Except Report Path :=
  inContext "Failed to determine current directory" <|
    if f.isDetached then .error .noEntry else .ok (Files.pathOf f.cwd)

/-- Does a path lead to a file with an execute bit? -/
def isExecutable (f : Files) (path : Path) : Bool :=
  match f.stat? path with
  | some (.file _ mode) => mode &&& 0o111 != 0
  | _ => false

/-- Answers a call; there are no tools. -/
def handleWithoutTools {η : Type} (serve : Url → η → Except NoResponse Response × η) :
    Handler (Linux × η)
  | .env name, (l, n) => (l.env.lookup name, (l, n))
  | .currentDir, (l, n) => (currentDir l.files, (l, n))
  | .readText path, (l, n) => (readText l.files path, (l, n))
  | .rename source target, (l, n) =>
    let (r, l) := l.change "Failed to rename file" (l.files.rename source target)
    (r, (l, n))
  | .createDirs path, (l, n) =>
    let (r, l) := l.changeAnyway "Failed to create directory" (l.files.makeDirs path)
    (r, (l, n))
  | .removeFile path, (l, n) =>
    let (r, l) := l.change "Failed to remove file" (l.files.unlink path)
    (r, (l, n))
  | .removeTree path, (l, n) =>
    let (r, l) := l.changeAnyway "Failed to remove directory and its contents"
      (l.files.removeTree path)
    (r, (l, n))
  | .pathExists path, (l, n) => ((l.files.stat? path).isSome, (l, n))
  | .isDir path, (l, n) => (l.files.isDir path, (l, n))
  | .isFile path, (l, n) =>
    (match l.files.stat? path with
      | some (.file ..) => true
      | _ => false, (l, n))
  | .list path, (l, n) => ((l.files.list path).mapError Errno.report, (l, n))
  | .create path, (l, n) =>
    match l.files.makeFile path with
    | .ok (p, files) => (.ok { path := Files.pathOf p }, ({ l with files }, n))
    | .error e => (.error (e.report.context "Failed to create file"), (l, n))
  | .write w chunk, (l, n) =>
    let p := Files.steps w.path.text
    (.ok (), ({ l with files := l.files.append p chunk }, n))
  | .flush _, (l, n) => (.ok (), (l, n))
  | .openFile path, (l, n) => (openFile l.files path, (l, n))
  | .size path, (l, n) => (size l.files path, (l, n))
  | .isExecutable path, (l, n) => (isExecutable l.files path, (l, n))
  | .setMode path mode, (l, n) =>
    let (r, l) := l.change "Failed to set permissions" (l.files.setMode path mode)
    (r, (l, n))
  | .request url, (l, n) =>
    let (r, n) := serve url n
    (r, (l, n))
  | .runTool _, (l, n) => (.error Errno.noEntry.report, (l, n))
  | .log level message, (l, n) => ((), ({ l with transcript := l.transcript.log level message }, n))
  | .print channel line, (l, n) =>
    ((), ({ l with transcript := l.transcript.print channel line }, n))

/-! ## Tools -/

/-- What stands for the messages of a tool. -/
def toolMessages : String := "<tool output>"

/-- Unpacks a listing below a directory; was there no failure? -/
def unpackListing (l : Linux) (directory : Path) (listing : Archive.Listing) : Bool × Linux :=
  let (r, (l, _)) :=
    (Archive.unpack directory listing).run.run (handleWithoutTools noNetwork) (l, ())
  (r.isOk, l)

/-- Plays `tar` on a gzipped archive. The directory has to exist. -/
def runTar (l : Linux) (archive directory : Path) : ToolExit × Linux :=
  match l.files.isDir directory, l.files.contents archive with
  | true, .ok (.ok bytes) =>
    match l.unpackListing directory (Archive.Tar.listing (Archive.Gzip.decode ⟨bytes, none⟩)) with
    | (true, l) => ({ status := 0 }, l)
    | (false, l) => (⟨2, toolMessages⟩, l)
  | _, _ => (⟨2, toolMessages⟩, l)

/-- Plays `unzip`. The directory is made if it does not exist. -/
def runUnzip (l : Linux) (archive directory : Path) : ToolExit × Linux :=
  match l.files.contents archive with
  | .ok (.ok bytes) =>
    match Archive.Zip.directory bytes with
    | .error _ => (⟨9, toolMessages⟩, l)
    | .ok _ =>
      let l := { l with files := (l.files.makeDirs directory).2 }
      match l.unpackListing directory (Archive.Zip.listing bytes) with
      | (true, l) => ({ status := 0 }, l)
      | (false, l) => (⟨3, toolMessages⟩, l)
  | _ => (⟨9, toolMessages⟩, l)

/-- Plays an external command. -/
def runTool (l : Linux) (t : Tool) : Except Report ToolExit × Linux :=
  match t.program, t.args with
  | "tar", ["-xzf", archive, "-C", directory] =>
    let (exit, l) := l.runTar (.ofText archive) (.ofText directory)
    (.ok exit, l)
  | "unzip", ["-o", archive, "-d", directory] =>
    let (exit, l) := l.runUnzip (.ofText archive) (.ofText directory)
    (.ok exit, l)
  | _, _ => (.error Errno.noEntry.report, l)

/-- Answers a call. The network is answered by `serve`. -/
def handle {η : Type} (serve : Url → η → Except NoResponse Response × η) : Handler (Linux × η)
  | .runTool tool, (l, n) =>
    let (r, l) := l.runTool tool
    (r, (l, n))
  | c, s => handleWithoutTools serve c s

end Linux

end Provision
