import Provision.CommandLine
import Provision.Linux.Errno

/-!
# The program

Answers the calls of the command line from the machine that it runs on. The system library knows no
network, external tools or file modes: requests are refused, tools are not found, and every file
counts as executable.

* `Machine.answer` answers one call, and `Machine.perform` those of a whole program.
-/

namespace Provision.Machine

/-- How an error of the system reads. The system library gives some numbers with a minus sign, in 32
bits. -/
def errorText (code : UInt32) (wording : String) : String :=
  let n := code.toNat
  let number := if n < UInt32.size / 2 then n else UInt32.size - n
  match Linux.Errno.ofNumber? number with
  | some e => e.message
  | none => Linux.Errno.numbered wording number

/-- How a failure of an action reads. -/
def failureText : IO.Error → String
  | .alreadyExists _ code text | .otherError code text | .resourceBusy code text
  | .resourceVanished code text | .unsupportedOperation code text | .hardwareFault code text
  | .unsatisfiedConstraints code text | .illegalOperation code text | .protocolError code text
  | .timeExpired code text | .interrupted _ code text | .noFileOrDirectory _ code text
  | .invalidArgument _ code text | .permissionDenied _ code text | .resourceExhausted _ code text
  | .inappropriateType _ code text | .noSuchThing _ code text => errorText code text
  | .unexpectedEof => "unexpected end of file"
  | .userError text => text

variable {α : Type}

/-- The result of an action with its failure as a text. -/
def attempt (action : IO α) : IO (Except String α) := do
  match ← action.toBaseIO with
  | .ok a => return .ok a
  | .error e => return .error (failureText e)

/-- The result of an action with its failure in a context. -/
def inContext (context : String) (action : IO α) : IO (Except Report α) := do
  return (← attempt action).mapError fun text => (Report.ofMessage text).context context

/-- What is known of the thing that a path leads to. -/
def stat? (path : Path) : IO (Option IO.FS.Metadata) := do
  let find : IO IO.FS.Metadata := do (← IO.FS.realPath path.display).metadata
  return (← attempt find).toOption

/-- Does a path lead to something of the given type? -/
def isOfType (type : IO.FS.FileType) (path : Path) : IO Bool := do
  return (← stat? path).any (·.type == type)

/-- The contents of a file. -/
def contents (path : Path) : IO Bytes := do
  return (← IO.FS.readBinFile path.display).toList

/-- The contents of a file as text. -/
def text (path : Path) : IO String := do
  match Utf8.decode? (← contents path) with
  | some text => return text
  | none => throw (.userError "stream did not contain valid UTF-8")

/-- The access that three bits of a mode give. -/
def access (bits : Nat) : IO.AccessRight := ⟨bits.testBit 2, bits.testBit 1, bits.testBit 0⟩

/-- The access that a mode gives. -/
def rights (mode : Nat) : IO.FileRight := ⟨access (mode >>> 6), access (mode >>> 3), access mode⟩

/-- Answers one call. -/
def answer : (c : Call) → IO c.Answer
  | .env name => IO.getEnv name
  | .currentDir => inContext "Failed to determine current directory" do
    return .ofText (← IO.currentDir).toString
  | .readText path => inContext "Failed to read file to string" (text path)
  | .rename source target =>
    inContext "Failed to rename file" (IO.FS.rename source.display target.display)
  | .createDirs path => inContext "Failed to create directory" (IO.FS.createDirAll path.display)
  | .removeFile path => inContext "Failed to remove file" (IO.FS.removeFile path.display)
  | .removeTree path =>
    inContext "Failed to remove directory and its contents" (IO.FS.removeDirAll path.display)
  | .pathExists path => return (← stat? path).isSome
  | .isDir path => isOfType .dir path
  | .isFile path => isOfType .file path
  | .list path => do
    let names : IO (List Path) := do
      let entries ← (← IO.FS.realPath path.display).readDir
      return entries.toList.map fun e => path.entry e.fileName
    return (← attempt names).mapError .ofMessage
  | .create path => inContext "Failed to create file" do
    let _ ← IO.FS.Handle.mk path.display .write
    return { path }
  | .write file chunk => attempt do
    let handle ← IO.FS.Handle.mk file.path.display .append
    handle.write (.mk chunk.toArray)
  | .flush _ => return .ok ()
  | .openFile path => inContext "Failed to open file" do
    let _ ← IO.FS.Handle.mk path.display .read
    match ← attempt (contents path) with
    | .ok bytes => return ⟨bytes, none⟩
    | .error text => return ⟨[], some text⟩
  | .size path => inContext "Failed to read file metadata" do
    return (← (← IO.FS.realPath path.display).metadata).byteSize.toNat
  | .isExecutable path => isOfType .file path
  | .setMode path mode =>
    inContext "Failed to set permissions" (IO.setAccessRights path.display (rights mode))
  | .request _ => return .error .refused
  | .runTool _ => return .error Linux.Errno.noEntry.report
  | .log .info _ => return ()
  | .log .warn message => IO.eprintln ("[WARN] " ++ message)
  | .print .out line => IO.println line
  | .print .err line => IO.eprintln line

/-- Runs a program on this machine. -/
def perform : Program α → IO α
  | .done a => return a
  | .call c next => do
    let a ← answer c
    perform (next a)

end Provision.Machine

/-- The program: its exit status is that of the command line. -/
def main (args : List String) : IO UInt32 := do
  return (← Provision.Machine.perform (Provision.CommandLine.run args)).toUInt32
