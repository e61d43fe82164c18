import Provision.CommandLine.Arguments
import Provision.Install

/-!
# The command line

Carries out what the arguments ask for: install the binary, print its path, or print the key of the
platform.

* `CommandLine.run` is the whole program; its result is the exit status.
-/

namespace Provision.CommandLine

/-- The version of the program. -/
def programVersion : String := "0.1.0"

/-- One of several causes, or the only one. -/
def causeLine (isOnly : Bool) (index : Nat) (cause : String) : String :=
  let number := toString index
  if isOnly then "    " ++ cause
  else String.ofList (List.replicate (5 - number.length) ' ') ++ number ++ ": " ++ cause

/-- How a failure of the whole program reads. -/
def failureText (r : Report) : String :=
  match r.causes with
  | [] => "Error: " ++ r.message
  | causes =>
    let lines := causes.zipIdx.map fun (cause, i) => causeLine (causes.length == 1) i cause
    "Error: " ++ r.message ++ "\n\nCaused by:\n" ++ "\n".intercalate lines

/-- Ends the program with a failure. -/
def fail (r : Report) : Program Nat := do
  printLine .err (failureText r)
  return 1

/-- Installs the binary. The exit status is 0 whatever happens, so that the surrounding package
installation goes on. -/
def runInstall (s : Settings) : Program Nat := do
  match ← (Config.ofOptions s.options).run with
  | .ok c => (← Install.run c).report
  | .error e => printLine .err (Outcome.line ("Failed to prepare install: " ++ e.text))
  return 0

/-- Prints the path of the binary. -/
def runPath (s : Settings) : Program Nat := do
  match ← (Config.ofOptions s.options).run with
  | .error e => fail e
  | .ok c =>
    match ← (Locate.run c.root c.platform).run with
    | .error p => fail (.ofChain (p.message :: p.sources))
    | .ok found =>
      printLine .out found.display
      return 0

/-- Prints the key of the platform. -/
def runPlatform (s : Settings) : Program Nat := do
  let p := s.options.platform.getD .host
  match p.key? with
  | some key =>
    printLine .out key.name
    return 0
  | none =>
    printLine .err ("unsupported platform: " ++ p.text)
    return 1

/-- Carries out a command. -/
def Command.run : Command → Settings → Program Nat
  | .install, s => runInstall s
  | .path, s => runPath s
  | .platform, s => runPlatform s

/-- Says why there is no command to carry out. -/
def Stop.run : Stop → Program Nat
  | .version => do
    printLine .out (programName ++ " " ++ programVersion)
    return 0
  | .help => do
    printLine .out about
    return 0
  | .usage e => do
    printLine .err e.message
    return 2

/-- The value of the variable of an option, if it has one. -/
def variableOf (o : Opt) : Program (Option String) :=
  match o.variableName? with
  | some name => .ask (.env name)
  | none => return none

/-- Runs the program with the given arguments; the result is the exit status. -/
def run (args : List String) : Program Nat := do
  let root ← variableOf .root
  let releaseUrl ← variableOf .releaseUrl
  let env : Opt → Option String
    | .root => root
    | .releaseUrl => releaseUrl
    | _ => none
  match Arguments.read env args with
  | .ok (command, settings) => command.run settings
  | .error stop => stop.run

end Provision.CommandLine
