import Provision.Path
import Provision.Report
import Provision.Url

/-!
# Programs and calls

Everything that touches the outside world is a `Call`: files, the environment, the network, external
tools and messages. A `Program` says which call to make next and how to go on with the answer. It is
data, so the states between two calls, an interruption after any call and the interleaving of two
programs can all be spoken of.

* `Program.run` answers every call from a handler and a state; `run_bind` and `run_pure` are its
  laws.
* `Program.runUpTo` stops after a number of calls, as if the process had been killed.
* `Program.andThen` runs a clean-up after a program whatever its result.
-/

namespace Provision

/-- How serious a log line is. -/
inductive Level where
  | info
  | warn
deriving DecidableEq, Repr

/-- The two output channels. -/
inductive Channel where
  | out
  | err
deriving DecidableEq, Repr

/-- An external command. -/
structure Tool where
  program : String
  args : List String
deriving DecidableEq, Repr

/-- How an external command ended: its exit status and what it said about errors. -/
structure ToolExit where
  status : Nat
  errors : String := ""
deriving DecidableEq, Repr

/-- How a response body ended. -/
inductive BodyEnd where
  | complete
  /-- The connection closed before the announced end. -/
  | broken
  /-- Nothing more came until the time was up. -/
  | stalled
deriving DecidableEq, Repr

/-- A response to a request. -/
structure Response where
  status : Nat
  /-- The value of the first `Location` header. -/
  location : Option Bytes
  /-- The body in the pieces in which it arrived. -/
  chunks : List Bytes
  bodyEnd : BodyEnd
deriving DecidableEq, Repr

/-- Why there was no response to a request. -/
inductive NoResponse where
  /-- The request could not be built for this address. -/
  | unbuildable
  /-- The connection failed. -/
  | refused
  /-- The time was up. -/
  | timedOut
deriving DecidableEq, Repr

/-- How the network answers requests when no connection can be made. -/
def noNetwork {η : Type} (_ : Url) (n : η) : Except NoResponse Response × η := (.error .refused, n)

/-- A file that has been created and can be appended to. -/
structure Writer where
  path : Path
  /-- The total number of bytes that the file takes, and the failure after them. -/
  limit : Option (Nat × String) := none
  /-- The failure of flushing. -/
  flushFault : Option String := none
deriving DecidableEq, Repr

/-- What can be read from an opened file: its bytes, then perhaps a failure. -/
structure Stream where
  bytes : Bytes
  fault : Option String := none
deriving DecidableEq, Repr

/-- One interaction with the outside world. -/
inductive Call where
  | env (name : String)
  | currentDir
  | readText (path : Path)
  | rename (source target : Path)
  | createDirs (path : Path)
  | removeFile (path : Path)
  | removeTree (path : Path)
  | pathExists (path : Path)
  | isDir (path : Path)
  | isFile (path : Path)
  | list (path : Path)
  | create (path : Path)
  | write (file : Writer) (chunk : Bytes)
  | flush (file : Writer)
  | openFile (path : Path)
  | size (path : Path)
  | isExecutable (path : Path)
  | setMode (path : Path) (mode : Nat)
  | request (url : Url)
  | runTool (tool : Tool)
  | log (level : Level) (message : String)
  | print (channel : Channel) (line : String)
deriving DecidableEq, Repr

/-- The type of the answer to a call. -/
@[reducible] def Call.Answer : Call → Type
  | .env _ => Option String
  | .currentDir => Except Report Path
  | .readText _ => Except Report String
  | .rename .. => Except Report Unit
  | .createDirs _ => Except Report Unit
  | .removeFile _ => Except Report Unit
  | .removeTree _ => Except Report Unit
  | .pathExists _ => Bool
  | .isDir _ => Bool
  | .isFile _ => Bool
  | .list _ => Except Report (List Path)
  | .create _ => Except Report Writer
  | .write .. => Except String Unit
  | .flush _ => Except String Unit
  | .openFile _ => Except Report Stream
  | .size _ => Except Report Nat
  | .isExecutable _ => Bool
  | .setMode .. => Except Report Unit
  | .request _ => Except NoResponse Response
  | .runTool _ => Except Report ToolExit
  | .log .. => Unit
  | .print .. => Unit

/-- A computation that makes calls. -/
inductive Program (α : Type) where
  | done (a : α)
  | call (c : Call) (next : c.Answer → Program α)

/-- How calls are answered from a state. -/
abbrev Handler (σ : Type) := (c : Call) → σ → c.Answer × σ

namespace Program

variable {α β σ : Type}

/-- One program after another. -/
def bind : Program α → (α → Program β) → Program β
  | .done a, f => f a
  | .call c next, f => .call c fun answer => (next answer).bind f

instance : Monad Program where
  pure := .done
  bind := bind

/-- The program that makes one call. -/
def ask (c : Call) : Program c.Answer := .call c .done

/-- Runs a program to its end. -/
def run (h : Handler σ) : Program α → σ → α × σ
  | .done a, s => (a, s)
  | .call c next, s =>
    let (answer, s) := h c s
    (next answer).run h s

/-- Runs a program for at most `n` calls; the result is missing when it was cut short. -/
def runUpTo (h : Handler σ) : Nat → Program α → σ → Option α × σ
  | _, .done a, s => (some a, s)
  | 0, .call _ _, s => (none, s)
  | n + 1, .call c next, s =>
    let (answer, s) := h c s
    (next answer).runUpTo h n s

@[simp] theorem run_pure (h : Handler σ) (a : α) (s : σ) : (pure a : Program α).run h s = (a, s) :=
  rfl

@[simp] theorem run_ask (h : Handler σ) (c : Call) (s : σ) : (ask c).run h s = h c s := rfl

@[simp] theorem run_bind (h : Handler σ) (p : Program α) (f : α → Program β) (s : σ) :
    (p >>= f).run h s = (f (p.run h s).1).run h (p.run h s).2 := by
  show (p.bind f).run h s = _
  induction p generalizing s with
  | done a => rfl
  | call c next ih => exact ih (h c s).1 (h c s).2

theorem bind_done (p : Program α) : p.bind .done = p := by
  induction p with
  | done a => rfl
  | call c next ih => simp only [bind]; congr; funext answer; exact ih answer

theorem bind_assoc {γ : Type} (p : Program α) (f : α → Program β) (g : β → Program γ) :
    (p.bind f).bind g = p.bind fun a => (f a).bind g := by
  induction p with
  | done a => rfl
  | call c next ih => simp only [bind]; congr; funext answer; exact ih answer

instance : LawfulMonad Program :=
  LawfulMonad.mk' Program bind_done (fun _ _ => rfl) bind_assoc

/-- A program followed by a clean-up, whose result is the program's own. -/
def andThen (p : Program α) (cleanUp : Program Unit) : Program α := do
  let a ← p
  cleanUp
  return a

end Program

/-! ## Failing programs -/

/-- A program that may fail. -/
abbrev Attempt (ε : Type) := ExceptT ε Program

namespace Attempt

variable {α ε : Type}

/-- A call that may fail, as a program that may fail. -/
def ofProgram (p : Program (Except ε α)) : Attempt ε α := ExceptT.mk p

/-- The call to rename a path. -/
def rename (source target : Path) : Attempt Report Unit := ofProgram (.ask (.rename source target))

/-- The call to create a directory and those above it. -/
def createDirs (path : Path) : Attempt Report Unit := ofProgram (.ask (.createDirs path))

/-- The call to remove a directory and all below it. -/
def removeTree (path : Path) : Attempt Report Unit := ofProgram (.ask (.removeTree path))

/-- The call to list a directory. -/
def list (path : Path) : Attempt Report (List Path) := ofProgram (.ask (.list path))

/-- The call to create or empty a file. -/
def create (path : Path) : Attempt Report Writer := ofProgram (.ask (.create path))

/-- The call to open a file. -/
def openFile (path : Path) : Attempt Report Stream := ofProgram (.ask (.openFile path))

/-- The call to measure a file. -/
def size (path : Path) : Attempt Report Nat := ofProgram (.ask (.size path))

/-- The call to set the mode of a file. -/
def setMode (path : Path) (mode : Nat) : Attempt Report Unit :=
  ofProgram (.ask (.setMode path mode))

/-- The call to read a file as text. -/
def readText (path : Path) : Attempt Report String := ofProgram (.ask (.readText path))

/-- The attempt with its failure put in a context. -/
def context (outer : String) (a : Attempt Report α) : Attempt Report α :=
  ofProgram do
    let r ← a.run
    return r.mapError (·.context outer)

/-- The attempt with its failure turned into another kind. -/
def mapFailure {δ : Type} (f : ε → δ) (a : Attempt ε α) : Attempt δ α :=
  ofProgram do
    let r ← a.run
    return r.mapError f

end Attempt

/-- Writes an informative log line. -/
def logInfo (message : String) : Program Unit := .ask (.log .info message)

/-- Writes a warning to the log. -/
def logWarn (message : String) : Program Unit := .ask (.log .warn message)

/-- Prints a line for the user. -/
def printLine (channel : Channel) (line : String) : Program Unit := .ask (.print channel line)

end Provision
