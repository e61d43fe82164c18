import Provision.Tree
import Provision.Transcript

/-!
# The memory host

A host that keeps its files in a tree in memory and can be told to fail. Paths are resolved
lexically, there are no links and nobody's permissions are checked.

* `Memory.handle` answers every call; the network is a parameter.
* `Memory.Fault` describes injected failures and `Memory.fire` decides which one a call meets.
* `Memory.calls` lists the calls that may change a file, in order.
-/

namespace Provision

namespace Memory

/-- A node of the tree. -/
inductive Node where
  | dir
  | file (bytes : Bytes) (mode : Nat)
deriving DecidableEq, Repr

/-- What a failure can be injected into. -/
inductive Point where
  | currentDir
  | readText
  | rename
  | createDirs
  | removeFile
  | removeTree
  | list
  | create
  | openFile
  | size
  | setMode
  /-- The writer that a creation gives. -/
  | write
  /-- Flushing that writer. -/
  | flush
  /-- The reader that an opening gives. -/
  | read
deriving DecidableEq, Repr

/-- An injected failure. -/
structure Fault where
  point : Point
  /-- The place at which it acts; everywhere when missing. -/
  place : Option Place := none
  message : String
  /-- How many matching calls pass before it acts. -/
  skip : Nat := 0
  /-- How often it acts; always when missing. -/
  count : Option Nat := none
  /-- For a writer or a reader: the number of bytes that pass first. -/
  after : Nat := 0
deriving DecidableEq, Repr

/-- Does a fault concern a call at a place? -/
def Fault.concerns (f : Fault) (point : Point) (place : Place) : Bool :=
  f.point == point && (match f.place with
    | none => true
    | some p => p == place)

/-- The fault that a call at a place meets, if any, and the faults after the call. They are tried in
order; one that still skips, or has acted often enough, lets the next be tried. -/
def fire (point : Point) (place : Place) : List Fault → Option Fault × List Fault
  | [] => (none, [])
  | f :: rest =>
    let pass (f : Fault) : Option Fault × List Fault :=
      let (found, rest) := fire point place rest
      (found, f :: rest)
    if ¬ f.concerns point place then pass f
    else if 0 < f.skip then pass { f with skip := f.skip - 1 }
    else
      match f.count with
      | none => (some f, f :: rest)
      | some 0 => pass f
      | some (n + 1) => (some f, { f with count := some n } :: rest)

end Memory

/-- The state of the memory host. -/
structure Memory where
  tree : Tree Memory.Node := {}
  cwd : Path := Path.ofText "/work"
  env : List (String × String) := []
  faults : List Memory.Fault := []
  /-- The calls that may change a file, each with the message of its failure. -/
  calls : List (Call × Option String) := []
  transcript : Transcript := {}
deriving DecidableEq, Repr

namespace Memory

variable {α : Type}

/-- The place reached from `start` by further components; `..` goes up and stops at the root. -/
def walk (start : Place) (components : List Component) : Place :=
  components.foldl (fun place c =>
    match c with
    | .root => []
    | .current => place
    | .parent => place.dropLast
    | .normal name => place ++ [name]) start

/-- The place that a path names. -/
def place (m : Memory) (p : Path) : Place := walk [] ((m.cwd.join p).components)

/-- The node at a place; the root is always a directory. -/
def node? (t : Tree Node) (p : Place) : Option Node :=
  if p = [] then some .dir else t.get? p

/-- Is there a directory at a place? -/
def hasDir (t : Tree Node) (p : Place) : Bool := node? t p = some .dir

/-- A failure of the host itself. -/
def failure (what : String) : Report := .ofMessage ("mem: " ++ what)

/-- The failure of a look-up that found nothing. -/
def notFound : Report := failure "not found"

/-- The failure of an operation that needs a file. -/
def isDirectory : Report := failure "is a directory"

/-- The failure of an operation that needs a directory. -/
def notDirectory : Report := failure "not a directory"

/-! ## Operations on the tree -/

/-- The content and mode of the file at a place. -/
def file (t : Tree Node) (p : Place) : Except Report (Bytes × Nat) :=
  match node? t p with
  | none => .error notFound
  | some .dir => .error isDirectory
  | some (.file bytes mode) => .ok (bytes, mode)

/-- Creates the directories `names` below a place that exists, from the top down. -/
def makeDirs (t : Tree Node) (above : Place) : List Bytes → Except Report Unit × Tree Node
  | [] => (.ok (), t)
  | name :: names =>
    let p := above ++ [name]
    match node? t p with
    | some .dir => makeDirs t p names
    | some (.file ..) => (.error (failure "file in the way"), t)
    | none => makeDirs (t.set p .dir) p names

/-- Creates an empty file, or empties the one that is there and keeps its mode. -/
def makeFile (t : Tree Node) (p : Place) : Except Report (Tree Node) :=
  match node? t p with
  | some .dir => .error isDirectory
  | some (.file _ mode) => .ok (t.set p (.file [] mode))
  | none => if hasDir t p.dropLast then .ok (t.set p (.file [] 0o644)) else .error notFound

/-- Moves what is at `source` to `target`. -/
def moveNode (t : Tree Node) (source target : Place) : Except Report (Tree Node) :=
  match node? t source with
  | none => .error notFound
  | some node =>
    if source = target then .ok t
    else if Tree.isAtOrBelow source target then .error (failure "invalid argument")
    else if ¬ hasDir t target.dropLast then .error notFound
    else
      match node? t target with
      | some .dir => .error isDirectory
      | some (.file ..) =>
        if node = .dir then .error notDirectory else .ok (t.move source target)
      | none => .ok (t.move source target)

/-- Removes the file at a place. -/
def dropFile (t : Tree Node) (p : Place) : Except Report (Tree Node) :=
  (file t p).map fun _ => t.removeAt p

/-- Removes the directory at a place and all below it. -/
def dropDir (t : Tree Node) (p : Place) : Except Report (Tree Node) :=
  match node? t p with
  | none => .error notFound
  | some (.file ..) => .error notDirectory
  | some .dir => .ok (t.removeAt p)

/-- Sets the mode of a file; a directory has none. -/
def changeMode (t : Tree Node) (p : Place) (mode : Nat) : Except Report (Tree Node) :=
  match node? t p with
  | none => .error notFound
  | some .dir => .ok t
  | some (.file bytes _) => .ok (t.set p (.file bytes mode))

/-- Appends to the file at a place; nothing happens when it is gone. -/
def append (t : Tree Node) (p : Place) (chunk : Bytes) : Tree Node :=
  match node? t p with
  | some (.file bytes mode) => t.set p (.file (bytes ++ chunk) mode)
  | _ => t

/-! ## Calls -/

/-- Makes a call at a place unless a fault stops it. -/
def attempt (m : Memory) (point : Point) (p : Place) (act : Memory → Except Report α × Memory) :
    Except Report α × Memory :=
  match fire point p m.faults with
  | (some f, faults) => (.error (.ofMessage f.message), { m with faults })
  | (none, faults) => act { m with faults }

/-- Looks something up unless a fault stops it. -/
def query (m : Memory) (point : Point) (p : Place) (look : Tree Node → Except Report α) :
    Except Report α × Memory :=
  m.attempt point p fun m => (look m.tree, m)

/-- Changes the tree unless a fault stops it. -/
def change (m : Memory) (point : Point) (p : Place)
    (act : Tree Node → Except Report (Tree Node)) : Except Report Unit × Memory :=
  m.attempt point p fun m =>
    match act m.tree with
    | .ok tree => (.ok (), { m with tree })
    | .error e => (.error e, m)

/-- Notes a call that may change a file, with its result. -/
def record (c : Call) (r : Except Report α × Memory) : Except Report α × Memory :=
  let message := match r.1 with
    | .ok _ => none
    | .error e => some e.text
  (r.1, { r.2 with calls := r.2.calls ++ [(c, message)] })

/-- The writer for a file that has just been created. -/
def writer (m : Memory) (path : Path) (p : Place) : Writer × Memory :=
  let (write, faults) := fire .write p m.faults
  let (flush, faults) := fire .flush p faults
  (⟨path, write.map fun f => (f.after, f.message), flush.map (·.message)⟩, { m with faults })

/-- The stream of a file that has just been opened. -/
def stream (m : Memory) (p : Place) (bytes : Bytes) : Stream × Memory :=
  let (read, faults) := fire .read p m.faults
  let s : Stream := match read with
    | some f =>
      if f.after ≤ bytes.length then ⟨bytes.take f.after, some f.message⟩ else ⟨bytes, none⟩
    | none => ⟨bytes, none⟩
  (s, { m with faults })

/-- Appends a chunk to a created file, as far as its limit allows. -/
def write (m : Memory) (w : Writer) (chunk : Bytes) : Except String Unit × Memory :=
  let p := m.place w.path
  let size := match file m.tree p with
    | .ok (bytes, _) => bytes.length
    | .error _ => 0
  match w.limit with
  | none => (.ok (), { m with tree := append m.tree p chunk })
  | some (limit, message) =>
    let room := limit - size
    if chunk.length ≤ room then (.ok (), { m with tree := append m.tree p chunk })
    else (.error message, { m with tree := append m.tree p (chunk.take room) })

/-- Has a mode an execute bit? -/
def hasExecuteBit (mode : Nat) : Bool := mode &&& 0o111 != 0

/-- Answers a call. The network is answered by `serve`. -/
def handle {η : Type} (serve : Url → η → Except NoResponse Response × η) :
    Handler (Memory × η)
  | .env name, (m, n) => (m.env.lookup name, (m, n))
  | .currentDir, (m, n) =>
    let (r, m) := m.attempt .currentDir [] fun m => (.ok m.cwd, m)
    (r, (m, n))
  | .readText path, (m, n) =>
    let p := m.place path
    let (r, m) := m.query .readText p fun t => do
      let (bytes, _) ← file t p
      match Utf8.decode? bytes with
      | some text => return text
      | none => throw (failure "invalid utf-8")
    (r, (m, n))
  | c@(.rename source target), (m, n) =>
    let p := m.place source
    let (r, m) := record c (m.change .rename p fun t => moveNode t p (m.place target))
    (r, (m, n))
  | c@(.createDirs path), (m, n) =>
    let p := m.place path
    let (r, m) := record c (m.attempt .createDirs p fun m =>
      let (r, tree) := makeDirs m.tree [] p
      (r, { m with tree }))
    (r, (m, n))
  | c@(.removeFile path), (m, n) =>
    let p := m.place path
    let (r, m) := record c (m.change .removeFile p fun t => dropFile t p)
    (r, (m, n))
  | c@(.removeTree path), (m, n) =>
    let p := m.place path
    let (r, m) := record c (m.change .removeTree p fun t => dropDir t p)
    (r, (m, n))
  | .pathExists path, (m, n) => ((node? m.tree (m.place path)).isSome, (m, n))
  | .isDir path, (m, n) => (hasDir m.tree (m.place path), (m, n))
  | .isFile path, (m, n) => ((file m.tree (m.place path)).isOk, (m, n))
  | .list path, (m, n) =>
    let p := m.place path
    let (r, m) := m.query .list p fun t =>
      if hasDir t p then .ok ((t.names p).map path.child) else .error notDirectory
    (r, (m, n))
  | c@(.create path), (m, n) =>
    let p := m.place path
    let (r, m) := record c (m.attempt .create p fun m =>
      match makeFile m.tree p with
      | .error e => (.error e, m)
      | .ok tree =>
        let (w, m) := { m with tree }.writer path p
        (.ok w, m))
    (r, (m, n))
  | .write w chunk, (m, n) =>
    let (r, m) := m.write w chunk
    (r, (m, n))
  | .flush w, (m, n) =>
    (match w.flushFault with
      | some message => .error message
      | none => .ok (), (m, n))
  | .openFile path, (m, n) =>
    let p := m.place path
    let (r, m) := m.attempt .openFile p fun m =>
      match file m.tree p with
      | .error e => (.error e, m)
      | .ok (bytes, _) =>
        let (s, m) := m.stream p bytes
        (.ok s, m)
    (r, (m, n))
  | .size path, (m, n) =>
    let p := m.place path
    let (r, m) := m.query .size p fun t => (file t p).map (·.1.length)
    (r, (m, n))
  | .isExecutable path, (m, n) =>
    (match file m.tree (m.place path) with
      | .ok (_, mode) => hasExecuteBit mode
      | .error _ => false, (m, n))
  | c@(.setMode path mode), (m, n) =>
    let p := m.place path
    let (r, m) := record c (m.change .setMode p fun t => changeMode t p mode)
    (r, (m, n))
  | .request url, (m, n) =>
    let (r, n) := serve url n
    (r, (m, n))
  | .runTool _, (m, n) =>
    (.error (.ofMessage "No such file or directory (os error 2)"), (m, n))
  | .log level message, (m, n) => ((), ({ m with transcript := m.transcript.log level message }, n))
  | .print channel line, (m, n) =>
    ((), ({ m with transcript := m.transcript.print channel line }, n))

end Memory

end Provision
