import Provision.Linux.Errno
import Provision.Path
import Provision.Tree

/-!
# A Linux file system

Files, directories and symbolic links in a tree, with the rules by which the system resolves paths
and changes the tree.

* `Files.find` resolves a path to a place, following links; `Files.findNode` wants something there.
* `Files.makeDir`, `Files.makeFile`, `Files.rename`, `Files.unlink`, `Files.removeTree` and
  `Files.setMode` are the calls that change the tree.
-/

namespace Provision.Linux

/-- A node of the tree. -/
inductive Node where
  | dir
  | file (bytes : Bytes) (mode : Nat)
  | link (target : Bytes)
deriving DecidableEq, Repr

/-- Is the node a directory? -/
def Node.isDir : Node → Bool
  | .dir => true
  | _ => false

/-- A tree and the directory in which relative paths start. -/
structure Files where
  tree : Tree Node := {}
  cwd : Place := []
  /-- Has the current directory been removed? -/
  isDetached : Bool := false
deriving DecidableEq, Repr

namespace Files

/-- The node at a place; the root is always a directory. -/
def node? (f : Files) (p : Place) : Option Node := if p = [] then some .dir else f.tree.get? p

/-! ## Resolving paths -/

/-- How many links a path may lead through. -/
def maxLinks : Nat := 40

/-- The greatest length of a name. -/
def maxName : Nat := 255

/-- The greatest length of a path. -/
def maxPath : Nat := 4095

/-- The steps of a path. A slash at the end is an empty step, which asks for a directory as `.`
does. -/
def steps (text : Bytes) : List Bytes :=
  let named := (Bytes.splitOn Path.slash text).filter (!·.isEmpty)
  if text.getLast? = some Path.slash ∧ ¬ named.isEmpty then named ++ [[]] else named

/-- What is wanted of the last step of a path. -/
inductive Last where
  /-- The entry itself, be it a link. -/
  | entry
  /-- What a link there leads to. -/
  | followed
  /-- What a link there leads to, to be made as a file. -/
  | made
deriving DecidableEq, Repr

/-- What a path leads to: a place, and the node there if there is one. -/
structure Found where
  place : Place
  node : Option Node
deriving DecidableEq, Repr

/-- Resolves steps from a place at which there is a directory. Only the last step may lead to
nothing, and only there may a link be left alone. A file cannot be made at a name with a slash. -/
def walk (f : Files) (last : Last) (links : Nat) (p : Place) (todo : List Bytes) :
    Except Errno Found :=
  match todo with
  | [] => .ok ⟨p, f.node? p⟩
  | step :: rest =>
    if step.isEmpty ∨ step = Path.dot then walk f last links p rest
    else if step = Path.dotDot then walk f last links p.dropLast rest
    else if last = .made ∧ rest = [[]] then .error .isDirectory
    else if maxName < step.length then .error .nameTooLong
    else
      let next := p ++ [step]
      match f.node? next with
      | none => if rest.isEmpty then .ok ⟨next, none⟩ else .error .noEntry
      | some .dir => walk f last links next rest
      | some (.file bytes mode) =>
        if rest.isEmpty then .ok ⟨next, some (.file bytes mode)⟩ else .error .notDirectory
      | some (.link target) =>
        if rest.isEmpty ∧ last = .entry then .ok ⟨next, some (.link target)⟩
        else
          match links with
          | 0 => .error .tooManyLinks
          | links + 1 =>
            walk f last links (if target.head? = some Path.slash then [] else p)
              (steps target ++ rest)
termination_by (links, todo.length)

/-- Resolves a path. -/
def find (f : Files) (last : Last) (path : Path) : Except Errno Found :=
  if path.text.contains 0 then .error .nulByte
  else if path.text.isEmpty then .error .noEntry
  else if maxPath < path.text.length then .error .nameTooLong
  else if path.isAbsolute then f.walk last maxLinks [] (steps path.text)
  else if f.isDetached then .error .noEntry
  else f.walk last maxLinks f.cwd (steps path.text)

/-- Resolves a path to a node that exists. -/
def findNode (f : Files) (last : Last) (path : Path) : Except Errno (Place × Node) := do
  match ← f.find last path with
  | ⟨p, some node⟩ => return (p, node)
  | ⟨_, none⟩ => throw .noEntry

/-- The last name of a path, without slashes behind it. -/
def lastStep (path : Path) : Option Bytes :=
  ((Bytes.splitOn Path.slash path.text).filter (!·.isEmpty)).getLast?

/-- Does a path end in a slash? -/
def endsInSlash (path : Path) : Bool := path.text.getLast? = some Path.slash

/-- A path without slashes at its end, unless it is nothing else. -/
def trimSlashes (path : Path) : Path :=
  match path.text.reverse.dropWhile (· == Path.slash) with
  | [] => path
  | text => ⟨text.reverse⟩

/-- Is the last step of a path an ordinary name? -/
def endsInName (path : Path) : Bool :=
  match lastStep path with
  | none => false
  | some step => step ≠ Path.dot ∧ step ≠ Path.dotDot

/-- Resolves a path up to its last name, which is not followed. -/
def findEntry (f : Files) (path : Path) : Except Errno Found :=
  f.find .entry (if endsInName path then trimSlashes path else path)

/-- The node that a path leads to, if there is one. -/
def stat? (f : Files) (path : Path) : Option Node :=
  match f.findNode .followed path with
  | .ok (_, node) => some node
  | .error _ => none

/-- Does a path lead to a directory? -/
def isDir (f : Files) (path : Path) : Bool := f.stat? path = some .dir

/-! ## Changing the tree -/

/-- The files with a node put at a place. -/
def put (f : Files) (p : Place) (node : Node) : Files := { f with tree := f.tree.set p node }

/-- The files without what is at or below a place. -/
def drop (f : Files) (p : Place) : Files :=
  { f with tree := f.tree.removeAt p, isDetached := f.isDetached || Tree.isAtOrBelow p f.cwd }

/-- Makes one directory. -/
def makeDir (f : Files) (path : Path) : Except Errno Files := do
  match ← f.findEntry path with
  | ⟨_, some _⟩ => throw .alreadyExists
  | ⟨p, none⟩ => return f.put p .dir

/-- Makes the directories of a path and its ancestors, the path first: an ancestor is made only when
the one below it has none to stand in. -/
def makeDirsOf (f : Files) : List Path → Except Errno Unit × Files
  | [] => (.ok (), f)
  | path :: above =>
    if path.text.isEmpty ∨ path.parent? = none then (.ok (), f)
    else
      match f.makeDir path with
      | .ok f => (.ok (), f)
      | .error .noEntry =>
        match makeDirsOf f above with
        | (.error e, f) => (.error e, f)
        | (.ok (), f) =>
          match f.makeDir path with
          | .ok f => (.ok (), f)
          | .error e => (if f.isDir path then .ok () else .error e, f)
      | .error e => (if f.isDir path then .ok () else .error e, f)

/-- Makes a directory and those above it. -/
def makeDirs (f : Files) (path : Path) : Except Errno Unit × Files :=
  f.makeDirsOf path.ancestors

/-- The mode of a new file. -/
def newFileMode : Nat := 0o644

/-- Makes or empties a file and gives its place. -/
def makeFile (f : Files) (path : Path) : Except Errno (Place × Files) := do
  match ← f.find .made path with
  | ⟨_, some .dir⟩ => throw .isDirectory
  | ⟨p, some (.file _ mode)⟩ => return (p, f.put p (.file [] mode))
  | ⟨p, _⟩ => return (p, f.put p (.file [] newFileMode))

/-- Appends to the file at a place; nothing happens when it is gone. -/
def append (f : Files) (p : Place) (chunk : Bytes) : Files :=
  match f.node? p with
  | some (.file bytes mode) => f.put p (.file (bytes ++ chunk) mode)
  | _ => f

/-- Moves an entry. A directory takes the place of an empty directory only, and anything else that
of anything but a directory. -/
def rename (f : Files) (source target : Path) : Except Errno Files := do
  let old ← f.findEntry source
  let new ← f.findEntry target
  if ¬ (endsInName source ∧ endsInName target) then throw .busy
  let some node := old.node | throw .noEntry
  if ¬ node.isDir ∧ (endsInSlash source ∨ endsInSlash target) then throw .notDirectory
  if old.place = new.place then return f
  if Tree.isAtOrBelow old.place new.place then throw .invalid
  if Tree.isAtOrBelow new.place old.place then throw .notEmpty
  match new.node with
  | some .dir =>
    if ¬ node.isDir then throw .isDirectory
    if ¬ (f.tree.names new.place).isEmpty then throw .notEmpty
  | some _ => if node.isDir then throw .notDirectory
  | none => pure ()
  let f := if Tree.isAtOrBelow new.place f.cwd then { f with isDetached := true } else f
  let cwd :=
    if Tree.isAtOrBelow old.place f.cwd then new.place ++ f.cwd.drop old.place.length else f.cwd
  return { f with tree := f.tree.move old.place new.place, cwd }

/-- Removes an entry that is no directory. -/
def unlink (f : Files) (path : Path) : Except Errno Files := do
  let found ← f.findEntry path
  if ¬ endsInName path then throw .isDirectory
  match found.node with
  | none => throw .noEntry
  | some .dir => throw .isDirectory
  | some _ => if endsInSlash path then throw .notDirectory else return f.drop found.place

/-- Removes what is below a place. -/
def clear (f : Files) (p : Place) : Files :=
  (f.tree.names p).foldl (fun f name => f.drop (p ++ [name])) f

/-- Removes an empty directory, which has to be named by an ordinary name and not through a link. -/
def removeDir (f : Files) (path : Path) : Except Errno Files := do
  let found ← f.findEntry path
  match lastStep path with
  | none => throw .busy
  | some step =>
    if step = Path.dot then throw .invalid
    if step = Path.dotDot then throw .notEmpty
  match found.node with
  | none => throw .noEntry
  | some .dir =>
    if (f.tree.names found.place).isEmpty then return f.drop found.place else throw .notEmpty
  | some _ => throw .notDirectory

/-- Removes a directory with all below it, or a link. It does not matter when the directory is gone
together with what was below it. -/
def removeTree (f : Files) (path : Path) : Except Errno Unit × Files :=
  match f.findNode .entry path with
  | .error e => (.error e, f)
  | .ok (_, .file ..) => (.error .notDirectory, f)
  | .ok (p, .link _) => (.ok (), f.drop p)
  | .ok (p, .dir) =>
    let f := f.clear p
    match f.removeDir path with
    | .ok f => (.ok (), f)
    | .error .noEntry => (.ok (), f)
    | .error e => (.error e, f)

/-- Sets the mode of a file; the modes of directories are not kept. -/
def setMode (f : Files) (path : Path) (mode : Nat) : Except Errno Files := do
  match ← f.findNode .followed path with
  | (p, .file bytes _) => return f.put p (.file bytes (mode &&& 0o7777))
  | _ => return f

/-- The paths of what is in a directory. -/
def list (f : Files) (path : Path) : Except Errno (List Path) := do
  match ← f.findNode .followed path with
  | (p, .dir) => return (f.tree.names p).map path.child
  | _ => throw .notDirectory

/-- What can be read of a file. A directory can be opened but not read. -/
def contents (f : Files) (path : Path) : Except Errno (Except Errno Bytes) := do
  match ← f.findNode .followed path with
  | (_, .file bytes _) => return .ok bytes
  | _ => return .error .isDirectory

/-- The path of a place. -/
def pathOf (p : Place) : Path := ⟨Path.slash :: Bytes.joinWith Path.slash p⟩

end Files

end Provision.Linux
