import Provision.Archive.Entry

/-!
# Unpacking

Writes the entries of an archive below a directory, in order, until one fails.

* `Archive.unpack` unpacks a listing, `Archive.unpackEntry` one entry.
* Modes keep their permission bits only, and a mode that cannot be set is let be.
-/

namespace Provision.Archive

/-- The size of the blocks in which contents are copied. -/
def blockSize : Nat := 8192

/-- The blocks of a content, given that there are at most `fuel` of them. -/
def blocksUpTo : Nat → Bytes → List Bytes
  | 0, _ => []
  | fuel + 1, bs =>
    if bs.isEmpty then [] else bs.take blockSize :: blocksUpTo fuel (bs.drop blockSize)

/-- A content in blocks. -/
def blocks (bs : Bytes) : List Bytes := blocksUpTo (bs.length / blockSize + 1) bs

/-- Writes blocks one after another. -/
def writeBlocks (w : Writer) : List Bytes → Attempt String Unit
  | [] => return ()
  | b :: rest => do
    let _ ← Attempt.ofProgram (.ask (.write w b))
    writeBlocks w rest

/-- Copies a content to a created file. -/
def copy (w : Writer) (content : Stream) : Attempt String Unit := do
  writeBlocks w (blocks content.bytes)
  match content.fault with
  | some message => throw message
  | none => return ()

/-- The permission bits of a mode. -/
def permissions (mode : Nat) : Nat := mode &&& 0o777

/-- Sets the permissions of a file, if it can be done. -/
def trySetMode (path : Path) (mode : Nat) : Program Unit := do
  let _ ← .ask (.setMode path (permissions mode))

/-- Writes a file with its content and mode. -/
def unpackFile (path : Path) (mode : Option Nat) (content : Stream) : Attempt Report Unit := do
  if let some above := path.parent? then
    Attempt.createDirs above
  let w ← Attempt.create path
  ((copy w content).mapFailure .ofMessage).context ("Failed to extract file " ++ path.quoted)
  if let some mode := mode then
    trySetMode path mode

/-- Unpacks one entry below a directory; an unsafe name is passed over. -/
def unpackEntry (directory : Path) (e : Entry) : Attempt Report Unit :=
  match e.name.bind safePath? with
  | none => return ()
  | some name =>
    let path := directory.join name
    match e.kind with
    | .directory => Attempt.createDirs path
    | .file => unpackFile path e.mode e.content
    | .other => return ()

/-- Unpacks entries in order. -/
def unpackEntries (directory : Path) : List Entry → Attempt Report Unit
  | [] => return ()
  | e :: rest => do
    unpackEntry directory e
    unpackEntries directory rest

/-- Unpacks an archive below a directory. -/
def unpack (directory : Path) (l : Listing) : Attempt Report Unit := do
  unpackEntries directory l.entries
  match l.failure with
  | some report => throw report
  | none => return ()

end Provision.Archive
