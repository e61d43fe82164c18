import Provision.Archive.Gzip
import Provision.Archive.Tar
import Provision.Archive.Tool
import Provision.Archive.Unpack
import Provision.Archive.Zip

/-!
# Extraction

Unpacks an archive file into a directory, with the library's own readers or with an external tool.

* `Extract.tarGz` and `Extract.zip` read the archive themselves, `Extract.withTool` runs a tool.
* `Extractor.run` does what an extractor is set to.
-/

namespace Provision

namespace Extract

/-- Opens an archive. -/
def openArchive (archive : Path) : Attempt Report Stream :=
  (Attempt.openFile archive).context ("Failed to open archive at " ++ archive.quoted)

/-- Notes that an extraction has come to its end. -/
def complete : Attempt Report Unit := logInfo "Extraction complete."

/-- Unpacks a gzipped tar archive. -/
def tarGz (archive directory : Path) : Attempt Report Unit := do
  let s ← openArchive archive
  Archive.unpack directory (Archive.Tar.listing (Archive.Gzip.decode s))
  complete

/-- All bytes of a file that has been opened. -/
def wholeFile (archive : Path) (s : Stream) : Except Report Bytes :=
  match s.fault with
  | some message =>
    .error ((Report.ofMessage message).context ("Failed to read archive " ++ archive.quoted))
  | none => .ok s.bytes

/-- Unpacks a zip archive. -/
def zip (archive directory : Path) : Attempt Report Unit := do
  let s ← openArchive archive
  let bytes ← Attempt.ofProgram (pure (wholeFile archive s))
  Archive.unpack directory (Archive.Zip.listing bytes)
  complete

/-- Unpacks an archive with the tool for its format. -/
def withTool (os : String) (format : ArchiveFormat) (archive directory : Path) :
    Attempt Report Unit := do
  (Tool.unpacking format os archive directory).run
  complete

end Extract

/-- How archives are unpacked. -/
inductive Extractor where
  /-- By this library. -/
  | native
  /-- By a tool of the given system. -/
  | system (os : String)
deriving DecidableEq, Repr

/-- Unpacks an archive of the given format. -/
def Extractor.run (e : Extractor) (format : ArchiveFormat) (archive directory : Path) :
    Attempt Report Unit :=
  match e, format with
  | .native, .tarGz => Extract.tarGz archive directory
  | .native, .zip => Extract.zip archive directory
  | .system os, format => Extract.withTool os format archive directory

end Provision
