import Provision.Program

/-!
# Archive entries

What an archive says, whatever its format: a list of entries, then perhaps a failure to read on.

* `Archive.safePath?` turns the name of an entry into a relative path that stays below the
  directory it is unpacked to.
-/

namespace Provision.Archive

/-- What an entry stands for. -/
inductive Kind where
  | directory
  | file
  /-- Anything that is passed over, such as a link. -/
  | other
deriving DecidableEq, Repr

/-- One entry of an archive. -/
structure Entry where
  /-- The name, unless the format itself refuses it. -/
  name : Option Path
  kind : Kind
  mode : Option Nat
  /-- The content, as far as it can be read. -/
  content : Stream
deriving DecidableEq, Repr

/-- The entries of an archive, and why there are no more if it did not come to its end. -/
structure Listing where
  entries : List Entry
  failure : Option Report := none
deriving DecidableEq, Repr

/-- The names among components that are all harmless: a leading `.` says nothing, while a root or a
`..` leads elsewhere. -/
def safeNames? : List Component → Option (List Bytes)
  | [] => some []
  | .normal name :: rest => (safeNames? rest).map (name :: ·)
  | .current :: rest => safeNames? rest
  | .root :: _ => none
  | .parent :: _ => none

/-- The relative path made of the names of an entry's path; none for an absolute path, one with a
`..`, or one without a name. -/
def safePath? (p : Path) : Option Path :=
  match safeNames? p.components with
  | some (name :: names) => some ⟨Bytes.joinWith Path.slash (name :: names)⟩
  | _ => none

end Provision.Archive
