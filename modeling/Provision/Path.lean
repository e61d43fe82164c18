import Provision.Text.Quoted

/-!
# Paths

A path is a text of bytes in which `/` separates parts. Operations that walk a path go by its
components, so empty parts and inner `.` parts never count; operations that build a path keep the
text as it was spelled.

* `Path.components` lists the components; `Path.sameAs` compares paths by them.
* `Path.join` appends, `Path.parent?` and `Path.ancestors` walk up, and `Path.fileName?` is the last
  name.
* `Path.display` and `Path.quoted` show a path in messages.
-/

namespace Provision

/-- A file path as it was spelled. -/
structure Path where
  text : Bytes
deriving DecidableEq, Repr, Inhabited

/-- One step of a path. -/
inductive Component where
  /-- The `/` at the start of an absolute path. -/
  | root
  /-- A `.` at the start of a relative path. -/
  | current
  /-- A `..`. -/
  | parent
  /-- An ordinary name. -/
  | normal (name : Bytes)
deriving DecidableEq, Repr

namespace Path

/-- The separator. -/
def slash : UInt8 := 0x2F

/-- The part `.`. -/
def dot : Bytes := [0x2E]

/-- The part `..`. -/
def dotDot : Bytes := [0x2E, 0x2E]

/-- A path from a text. -/
def ofText (s : String) : Path := ⟨Bytes.ofText s⟩

/-- Does the path start at the root? -/
def isAbsolute (p : Path) : Bool := p.text.head? == some slash

/-- A part that stands for no component after the first part. -/
def isTrivial (part : Bytes) : Bool := part.isEmpty || part == dot

/-- The component of a part that is neither empty nor `.`. -/
def partComponent (part : Bytes) : Component :=
  if part = dotDot then .parent else .normal part

/-- The component that the first part stands for, if any. -/
def leadComponent (first : Bytes) (more : Bool) : List Component :=
  if first.isEmpty then (if more then [.root] else [])
  else if first = dot then [.current]
  else [partComponent first]

/-- The components of a path, from the root or the start downwards. -/
def components (p : Path) : List Component :=
  match Bytes.splitOn slash p.text with
  | [] => []
  | first :: rest =>
    leadComponent first (!rest.isEmpty) ++ (rest.filter (!isTrivial ·)).map partComponent

/-- Equality of paths: the same components. -/
def sameAs (p q : Path) : Bool := p.components == q.components

/-- `p` followed by `q`. An absolute `q` stands alone. -/
def join (p q : Path) : Path :=
  if q.isAbsolute then q
  else
    match p.text.getLast? with
    | none => q
    | some b => if b = slash then ⟨p.text ++ q.text⟩ else ⟨p.text ++ slash :: q.text⟩

/-- `p` followed by one name. -/
def child (p : Path) (name : Bytes) : Path := p.join ⟨name⟩

/-- `p` followed by one name given as text. -/
def entry (p : Path) (name : String) : Path := p.join (ofText name)

/-- The parts without the trivial ones at the end. -/
def trimParts (parts : List Bytes) : List Bytes := (parts.reverse.dropWhile isTrivial).reverse

/-- The path without its last component. The root and the empty path have none. -/
def parent? (p : Path) : Option Path :=
  match Bytes.splitOn slash p.text with
  | [] => none
  | first :: rest =>
    match trimParts rest with
    | [] => if first.isEmpty then none else some ⟨[]⟩
    | kept@(_ :: _) =>
      match trimParts kept.dropLast with
      | [] => some ⟨if first.isEmpty then [slash] else first⟩
      | above => some ⟨Bytes.joinWith slash (first :: above)⟩

/-- The path and the paths above it, given that there are at most `fuel` of them. -/
def ancestorsUpTo : Nat → Path → List Path
  | 0, _ => []
  | fuel + 1, p =>
    p :: match p.parent? with
      | none => []
      | some q => ancestorsUpTo fuel q

/-- The path and all paths above it. A step up takes at least one byte away, apart from the last
step of a relative path. -/
def ancestors (p : Path) : List Path := ancestorsUpTo (p.text.length + 1) p

/-- The last component, if it is an ordinary name. -/
def fileName? (p : Path) : Option Bytes :=
  match p.components.getLast? with
  | some (.normal name) => some name
  | _ => none

/-- The path as plain text. -/
def display (p : Path) : String := Utf8.lossy p.text

/-- The path between quotes. -/
def quoted (p : Path) : String := Quoted.bytes p.text

end Path

end Provision
