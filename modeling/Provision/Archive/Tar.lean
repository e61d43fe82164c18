import Provision.Archive.Decoded
import Provision.Archive.Entry
import Provision.Text.Blank

/-!
# Tar archives

A tar archive is a series of blocks of 512 bytes: a header for each member, then its contents. Long
names and further attributes of a member come as members of their own before it.

* `Tar.Header` is a view of a header block, with its fields as numbers and names.
* `Tar.listing` reads the members of an archive until its end or a failure.
-/

namespace Provision.Archive.Tar

/-- The size of a block. -/
def block : Nat := 512

/-- The greatest size. -/
def maxSize : Nat := UInt64.size - 1

/-! ## Numbers -/

/-- The number written in the given base, with an optional plus sign and at most 64 bits. -/
def readNumber? (base : Nat) (cs : List Char) : Option Nat :=
  let digits := match cs with
    | '+' :: rest => rest
    | cs => cs
  let digit? (c : Char) : Option Nat :=
    if '0' ≤ c ∧ c ≤ '9' ∧ c.toNat - '0'.toNat < base then some (c.toNat - '0'.toNat) else none
  let add (n d : Nat) : Option Nat := if base * n + d ≤ maxSize then some (base * n + d) else none
  if digits.isEmpty then none
  else digits.foldlM (fun n c => (digit? c).bind (add n)) 0

/-- The number of an octal field: its text up to the first NUL, without blanks around it. -/
def octal (field : Bytes) : Except String Nat :=
  let text := field.untilNul
  match Utf8.decode? text with
  | none => .error ("numeric field did not have utf-8 text: " ++ Utf8.lossy text)
  | some s =>
    match readNumber? 8 (Text.trimChars s.toList) with
    | some n => .ok n
    | none => .error ("numeric field was not a number: " ++ s)

/-- The number of a binary field: its last eight bytes. -/
def binary (field : Bytes) : Nat := Bytes.be (field.drop (field.length - 8))

/-- The number of a field that may be octal or, when its first bit is set, binary. -/
def numeric (field : Bytes) : Except String Nat :=
  if (field.headD 0).toNat < 0x80 then octal field else .ok (binary field)

/-! ## Headers -/

/-- A header block. -/
structure Header where
  bytes : Bytes
deriving DecidableEq, Repr

namespace Header

/-- The mark of the two standards that extended headers. -/
def magic (h : Header) : Bytes := h.bytes.slice 257 8

/-- Is this a POSIX header? -/
def isPosix (h : Header) : Bool := h.magic == Bytes.ofText "ustar\x0000"

/-- Is this a GNU header? -/
def isGnu (h : Header) : Bool := h.magic == Bytes.ofText "ustar  \x00"

/-- The name in the header itself; only a POSIX header has a directory part before it. -/
def name (h : Header) : Bytes :=
  let name := (h.bytes.slice 0 100).untilNul
  let directory := (h.bytes.slice 345 155).untilNul
  if h.isPosix ∧ ¬ directory.isEmpty then directory ++ Path.slash :: name else name

/-- The type of the member. -/
def type (h : Header) : UInt8 := h.bytes.getD 156 0

/-- The kind of the member. -/
def kind (h : Header) : Kind :=
  if h.type = 0 ∨ h.type = 0x30 ∨ h.type = 0x37 then .file
  else if h.type = 0x35 then .directory
  else .other

/-- Does the member only describe others? -/
def isDescriptive (h : Header) : Bool :=
  h.type = 0x4C ∨ h.type = 0x4B ∨ h.type = 0x78 ∨ h.type = 0x67

/-- A field of the header, with a note where a failure to read it arose. -/
def field (h : Header) (what : String) (number : Except String Nat) : Except String Nat :=
  number.mapError fun e => e ++ " when getting " ++ what ++ " for " ++ Utf8.lossy h.name

/-- The checksum in the header. -/
def checksum (h : Header) : Except String Nat :=
  (h.field "cksum" (octal (h.bytes.slice 148 8))).map (· % UInt32.size)

/-- The size in the header. -/
def size (h : Header) : Except String Nat := h.field "size" (numeric (h.bytes.slice 124 12))

/-- The mode in the header, if it can be read; it is always octal. -/
def mode? (h : Header) : Option Nat :=
  match octal (h.bytes.slice 100 8) with
  | .ok mode => some (mode % UInt32.size)
  | .error _ => none

/-- The sum of a byte string. -/
def sum (bs : Bytes) : Nat := bs.foldl (fun n b => n + b.toNat) 0

/-- The checksum that the header should have: the sum of its bytes with blanks for the checksum. -/
def computed (h : Header) : Nat := sum (h.bytes.take 148) + sum (h.bytes.drop 156) + 8 * 32

end Header

/-! ## Attributes of a member -/

/-- The attribute on a line `LENGTH KEY=VALUE`, whose length counts the line and its end. -/
def attribute? (line : Bytes) : Option (Bytes × Bytes) := do
  let isSpace (b : UInt8) : Bool := b == 0x20
  let length := line.takeWhile (!isSpace ·)
  let text ← Utf8.decode? length
  let n ← readNumber? 10 text.toList
  match line.drop length.length with
  | [] => none
  | _ :: rest =>
    if n ≠ line.length + 1 then none
    else
      let key := rest.takeWhile (· != 0x3D)
      match rest.drop key.length with
      | [] => none
      | _ :: value => some (key, value)

/-- The lines of an attribute record, up to the first empty one. -/
def attributeLines (record : Bytes) : List Bytes :=
  (Bytes.splitOn 0x0A record).takeWhile (!·.isEmpty)

/-- The path among the attributes; lines that make no sense are passed over. -/
def attributePath? (record : Bytes) : Option Bytes :=
  let known := (attributeLines record).filterMap attribute?
  (known.find? fun a => a.1 == Bytes.ofText "path").map (·.2)

/-- The size among the attributes; a line that makes no sense ends the search. -/
def attributeSize? (record : Bytes) : Option Nat := do
  let lines := (attributeLines record).map attribute?
  let known := (lines.takeWhile Option.isSome).filterMap id
  let (_, value) ← known.find? fun a => a.1 == Bytes.ofText "size"
  let text ← Utf8.decode? value
  readNumber? 10 text.toList

/-! ## Reading members -/

/-- The data from the present position on, and how far away the next header is. -/
structure Cursor where
  data : Decoded
  toNext : Nat
deriving DecidableEq, Repr

/-- Goes to the next header. -/
def Cursor.advance (c : Cursor) : Except String Decoded :=
  let skipped := c.data.collect 32768 c.toNext
  match skipped.fault with
  | some message => .error message
  | none =>
    if skipped.bytes.length < c.toNext then .error "unexpected EOF during skip"
    else .ok skipped.rest

/-- Reads a whole block, or nothing at the end of the data. -/
def readBlock (d : Decoded) : Except String (Option Bytes × Decoded) :=
  let got := d.collect block block
  match got.fault with
  | some message => .error message
  | none =>
    if got.bytes.isEmpty then .ok (none, got.rest)
    else if got.bytes.length < block then .error "failed to read entire block"
    else .ok (some got.bytes, got.rest)

/-- A size rounded up to whole blocks. -/
def rounded (size : Nat) : Nat := (size + (block - 1)) / block * block

/-- A header with the size of its member. -/
structure Member where
  header : Header
  size : Nat
deriving DecidableEq, Repr

/-- Reads the next header; there is none at the end of the data or at a block of zeros. The size
among the attributes, if given, goes before the one in the header, unless the member is itself one
that describes others. `position` is where the header starts. -/
def readMember (attributes : Option Bytes) (position : Nat) (c : Cursor) :
    Except String (Option Member × Cursor) := do
  let data ← c.advance
  let (got, data) ← readBlock data
  let some bytes := got | return (none, ⟨data, 0⟩)
  if bytes.all (· == 0) then return (none, ⟨data, 0⟩)
  let h : Header := ⟨bytes⟩
  if h.computed ≠ (← h.checksum) then throw "archive header checksum mismatch"
  let own ← h.size
  let size := if h.isDescriptive then own else (attributes.bind attributeSize?).getD own
  if maxSize < size + (block - 1) ∨ maxSize < position + block + rounded size then
    throw "size overflow"
  return (some ⟨h, size⟩, ⟨data, rounded size⟩)

/-- Reads the contents of a member in requests of at most 8 KiB. -/
def readContents (size : Nat) (c : Cursor) : Stream × Cursor :=
  let got := c.data.collect 8192 size
  (⟨got.bytes, got.fault⟩, ⟨got.rest, c.toNext - got.bytes.length⟩)

/-- Reads the contents of a member that describes another one. -/
def readRecord (size : Nat) (c : Cursor) : Except String (Bytes × Cursor) :=
  match readContents size c with
  | (⟨_, some message⟩, _) => .error message
  | (⟨bytes, none⟩, c) => .ok (bytes, c)

/-! ## Sparse members -/

/-- The pieces of a sparse member that have been listed so far. -/
structure Sparse where
  /-- Where the last piece ended in the file. -/
  reached : Nat
  /-- How many bytes of contents are not yet accounted for. -/
  remaining : Nat
deriving DecidableEq, Repr

/-- Adds the piece that a field of 24 bytes describes. -/
def Sparse.add (size : Nat) (s : Sparse) (field : Bytes) : Except String Sparse := do
  let offsetField := field.take 12
  let lengthField := field.slice 12 12
  if offsetField.headD 0 = 0 ∨ lengthField.headD 0 = 0 then return s
  let noted (what : String) (n : Except String Nat) : Except String Nat :=
    n.mapError fun e => e ++ " when getting " ++ what ++ " from sparse header"
  let offset ← noted "offset" (numeric offsetField)
  let length ← noted "length" (numeric lengthField)
  if length ≠ 0 ∧ (size - s.remaining) % block ≠ 0 then
    throw "previous block in sparse file was not aligned to 512-byte boundary"
  if offset < s.reached then throw "out of order or overlapping sparse blocks"
  if maxSize < offset + length then throw "more bytes listed in sparse file than u64 can hold"
  if s.remaining < length then throw "sparse file consumed more data than the header listed"
  return ⟨offset + length, s.remaining - length⟩

/-- Adds the pieces that `count` fields at the start of a byte string describe. -/
def Sparse.addAll (size : Nat) : Nat → Sparse → Bytes → Except String Sparse
  | 0, s, _ => .ok s
  | count + 1, s, bs => do
    let s ← s.add size (bs.take 24)
    Sparse.addAll size count s (bs.drop 24)

/-- Reads the blocks that continue the list of pieces. -/
def readPieces (size : Nat) : Nat → Sparse → Cursor → Except String (Sparse × Cursor)
  | 0, s, c => .ok (s, c)
  | fuel + 1, s, c => do
    let (got, data) ← readBlock c.data
    let some bytes := got | throw "failed to read extension"
    let s ← Sparse.addAll size 21 s bytes
    let c : Cursor := ⟨data, c.toNext⟩
    if bytes.getD 504 0 = 1 then readPieces size fuel s c else return (s, c)

/-- Checks the list of pieces of a sparse member. -/
def checkSparse (m : Member) (c : Cursor) : Except String Cursor := do
  if m.header.type ≠ 0x53 then return c
  if ¬ m.header.isGnu then throw "sparse entry type listed but not GNU header"
  let s ← Sparse.addAll m.size 4 ⟨0, m.size⟩ (m.header.bytes.drop 386)
  let (s, c) ←
    if m.header.bytes.getD 482 0 = 1 then readPieces m.size (c.data.bytes.length + 1) s c
    else pure (s, c)
  let realSize ← m.header.field "real_size" (numeric (m.header.bytes.slice 483 12))
  if s.reached ≠ realSize then throw "mismatch in sparse file chunks and size in header"
  if 0 < s.remaining then throw "mismatch in sparse file chunks and entry size in header"
  return c

/-! ## Entries -/

/-- What the members before an entry say about it. -/
structure Notes where
  longName : Option Bytes := none
  longLink : Option Bytes := none
  attributes : Option Bytes := none
  /-- Has there been such a member? -/
  any : Bool := false
deriving DecidableEq, Repr

/-- The path of an entry: a long name without its NUL, else the path among the attributes, else the
name in the header. -/
def Notes.path (n : Notes) (h : Header) : Bytes :=
  match n.longName with
  | some name => if name.getLast? = some 0 then name.dropLast else name
  | none => (n.attributes.bind attributePath?).getD h.name

/-- The next entry with the members before it, `fuel` of them at most. `total` is the number of
bytes in the archive, from which the position follows. -/
def nextEntry (total : Nat) :
    Nat → Notes → Cursor → Except String (Option (Member × Notes) × Cursor)
  | 0, _, c => .ok (none, c)
  | fuel + 1, notes, c => do
    let position := total - c.data.bytes.length + c.toNext
    let (found, c) ← readMember notes.attributes position c
    match found with
    | none =>
      if notes.any then
        throw "members found describing a future member but no future member found"
      return (none, c)
    | some m =>
      let known := m.header.isPosix || m.header.isGnu
      if known ∧ m.header.type = 0x4C then
        if notes.longName.isSome then throw "two long name entries describing the same member"
        let (name, c) ← readRecord m.size c
        nextEntry total fuel { notes with longName := some name, any := true } c
      else if known ∧ m.header.type = 0x4B then
        if notes.longLink.isSome then throw "two long name entries describing the same member"
        let (name, c) ← readRecord m.size c
        nextEntry total fuel { notes with longLink := some name, any := true } c
      else if known ∧ m.header.type = 0x78 then
        if notes.attributes.isSome then
          throw "two pax extensions entries describing the same member"
        let (record, c) ← readRecord m.size c
        nextEntry total fuel { notes with attributes := some record, any := true } c
      else return (some (m, notes), ← checkSparse m c)

/-- How a failure to read the archive is reported. -/
def failure (message : String) : Report :=
  (Report.ofMessage message).context "Failed to read tar entry"

/-- The entries from a position on, `fuel` of them at most. The contents of an entry are read only
if it is unpacked. -/
def entriesFrom (total : Nat) : Nat → Cursor → Listing
  | 0, _ => ⟨[], none⟩
  | fuel + 1, c =>
    match nextEntry total (total + 1) {} c with
    | .error message => ⟨[], some (failure message)⟩
    | .ok (none, _) => ⟨[], none⟩
    | .ok (some (m, notes), c) =>
      let path : Path := ⟨notes.path m.header⟩
      let entry (content : Stream) : Entry :=
        ⟨some path, m.header.kind, m.header.mode?, content⟩
      if m.header.kind = .file ∧ (safePath? path).isSome then
        match readContents m.size c with
        | (⟨bytes, some message⟩, _) => ⟨[entry ⟨bytes, some message⟩], none⟩
        | (content, c) =>
          let more := entriesFrom total fuel c
          { more with entries := entry content :: more.entries }
      else
        let more := entriesFrom total fuel c
        { more with entries := entry ⟨[], none⟩ :: more.entries }

/-- The entries of an archive. -/
def listing (d : Decoded) : Listing :=
  entriesFrom d.bytes.length (d.bytes.length + 1) ⟨d, 0⟩

end Provision.Archive.Tar
