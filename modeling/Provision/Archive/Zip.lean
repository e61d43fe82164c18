import Provision.Archive.Crc32
import Provision.Archive.Entry
import Provision.Archive.Inflated
import Provision.Archive.Zip.Name

/-!
# Zip archives

A zip archive ends with a directory of its entries, and the directory with an end record that says
where it starts. Bytes before, after or between are allowed, so the end record is searched for from
the back, and the first directory header at or after its stated place fixes by how much everything
is shifted.

* `Zip.directory` reads the directory: the headers by name, later ones in the place of earlier ones.
* `Zip.content` finds and decodes the contents of an entry.
* `Zip.listing` lists the entries of an archive.
-/

namespace Provision.Archive.Zip

/-- What is wrong with an archive. -/
inductive Fault where
  | invalid (what : String)
  | unsupported (what : String)
  /-- Reading failed. -/
  | reading (cause : String)
  /-- The contents are enciphered. -/
  | wrongPassword
deriving DecidableEq, Repr

/-- The report of a fault. -/
def Fault.report : Fault → Report
  | .invalid what => .ofMessage ("invalid Zip archive: " ++ what)
  | .unsupported what => .ofMessage ("unsupported Zip archive: " ++ what)
  | .reading cause => (Report.ofMessage cause).context ("i/o error: " ++ cause)
  | .wrongPassword => .ofMessage "provided password is incorrect"

/-- A field is shorter than what it announces. -/
def Fault.shortField : Fault := .reading "failed to fill whole buffer"

/-- The number of `width` bytes at an offset of a record. -/
def field (record : Bytes) (offset width : Nat) : Nat := Bytes.le (record.slice offset width)

/-! ## End records -/

/-- The mark of an end record. -/
def endMark : Bytes := [0x50, 0x4B, 5, 6]

/-- The mark of a directory header. -/
def headerMark : Bytes := [0x50, 0x4B, 1, 2]

/-- The mark of a local header. -/
def localMark : Bytes := [0x50, 0x4B, 3, 4]

/-- The size of an end record without its comment. -/
def endSize : Nat := 22

/-- An end record. -/
structure EndRecord where
  position : Nat
  disk : Nat
  directoryDisk : Nat
  /-- The number of headers here. -/
  count : Nat
  /-- The number of headers in all parts of the archive. -/
  total : Nat
  /-- The stated start of the directory. -/
  offset : Nat
  /-- By how much everything is shifted. -/
  shift : Nat := 0
deriving DecidableEq, Repr

/-- The positions before `limit` at which a mark stands, in order. -/
def marksBefore (mark : Bytes) (limit : Nat) (bs : Bytes) : List Nat :=
  let rec go : Nat → Bytes → List Nat
    | _, [] => []
    | i, b :: rest =>
      if mark.isPrefixOf (b :: rest) then i :: go (i + 1) rest else go (i + 1) rest
  (go 0 bs).filter (· + mark.length ≤ limit)

/-- Reads the end record at a position. -/
def readEnd (bs : Bytes) (position : Nat) : Except Fault EndRecord := do
  let record := bs.drop position
  if record.length < endSize then throw (.invalid "Unexpected end of zip::spec::Zip32CDEBlock")
  if record.length < endSize + field record 20 2 then
    throw (.invalid "EOCD comment exceeds file boundary")
  return { position, disk := field record 4 2, directoryDisk := field record 6 2,
           count := field record 8 2, total := field record 10 2, offset := field record 16 4 }

/-- Finds the directory that an end record belongs to. -/
def placeDirectory (bs : Bytes) (r : EndRecord) : Except Fault EndRecord := do
  if r.total = 0 then return { r with shift := r.position - r.offset }
  if r.position ≤ r.offset then throw (.invalid "Invalid CDFH offset in EOCD")
  match (marksBefore headerMark r.position bs).find? (r.offset ≤ ·) with
  | some start => return { r with shift := start - r.offset }
  | none => throw (.invalid "No CDFH found")

/-- The first of the end records at the given positions that has a directory, and the positions
after it. Of several faults the last misplaced directory counts, or else the first record that
cannot be read. -/
def findEnd (bs : Bytes) : Option Fault → List Nat → Except Fault (EndRecord × List Nat)
  | fault, [] => .error (fault.getD (.invalid "Could not find EOCD"))
  | fault, position :: positions =>
    match readEnd bs position with
    | .error e => findEnd bs (some (fault.getD e)) positions
    | .ok r =>
      match placeDirectory bs r with
      | .error e => findEnd bs (some e) positions
      | .ok r => .ok (r, positions)

/-! ## Directory headers -/

/-- What the directory says about an entry. -/
structure Header where
  /-- The system on which the entry was made: 0 is DOS, 3 is Unix. -/
  system : Nat
  isEncrypted : Bool
  method : Nat
  /-- Has the method been given by an extra field about encryption? -/
  hasCipher : Bool := false
  crc : Nat
  compressedSize : Nat
  attributes : Nat
  /-- Where the local header starts. -/
  start : Nat
  rawName : Bytes
  /-- The decoded name. -/
  name : Bytes
  comment : Bytes
deriving DecidableEq, Repr

/-- The first `n` bytes of a field and the rest. -/
def split (n : Nat) (bs : Bytes) : Except Fault (Bytes × Bytes) :=
  if bs.length < n then .error .shortField else .ok (bs.take n, bs.drop n)

/-- A text that replaces one with the given raw form: a version, a checksum of the raw form and the
text. -/
def replacement (raw : Bytes) (length : Nat) (bs : Bytes) : Except Fault (Bytes × Bytes) := do
  let (start, rest) ← split 5 bs
  if length < 5 then throw (.invalid "Unicode extra field is too small")
  let (text, rest) ← split (length - 5) rest
  if field start 1 4 ≠ Crc32.checksum raw then
    throw (.invalid "CRC32 checksum failed on Unicode extra field")
  if (Utf8.decode? text).isNone then throw (.invalid "Invalid UTF-8")
  return (text, rest)

/-- The number of set bits of a byte. -/
def setBits (n : Nat) : Nat := (List.range 8).countP n.testBit

/-- The eight binary digits of a byte. -/
def binaryText (n : Nat) : String :=
  String.ofList ((List.range 8).reverse.map fun i => if n.testBit i then '1' else '0')

/-- What follows the times in an extra field of the given length. There are four bytes for every
flag, of which only some have a meaning. -/
def passTimes (length : Nat) (bs : Bytes) : Except Fault Bytes := do
  if length = 0 then throw (.invalid "Extended timestamp field is empty")
  let (start, rest) ← split 1 bs
  let flags := Bytes.le start
  if length ≠ 5 ∧ length ≠ 1 + 4 * setBits flags then
    throw (.reading ("flags and len don't match in extended timestamp field len="
      ++ toString length ++ " flags=" ++ binaryText flags))
  return (← split (length - 1) rest).2

/-- What follows the NTFS times in an extra field of the given length. -/
def passNtfs (length : Nat) (bs : Bytes) : Except Fault Bytes := do
  if length ≠ 32 then throw (.unsupported "NTFS extra field has an unsupported length")
  let (start, rest) ← split 6 bs
  if field start 4 2 ≠ 1 then
    throw (.unsupported "NTFS extra field has an unsupported attribute tag")
  let (size, rest) ← split 2 rest
  if field size 0 2 ≠ 24 then
    throw (.unsupported "NTFS extra field has an unsupported attribute size")
  return (← split 24 rest).2

/-- Takes over what an extra field says about encryption. -/
def readCipher (h : Header) (length : Nat) (bs : Bytes) : Except Fault (Header × Bytes) := do
  if length ≠ 7 then throw (.unsupported "AES extra data field has an unsupported length")
  let (vendor, rest) ← split 4 bs
  if rest.isEmpty then throw (.invalid "AES extra field truncated")
  let (mode, rest) ← split 3 rest
  if field vendor 2 2 ≠ 0x4541 then throw (.invalid "Invalid AES vendor")
  if field vendor 0 2 ≠ 1 ∧ field vendor 0 2 ≠ 2 then throw (.invalid "Invalid AES vendor version")
  if field mode 0 1 < 1 ∨ 3 < field mode 0 1 then
    throw (.invalid "Invalid AES encryption strength")
  return ({ h with method := field mode 1 2, hasCipher := true }, rest)

/-- Takes over what one extra field says, and gives what follows it. -/
def readExtra (h : Header) (bs : Bytes) : Except Fault (Header × Bytes) := do
  if bs.length < 2 then return (h, [])
  if bs.length < 4 then throw (.invalid "Extra field header truncated")
  let length := field bs 2 2
  let rest := bs.drop 4
  match field bs 0 2 with
  | 0x000A => return (h, ← passNtfs length rest)
  | 0x9901 => readCipher h length rest
  | 0x5455 => return (h, ← passTimes length rest)
  | 0x6375 =>
    let (comment, rest) ← replacement h.comment length rest
    return ({ h with comment }, rest)
  | 0x7075 =>
    let (name, rest) ← replacement h.rawName length rest
    return ({ h with rawName := name, name }, rest)
  | _ =>
    if rest.length < length then throw (.invalid "Extra field content truncated")
    return (h, rest.drop length)

/-- Takes over what all extra fields say. Every one takes at least its own four bytes. -/
def readExtras : Nat → Header → Bytes → Except Fault Header
  | 0, h, _ => .ok h
  | fuel + 1, h, bs =>
    if bs.isEmpty then .ok h
    else do
      let (h, rest) ← readExtra h bs
      readExtras fuel h rest

/-- A field of variable length and the rest. -/
def splitVariable (n : Nat) (bs : Bytes) : Except Fault (Bytes × Bytes) :=
  if bs.length < n then .error (.invalid "Variable-length field extends beyond file boundary")
  else .ok (bs.take n, bs.drop n)

/-- Reads a directory header and gives what follows it. -/
def readHeader (shift : Nat) (bs : Bytes) : Except Fault (Header × Bytes) := do
  if bs.length < 46 then throw (.invalid "Unexpected end of zip::types::ZipCentralEntryBlock")
  if ¬ bs.startsWith headerMark then throw (.invalid "Invalid Central Directory header")
  let flags := field bs 8 2
  let (rawName, rest) ← splitVariable (field bs 28 2) (bs.drop 46)
  let (extra, rest) ← splitVariable (field bs 30 2) rest
  let (rawComment, rest) ← splitVariable (field bs 32 2) rest
  let decode := if flags.testBit 11 then Name.ofUtf8 else Name.ofCodePage
  let h : Header :=
    { system := field bs 5 1, isEncrypted := flags.testBit 0, method := field bs 10 2,
      crc := field bs 16 4, compressedSize := field bs 20 4, attributes := field bs 38 4,
      start := field bs 42 4 + shift, rawName, name := decode rawName,
      comment := decode rawComment }
  let h ← readExtras extra.length h extra
  if h.method = 99 ∧ ¬ h.hasCipher then
    throw (.invalid "AES encryption without AES extra data field")
  return (h, rest)

/-- Reads `count` directory headers. -/
def readHeaders (shift : Nat) : Nat → Bytes → Except Fault (List Header)
  | 0, _ => .ok []
  | count + 1, bs => do
    let (h, rest) ← readHeader shift bs
    return h :: (← readHeaders shift count rest)

/-- The headers with one more; a header of the same name makes room for it. -/
def addHeader (hs : List Header) (h : Header) : List Header :=
  if hs.any (·.name == h.name) then hs.map fun old => if old.name = h.name then h else old
  else hs ++ [h]

/-- The directory that an end record belongs to. -/
def directoryOf (bs : Bytes) (r : EndRecord) : Except Fault (List Header) := do
  if r.disk ≠ r.directoryDisk then
    throw (.unsupported "Support for multi-disk files is not implemented")
  let headers ← readHeaders r.shift r.count (bs.drop (r.offset + r.shift))
  return headers.foldl addHeader []

/-- The directory of the first of the end records, `fuel` of them at most, that has a readable one.
The last fault in a directory goes before that of not finding one. -/
def firstDirectory (bs : Bytes) : Nat → Option Fault → List Nat → Except Fault (List Header)
  | 0, fault, _ => .error (fault.getD (.invalid "Could not find EOCD"))
  | fuel + 1, fault, positions =>
    match findEnd bs none positions with
    | .error e => .error (fault.getD e)
    | .ok (r, positions) =>
      match directoryOf bs r with
      | .ok headers => .ok headers
      | .error e => firstDirectory bs fuel (some e) positions

/-- The directory of an archive; the last end record that has one counts. -/
def directory (bs : Bytes) : Except Fault (List Header) :=
  let positions := (marksBefore endMark bs.length bs).reverse
  firstDirectory bs (positions.length + 1) none positions

/-! ## Contents -/

/-- The compressed data of an entry. -/
def data (bs : Bytes) (h : Header) : Except Fault Bytes := do
  let header : Bytes := bs.drop h.start
  if header.length < 30 then throw (.invalid "Unexpected end of zip::types::ZipLocalEntryBlock")
  if ¬ header.startsWith localMark then throw (.invalid "Invalid local file header")
  return (header.drop (30 + field header 26 2 + field header 28 2)).take h.compressedSize

/-- How contents end whose checksum has to be the given one. -/
def checkedEnd (crc : Nat) (contents : Bytes) : DecodedEnd :=
  if Crc32.checksum contents = crc then .finished else .after "Invalid checksum"

/-- The number of compressed bytes that are read at a time. -/
def portion : Nat := 8192

/-- The contents of an entry, or why they cannot be had. -/
def content (bs : Bytes) (h : Header) : Except Fault Decoded := do
  if h.isEncrypted then throw (.unsupported "Password required to decrypt file")
  let compressed ← data bs h
  let decoded ← match h.method with
    | 0 => pure ⟨compressed, checkedEnd h.crc compressed, []⟩
    | 8 =>
      let ends := Inflated.portionEnds portion 0 compressed.length
      pure (Inflated.decoded ends (fun contents _ => checkedEnd h.crc contents) compressed)
    | _ => throw (.unsupported "Compression method not supported")
  if h.hasCipher then throw .wrongPassword
  return decoded

/-- The mode of an entry: the one that Unix wrote, or what the DOS attributes come to. -/
def Header.mode? (h : Header) : Option Nat :=
  let unix := h.attributes / 65536
  if h.attributes = 0 then none
  else if unix ≠ 0 then some unix
  else if h.system = 3 then some 0
  else if h.system = 0 then
    let mode := if h.attributes.testBit 4 then 0o775 else 0o664
    some (if h.attributes.testBit 0 then mode &&& 0o555 else mode)
  else none

/-- All that can be read of decoded data, and the failure that ended it. -/
def readAll (d : Decoded) : Stream :=
  let got := d.collect 8192 (d.bytes.length + 1)
  ⟨got.bytes, got.fault⟩

/-- The entries for headers, the first of which has the given index. -/
def entriesFrom (bs : Bytes) : Nat → List Header → Listing
  | _, [] => ⟨[], none⟩
  | index, h :: hs =>
    match content bs h with
    | .error e => ⟨[], some (e.report.context ("Failed to read ZIP entry " ++ toString index))⟩
    | .ok d =>
      let kind := if Name.isDirectory h.name then Kind.directory else .file
      let entry : Entry := ⟨Name.relative? h.name, kind, h.mode?, readAll d⟩
      let more := entriesFrom bs (index + 1) hs
      { more with entries := entry :: more.entries }

/-- The entries of an archive. -/
def listing (bs : Bytes) : Listing :=
  match directory bs with
  | .error e => ⟨[], some (e.report.context "Failed to parse ZIP archive")⟩
  | .ok headers => entriesFrom bs 0 headers

end Provision.Archive.Zip
