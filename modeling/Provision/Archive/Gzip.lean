import Provision.Archive.Crc32
import Provision.Archive.Inflated
import Provision.Program

/-!
# Gzip data

A gzip member is a header, deflated data and a trailer with the checksum and length of the contents.
Only the first member is read, and its trailer is looked at only by a reader that asks for more than
the contents.

* `Gzip.decode` gives the contents of the first member.
-/

namespace Provision.Archive.Gzip

/-- Data that ends too early. -/
def endOfFile : String := "unexpected end of file"

/-- A header that is not one of gzip. -/
def badHeader : String := "invalid gzip header"

/-- A checksum or length that does not fit. -/
def badChecksum : String := "corrupt gzip stream does not have a matching checksum"

/-- A text in the header that is too long. -/
def longField : String := "gzip header field too long"

/-- The greatest length of a text in the header. -/
def maxField : Nat := 65535

/-- The first `n` bytes and the rest, or the failure `short`. -/
def split (short : String) (n : Nat) (bs : Bytes) : Except String (Bytes × Bytes) :=
  if bs.length < n then .error short else .ok (bs.take n, bs.drop n)

/-- A text in the header up to its NUL, and the rest. -/
def splitText (short : String) (bs : Bytes) : Except String (Bytes × Bytes) :=
  let text := bs.untilNul
  if maxField < text.length then .error longField
  else
    match bs.drop text.length with
    | [] => .error short
    | nul :: rest => .ok (text ++ [nul], rest)

/-- A part of the header that is there if a flag says so. -/
def optional (present : Bool) (part : Bytes → Except String (Bytes × Bytes)) (bs : Bytes) :
    Except String (Bytes × Bytes) :=
  if present then part bs else .ok ([], bs)

/-- The extra field with its length, and the rest. -/
def splitExtra (short : String) (bs : Bytes) : Except String (Bytes × Bytes) := do
  let (size, _) ← split short 2 bs
  split short (2 + Bytes.le size) bs

/-- The bytes after the header; `short` is the failure when the data ends in it. -/
def afterHeader (short : String) (bs : Bytes) : Except String Bytes := do
  let (fixed, rest) ← split short 10 bs
  let flags := (fixed.getD 3 0).toNat
  if ¬ fixed.startsWith [0x1F, 0x8B, 8] ∨ 0xE0 &&& flags ≠ 0 then throw badHeader
  let (extra, rest) ← optional (flags.testBit 2) (splitExtra short) rest
  let (name, rest) ← optional (flags.testBit 3) (splitText short) rest
  let (comment, rest) ← optional (flags.testBit 4) (splitText short) rest
  let (check, rest) ← optional (flags.testBit 1) (split short 2) rest
  let expected := Crc32.checksum (fixed ++ extra ++ name ++ comment) % 65536
  if flags.testBit 1 ∧ Bytes.le check ≠ expected then
    throw badChecksum
  return rest

/-- How the contents end, given the bytes after the deflated data. -/
def trailerEnd (short : String) (contents rest : Bytes) : DecodedEnd :=
  if rest.length < 8 then .after short
  else if Bytes.le (rest.slice 0 4) = Crc32.checksum contents
      ∧ Bytes.le (rest.slice 4 4) = contents.length % UInt32.size then .finished
  else .after badChecksum

/-- The number of bytes of a file that are read at a time. -/
def portion : Nat := 32768

/-- The contents of the first member. A failure to read the file takes the place of the failures
that the end of the file would cause. -/
def decode (s : Stream) : Decoded :=
  match afterHeader (s.fault.getD endOfFile) s.bytes with
  | .error message => ⟨[], .after message, []⟩
  | .ok data =>
    let total := s.bytes.length
    let ends := Inflated.portionEnds portion (total - data.length) total
    match s.fault with
    | none => Inflated.decoded ends (trailerEnd endOfFile) data
    | some message => Inflated.interrupted message ends (trailerEnd message) data

end Provision.Archive.Gzip
