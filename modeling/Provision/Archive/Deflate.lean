import Provision.Archive.Deflate.Code

/-!
# Deflated data

Deflated data is a sequence of blocks: stored bytes, or literals and copies of earlier output in
canonical codes that are fixed or come with the block.

* `Deflate.inflate` gives all output that can be had and how the data ended.
-/

namespace Provision.Deflate

/-- The bits of a byte, the lowest first. -/
def byteBits (b : UInt8) : Bits := (List.range 8).map fun i => b.toNat.testBit i

/-- The bits of a byte string. -/
def bitsOf (bs : Bytes) : Bits := bs.flatMap byteBits

/-- Reads a number of `n` bits, the lowest first. -/
def number : Nat → Bits → Except Fault (Nat × Bits)
  | 0, bits => .ok (0, bits)
  | _ + 1, [] => .error .truncated
  | n + 1, bit :: bits => do
    let (high, bits) ← number n bits
    return (bit.toNat + 2 * high, bits)

/-! ## The codes of a block -/

/-- The two codes of a block. -/
structure Codes where
  lengths : Code
  distances : Code
deriving DecidableEq, Repr

/-- The lengths of the fixed code for literals and lengths. -/
def fixedLengths : List Nat :=
  List.replicate 144 8 ++ List.replicate 112 9 ++ List.replicate 24 7 ++ List.replicate 8 8

/-- The fixed codes. -/
def fixedCodes : Codes where
  lengths := ⟨Code.countLengths fixedLengths, (Code.sortSymbols fixedLengths).toArray⟩
  distances := ⟨[0, 0, 0, 0, 32], (List.range 32).toArray⟩

/-- The order in which the lengths of the code for code lengths are given. -/
def lengthOrder : List Nat := [16, 17, 18, 0, 8, 7, 9, 6, 10, 5, 11, 4, 12, 3, 13, 2, 14, 1, 15]

/-- Reads `n` numbers of three bits. -/
def readTriples : Nat → Bits → Except Fault (List Nat × Bits)
  | 0, bits => .ok ([], bits)
  | n + 1, bits => do
    let (length, bits) ← number 3 bits
    let (rest, bits) ← readTriples n bits
    return (length :: rest, bits)

/-- The code for code lengths, from the lengths in their own order. -/
def lengthsCode? (given : List Nat) : Option Code :=
  let lengthOf (symbol : Nat) : Nat := (given[lengthOrder.idxOf symbol]?).getD 0
  Code.ofLengths? false ((List.range 19).map lengthOf)

/-- Reads a run of equal code lengths: how many and which. A run may repeat the length before it.
Bits that are no word stand for a length of 0. -/
def readRun (code : Code) (previous : Option Nat) (bits : Bits) :
    Except Fault (Nat × Nat × Bits) := do
  let (symbol, bits) ← code.decode bits
  let symbol := symbol.getD 0
  if symbol < 16 then return (1, symbol, bits)
  else if symbol = 16 then
    let (extra, bits) ← number 2 bits
    let some length := previous | throw .corrupt
    return (3 + extra, length, bits)
  else if symbol = 17 then
    let (extra, bits) ← number 3 bits
    return (3 + extra, 0, bits)
  else
    let (extra, bits) ← number 7 bits
    return (11 + extra, 0, bits)

/-- Reads code lengths until there are `total`; `done` holds those read so far, the last first. -/
def readLengths (code : Code) (total : Nat) : Nat → List Nat → Bits →
    Except Fault (List Nat × Bits)
  | 0, done, bits => .ok (done.reverse, bits)
  | fuel + 1, done, bits =>
    if total ≤ done.length then .ok (done.reverse, bits)
    else do
      let (count, length, bits) ← readRun code done.head? bits
      if total < done.length + count then throw .corrupt
      readLengths code total fuel (List.replicate count length ++ done) bits

/-- Reads the codes that come with a block. A code for lengths must have a word for the end of the
block. -/
def readCodes (bits : Bits) : Except Fault (Codes × Bits) := do
  let (n, bits) ← number 14 bits
  let literals := n % 32 + 257
  let distances := n / 32 % 32 + 1
  if 286 < literals ∨ 30 < distances then throw .corrupt
  let (given, bits) ← readTriples (n / 1024 + 4) bits
  let some code := lengthsCode? given | throw .corrupt
  let total := literals + distances
  let (lengths, bits) ← readLengths code total total [] bits
  if lengths[256]? = some 0 then throw .corrupt
  let some literalCode := Code.ofLengths? true (lengths.take literals) | throw .corrupt
  let some distanceCode := Code.ofLengths? true (lengths.drop literals) | throw .corrupt
  return (⟨literalCode, distanceCode⟩, bits)

/-! ## The contents of a block -/

/-- The least length and the number of extra bits of each length symbol from 257 on. -/
def lengthTable : Array (Nat × Nat) :=
  #[(3, 0), (4, 0), (5, 0), (6, 0), (7, 0), (8, 0), (9, 0), (10, 0), (11, 1), (13, 1), (15, 1),
    (17, 1), (19, 2), (23, 2), (27, 2), (31, 2), (35, 3), (43, 3), (51, 3), (59, 3), (67, 4),
    (83, 4), (99, 4), (115, 4), (131, 5), (163, 5), (195, 5), (227, 5), (258, 0)]

/-- The least distance and the number of extra bits of each distance symbol. -/
def distanceTable : Array (Nat × Nat) :=
  #[(1, 0), (2, 0), (3, 0), (4, 0), (5, 1), (7, 1), (9, 2), (13, 2), (17, 3), (25, 3), (33, 4),
    (49, 4), (65, 5), (97, 5), (129, 6), (193, 6), (257, 7), (385, 7), (513, 8), (769, 8),
    (1025, 9), (1537, 9), (2049, 10), (3073, 10), (4097, 11), (6145, 11), (8193, 12), (12289, 12),
    (16385, 13), (24577, 13)]

/-- What a symbol asks for. -/
inductive Item where
  | literal (b : UInt8)
  | copy (length distance : Nat)
  | stop
deriving DecidableEq, Repr

/-- Reads a number from a table of least values and extra bits. -/
def readTable (table : Array (Nat × Nat)) (symbol : Option Nat) (bits : Bits) :
    Except Fault (Nat × Bits) :=
  match symbol.bind fun s => table[s]? with
  | none => .error .corrupt
  | some (least, width) => do
    let (extra, bits) ← number width bits
    return (least + extra, bits)

/-- Reads a literal, a copy or the end of the block. -/
def readItem (codes : Codes) (bits : Bits) : Except Fault (Item × Bits) := do
  let (symbol, bits) ← codes.lengths.decode bits
  match symbol with
  | none => throw .corrupt
  | some symbol =>
    if symbol < 256 then return (.literal symbol.toUInt8, bits)
    else if symbol = 256 then return (.stop, bits)
    else
      let (length, bits) ← readTable lengthTable (some (symbol - 257)) bits
      let (symbol, bits) ← codes.distances.decode bits
      let (distance, bits) ← readTable distanceTable symbol bits
      return (.copy length distance, bits)

/-- The output after `length` bytes from `distance` bytes back have been added one by one. -/
def copyBack : Nat → Nat → Array UInt8 → Array UInt8
  | 0, _, out => out
  | length + 1, distance, out =>
    copyBack length distance (out.push (out.getD (out.size - distance) 0))

/-- The output after the items of a block, and the bits after it. -/
def readItems (codes : Codes) : Nat → Array UInt8 → Bits → Array UInt8 × Except Fault Bits
  | 0, out, _ => (out, .error .truncated)
  | fuel + 1, out, bits =>
    match readItem codes bits with
    | .error e => (out, .error e)
    | .ok (.stop, bits) => (out, .ok bits)
    | .ok (.literal b, bits) => readItems codes fuel (out.push b) bits
    | .ok (.copy length distance, bits) =>
      if out.size < distance then (out, .error .tooFar)
      else readItems codes fuel (copyBack length distance out) bits

/-- The output after `count` stored bytes, and the bits after them. -/
def readStored : Nat → Array UInt8 → Bits → Array UInt8 × Except Fault Bits
  | 0, out, bits => (out, .ok bits)
  | count + 1, out, bits =>
    match number 8 bits with
    | .error _ => (out, .error .unfilled)
    | .ok (b, bits) => readStored count (out.push b.toUInt8) bits

/-- The bits from the next whole byte on. -/
def alignToByte (bits : Bits) : Bits := bits.drop (bits.length % 8)

/-- The length of a stored block; it is given twice, once with all bits inverted. -/
def readStoredLength (bits : Bits) : Except Fault (Nat × Bits) := do
  let (n, bits) ← number 32 (alignToByte bits)
  let length := n % 65536
  if length + n / 65536 = 65535 then return (length, bits) else throw .corrupt

/-- The output after one block of the given type, and the bits after it. -/
def readBlock (type : Nat) (out : Array UInt8) (bits : Bits) : Array UInt8 × Except Fault Bits :=
  match type with
  | 0 =>
    match readStoredLength bits with
    | .error e => (out, .error e)
    | .ok (length, bits) => readStored length out bits
  | 1 => readItems fixedCodes (bits.length + 1) out bits
  | 2 =>
    match readCodes bits with
    | .error e => (out, .error e)
    | .ok (codes, bits) => readItems codes (bits.length + 1) out bits
  | _ => (out, .error .corrupt)

/-- The output after all blocks, and the bits after the last one. -/
def readBlocks : Nat → Array UInt8 → Bits → Array UInt8 × Except Fault Bits
  | 0, out, _ => (out, .error .truncated)
  | fuel + 1, out, bits =>
    match number 3 bits with
    | .error e => (out, .error e)
    | .ok (header, bits) =>
      match readBlock (header / 2) out bits with
      | (out, .error e) => (out, .error e)
      | (out, .ok bits) => if header % 2 = 1 then (out, .ok bits) else readBlocks fuel out bits

/-- What inflating gives: all output that can be had, and the bytes after the data unless it is
faulty. -/
structure Inflated where
  bytes : Bytes
  rest : Except Fault Bytes

/-- Inflates the data at the start of a byte string. -/
def inflate (data : Bytes) : Inflated :=
  let bits := bitsOf data
  match readBlocks (bits.length + 1) #[] bits with
  | (out, .error e) => ⟨out.toList, .error e⟩
  | (out, .ok left) => ⟨out.toList, .ok (data.drop (data.length - left.length / 8))⟩

end Provision.Deflate
