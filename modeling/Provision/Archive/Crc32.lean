import Provision.Bytes

/-!
# Cyclic redundancy checks

The 32-bit checksum that gzip and zip keep of their contents, with the reflected polynomial
`EDB88320`.
-/

namespace Provision.Crc32

/-- One bit of the division. -/
def shift (crc : UInt32) : UInt32 :=
  if crc &&& 1 = 1 then (crc >>> 1) ^^^ 0xEDB88320 else crc >>> 1

/-- The register after `n` bits. -/
def shifts : Nat → UInt32 → UInt32
  | 0, crc => crc
  | n + 1, crc => shifts n (shift crc)

/-- The register after one byte. -/
def step (crc : UInt32) (b : UInt8) : UInt32 := shifts 8 (crc ^^^ b.toUInt32)

/-- The checksum of a byte string. -/
def checksum (bs : Bytes) : Nat := (bs.foldl step 0xFFFFFFFF ^^^ 0xFFFFFFFF).toNat

end Provision.Crc32
