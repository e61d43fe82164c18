/-!
# Byte strings

File contents, path texts and archives are lists of bytes. This module holds the few operations
on them that the formats below share.

* `Bytes.ofText` gives the UTF-8 form of a text.
* `Bytes.splitOn` cuts at every occurrence of one byte; `Bytes.joinWith` is its inverse.
* `Bytes.le` reads a little-endian number, `Bytes.slice` a field of a record.
-/

namespace Provision

/-- A string of bytes. -/
abbrev Bytes := List UInt8

namespace Bytes

/-- The UTF-8 form of a text. -/
def ofText (s : String) : Bytes := s.toUTF8.data.toList

/-- The `len` bytes that start at `start`, or fewer when the string ends before. -/
def slice (bs : Bytes) (start len : Nat) : Bytes := (bs.drop start).take len

/-- The number whose little-endian digits are `bs`. -/
def le : Bytes → Nat
  | [] => 0
  | b :: rest => b.toNat + 256 * le rest

/-- The number whose big-endian digits are `bs`. -/
def be (bs : Bytes) : Nat := bs.foldl (fun n b => 256 * n + b.toNat) 0

/-- The parts between the occurrences of `sep`: one more than there are occurrences. -/
def splitOn (sep : UInt8) : Bytes → List Bytes
  | [] => [[]]
  | b :: rest =>
    if b = sep then [] :: splitOn sep rest
    else
      match splitOn sep rest with
      | [] => [[b]]
      | part :: parts => (b :: part) :: parts

/-- The parts with one `sep` between neighbours. -/
def joinWith (sep : UInt8) : List Bytes → Bytes
  | [] => []
  | [part] => part
  | part :: parts => part ++ sep :: joinWith sep parts

theorem splitOn_ne_nil (sep : UInt8) (bs : Bytes) : splitOn sep bs ≠ [] := by
  cases bs with
  | nil => simp [splitOn]
  | cons b rest =>
    unfold splitOn
    split
    · simp
    · split <;> simp

theorem joinWith_splitOn (sep : UInt8) (bs : Bytes) : joinWith sep (splitOn sep bs) = bs := by
  induction bs with
  | nil => rfl
  | cons b rest ih =>
    unfold splitOn
    split
    · next h =>
      subst h
      cases hs : splitOn b rest with
      | nil => exact absurd hs (splitOn_ne_nil b rest)
      | cons part parts => rw [hs] at ih; simp [joinWith, ih]
    · split
      · next hs => exact absurd hs (splitOn_ne_nil sep rest)
      · next part parts hs =>
        rw [hs] at ih
        cases parts with
        | nil => simpa [joinWith] using ih
        | cons p ps => simpa [joinWith] using ih

/-- The bytes before the first NUL. -/
def untilNul (bs : Bytes) : Bytes := bs.takeWhile (· ≠ 0)

/-- Does `bs` begin with `pre`? -/
def startsWith (bs pre : Bytes) : Bool := pre.isPrefixOf bs

/-- Byte-wise lexicographic order, shorter first. -/
def lt : Bytes → Bytes → Bool
  | _, [] => false
  | [], _ :: _ => true
  | a :: as, b :: bs => a < b || (a == b && lt as bs)

end Bytes

end Provision
