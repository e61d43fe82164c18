import Provision.Bytes
import Provision.Text.Utf8

/-!
# Percent-encoding

Each part of an address allows some characters to stand for themselves; the others are written as
`%` and two upper-case hexadecimal digits for every byte of their UTF-8 form.

* `Percent.encode` writes the characters of a set in that way, `Percent.decode` undoes it.
* `Percent.Set` values say, part by part, which characters are written so.
-/

namespace Provision.Percent

/-- The characters that are percent-encoded. -/
abbrev Set := Char → Bool

/-- Controls and everything beyond ASCII. -/
def controls : Set := fun c => c.toNat < 0x20 || 0x7E < c.toNat

/-- In a fragment. -/
def fragment : Set := fun c => controls c || [' ', '"', '<', '>', '`'].contains c

/-- In a path. -/
def path : Set := fun c => fragment c || ['#', '?', '\x7b', '\x7d'].contains c

/-- In a user name or password. -/
def userinfo : Set := fun c =>
  path c || ['/', ':', ';', '=', '@', '[', '\\', ']', '^', '|'].contains c

/-- In a query. -/
def query : Set := fun c => controls c || [' ', '"', '#', '<', '>'].contains c

/-- In the query of a web address. -/
def specialQuery : Set := fun c => query c || c == '\''

/-- An upper-case hexadecimal digit. -/
def digit (n : Nat) : Char := (Nat.digitChar n).toUpper

/-- The encoded form of one byte. -/
def byte (b : UInt8) : List Char := ['%', digit (b.toNat / 16), digit (b.toNat % 16)]

/-- The encoded form of a text. -/
def encode (s : Set) (cs : List Char) : List Char :=
  cs.flatMap fun c => if s c then (Bytes.ofText (String.ofList [c])).flatMap byte else [c]

/-- The value of a hexadecimal digit. -/
def digitValue? (c : Char) : Option Nat :=
  if '0' ≤ c ∧ c ≤ '9' then some (c.toNat - '0'.toNat)
  else if 'a' ≤ c ∧ c ≤ 'f' then some (c.toNat - 'a'.toNat + 10)
  else if 'A' ≤ c ∧ c ≤ 'F' then some (c.toNat - 'A'.toNat + 10)
  else none

/-- The bytes of a text whose percent triples stand for bytes. A `%` that starts none stands for
itself. -/
def decode : List Char → Bytes
  | [] => []
  | '%' :: a :: b :: rest =>
    match digitValue? a, digitValue? b with
    | some x, some y => UInt8.ofNat (16 * x + y) :: decode rest
    | _, _ => 0x25 :: decode (a :: b :: rest)
  | c :: rest => Bytes.ofText (String.ofList [c]) ++ decode rest

end Provision.Percent
