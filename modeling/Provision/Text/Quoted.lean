import Provision.Text.Utf8
import Provision.Text.Printable

/-!
# Quoted text

How a text or a path is shown inside a message: between double quotes, with every character that
would not show, or would end the quotation, written as an escape.

* `Quoted.escape` writes one character.
* `Quoted.text` quotes a text, `Quoted.bytes` a byte string that need not be UTF-8: bytes that
  belong to no character are written `\xHH` with upper-case digits.
-/

namespace Provision.Quoted

/-- The hexadecimal digits of a number, without leading zeros. -/
def hex (n : Nat) : List Char := Nat.toDigits 16 n

/-- The form of one character inside quotes. A combining mark is escaped as well, because it would
merge with the character before it. -/
def escape (c : Char) : List Char :=
  match c with
  | '\x00' => ['\\', '0']
  | '\t' => ['\\', 't']
  | '\n' => ['\\', 'n']
  | '\r' => ['\\', 'r']
  | '"' => ['\\', '"']
  | '\\' => ['\\', '\\']
  | c =>
    if Text.isExtending c || !Text.isPrintable c then
      ['\\', 'u', '\x7b'] ++ hex c.toNat ++ ['\x7d']
    else [c]

/-- A byte in two hexadecimal digits. -/
def hexByte (b : UInt8) : List Char :=
  [Nat.digitChar (b.toNat / 16), Nat.digitChar (b.toNat % 16)]

/-- The form of one piece of a byte string inside quotes. -/
def piece : Utf8.Piece → List Char
  | .scalar c => escape c
  | .stray bs => bs.flatMap fun b => '\\' :: 'x' :: (hexByte b).map Char.toUpper

/-- A text between quotes. -/
def text (s : String) : String :=
  String.ofList ('"' :: s.toList.flatMap escape ++ ['"'])

/-- A byte string between quotes. -/
def bytes (bs : Bytes) : String :=
  String.ofList ('"' :: (Utf8.pieces bs).flatMap piece ++ ['"'])

end Provision.Quoted
