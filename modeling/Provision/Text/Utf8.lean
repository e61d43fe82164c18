import Provision.Bytes

/-!
# UTF-8

Reading a byte string as text. A well-formed sequence stands for one scalar value; where none
begins, the longest run of bytes that could still have become one is a single stray piece.

* `Utf8.pieces` cuts a byte string into scalar values and stray runs.
* `Utf8.decode?` succeeds exactly when there is no stray run.
* `Utf8.lossy` puts U+FFFD for each stray run.
-/

namespace Provision.Utf8

/-- A part of a byte string read as UTF-8. -/
inductive Piece where
  /-- A well-formed sequence. -/
  | scalar (c : Char)
  /-- Bytes that belong to no well-formed sequence. -/
  | stray (bytes : Bytes)
deriving DecidableEq, Repr

/-- For a leading byte of a longer sequence: how many bytes follow, and the least and greatest
value of the first of them. -/
def follow? (lead : UInt8) : Option (Nat × UInt8 × UInt8) :=
  if lead < 0xC2 then none
  else if lead < 0xE0 then some (1, 0x80, 0xBF)
  else if lead = 0xE0 then some (2, 0xA0, 0xBF)
  else if lead = 0xED then some (2, 0x80, 0x9F)
  else if lead < 0xF0 then some (2, 0x80, 0xBF)
  else if lead = 0xF0 then some (3, 0x90, 0xBF)
  else if lead < 0xF4 then some (3, 0x80, 0xBF)
  else if lead = 0xF4 then some (3, 0x80, 0x8F)
  else none

/-- Is this a continuation byte? -/
def isContinuation (b : UInt8) : Bool := 0x80 ≤ b && b ≤ 0xBF

/-- The payload of a continuation byte. -/
def payload (b : UInt8) : Nat := b.toNat % 64

/-- The pieces of a byte string, in order. -/
def pieces : Bytes → List Piece
  | [] => []
  | a :: rest =>
    if a < 0x80 then .scalar (Char.ofNat a.toNat) :: pieces rest
    else
      match follow? a with
      | none => .stray [a] :: pieces rest
      | some (n, lo, hi) =>
        match rest with
        | [] => [.stray [a]]
        | b :: rest₁ =>
          if ¬ (lo ≤ b ∧ b ≤ hi) then .stray [a] :: pieces (b :: rest₁)
          else if n = 1 then
            .scalar (Char.ofNat ((a.toNat % 32) * 64 + payload b)) :: pieces rest₁
          else
            match rest₁ with
            | [] => [.stray [a, b]]
            | c :: rest₂ =>
              if ¬ isContinuation c then .stray [a, b] :: pieces (c :: rest₂)
              else if n = 2 then
                .scalar (Char.ofNat ((a.toNat % 16) * 4096 + payload b * 64 + payload c))
                  :: pieces rest₂
              else
                match rest₂ with
                | [] => [.stray [a, b, c]]
                | d :: rest₃ =>
                  if ¬ isContinuation d then .stray [a, b, c] :: pieces (d :: rest₃)
                  else
                    .scalar (Char.ofNat ((a.toNat % 8) * 262144 + payload b * 4096
                      + payload c * 64 + payload d)) :: pieces rest₃

/-- The scalar value of a piece, if it is one. -/
def Piece.char? : Piece → Option Char
  | .scalar c => some c
  | .stray _ => none

/-- The text of a well-formed byte string. -/
def decode? (bs : Bytes) : Option String :=
  ((pieces bs).mapM Piece.char?).map String.ofList

/-- The text of a byte string, with U+FFFD for each stray run. -/
def lossy (bs : Bytes) : String :=
  String.ofList ((pieces bs).map fun p => p.char?.getD (Char.ofNat 0xFFFD))

end Provision.Utf8
