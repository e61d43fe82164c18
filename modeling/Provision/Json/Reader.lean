import Provision.Json.Error
import Provision.Number.Decimal
import Provision.Text.Quoted

/-!
# Reading JSON

The pieces of a JSON reader on byte strings. Each reader takes the unread bytes and gives what it
read and the bytes after it, or a failure. A failure names how many bytes were left: none of the
offending byte when it has been taken, or one less (`at the next byte`) when it was only looked at.

* `skipBlank` passes over white space, `readString` decodes a string after its opening quote.
* `skipValue` passes over one value of any kind and depth without decoding it.
* `readNumber` reads a number; integers beyond 64 bits and numbers with a point or an exponent are
  floating point, computed from the first digits that fit in 64 bits and a power of ten.
* `describe` says what kind of value stands next, for a type error.
-/

namespace Provision.Json

/-- A failure after the bytes before `rest` have been taken. -/
def failAt (fault : Fault) (rest : Bytes) : Except Failure α := .error ⟨fault, rest.length⟩

/-- A failure at the next byte, or at the end when there is none. -/
def failNext (fault : Fault) (rest : Bytes) : Except Failure α := .error ⟨fault, rest.length - 1⟩

/-- Space, tab, line feed and carriage return. -/
def isBlank (b : UInt8) : Bool := b == 0x20 || b == 0x09 || b == 0x0A || b == 0x0D

/-- The bytes after any white space. -/
def skipBlank (bs : Bytes) : Bytes := bs.dropWhile isBlank

/-- An ASCII digit. -/
def isDigit (b : UInt8) : Bool := 0x30 ≤ b && b ≤ 0x39

/-! ## Strings -/

/-- The value of a hexadecimal digit. -/
def hexValue? (b : UInt8) : Option Nat :=
  if 0x30 ≤ b && b ≤ 0x39 then some (b.toNat - 0x30)
  else if 0x41 ≤ b && b ≤ 0x46 then some (b.toNat - 0x41 + 10)
  else if 0x61 ≤ b && b ≤ 0x66 then some (b.toNat - 0x61 + 10)
  else none

/-- The value of four hexadecimal digits. -/
def hex4? (a b c d : UInt8) : Option Nat := do
  return ((← hexValue? a) * 16 + (← hexValue? b)) * 256 + (← hexValue? c) * 16 + (← hexValue? d)

/-- The byte that a one-letter escape stands for. -/
def simpleEscape? (b : UInt8) : Option UInt8 :=
  if b == 0x22 || b == 0x5C || b == 0x2F then some b
  else if b == 0x62 then some 0x08
  else if b == 0x66 then some 0x0C
  else if b == 0x6E then some 0x0A
  else if b == 0x72 then some 0x0D
  else if b == 0x74 then some 0x09
  else none

/-- The UTF-8 form of a scalar value. -/
def encodeScalar (n : Nat) : Bytes := Bytes.ofText (String.ofList [Char.ofNat n])

/-- A leading surrogate. -/
def isHigh (n : Nat) : Bool := 0xD800 ≤ n && n ≤ 0xDBFF

/-- A trailing surrogate. -/
def isLow (n : Nat) : Bool := 0xDC00 ≤ n && n ≤ 0xDFFF

/-- The bytes put in front of what a reader gives. -/
def prepend (front : Bytes) : Except Failure (Bytes × Bytes) → Except Failure (Bytes × Bytes)
  | .ok (bs, rest) => .ok (front ++ bs, rest)
  | .error f => .error f

/-- The decoded bytes of a string whose opening quote has been taken, up to its closing quote. -/
def readString : Bytes → Except Failure (Bytes × Bytes)
  | [] => failAt .eofString []
  | b :: rest =>
    if b == 0x22 then .ok ([], rest)
    else if b == 0x5C then
      match rest with
      | [] => failAt .eofString []
      | e :: rest =>
        match simpleEscape? e with
        | some b => prepend [b] (readString rest)
        | none =>
          if e != 0x75 then failAt .invalidEscape rest
          else
            match rest with
            | h₁ :: h₂ :: h₃ :: h₄ :: rest =>
              match hex4? h₁ h₂ h₃ h₄ with
              | none => failAt .invalidEscape rest
              | some n =>
                if isLow n then failAt .loneSurrogate rest
                else if !isHigh n then prepend (encodeScalar n) (readString rest)
                else
                  match rest with
                  | [] => failAt .eofString []
                  | s :: rest =>
                    if s != 0x5C then failAt .endOfHexEscape rest
                    else
                      match rest with
                      | [] => failAt .eofString []
                      | u :: rest =>
                        if u != 0x75 then failAt .endOfHexEscape rest
                        else
                          match rest with
                          | l₁ :: l₂ :: l₃ :: l₄ :: rest =>
                            match hex4? l₁ l₂ l₃ l₄ with
                            | none => failAt .invalidEscape rest
                            | some low =>
                              if !isLow low then failAt .loneSurrogate rest
                              else
                                prepend
                                  (encodeScalar
                                    (0x10000 + (n - 0xD800) * 0x400 + (low - 0xDC00)))
                                  (readString rest)
                          | _ => failAt .eofString []
            | _ => failAt .eofString []
    else if b < 0x20 then failAt .controlCharacter rest
    else prepend [b] (readString rest)

/-- A byte that stands for itself in strings. -/
def IsPlain (b : UInt8) : Prop := b ≠ 0x22 ∧ b ≠ 0x5C ∧ ¬ b < 0x20

theorem readString_quote {rest : Bytes} : readString (0x22 :: rest) = .ok ([], rest) := by
  rw [readString.eq_def]
  simp

theorem readString_plain {b : UInt8} {rest : Bytes} (h : IsPlain b) :
    readString (b :: rest) = prepend [b] (readString rest) := by
  obtain ⟨hquote, hbackslash, hcontrol⟩ := h
  rw [readString.eq_def]
  simp [hquote, hbackslash, hcontrol]

/-- The bytes after a string whose opening quote has been taken. Escapes are only checked for their
form. -/
def skipString : Bytes → Except Failure Bytes
  | [] => failAt .eofString []
  | b :: rest =>
    if b == 0x22 then .ok rest
    else if b == 0x5C then
      match rest with
      | [] => failAt .eofString []
      | e :: rest =>
        if (simpleEscape? e).isSome then skipString rest
        else if e != 0x75 then failAt .invalidEscape rest
        else
          match rest with
          | h₁ :: h₂ :: h₃ :: h₄ :: rest =>
            if (hex4? h₁ h₂ h₃ h₄).isSome then skipString rest else failAt .invalidEscape rest
          | _ => failAt .eofString []
    else if b < 0x20 then failAt .controlCharacter (b :: rest)
    else skipString rest

theorem skipString_quote {rest : Bytes} : skipString (0x22 :: rest) = .ok rest := by
  rw [skipString.eq_def]
  simp

theorem skipString_plain {b : UInt8} {rest : Bytes} (h : IsPlain b) :
    skipString (b :: rest) = skipString rest := by
  obtain ⟨hquote, hbackslash, hcontrol⟩ := h
  rw [skipString.eq_def]
  simp [hquote, hbackslash, hcontrol]

/-! ## Literals and numbers -/

/-- The bytes after the rest of a literal such as `null`. -/
def readIdent : Bytes → Bytes → Except Failure Bytes
  | [], rest => .ok rest
  | _ :: _, [] => failAt .eofValue []
  | want :: more, b :: rest =>
    if b = want then readIdent more rest else failAt .expectedIdent rest

/-- The bytes after an exponent whose letter has been taken. -/
def skipExponent (bs : Bytes) : Except Failure Bytes :=
  let bs := match bs with
    | b :: rest => if b == 0x2B || b == 0x2D then rest else bs
    | [] => bs
  match bs with
  | [] => failAt .invalidNumber []
  | b :: rest => if isDigit b then .ok (rest.dropWhile isDigit) else failAt .invalidNumber rest

/-- The bytes after what may follow the whole digits of a number. -/
def skipFraction (bs : Bytes) : Except Failure Bytes :=
  match bs with
  | [] => .ok []
  | b :: rest =>
    if b == 0x2E then
      let after := rest.dropWhile isDigit
      if after.length = rest.length then failNext .invalidNumber after
      else
        match after with
        | e :: more => if e == 0x65 || e == 0x45 then skipExponent more else .ok after
        | [] => .ok []
    else if b == 0x65 || b == 0x45 then skipExponent rest
    else .ok bs

/-- The bytes after a number whose sign has been taken. -/
def skipNumber (bs : Bytes) : Except Failure Bytes :=
  match bs with
  | [] => failAt .invalidNumber []
  | b :: rest =>
    if b == 0x30 then
      match rest with
      | d :: _ => if isDigit d then failNext .invalidNumber rest else skipFraction rest
      | [] => .ok []
    else if isDigit b then skipFraction (rest.dropWhile isDigit)
    else failAt .invalidNumber rest

/-- A number as a reader sees it. -/
inductive Num where
  | integer (n : Int)
  | float (negative : Bool) (x : Binary64)
deriving DecidableEq, Repr

/-- The largest significand that is kept exactly. -/
def maxSignificand : Nat := UInt64.size - 1

/-- The largest exponent that is read digit by digit. -/
def maxExponent : Nat := 0x7FFFFFFF

/-- The least integer, without its sign. -/
def minInteger : Nat := UInt64.size / 2

/-- A power of ten from the table of such numbers. -/
def powerOfTen (n : Nat) : Binary64 := Binary64.ofNat (Nat.pow 10 n)

/-- `f · 10^exponent`, where a large negative exponent is divided off in steps of `10^308`; `none`
if the result is too large. -/
def scaleBy : Nat → Binary64 → Int → Option Binary64
  | 0, f, _ => some f
  | fuel + 1, f, exponent =>
    if exponent.natAbs ≤ 308 then
      if 0 ≤ exponent then
        match f.mul (powerOfTen exponent.natAbs) with
        | .infinite => none
        | x => some x
      else some (f.div (powerOfTen exponent.natAbs))
    else if f.isZero then some f
    else if 0 ≤ exponent then none
    else scaleBy fuel (f.div (powerOfTen 308)) (exponent + 308)

/-- The floating-point number with the given significand and power of ten. -/
def ofParts (negative : Bool) (significand : Nat) (exponent : Int) (rest : Bytes) :
    Except Failure (Num × Bytes) :=
  -- three divisions by 10^308 bring every 64-bit significand to zero
  match scaleBy 5 (Binary64.ofNat significand) exponent with
  | some x => .ok (.float negative x, rest)
  | none => failAt .numberOutOfRange rest

/-- Digits added to a significand as long as it fits; the significand, how many digits were added
and the bytes at the first digit that did not fit or is none. -/
def takeDigits (limit : Nat) : Nat → Nat → Bytes → Nat × Nat × Bytes
  | n, count, [] => (n, count, [])
  | n, count, b :: rest =>
    if isDigit b && n * 10 + (b.toNat - 0x30) ≤ limit then
      takeDigits limit (n * 10 + (b.toNat - 0x30)) (count + 1) rest
    else (n, count, b :: rest)

/-- The rest of a number at its exponent, whose letter has been taken. -/
def readExponent (negative : Bool) (significand : Nat) (start : Int) (bs : Bytes) :
    Except Failure (Num × Bytes) :=
  let (minus, bs) := match bs with
    | b :: rest =>
      if b == 0x2B then (false, rest) else if b == 0x2D then (true, rest) else (false, bs)
    | [] => (false, bs)
  match bs with
  | [] => failAt .eofValue []
  | b :: rest =>
    if !isDigit b then failAt .invalidNumber rest
    else
      let (e, _, rest) := takeDigits maxExponent (b.toNat - 0x30) 1 rest
      match rest with
      | d :: more =>
        if isDigit d then
          if significand != 0 && !minus then failAt .numberOutOfRange more
          else .ok (.float negative (.finite 0 Binary64.minExponent), more.dropWhile isDigit)
        else ofParts negative significand (if minus then start - e else start + e) rest
      | [] => ofParts negative significand (if minus then start - e else start + e) rest

/-- The rest of a floating-point number after its digits. -/
def readTail (negative : Bool) (significand : Nat) (exponent : Int) (bs : Bytes) :
    Except Failure (Num × Bytes) :=
  match bs with
  | b :: rest =>
    if b == 0x65 || b == 0x45 then readExponent negative significand exponent rest
    else ofParts negative significand exponent bs
  | [] => ofParts negative significand exponent bs

/-- The rest of a number after its point. -/
def readDecimal (negative : Bool) (significand : Nat) (exponent : Int) (bs : Bytes) :
    Except Failure (Num × Bytes) :=
  let (n, count, rest) := takeDigits maxSignificand significand 0 bs
  match rest with
  | d :: _ =>
    if isDigit d then readTail negative n (exponent - count) (rest.dropWhile isDigit)
    else if count = 0 then failNext .invalidNumber rest
    else readTail negative n (exponent - count) rest
  | [] =>
    if count = 0 then failNext .eofValue rest
    else readTail negative n (exponent - count) rest

/-- The rest of a number after whole digits that fit. -/
def readAfterDigits (negative : Bool) (significand : Nat) (bs : Bytes) :
    Except Failure (Num × Bytes) :=
  let whole : Except Failure (Num × Bytes) :=
    if !negative then .ok (.integer significand, bs)
    else if significand = 0 || minInteger < significand then
      .ok (.float true (Binary64.ofNat significand), bs)
    else .ok (.integer (-(significand : Int)), bs)
  match bs with
  | b :: rest =>
    if b == 0x2E then readDecimal negative significand 0 rest
    else if b == 0x65 || b == 0x45 then readExponent negative significand 0 rest
    else whole
  | [] => whole

/-- The rest of a number after whole digits of which only the first fit. -/
def readLong (negative : Bool) (significand : Nat) (bs : Bytes) : Except Failure (Num × Bytes) :=
  let rest := bs.dropWhile isDigit
  let exponent : Int := (bs.length - rest.length : Nat)
  match rest with
  | b :: more =>
    if b == 0x2E then readDecimal negative significand exponent more
    else readTail negative significand exponent rest
  | [] => readTail negative significand exponent rest

/-- A number whose sign has been taken. -/
def readNumber (negative : Bool) (bs : Bytes) : Except Failure (Num × Bytes) :=
  match bs with
  | [] => failAt .eofValue []
  | b :: rest =>
    if b == 0x30 then
      match rest with
      | d :: _ =>
        if isDigit d then failNext .invalidNumber rest else readAfterDigits negative 0 rest
      | [] => readAfterDigits negative 0 rest
    else if isDigit b then
      let (n, _, rest) := takeDigits maxSignificand (b.toNat - 0x30) 1 rest
      match rest with
      | d :: _ => if isDigit d then readLong negative n rest else readAfterDigits negative n rest
      | [] => readAfterDigits negative n rest
    else failAt .invalidNumber rest

/-! ## Values -/

/-- The letters after the first of `null`, `true` and `false`. -/
def literalTail? (b : UInt8) : Option Bytes :=
  if b == 0x6E then some [0x75, 0x6C, 0x6C]
  else if b == 0x74 then some [0x72, 0x75, 0x65]
  else if b == 0x66 then some [0x61, 0x6C, 0x73, 0x65]
  else none

/-- An open bracket of a value that is passed over. -/
inductive Frame where
  | list
  | object
deriving DecidableEq, Repr

/-- The fault of a text that ends inside a bracket. -/
def Frame.eof : Frame → Fault
  | .list => .eofList
  | .object => .eofObject

/-- The fault of a text that goes on neither with a comma nor with the closing bracket. -/
def Frame.expected : Frame → Fault
  | .list => .expectedCommaOrBracket
  | .object => .expectedCommaOrBrace

/-- The closing byte of a bracket. -/
def Frame.close : Frame → UInt8
  | .list => 0x5D
  | .object => 0x7D

/-- The bytes after a scalar, or `none` at an opening bracket. -/
def skipScalar (b : UInt8) (rest : Bytes) : Except Failure Bytes :=
  match literalTail? b with
  | some tail => readIdent tail rest
  | none =>
    if b == 0x2D then skipNumber rest
    else if isDigit b then skipNumber (b :: rest)
    else if b == 0x22 then skipString rest
    else failNext .expectedValue (b :: rest)

/-- The bytes after a key and its colon. -/
def skipKey (bs : Bytes) : Except Failure Bytes := do
  match skipBlank bs with
  | [] => failNext .eofObject []
  | b :: rest =>
    if b != 0x22 then failNext .keyNotString (b :: rest)
    else
      let rest ← skipString rest
      match skipBlank rest with
      | [] => failNext .eofObject []
      | c :: rest => if c == 0x3A then .ok rest else failNext .expectedColon (c :: rest)

/-- The bytes before the next element of the innermost open bracket, and the brackets that are then
open; `none` for the brackets when the whole value has ended. `comma` says that an element has just
been read. -/
def closeFrames : Bool → List Frame → Bytes → Except Failure (Option (List Frame) × Bytes)
  | _, [], rest => .ok (none, rest)
  | comma, frame :: outer, rest =>
    match skipBlank rest with
    | [] => failNext frame.eof []
    | b :: after =>
      if b == 0x2C && comma then .ok (some (frame :: outer), after)
      else if b == frame.close then closeFrames true outer after
      else if comma then failNext frame.expected (b :: after)
      else .ok (some (frame :: outer), b :: after)

/-- The bytes after the value at the front, given the open brackets around it. -/
def skipNested : Nat → List Frame → Bytes → Except Failure Bytes
  | 0, _, rest => failNext .eofValue rest
  | fuel + 1, frames, bs =>
    match skipBlank bs with
    | [] => failNext .eofValue []
    | b :: rest => do
      let (frames, rest) ←
        if b == 0x5B then closeFrames false (.list :: frames) rest
        else if b == 0x7B then closeFrames false (.object :: frames) rest
        else do closeFrames true frames (← skipScalar b rest)
      match frames with
      | none => .ok rest
      | some [] => .ok rest
      | some (.list :: outer) => skipNested fuel (.list :: outer) rest
      | some (.object :: outer) => do skipNested fuel (.object :: outer) (← skipKey rest)

/-- The bytes after the value at the front. Every element takes at least one byte. -/
def skipValue (bs : Bytes) : Except Failure Bytes := skipNested (bs.length + 1) [] bs

/-- How a number is named in a type error. -/
def Num.describe : Num → String
  | .integer n => "integer `" ++ toString n ++ "`"
  | .float negative x => "floating point `" ++ Decimal.text negative x ++ "`"

/-- What stands at the front, as a type error names it, and the bytes after it. Of a list or an
object nothing is taken. -/
def describe (bs : Bytes) : Except Failure (String × Bytes) :=
  match bs with
  | [] => failNext .expectedValue []
  | b :: rest =>
    if b == 0x6E then do return ("null", ← readIdent [0x75, 0x6C, 0x6C] rest)
    else if b == 0x74 then do return ("boolean `true`", ← readIdent [0x72, 0x75, 0x65] rest)
    else if b == 0x66 then do
      return ("boolean `false`", ← readIdent [0x61, 0x6C, 0x73, 0x65] rest)
    else if b == 0x2D then do
      let (n, rest) ← readNumber true rest
      return (n.describe, rest)
    else if isDigit b then do
      let (n, rest) ← readNumber false bs
      return (n.describe, rest)
    else if b == 0x22 then do
      let (s, rest) ← readString rest
      return ("string " ++ Quoted.bytes s, rest)
    else if b == 0x5B then .ok ("sequence", bs)
    else if b == 0x7B then .ok ("map", bs)
    else failNext .expectedValue bs

/-- The failure of finding what stands at the front where `expected` was wanted. -/
def typeError (expected : String) (bs : Bytes) : Except Failure α := do
  let (found, rest) ← describe bs
  failAt (.invalidType found expected) rest

/-- A string value. -/
def readText (bs : Bytes) : Except Failure (String × Bytes) :=
  match skipBlank bs with
  | [] => failNext .eofValue []
  | b :: rest =>
    if b == 0x22 then do
      let (s, rest) ← readString rest
      return (Utf8.lossy s, rest)
    else typeError "a string" (b :: rest)

/-- A string value or `null`. -/
def readTextOrNull (bs : Bytes) : Except Failure (Option String × Bytes) :=
  match skipBlank bs with
  | [] => failNext .eofValue []
  | b :: rest =>
    if b == 0x6E then do return (none, ← readIdent [0x75, 0x6C, 0x6C] rest)
    else do
      let (s, rest) ← readText (b :: rest)
      return (some s, rest)

end Provision.Json
