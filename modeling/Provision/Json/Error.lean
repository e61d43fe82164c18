import Provision.Bytes

/-!
# JSON diagnostics

What can be wrong with a JSON text, and where. A position is counted from one in lines and in
bytes within a line, so that the byte after a line feed has column one.

* `Json.Fault.message` is the wording, `Json.Error.message` adds the position.
-/

namespace Provision.Json

/-- What is wrong with a JSON text. -/
inductive Fault where
  | eofValue
  | eofObject
  | eofList
  | eofString
  | expectedValue
  | expectedIdent
  | expectedColon
  | expectedCommaOrBrace
  | expectedCommaOrBracket
  | keyNotString
  | trailingComma
  | trailingCharacters
  | invalidNumber
  | numberOutOfRange
  | invalidEscape
  | loneSurrogate
  | endOfHexEscape
  | controlCharacter
  /-- A value of another type than the one expected. -/
  | invalidType (found expected : String)
  /-- A list with too few elements. -/
  | invalidLength (count : Nat) (expected : String)
  | missingField (name : String)
  | duplicateField (name : String)
deriving DecidableEq, Repr

/-- The wording of a fault. -/
def Fault.message : Fault → String
  | .eofValue => "EOF while parsing a value"
  | .eofObject => "EOF while parsing an object"
  | .eofList => "EOF while parsing a list"
  | .eofString => "EOF while parsing a string"
  | .expectedValue => "expected value"
  | .expectedIdent => "expected ident"
  | .expectedColon => "expected `:`"
  | .expectedCommaOrBrace => "expected `,` or `\x7d`"
  | .expectedCommaOrBracket => "expected `,` or `]`"
  | .keyNotString => "key must be a string"
  | .trailingComma => "trailing comma"
  | .trailingCharacters => "trailing characters"
  | .invalidNumber => "invalid number"
  | .numberOutOfRange => "number out of range"
  | .invalidEscape => "invalid escape"
  | .loneSurrogate => "lone leading surrogate in hex escape"
  | .endOfHexEscape => "unexpected end of hex escape"
  | .controlCharacter => "control character (\\u0000-\\u001F) found while parsing a string"
  | .invalidType found expected => "invalid type: " ++ found ++ ", expected " ++ expected
  | .invalidLength count expected =>
    "invalid length " ++ toString count ++ ", expected " ++ expected
  | .missingField name => "missing field `" ++ name ++ "`"
  | .duplicateField name => "duplicate field `" ++ name ++ "`"

/-- A fault and the number of bytes that were still unread when it was found. -/
structure Failure where
  fault : Fault
  left : Nat
deriving DecidableEq, Repr

/-- A fault at a position. -/
structure Error where
  fault : Fault
  line : Nat
  column : Nat
deriving DecidableEq, Repr

/-- The failure of reading `text`, with its position. -/
def Failure.locate (f : Failure) (text : Bytes) : Error :=
  let read := text.take (text.length - f.left)
  { fault := f.fault
    line := 1 + read.count 0x0A
    column := (read.reverse.takeWhile (· ≠ 0x0A)).length }

/-- The wording of a fault and its position. -/
def Error.message (e : Error) : String :=
  e.fault.message ++ " at line " ++ toString e.line ++ " column " ++ toString e.column

end Provision.Json
