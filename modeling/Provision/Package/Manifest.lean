import Provision.Json.Reader
import Provision.Text.Blank

/-!
# Package manifests

A manifest is a JSON object with a text `version` and an optional text `name`; every other member
is passed over. A list of the two values in the order name, version is read as well.

* `Manifest.parse` reads a manifest from the bytes of a JSON text.
* `Manifest.releaseVersion` is the version as release tags spell it.
-/

namespace Provision

/-- The members of a package manifest that matter here. -/
structure Manifest where
  name : Option String
  version : String
deriving DecidableEq, Repr

namespace Manifest

open Json

/-- The file name of a manifest. -/
def fileName : String := "package.json"

/-- What a manifest is called in a type error. -/
def typeName : String := "struct PackageManifest"

/-- The key `name`. -/
def nameKey : Bytes := [0x6E, 0x61, 0x6D, 0x65]

/-- The key `version`. -/
def versionKey : Bytes := [0x76, 0x65, 0x72, 0x73, 0x69, 0x6F, 0x6E]

/-- The members found so far; a `name` that is `null` counts as found. -/
structure Members where
  name : Option (Option String) := none
  version : Option String := none
deriving DecidableEq, Repr

/-- The bytes after the quote that opens the next key, or `none` at the end of the object. -/
def nextKey (first : Bool) (bs : Bytes) : Except Failure (Option Bytes) :=
  match skipBlank bs with
  | [] => failNext .eofObject []
  | b :: rest =>
    if b == 0x7D then .ok none
    else if b == 0x2C && !first then
      match skipBlank rest with
      | [] => failNext .eofValue []
      | c :: more =>
        if c == 0x22 then .ok (some more)
        else if c == 0x7D then failNext .trailingComma (c :: more)
        else failNext .keyNotString (c :: more)
    else if !first then failNext .expectedCommaOrBrace (b :: rest)
    else if b == 0x22 then .ok (some rest)
    else failNext .keyNotString (b :: rest)

/-- The bytes after the colon that follows a key. -/
def readColon (bs : Bytes) : Except Failure Bytes :=
  match skipBlank bs with
  | [] => failNext .eofObject []
  | b :: rest => if b == 0x3A then .ok rest else failNext .expectedColon (b :: rest)

/-- The bytes after white space and, if it comes next, the closing byte. -/
def passClose (close : UInt8) (bs : Bytes) : Bytes :=
  match skipBlank bs with
  | b :: rest => if b = close then rest else b :: rest
  | [] => []

/-- The members of an object whose opening brace, and the members already in `found`, have been
read; then the bytes at its closing brace. -/
def readMembers : Nat → Bool → Members → Bytes → Except Failure (Members × Bytes)
  | 0, _, _, bs => failNext .eofObject bs
  | fuel + 1, first, found, bs => do
    match ← nextKey first bs with
    | none => .ok (found, bs)
    | some rest =>
      let (key, rest) ← readString rest
      if key = nameKey then
        if found.name.isSome then failAt (.duplicateField "name") (passClose 0x7D rest)
        else
          let (name, rest) ← readTextOrNull (← readColon rest)
          readMembers fuel false { found with name := some name } rest
      else if key = versionKey then
        if found.version.isSome then failAt (.duplicateField "version") (passClose 0x7D rest)
        else
          let (version, rest) ← readText (← readColon rest)
          readMembers fuel false { found with version := some version } rest
      else
        let rest ← skipValue (← readColon rest)
        readMembers fuel false found rest

/-- A manifest written as an object whose opening brace has been read. -/
def readObject (bs : Bytes) : Except Failure (Manifest × Bytes) := do
  let (found, rest) ← readMembers (bs.length + 1) true {} bs
  let rest := passClose 0x7D rest
  match found.version with
  | some version => .ok (⟨found.name.join, version⟩, rest)
  | none => failAt (.missingField "version") rest

/-- The bytes before the next element of a list, or `none` at its end. -/
def nextElement (first : Bool) (bs : Bytes) : Except Failure (Option Bytes) :=
  match skipBlank bs with
  | [] => failNext .eofList []
  | b :: rest =>
    if b == 0x5D then .ok none
    else if first then .ok (some (b :: rest))
    else if b == 0x2C then
      match skipBlank rest with
      | [] => failNext .eofValue []
      | c :: more =>
        if c == 0x5D then failNext .trailingComma (c :: more) else .ok (some (c :: more))
    else failNext .expectedCommaOrBracket (b :: rest)

/-- The bytes after the end of a list. -/
def endList (bs : Bytes) : Except Failure Bytes :=
  match skipBlank bs with
  | [] => failNext .eofList []
  | b :: rest =>
    if b == 0x5D then .ok rest
    else if b == 0x2C then
      match skipBlank rest with
      | c :: more =>
        failNext (if c == 0x5D then .trailingComma else .trailingCharacters) (c :: more)
      | [] => failNext .trailingCharacters []
    else failNext .trailingCharacters (b :: rest)

/-- A manifest written as a list whose opening bracket has been read. -/
def readList (bs : Bytes) : Except Failure (Manifest × Bytes) := do
  let short (count : Nat) (rest : Bytes) : Except Failure (Manifest × Bytes) :=
    failAt (.invalidLength count (typeName ++ " with 2 elements")) (passClose 0x5D rest)
  match ← nextElement true bs with
  | none => short 0 bs
  | some rest =>
    let (name, rest) ← readTextOrNull rest
    match ← nextElement false rest with
    | none => short 1 rest
    | some rest =>
      let (version, rest) ← readText rest
      return (⟨name, version⟩, ← endList rest)

/-- A manifest and the bytes after it. -/
def read (bs : Bytes) : Except Failure (Manifest × Bytes) :=
  match skipBlank bs with
  | [] => failNext .eofValue []
  | b :: rest =>
    if b == 0x5B then readList rest
    else if b == 0x7B then readObject rest
    else typeError typeName (b :: rest)

/-- Reads a whole JSON text as a manifest. -/
def parse (text : Bytes) : Except Json.Error Manifest :=
  let result : Except Failure Manifest := do
    let (m, rest) ← read text
    match skipBlank rest with
    | [] => return m
    | rest => failNext .trailingCharacters rest
  result.mapError (·.locate text)

/-- Is the version more than white space? -/
def hasVersion (m : Manifest) : Bool := !(Text.trim m.version).isEmpty

/-- The version without white space around it and without a leading `v`. -/
def releaseVersion (m : Manifest) : String :=
  match Text.trimChars m.version.toList with
  | 'v' :: rest => String.ofList rest
  | cs => String.ofList cs

end Manifest

end Provision
