import Provision.Path

/-!
# Names in zip archives

Names are UTF-8 or code page 437, and they are read as Windows paths whatever made the archive: both
slashes separate, and a drive or a root in front says nothing about where an entry goes. In a name
that starts with two backslashes, a question mark and a backslash only backslashes separate.

* `Zip.Name.ofCodePage` reads code page 437.
* `Zip.Name.relative?` is the path of an entry below the directory it is unpacked to.
-/

namespace Provision.Archive.Zip.Name

/-- The upper half of code page 437. -/
def upperHalf : Array Char :=
  ("ÇüéâäàåçêëèïîìÄÅÉæÆôöòûùÿÖÜ¢£¥₧ƒáíóúñÑªº¿⌐¬½¼¡«»░▒▓│┤╡╢╖╕╣║╗╝╜╛┐" ++
    "└┴┬├─┼╞╟╚╔╩╦╠═╬╧╨╤╥╙╘╒╓╫╪┘┌█▄▌▐▀αßΓπΣσµτΦΘΩδ∞φε∩≡±≥≤⌠⌡÷≈°∙·√ⁿ²■\u00a0").toList.toArray

/-- The character of a byte in code page 437. -/
def codePageChar (b : UInt8) : Char :=
  if b < 0x80 then Char.ofNat b.toNat else upperHalf.getD (b.toNat - 0x80) '?'

/-- A name in code page 437 as UTF-8. -/
def ofCodePage (bs : Bytes) : Bytes := Bytes.ofText (String.ofList (bs.map codePageChar))

/-- A name in UTF-8, with U+FFFD for what is none. -/
def ofUtf8 (bs : Bytes) : Bytes := Bytes.ofText (Utf8.lossy bs)

/-- The other slash. -/
def backslash : UInt8 := 0x5C

/-- Does the byte separate parts, in a name that is taken as it stands or in any other? -/
def separates (isLiteral : Bool) (b : UInt8) : Bool :=
  b == backslash || (!isLiteral && b == Path.slash)

/-- Is the byte one of the two slashes? -/
def isSeparator (b : UInt8) : Bool := separates false b

/-- Is a name taken as it stands? -/
def isLiteral (name : Bytes) : Bool := [0x5C, 0x5C, 0x3F, 0x5C].isPrefixOf name

/-- Does a name stand for a directory? -/
def isDirectory (name : Bytes) : Bool :=
  match name.getLast? with
  | some b => isSeparator b
  | none => false

/-- Is the byte a letter? -/
def isLetter (b : UInt8) : Bool := (0x41 ≤ b && b ≤ 0x5A) || (0x61 ≤ b && b ≤ 0x7A)

/-- What follows the drive, as in `C:`, at the start of a name. -/
def afterDrive? : Bytes → Option Bytes
  | letter :: 0x3A :: rest => if isLetter letter then some rest else none
  | _ => none

/-- What follows the next part. -/
def afterPart (isLiteral : Bool) (bs : Bytes) : Bytes := bs.dropWhile (!separates isLiteral ·)

/-- What follows a server and its share, as in `server/share`, if there is a server. -/
def afterShare? (isLiteral : Bool) (bs : Bytes) : Option Bytes :=
  let rest := afterPart isLiteral bs
  if rest.length < bs.length then some (afterPart isLiteral (rest.drop 1)) else none

/-- What follows the server and its share behind `UNC`. -/
def afterNamedShare? (isLiteral : Bool) : Bytes → Option Bytes
  | 0x55 :: 0x4E :: 0x43 :: b :: rest =>
    if separates isLiteral b then afterShare? isLiteral rest else none
  | _ => none

/-- What follows two slashes, a question mark or a dot, and another slash. -/
def afterSystemMark? (mark : UInt8) : Bytes → Option Bytes
  | a :: b :: m :: c :: rest =>
    if isSeparator a && isSeparator b && m == mark && isSeparator c then some rest else none
  | _ => none

/-- What follows two slashes. -/
def afterTwoSlashes? : Bytes → Option Bytes
  | a :: b :: rest => if isSeparator a && isSeparator b then some rest else none
  | _ => none

/-- What follows the drive or share at the start of a name, or the device or volume that only the
system understands. -/
def afterVolume (name : Bytes) : Bytes :=
  let literal := isLiteral name
  match afterSystemMark? 0x3F name with
  | some rest =>
    ((afterNamedShare? literal rest).orElse fun _ => afterDrive? rest).getD (afterPart literal rest)
  | none =>
    match afterSystemMark? 0x2E name with
    | some rest => afterPart false rest
    | none =>
      (((afterTwoSlashes? name).bind (afterShare? false)).orElse fun _ => afterDrive? name).getD
        name

/-- The parts between separators. -/
def parts (isLiteral : Bool) : Bytes → List Bytes
  | [] => [[]]
  | b :: rest =>
    if separates isLiteral b then [] :: parts isLiteral rest
    else
      match parts isLiteral rest with
      | [] => [[b]]
      | part :: more => (b :: part) :: more

/-- The path that the parts of a name lead to. It goes down `depth` parts so far; `..` goes up one,
and there must be one. -/
def resolve? : Nat → Path → List Bytes → Option Path
  | _, path, [] => some path
  | depth, path, part :: more =>
    if Path.isTrivial part then resolve? depth path more
    else if part = Path.dotDot then
      match depth with
      | 0 => none
      | depth + 1 => resolve? depth (path.parent?.getD path) more
    else resolve? (depth + 1) (path.child part) more

/-- The path of an entry below the directory it is unpacked to. -/
def relative? (name : Bytes) : Option Path :=
  if name.contains 0 then none
  else resolve? 0 ⟨[]⟩ (parts (isLiteral name) (afterVolume name))

end Provision.Archive.Zip.Name
