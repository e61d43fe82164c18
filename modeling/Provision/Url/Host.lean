import Provision.Url.Label
import Provision.Url.Percent

/-!
# Hosts

The host of an address: a registered name, or a number in one of two notations.

* `Host.parse?` reads the host of a web address: percent triples are decoded and its labels brought
  into their ASCII form; a name whose last label is a number is read as an IPv4 address in any of
  its short forms.
* `Host.parseRaw?` reads the host of another scheme, which is kept as it is.
* `Host.text` writes a host; of the longest run of zero groups in an IPv6 address only `::` is left.
-/

namespace Provision

/-- The host of an address. -/
inductive Host where
  | domain (name : List Char)
  | ipv4 (address : Nat)
  | ipv6 (groups : List Nat)
deriving DecidableEq, Repr

namespace Host

/-! ## Splitting -/

/-- The parts between the occurrences of a character. -/
def splitChars (sep : Char) : List Char → List (List Char)
  | [] => [[]]
  | c :: rest =>
    if c = sep then [] :: splitChars sep rest
    else
      match splitChars sep rest with
      | [] => [[c]]
      | part :: parts => (c :: part) :: parts

/-! ## IPv4 -/

/-- The value of digits in a base. -/
def digits? (base : Nat) (cs : List Char) : Option Nat :=
  cs.foldlM (fun n c => do
    let d ← Percent.digitValue? c
    if d < base then some (base * n + d) else none) 0

/-- A number in decimal, or in octal after `0`, or in hexadecimal after `0x`. -/
def number? (cs : List Char) : Option Nat :=
  match cs with
  | [] => none
  | '0' :: 'x' :: rest => digits? 16 rest
  | '0' :: 'X' :: rest => digits? 16 rest
  | ['0'] => some 0
  | '0' :: rest => digits? 8 rest
  | cs => digits? 10 cs

/-- The labels without an empty one at the end. -/
def labels (cs : List Char) : List (List Char) :=
  let parts := splitChars '.' cs
  if parts.getLast? = some [] && 1 < parts.length then parts.dropLast else parts

/-- Is the last label a number? -/
def endsInNumber (cs : List Char) : Bool :=
  match (labels cs).getLast? with
  | none => false
  | some last =>
    (!last.isEmpty && last.all Char.isDigit) || (number? last).isSome

/-- An address of one to four numbers; the last one fills the bytes that are left. -/
def ipv4? (cs : List Char) : Option Nat := do
  let numbers ← (labels cs).mapM number?
  if 4 < numbers.length then none
  else
    let last ← numbers.getLast?
    let front := numbers.dropLast
    if front.any (255 < ·) || Nat.pow 256 (4 - front.length) ≤ last then none
    else
      let weights := (List.range front.length).map fun i => Nat.pow 256 (3 - i)
      some ((List.zipWith (· * ·) front weights).foldl (· + ·) last)

/-! ## IPv6 -/

/-- The four-number tail of an IPv6 address as two groups. -/
def ipv4Groups? (cs : List Char) : Option (List Nat) := do
  let parts := splitChars '.' cs
  let numbers ← parts.mapM fun p =>
    match p with
    | [] => none
    | ['0'] => some 0
    | '0' :: _ => none
    | p => if p.all Char.isDigit then digits? 10 p else none
  match numbers with
  | [a, b, c, d] =>
    if numbers.all (· ≤ 255) then some [256 * a + b, 256 * c + d] else none
  | _ => none

/-- A group of one to four hexadecimal digits. -/
def group? (cs : List Char) : Option Nat :=
  if cs.isEmpty || 4 < cs.length then none else digits? 16 cs

/-- Groups separated by colons; the last may be an IPv4 tail. -/
def groups? (cs : List Char) : Option (List Nat) :=
  if cs.isEmpty then some []
  else
    let parts := splitChars ':' cs
    match parts.getLast? with
    | none => none
    | some last => do
      let front ← parts.dropLast.mapM group?
      let back ← if last.contains '.' then ipv4Groups? last else (group? last).map ([·])
      some (front ++ back)

/-- Cuts at the first `::`. -/
def cutDouble : List Char → List Char × Option (List Char)
  | ':' :: ':' :: rest => ([], some rest)
  | c :: rest =>
    let (before, after) := cutDouble rest
    (c :: before, after)
  | [] => ([], none)

/-- An IPv6 address without its brackets. -/
def ipv6? (cs : List Char) : Option (List Nat) := do
  match cutDouble cs with
  | (front, none) =>
    let groups ← groups? front
    if front.isEmpty || groups.length ≠ 8 then none else some groups
  | (front, some back) =>
    let a ← groups? front
    let b ← groups? back
    if front.contains '.' || 7 < a.length + b.length then none
    else some (a ++ List.replicate (8 - a.length - b.length) 0 ++ b)

/-- The start and length of the first longest run of at least two zero groups, starting at `i`. -/
def zeroRun (groups : List Nat) : Option (Nat × Nat) :=
  let runs := (List.range groups.length).map fun i =>
    (i, ((groups.drop i).takeWhile (· == 0)).length)
  let best := runs.foldl (fun b r => if b.2 < r.2 then r else b) (0, 0)
  if 1 < best.2 then some best else none

/-- Groups in hexadecimal with colons between them. -/
def groupText (groups : List Nat) : String :=
  ":".intercalate (groups.map fun g => String.ofList (Nat.toDigits 16 g))

/-- The text of an IPv6 address with its brackets. -/
def ipv6Text (groups : List Nat) : String :=
  match zeroRun groups with
  | none => "[" ++ groupText groups ++ "]"
  | some (start, len) =>
    "[" ++ groupText (groups.take start) ++ "::" ++ groupText (groups.drop (start + len)) ++ "]"

/-! ## Reading and writing -/

/-- Characters that no registered name may hold. -/
def isForbidden (c : Char) : Bool :=
  c.toNat ≤ 0x20 || 0x7E < c.toNat
    || ['%', '#', '/', ':', '<', '>', '?', '@', '[', '\\', ']', '^', '|'].contains c

/-- The ASCII form of a registered name, which is folded and composed first. -/
def registered? (cs : List Char) : Option (List Char) := do
  let folded ← cs.mapM Folding.image?
  let labels := splitChars '.' (Text.composed folded.flatten)
  let contents ← labels.mapM Label.content?
  if contents.all Label.isSound && Label.areSettled contents then
    return ['.'].intercalate (labels.map Label.ascii)
  else none

/-- The host of a web address. -/
def parse? (cs : List Char) : Option Host :=
  match cs with
  | '[' :: rest =>
    if rest.getLast? = some ']' then (ipv6? rest.dropLast).map .ipv6 else none
  | cs => do
    let name ← registered? (← Utf8.decode? (Percent.decode cs)).toList
    if name.isEmpty || name.any isForbidden then none
    else if endsInNumber name then (ipv4? name).map .ipv4
    else some (.domain name)

/-- Characters that no host may hold. -/
def isForbiddenRaw (c : Char) : Bool :=
  ['\x00', '\t', '\n', '\r', ' ', '#', '/', ':', '<', '>', '?', '@', '[', '\\', ']', '^',
    '|'].contains c

/-- The host of an address that is no web address. -/
def parseRaw? (cs : List Char) : Option Host :=
  match cs with
  | '[' :: rest =>
    if rest.getLast? = some ']' then (ipv6? rest.dropLast).map .ipv6 else none
  | cs =>
    if cs.any isForbiddenRaw then none else some (.domain (Percent.encode Percent.controls cs))

/-- The text of a host. -/
def text : Host → String
  | .domain name => String.ofList name
  | .ipv4 n =>
    ".".intercalate ([3, 2, 1, 0].map fun i => toString (n / Nat.pow 256 i % 256))
  | .ipv6 groups => ipv6Text groups

end Host

end Provision
