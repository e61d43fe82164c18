import Provision.Program
import Provision.Url.Percent

/-!
# Responses on the wire

A response is a status line, header fields up to a blank line, and a body. Where the body ends is
said by its framing: after a number of bytes, after the last of its chunks, or with the connection.
A head with a status below 200, other than 101, only announces the response that follows it.

* `Http.readHead?` reads a head; there is none if a line of it is malformed or missing.
* `Http.framing?` says where the body ends; there is no answer if the header fields contradict each
  other.
* `Http.response?` reads a whole response from what a connection delivers.
-/

namespace Provision.Http

/-! ## Lines -/

/-- The first line, without the line break that ends it, and what follows. -/
def takeLine? : Bytes → Option (Bytes × Bytes)
  | [] => none
  | 0x0A :: rest => some ([], rest)
  | 0x0D :: 0x0A :: rest => some ([], rest)
  | b :: rest => do
    let (line, rest) ← takeLine? rest
    return (b :: line, rest)

/-- A text with the line break that ends a line. -/
def line (s : String) : Bytes := Bytes.ofText s ++ [0x0D, 0x0A]

/-- May the byte stand in the name of a header field? -/
def isNameByte (b : UInt8) : Bool :=
  let c := Char.ofNat b.toNat
  b < 0x80 && (c.isAlphanum || "!#$%&'*+-.^_\x60|~".toList.contains c)

/-- May the byte stand in the value of a header field? -/
def isValueByte (b : UInt8) : Bool := b == 0x09 || (0x20 ≤ b && b != 0x7F)

/-- Is the byte a space or a tab? -/
def isSpace (b : UInt8) : Bool := b == 0x20 || b == 0x09

/-- The bytes without the spaces and tabs at both ends. -/
def trimSpaces (value : Bytes) : Bytes :=
  ((value.dropWhile isSpace).reverse.dropWhile isSpace).reverse

/-! ## Heads -/

/-- A header field: its name in lower case and its value. -/
abbrev Field := String × Bytes

/-- The header field of a line. -/
def field? (line : Bytes) : Option Field :=
  let name := line.takeWhile isNameByte
  match line.dropWhile isNameByte with
  | 0x3A :: value =>
    if name.isEmpty || !value.all isValueByte then none
    else some ((Utf8.lossy name).toLower, trimSpaces value)
  | _ => none

/-- How many header fields a head may have. -/
def maxFields : Nat := 100

/-- The header fields up to the blank line, at most `n` of them, and what follows. -/
def readFields? (n : Nat) (bs : Bytes) : Option (List Field × Bytes) := do
  match ← takeLine? bs with
  | ([], rest) => return ([], rest)
  | (line, rest) =>
    let field ← field? line
    match n with
    | 0 => none
    | n + 1 =>
      let (fields, rest) ← readFields? n rest
      return (field :: fields, rest)

/-- The head of a response. -/
structure Head where
  status : Nat
  /-- Is it in the version of the protocol that knows chunks? -/
  knowsChunks : Bool
  fields : List Field
deriving DecidableEq, Repr

namespace Head

/-- The values of the header fields with the given lower-case name. -/
def values (h : Head) (name : String) : List Bytes :=
  (h.fields.filter fun f => f.1 == name).map Prod.snd

/-- Does the head only announce another one? -/
def isInterim (h : Head) : Bool := h.status < 200 && h.status != 101

end Head

/-- The value of a decimal number. -/
def decimal? (bs : Bytes) : Option Nat :=
  if bs.isEmpty then none
  else
    bs.foldlM (fun n b => if 0x30 ≤ b && b ≤ 0x39 then some (10 * n + (b.toNat - 0x30)) else none) 0

/-- The version and the status of a status line: three figures, and a reason after a space. -/
def readStatus? (line : Bytes) : Option (Bool × Nat) := do
  let minor ←
    if (Bytes.ofText "HTTP/1.1 ").isPrefixOf line then some true
    else if (Bytes.ofText "HTTP/1.0 ").isPrefixOf line then some false
    else none
  let status ← decimal? (Bytes.slice line 9 3)
  let reason := line.drop 12
  if (Bytes.slice line 9 3).length != 3 || status < 100 then none
  else if (reason.isEmpty || reason.head? == some 0x20) && reason.all isValueByte then
    return (minor, status)
  else none

/-- What follows the blank lines at the front. -/
def skipBlankLines : Bytes → Bytes
  | 0x0A :: rest => skipBlankLines rest
  | 0x0D :: 0x0A :: rest => skipBlankLines rest
  | bs => bs

/-- The head of a response, and what follows it. -/
def readHead? (bs : Bytes) : Option (Head × Bytes) := do
  let (line, rest) ← takeLine? (skipBlankLines bs)
  let (knowsChunks, status) ← readStatus? line
  let (fields, rest) ← readFields? maxFields rest
  return (⟨status, knowsChunks, fields⟩, rest)

/-! ## Framing -/

/-- How the end of a body is known. -/
inductive Framing where
  /-- After a number of bytes. -/
  | length (n : Nat)
  /-- After a chunk of no bytes. -/
  | chunked
  /-- With the end of the connection. -/
  | close
deriving DecidableEq, Repr

/-- The items of a header value that are separated by commas. -/
def items (value : Bytes) : List Bytes := (Bytes.splitOn 0x2C value).map trimSpaces

/-- The largest length that a body can announce. -/
def maxLength : Nat := UInt64.size - 3

/-- The one length that all of the values state. -/
def length? (values : List Bytes) : Option Nat := do
  let lengths ← (values.flatMap items).mapM decimal?
  let n ← lengths.head?
  if lengths.all (· == n) && n ≤ maxLength then some n else none

/-- Are chunks the last of the encodings? -/
def endsChunked (values : List Bytes) : Bool :=
  match values.getLast? with
  | none => false
  | some value =>
    value.all (fun b => isValueByte b && b < 0x80)
      && ((items value).getLast?.map fun e => (Utf8.lossy e).toLower) == some "chunked"

/-- The framing of the body that follows a head. -/
def framing? (h : Head) : Option Framing :=
  if h.status = 101 ∨ h.status = 204 ∨ h.status = 304 then some (.length 0)
  else
    match h.values "transfer-encoding", h.values "content-length" with
    | [], [] => some .close
    | [], lengths => (length? lengths).map .length
    | encodings, _ =>
      if !h.knowsChunks then none
      else if endsChunked encodings then some .chunked
      else some .close

/-! ## Bodies -/

/-- A body as it arrived: its pieces and how it ended. -/
abbrev Body := List Bytes × BodyEnd

/-- A piece, if it is not empty. -/
def piece (bs : Bytes) : List Bytes := if bs.isEmpty then [] else [bs]

/-- The size that the first line of a chunk states. -/
def chunkSize? (line : Bytes) : Option Nat := do
  let isDigit (b : UInt8) : Bool := (Percent.digitValue? (Char.ofNat b.toNat)).isSome
  let figures := line.takeWhile isDigit
  let after := (line.dropWhile isDigit).dropWhile isSpace
  if figures.isEmpty || !(after.isEmpty || after.head? == some 0x3B) || after.contains 0x0D then
    none
  else
    let n ← figures.foldlM (fun n b => do
      return 16 * n + (← Percent.digitValue? (Char.ofNat b.toNat))) 0
    if n < UInt64.size then some n else none

/-- The body in chunks, at most `fuel` of them. When the bytes run out it ends as `cut` says. -/
def readChunks (cut : BodyEnd) : Nat → Bytes → Body
  | 0, _ => ([], cut)
  | fuel + 1, bs =>
    match takeLine? bs with
    | none => ([], if bs.isEmpty || (chunkSize? bs).isSome then cut else .broken)
    | some (line, rest) =>
      match chunkSize? line with
      | none => ([], .broken)
      | some 0 =>
        match readFields? maxFields rest with
        | some _ => ([], .complete)
        | none => ([], cut)
      | some n =>
        let data := rest.take n
        if data.length < n then (piece data, cut)
        else
          match rest.drop n with
          | 0x0D :: 0x0A :: more =>
            let (pieces, bodyEnd) := readChunks cut fuel more
            (data :: pieces, bodyEnd)
          | [] => ([data], cut)
          | [0x0D] => ([data], cut)
          | _ => ([data], .broken)

/-- The body with the given framing. When the bytes run out the connection closes, or nothing more
comes until the time is up. -/
def readBody (stalls : Bool) (framing : Framing) (bs : Bytes) : Body :=
  let cut : BodyEnd := if stalls then .stalled else .broken
  match framing with
  | .length n => (piece (bs.take n), if n ≤ bs.length then .complete else cut)
  | .chunked => readChunks cut (bs.length + 1) bs
  | .close => (piece bs, if stalls then .stalled else .complete)

/-! ## Whole responses -/

/-- The response in what a connection delivers, behind at most `fuel` heads that announce it. -/
def readResponse? (stalls : Bool) : Nat → Bytes → Option Response
  | 0, _ => none
  | fuel + 1, bs => do
    let (head, rest) ← readHead? bs
    if head.isInterim then readResponse? stalls fuel rest
    else
      let framing ← framing? head
      let (pieces, bodyEnd) := readBody stalls framing rest
      return ⟨head.status, (head.values "location").head?, pieces, bodyEnd⟩

/-- The response in what a connection delivers before it closes or, if it `stalls`, falls silent. -/
def response? (stalls : Bool) (bs : Bytes) : Option Response :=
  readResponse? stalls (bs.length + 1) bs

end Provision.Http
