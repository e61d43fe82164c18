import Provision.Url.Host

/-!
# Addresses

Web addresses in their parsed form, read leniently in the way browsers do: blanks around the text
and line breaks inside it are dropped, a backslash counts as a slash, dot segments are resolved and
characters outside a part's set are percent-encoded.

* `Url.parse?` reads a text that stands alone, `Url.join?` a text relative to an address.
* `Url.text` writes an address; `Url.bare` is what a request names of it, and `Url.credentials?` the
  user information that is sent apart.
-/

namespace Provision

/-- The path of an address. -/
inductive UrlPath where
  /-- Segments, each after a slash. -/
  | segments (parts : List (List Char))
  /-- A text without structure, as in `mailto:`. -/
  | flat (text : List Char)
deriving DecidableEq, Repr

/-- A parsed address. -/
structure Url where
  scheme : List Char
  user : List Char := []
  password : List Char := []
  host : Option Host := none
  port : Option Nat := none
  path : UrlPath := .segments []
  query : Option (List Char) := none
  fragment : Option (List Char) := none
deriving DecidableEq, Repr

namespace Url

/-! ## Schemes -/

/-- The kinds of schemes that are read differently. -/
inductive Kind where
  /-- A scheme with a host and a default port. -/
  | web (defaultPort : Nat)
  /-- Local files. -/
  | file
  /-- Everything else. -/
  | other
deriving DecidableEq, Repr

/-- The kind of a scheme. -/
def kind (scheme : List Char) : Kind :=
  match String.ofList scheme with
  | "http" => .web 80
  | "https" => .web 443
  | "ws" => .web 80
  | "wss" => .web 443
  | "ftp" => .web 21
  | "file" => .file
  | _ => .other

/-- Does a backslash separate like a slash? -/
def Kind.isSpecial : Kind → Bool
  | .other => false
  | _ => true

/-- Is the character a separator of segments? -/
def Kind.separates (k : Kind) (c : Char) : Bool := c == '/' || (k.isSpecial && c == '\\')

/-- Does the character end the path? -/
def endsPath (c : Char) : Bool := c == '?' || c == '#'

/-- Does the character end the authority? -/
def Kind.endsAuthority (k : Kind) (c : Char) : Bool := k.separates c || endsPath c

/-- The text without blanks and controls around it and without tabs and line breaks. -/
def clean (s : String) : List Char :=
  let isEdge (c : Char) : Bool := c.toNat ≤ 0x20
  let cs := ((s.toList.dropWhile isEdge).reverse.dropWhile isEdge).reverse
  cs.filter fun c => !(c == '\t' || c == '\n' || c == '\r')

/-- A character of a scheme after its first letter. -/
def isSchemeChar (c : Char) : Bool := c.isAlphanum || c == '+' || c == '-' || c == '.'

/-- The lower-case scheme and what follows its colon. -/
def scheme? (cs : List Char) : Option (List Char × List Char) :=
  match cs with
  | [] => none
  | c :: _ =>
    if !c.isAlpha then none
    else
      match cs.dropWhile isSchemeChar with
      | ':' :: rest => some ((cs.takeWhile isSchemeChar).map Char.toLower, rest)
      | _ => none

/-! ## Paths -/

/-- A segment `.` in any spelling. -/
def isDot (s : List Char) : Bool := String.ofList (s.map Char.toLower) ∈ [".", "%2e"]

/-- A segment `..` in any spelling. -/
def isDotDot (s : List Char) : Bool :=
  String.ofList (s.map Char.toLower) ∈ ["..", "%2e%2e", "%2e.", ".%2e"]

/-- The parts of a path between its separators. -/
def splitPath (k : Kind) : List Char → List (List Char)
  | [] => [[]]
  | c :: rest =>
    if k.separates c then [] :: splitPath k rest
    else
      match splitPath k rest with
      | [] => [[c]]
      | part :: parts => (c :: part) :: parts

/-- A drive letter such as `C:` or `C|`. -/
def isDrive (cs : List Char) : Bool :=
  match cs with
  | [c, d] => c.isAlpha && (d == ':' || d == '|')
  | _ => false

/-- A segment that `..` does not remove: a drive letter, with nothing or a backslash after it. -/
def isAnchored (segment : List Char) : Bool :=
  isDrive (segment.take 2) && (segment.length == 2 || segment[2]? == some '\\')

/-- The segments above the last one. -/
def parentOf (segments : List (List Char)) : List (List Char) :=
  match segments.getLast? with
  | some last => if isAnchored last then segments else segments.dropLast
  | none => []

/-- The segments after further parts have been applied: `..` removes the last one unless it is
anchored, `.` none, and either leaves an empty segment when it comes last. -/
def applyParts : List (List Char) → List (List Char) → List (List Char)
  | segments, [] => segments
  | segments, part :: more =>
    let encoded := Percent.encode Percent.path part
    let last := more.isEmpty
    let next :=
      if isDotDot encoded then parentOf segments ++ (if last then [[]] else [])
      else if isDot encoded then segments ++ (if last then [[]] else [])
      else segments ++ [encoded]
    applyParts next more

/-- The segments after the path in front of `cs` has been applied, and what follows the path. -/
def readPath (k : Kind) (segments : List (List Char)) (cs : List Char) :
    List (List Char) × List Char :=
  (applyParts segments (splitPath k (cs.takeWhile (!endsPath ·))), cs.dropWhile (!endsPath ·))

/-! ## The parts after the path -/

/-- The address with the query and fragment in front of which nothing else is left to read. -/
def withTail (u : Url) (cs : List Char) : Url :=
  let set := if (kind u.scheme).isSpecial then Percent.specialQuery else Percent.query
  let fragment (cs : List Char) : List Char := Percent.encode Percent.fragment cs
  match cs with
  | '?' :: rest =>
    let query := Percent.encode set (rest.takeWhile (· ≠ '#'))
    match rest.dropWhile (· ≠ '#') with
    | _ :: after => { u with query := some query, fragment := some (fragment after) }
    | [] => { u with query := some query, fragment := none }
  | '#' :: rest => { u with fragment := some (fragment rest) }
  | _ => u

/-! ## Authorities -/

/-- The parts before and after the last `@`. -/
def splitUser (cs : List Char) : Option (List Char) × List Char :=
  let back := cs.reverse
  match back.dropWhile (· ≠ '@') with
  | [] => (none, cs)
  | _ :: front => (some front.reverse, (back.takeWhile (· ≠ '@')).reverse)

/-- The host and, after a colon outside brackets, the port. -/
def splitPort : Bool → List Char → List Char × Option (List Char)
  | _, [] => ([], none)
  | inside, c :: rest =>
    if c == ':' && !inside then ([], some rest)
    else
      let inside := if c == '[' then true else if c == ']' then false else inside
      let (host, port) := splitPort inside rest
      (c :: host, port)

/-- A port and what follows it: none if there are no digits, a failure if it is too large or ends
neither the authority nor at a backslash. -/
def port? (cs : List Char) : Option (Option Nat × List Char) := do
  let figures := cs.takeWhile Char.isDigit
  let rest := cs.dropWhile Char.isDigit
  if !rest.isEmpty && rest.head? != some '\\' then none
  else if figures.isEmpty then some (none, rest)
  else
    let n ← Host.digits? 10 figures
    if n ≤ 65535 then some (some n, rest) else none

/-- The address whose authority and what follows stand in front. -/
def readAuthority (scheme : List Char) (cs : List Char) : Option Url := do
  let k := kind scheme
  let (userinfo, hostPort) := splitUser (cs.takeWhile (!k.endsAuthority ·))
  let after := cs.dropWhile (!k.endsAuthority ·)
  let (hostText, portText) := splitPort false hostPort
  let user := (userinfo.getD []).takeWhile (· ≠ ':')
  let password := ((userinfo.getD []).dropWhile (· ≠ ':')).drop 1
  let host ←
    if hostText.isEmpty then
      if k.isSpecial || portText.isSome || !(user.isEmpty && password.isEmpty)
        || (userinfo = some [] && hostPort.isEmpty && !after.isEmpty) then none
      else some (.domain [])
    else if k.isSpecial then Host.parse? hostText
    else Host.parseRaw? hostText
  let (port, unread) ← match portText with
    | none => some (none, [])
    | some text => port? text
  let port := if k = .web (port.getD 0) && port.isSome then none else port
  let u : Url :=
    { scheme, host := some host, port
      user := Percent.encode Percent.userinfo user
      password := Percent.encode Percent.userinfo password }
  let rest := unread ++ after
  match rest with
  | [] => some { u with path := .segments (if k.isSpecial then [[]] else []) }
  | c :: more =>
    if endsPath c then
      some ({ u with path := .segments (if k.isSpecial then [[]] else []) }.withTail rest)
    else
      let (segments, tail) := readPath k [] (if k.separates c then more else rest)
      some ({ u with path := .segments segments }.withTail tail)

/-! ## Local files -/

/-- The address of a local file: a drive letter that comes first is spelled with a colon and leaves
no host, and no segment at the front is empty. -/
def ofFilePath (host : Host) (segments : List (List Char)) : Url :=
  let scheme := ['f', 'i', 'l', 'e']
  match segments with
  | first :: rest =>
    if isDrive first then
      { scheme, host := some (.domain []), path := .segments ((first.take 1 ++ [':']) :: rest) }
    else
      match segments.dropWhile List.isEmpty with
      | [] => { scheme, host := some host, path := .segments [[]] }
      | kept => { scheme, host := some host, path := .segments kept }
  | [] => { scheme, host := some host, path := .segments [[]] }

/-- The address of a local file on a host, from what follows the host and its slash. -/
def readFilePath (host : Host) (cs : List Char) : Url :=
  let (segments, tail) := readPath .file [] cs
  (ofFilePath host segments).withTail tail

/-- The address of a local file, from what follows `file:`. After a host the slash belongs to it;
without one it starts an empty segment. -/
def readFile (cs : List Char) : Option Url := do
  let k := Kind.file
  match cs with
  | a :: b :: rest =>
    if k.separates a && k.separates b then
      let hostText := rest.takeWhile (!k.endsAuthority ·)
      let after := rest.dropWhile (!k.endsAuthority ·)
      if isDrive hostText || hostText.isEmpty then some (readFilePath (.domain []) rest)
      else
        let host ← Host.parse? hostText
        if host = .domain "localhost".toList then some (readFilePath (.domain []) after)
        else
          some (readFilePath host (match after with
            | c :: more => if k.separates c then more else after
            | [] => []))
    else some (readFilePath (.domain []) (if k.separates a then b :: rest else cs))
  | _ => some (readFilePath (.domain []) (cs.dropWhile k.separates))

/-! ## Whole addresses -/

/-- The address of a text whose scheme is not a web scheme, from what follows the colon. -/
def readOther (scheme cs : List Char) : Option Url :=
  match cs with
  | '/' :: '/' :: rest => readAuthority scheme rest
  | '/' :: rest =>
    let (segments, tail) := readPath .other [] rest
    some ({ scheme, path := .segments segments : Url }.withTail tail)
  | cs =>
    let text := Percent.encode Percent.controls (cs.takeWhile (!endsPath ·))
    some ({ scheme, path := .flat text : Url }.withTail (cs.dropWhile (!endsPath ·)))

/-- The segments of an address. -/
def segments (u : Url) : List (List Char) :=
  match u.path with
  | .segments parts => parts
  | .flat _ => []

/-- The address that a reference without scheme names relative to a base. -/
def readRelative (base : Url) (cs : List Char) : Option Url :=
  let k := kind base.scheme
  let base := { base with fragment := none }
  match cs with
  | [] => some base
  | c :: rest =>
    if c == '?' then some ({ base with query := none }.withTail cs)
    else if c == '#' then some (base.withTail cs)
    else if k.separates c then
      match rest with
      | d :: more =>
        if k.separates d then
          -- two plain slashes are taken as they are; with a backslash all of them are
          if c == '/' && d == '/' then readAuthority base.scheme more
          else readAuthority base.scheme (more.dropWhile k.separates)
        else
          let (segments, tail) := readPath k [] rest
          some ({ base with path := .segments segments, query := none }.withTail tail)
      | [] => some { base with path := .segments [[]], query := none }
    else
      let (segments, tail) := readPath k base.segments.dropLast cs
      some ({ base with path := .segments segments, query := none }.withTail tail)

/-- The address of a text, relative to a base if there is one. -/
def read? (base : Option Url) (s : String) : Option Url :=
  let cs := clean s
  match scheme? cs with
  | some (scheme, rest) =>
    match kind scheme with
    | .file => readFile rest
    | .other => readOther scheme rest
    | .web _ =>
      let slashes := (rest.takeWhile (Kind.file.separates ·)).length
      match base with
      | some b =>
        if slashes < 2 && b.scheme = scheme then readRelative b rest
        else readAuthority scheme (rest.drop slashes)
      | none => readAuthority scheme (rest.drop slashes)
  | none =>
    match base with
    | none => none
    | some b =>
      match b.path, cs with
      | .flat _, '#' :: _ => some ({ b with fragment := none }.withTail cs)
      | .flat _, _ => none
      | .segments _, _ => readRelative b cs

/-- Reads a text that stands alone. -/
def parse? (s : String) : Option Url := read? none s

/-- Reads a text relative to an address. -/
def join? (base : Url) (s : String) : Option Url := read? (some base) s

/-- The text of a path. -/
def pathText : UrlPath → List Char
  | .segments parts => parts.flatMap ('/' :: ·)
  | .flat text => text

/-- The text of the user information with its `@`. -/
def userText (u : Url) : List Char :=
  if u.user.isEmpty && u.password.isEmpty then []
  else u.user ++ (if u.password.isEmpty then [] else ':' :: u.password) ++ ['@']

/-- The text of the host. -/
def hostName (u : Url) : List Char :=
  match u.host with
  | none => []
  | some h => h.text.toList

/-- The text of the host and the port. -/
def hostText (u : Url) : List Char :=
  u.hostName ++ match u.port with
    | none => []
    | some p => ':' :: (toString p).toList

/-- What stands in front of a path that no host precedes and that would read like one. -/
def pathGuard (u : Url) : List Char :=
  match u.host, u.path with
  | none, .segments ([] :: _ :: _) => ['/', '.']
  | _, _ => []

/-- The text of an address. -/
def text (u : Url) : String :=
  String.ofList <|
    u.scheme ++ [':']
      ++ (if u.host.isSome then ['/', '/'] ++ u.userText ++ u.hostText else [])
      ++ u.pathGuard ++ pathText u.path
      ++ (match u.query with
        | none => []
        | some q => '?' :: q)
      ++ (match u.fragment with
        | none => []
        | some f => '#' :: f)

/-- The user name and the password that a request sends apart from its address. A name that is not
UTF-8 cannot be sent, and such a password counts as none. -/
def credentials? (u : Url) : Option (String × Option String) := do
  let user ← Utf8.decode? (Percent.decode u.user)
  let password := if u.password.isEmpty then none else Utf8.decode? (Percent.decode u.password)
  if user.isEmpty && password.isNone then none else some (user, password)

/-- The address that a request is made for: without the user information that it sends apart. -/
def requested (u : Url) : Url :=
  if u.credentials?.isSome then { u with user := [], password := [] } else u

/-- The text of an address as a request names it: without fragment and without the user information
that it sends apart. -/
def bare (u : Url) : String := { u.requested with fragment := none }.text

/-- The port that a connection to the address goes to. -/
def effectivePort (u : Url) : Nat :=
  match u.port, kind u.scheme with
  | some p, _ => p
  | none, .web p => p
  | none, _ => 0

end Url

end Provision
