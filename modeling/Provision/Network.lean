import Provision.Http

/-!
# A virtual network

A network is a list of prepared answers. A request takes the first unused answer for its address,
and the last one again when all are used. What reached the network is kept as a list of requests.

* `Network.serve` answers one request.
* `Network.requests` is the record of the requests that arrived.
-/

namespace Provision

/-- How an answer goes wrong on the way. -/
inductive RouteFault where
  /-- The connection closes without a response. -/
  | close
  /-- The body stops before its announced end. -/
  | truncate
  /-- No response ever comes. -/
  | stall
  /-- The body never ends. -/
  | stallBody
deriving DecidableEq, Repr

/-- A prepared answer. -/
structure Route where
  url : String
  status : Nat := 200
  headers : List (String × Bytes) := []
  body : Bytes := []
  /-- Is the body sent in chunks? -/
  inChunks : Bool := false
  fault : Option RouteFault := none
  used : Bool := false
deriving DecidableEq, Repr

namespace Route

/-- How far the announced end of a body that breaks off is away. -/
def shortage : Nat := 10

/-- Does the body come to its announced end? -/
def isWhole (r : Route) : Bool := r.fault.isNone

/-- A chunk of a body. -/
def chunk (bs : Bytes) : Bytes :=
  Http.line (String.ofList (Nat.toDigits 16 bs.length)) ++ bs ++ Http.line ""

/-- The header field that says how the body is sent. -/
def framing (r : Route) : String :=
  if r.inChunks then "Transfer-Encoding: chunked"
  else "Content-Length: " ++ toString (r.body.length + if r.isWhole then 0 else shortage)

/-- The body as it is sent. -/
def sentBody (r : Route) : Bytes :=
  if r.inChunks then
    (Http.piece r.body).flatMap chunk ++ if r.isWhole then chunk [] else []
  else r.body

/-- What goes over the connection. -/
def sent (r : Route) : Bytes :=
  Http.line ("HTTP/1.1 " ++ toString r.status ++ " Status")
    ++ r.headers.flatMap (fun h => Bytes.ofText (h.1 ++ ": ") ++ h.2 ++ Http.line "")
    ++ Http.line r.framing ++ Http.line "Connection: close" ++ Http.line "" ++ r.sentBody

/-- The response of a route. -/
def response (r : Route) : Except NoResponse Response :=
  match r.fault with
  | some .close => .error .refused
  | some .stall => .error .timedOut
  | fault =>
    match Http.response? (fault = some .stallBody) r.sent with
    | some response => .ok response
    | none => .error .refused

end Route

/-- A request as the network sees it. -/
inductive Request where
  | get (url : String) (userAgent : String) (authorization : Bool)
  /-- A tunnel to a host and port, asked for by a secure request. -/
  | connect (target : String)
deriving DecidableEq, Repr

/-- The prepared answers and the requests that arrived. -/
structure Network where
  routes : List Route := []
  requests : List Request := []
deriving DecidableEq, Repr

namespace Network

/-- How the program names itself in requests. -/
def userAgent : String := "comment-checker-install/0.1.0"

/-- The answer to a request for `url`, and the routes after it. -/
def take? (url : String) : List Route → Option (Route × List Route)
  | [] => none
  | r :: rest =>
    if r.url = url ∧ ¬ r.used then some (r, { r with used := true } :: rest)
    else
      match take? url rest with
      | some (found, rest) => some (found, r :: rest)
      | none => if r.url = url then some (r, r :: rest) else none

/-- May a request line name this host? -/
def isNameable (host : List Char) : Bool :=
  !host.any fun c => ['"', '\x60', '\x7b', '\x7d'].contains c

/-- Answers a request for an address. A secure request only ever gets as far as asking for a
tunnel. -/
def serve (url : Url) (n : Network) : Except NoResponse Response × Network :=
  let scheme := String.ofList url.scheme
  if ¬ isNameable url.hostName then (.error .unbuildable, n)
  else if scheme = "https" then
    let target := String.ofList url.hostName ++ ":" ++ toString url.effectivePort
    (.error .refused, { n with requests := n.requests ++ [.connect target] })
  else if scheme = "http" then
    let request : Request := .get url.bare userAgent url.credentials?.isSome
    match take? url.bare n.routes with
    | none => (.ok ⟨404, none, [], .complete⟩, { n with requests := n.requests ++ [request] })
    | some (r, routes) =>
      let listed := if r.fault = some .stall then [] else [request]
      (r.response, { routes, requests := n.requests ++ listed })
  else (.error .unbuildable, n)

end Network

end Provision
