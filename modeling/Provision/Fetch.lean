import Provision.Program

/-!
# Fetching an address

A fetch asks for an address, follows a bounded number of redirects and writes the body of the final
response to a file. The file is created only once a complete header with status 200 has arrived.

* `Fetch.run` is the whole transfer; `Fetch.follow` is it from a parsed address on.
* `Fetch.target?` is the address that a redirect leads to.
* `FetchError` says why there is no complete file, `FetchError.message` how that reads.
-/

namespace Provision

/-- A failure of the connection. -/
inductive TransportError where
  /-- No request can be made for the address. -/
  | building (url : String)
  /-- There was no response. -/
  | sending (url : String) (timedOut : Bool)
  /-- The body did not come to its end. -/
  | body (timedOut : Bool)
deriving DecidableEq, Repr

namespace TransportError

/-- Was the time up? -/
def isTimeout : TransportError → Bool
  | .building _ => false
  | .sending _ timedOut => timedOut
  | .body timedOut => timedOut

/-- The wording of a failure of the connection. -/
def message : TransportError → String
  | .building url => "builder error for url (" ++ url ++ ")"
  | .sending url _ => "error sending request for url (" ++ url ++ ")"
  | .body _ => "error decoding response body"

end TransportError

/-- Why a fetch did not give a complete file. -/
inductive FetchError where
  /-- The address cannot be read. -/
  | invalidUrl (url : String)
  /-- The final response was neither 200 nor a redirect. -/
  | status (url : String) (code : Nat)
  /-- A redirect did not say where to. -/
  | missingLocation (url : String)
  /-- There were more redirects than are followed. -/
  | tooManyRedirects (hops : Nat)
  /-- The connection failed. -/
  | transport (cause : TransportError)
  /-- The file could not be created or written. -/
  | write (cause : Report)
deriving DecidableEq, Repr

namespace FetchError

/-- The status of the final response, if it was the reason. -/
def status? : FetchError → Option Nat
  | .status _ code => some code
  | _ => none

/-- Was the time up? -/
def isTimeout : FetchError → Bool
  | .transport cause => cause.isTimeout
  | _ => false

/-- The wording of a failed fetch. -/
def message : FetchError → String
  | .invalidUrl url => "Invalid download URL: " ++ url
  | .status url code => "Failed to download " ++ url ++ ": HTTP " ++ toString code
  | .missingLocation url => "Redirect from " ++ url ++ " has no valid Location header"
  | .tooManyRedirects hops => "Too many redirects (gave up after " ++ toString hops ++ " hops)"
  | .transport cause =>
    (if cause.isTimeout then "Request timed out: " else "Request failed: ") ++ cause.message
  | .write cause => "Failed to write download: " ++ cause.text

end FetchError

namespace Fetch

/-- How many redirects are followed. -/
def maxRedirects : Nat := 5

/-- Is this the status of a redirect that is followed? -/
def isRedirect (status : Nat) : Bool := status = 301 || status = 302

/-- A header value as text, if all its bytes are visible ASCII, spaces or tabs. -/
def headerText? (value : Bytes) : Option String :=
  if value.all fun b => b == 0x09 || (0x20 ≤ b && b < 0x7F) then some (Utf8.lossy value) else none

/-- The address that a redirect from `current` leads to. -/
def target? (current : Url) (response : Response) : Option Url := do
  let location ← headerText? (← response.location)
  if location.isEmpty then none else current.join? location

/-- How an address reads in a failure of the connection. -/
def shown (url : Url) : String := url.requested.text

/-- The failure of a request that got no response. -/
def noResponse (url : Url) : NoResponse → TransportError
  | .unbuildable => .building (shown url)
  | .refused => .sending (shown url) false
  | .timedOut => .sending (shown url) true

/-- Writes the chunks in order and counts their bytes. -/
def writeChunks (w : Writer) : List Bytes → Attempt FetchError Nat
  | [] => return 0
  | chunk :: chunks => do
    let _ ← Attempt.mapFailure (.write ∘ .ofMessage) (.ofProgram (.ask (.write w chunk)))
    let rest ← writeChunks w chunks
    return chunk.length + rest

/-- Writes the body of a response to the file that `create` gives. -/
def save (create : Attempt Report Writer) (response : Response) : Attempt FetchError Nat := do
  let w ← create.mapFailure .write
  let size ← writeChunks w response.chunks
  match response.bodyEnd with
  | .broken => throw (.transport (.body false))
  | .stalled => throw (.transport (.body true))
  | .complete =>
    let _ ← Attempt.mapFailure (.write ∘ .ofMessage) (.ofProgram (.ask (.flush w)))
    return size

/-- Fetches from a parsed address, with `hops` redirects left to follow. -/
def follow (create : Attempt Report Writer) (hops : Nat) (url : Url) : Attempt FetchError Nat := do
  let response ← Attempt.mapFailure (.transport ∘ noResponse url) (.ofProgram (.ask (.request url)))
  if isRedirect response.status then
    match hops with
    | 0 => throw (.tooManyRedirects maxRedirects)
    | hops + 1 =>
      match target? url response with
      | some next => follow create hops next
      | none => throw (.missingLocation url.text)
  else if response.status = 200 then save create response
  else throw (.status url.text response.status)

/-- Fetches an address into the file that `create` gives, and counts its bytes. -/
def run (create : Attempt Report Writer) (url : String) : Attempt FetchError Nat :=
  match Url.parse? url with
  | none => throw (.invalidUrl url)
  | some parsed => follow create maxRedirects parsed

end Fetch

end Provision
