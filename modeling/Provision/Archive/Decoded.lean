import Provision.Bytes

/-!
# Decoded data

What a decoder hands out piece by piece. A reader asks for a number of bytes and gets at most that
many; when the data is faulty the failure comes with some request, and what that request would have
given is lost.

The decoder takes its input in portions, and a new one only when the one before is used up. A
request is answered from one portion, so it may be cut short where a portion ends.

* `Decoded.read` is one request, `Decoded.collect` asks until an amount has come.
-/

namespace Provision.Archive

/-- How decoded data ends. -/
inductive DecodedEnd where
  /-- The data is complete. -/
  | finished
  /-- The request after the last byte fails. -/
  | after (message : String)
  /-- The request that reaches past the last byte fails; an `eager` failure also meets a request
  that ends just there. -/
  | within (message : String) (eager : Bool)
  /-- The request that needs another portion fails. -/
  | blocked (message : String)
deriving DecidableEq, Repr

/-- Where a portion of the input ends, in bytes of the decoded data from the present place on. -/
structure Cut where
  /-- From here on the portion is used up, though not everything in it has been handed out. -/
  used : Nat
  /-- So much can be handed out before the next portion. -/
  given : Nat
deriving DecidableEq, Repr

/-- Decoded data that has not been read yet. -/
structure Decoded where
  bytes : Bytes
  ending : DecodedEnd
  /-- Where the portions of the input end, unless that makes no difference. -/
  cuts : List Cut := []
deriving DecidableEq, Repr

namespace Decoded

/-- The data for a request: portions that are used up have been left. -/
def leaveUsed (d : Decoded) : Decoded := { d with cuts := d.cuts.dropWhile (·.used == 0) }

/-- The failure that a request for `n` bytes meets in the last portion. -/
def fault? (d : Decoded) (n : Nat) : Option String :=
  match d.ending with
  | .finished => none
  | .after message => if d.bytes.isEmpty then some message else none
  | .within message eager =>
    if d.bytes.length < n || (eager && d.bytes.length == n) then some message else none
  | .blocked message => some message

/-- The first `n` bytes and the data after them. -/
def split (d : Decoded) (n : Nat) : Bytes × Decoded :=
  let got := d.bytes.take n
  let pass (c : Cut) : Cut := ⟨c.used - got.length, c.given - got.length⟩
  (got, { d with bytes := d.bytes.drop n, cuts := d.cuts.map pass })

/-- Asks for `n` bytes; getting none means that the data is at its end. -/
def read (d : Decoded) (n : Nat) : Except String (Bytes × Decoded) :=
  let d := d.leaveUsed
  match d.cuts with
  | cut :: _ => .ok (d.split (min n cut.given))
  | [] =>
    match d.fault? n with
    | some message => .error message
    | none => .ok (d.split n)

/-- What a series of requests gave, the failure that ended it, and what is left. -/
structure Collected where
  bytes : Bytes
  fault : Option String
  rest : Decoded
deriving DecidableEq, Repr

/-- Asks for `amount` bytes in requests of at most `step`, `fuel` of them. -/
def collectUpTo (step : Nat) : Nat → Nat → Decoded → Collected
  | 0, _, d => ⟨[], none, d⟩
  | fuel + 1, amount, d =>
    if amount = 0 then ⟨[], none, d⟩
    else
      match d.read (min step amount) with
      | .error message => ⟨[], some message, d⟩
      | .ok ([], rest) => ⟨[], none, rest⟩
      | .ok (bs, rest) =>
        let more := collectUpTo step fuel (amount - bs.length) rest
        { more with bytes := bs ++ more.bytes }

/-- Asks for `amount` bytes in requests of at most `step` until they have come, the data ends or a
request fails. Every request but the last gives a byte. -/
def collect (d : Decoded) (step amount : Nat) : Collected :=
  collectUpTo step (d.bytes.length + 1) amount d

end Decoded

end Provision.Archive
