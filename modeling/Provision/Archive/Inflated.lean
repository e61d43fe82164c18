import Provision.Archive.Decoded
import Provision.Archive.Deflate

/-!
# Inflated data

Deflated data as a reader meets it: the output comes portion by portion of the input, and a failure
in the data takes with it what the same request would have given.

A decoder reads one symbol ahead of what it hands out, so a portion is used up as soon as its last
byte takes part in the next symbol; stored bytes are read only when they are handed out.

* `Inflated.cutAt?` is where the first `n` bytes of the input end.
* `Inflated.decoded` is the output of data that comes in portions.
-/

namespace Provision.Archive.Inflated

/-- The data makes no sense. -/
def corrupt : String := "corrupt deflate stream"

/-- The data ends too early. -/
def incomplete : String := "incomplete deflate stream"

/-- Where a portion that ends after the first `n` bytes ends, unless it ends the data. -/
def cutAt? (data : Bytes) (n : Nat) : Option Cut :=
  let all := Deflate.inflate (data.take n)
  let before := Deflate.inflate (data.take (n - 1))
  let used := before.bytes.length
  match all.rest, before.rest with
  | .error .corrupt, _ => none
  | .error .tooFar, _ => none
  | _, .error .unfilled => some ⟨min (used + 1) all.bytes.length, all.bytes.length⟩
  | _, _ => some ⟨used, all.bytes.length⟩

/-- The ends of the portions that come before a fault in the data. -/
def cutsBefore (data : Bytes) (ends : List Nat) : List Cut :=
  ((ends.map (cutAt? data)).takeWhile Option.isSome).filterMap id

/-- The multiples of `size` between `start` and `last`, counted from `start`. -/
def portionEnds (size start last : Nat) : List Nat :=
  ((List.range (last / size + 1)).map (size * ·)).filterMap fun n =>
    if start < n ∧ n < last then some (n - start) else none

/-- The output of data whose portions have the given ends, with what follows the data, if it is
complete. `complete` says how complete data ends. -/
def decoded (ends : List Nat) (complete : Bytes → Bytes → DecodedEnd) (data : Bytes) : Decoded :=
  let inflated := Deflate.inflate data
  match inflated.rest with
  | .error .corrupt => ⟨inflated.bytes, .within corrupt true, cutsBefore data ends⟩
  | .error .tooFar => ⟨inflated.bytes, .within corrupt false, cutsBefore data ends⟩
  | .error _ => ⟨inflated.bytes, .after incomplete, []⟩
  | .ok rest => ⟨inflated.bytes, complete inflated.bytes rest, []⟩

/-- The output of data that could not be read further, for the given reason. -/
def interrupted (message : String) (ends : List Nat) (complete : Bytes → Bytes → DecodedEnd)
    (data : Bytes) : Decoded :=
  let inflated := Deflate.inflate data
  let blocked : Decoded :=
    ⟨inflated.bytes, .blocked message, cutsBefore data (ends ++ [data.length])⟩
  match inflated.rest with
  | .error .truncated => blocked
  | .error .unfilled => blocked
  | .ok [] => blocked
  | _ => decoded ends complete data

end Provision.Archive.Inflated
