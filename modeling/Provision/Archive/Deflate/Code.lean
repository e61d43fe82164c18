import Provision.Bytes

/-!
# Canonical codes

A canonical code is given by the length of each symbol's code word: shorter words come first, and
words of one length are numbered in the order of their symbols.

* `Code.ofLengths?` accepts a set of lengths that is neither over-subscribed nor incomplete.
* `Code.decode` reads one symbol from a bit string.
-/

namespace Provision.Deflate

/-- A bit string, in the order in which it is read. -/
abbrev Bits := List Bool

/-- Why decoding stopped. -/
inductive Fault where
  /-- The data ended. -/
  | truncated
  /-- The data ended among stored bytes. -/
  | unfilled
  /-- The data makes no sense. -/
  | corrupt
  /-- A copy reaches back beyond the start of the output. -/
  | tooFar
deriving DecidableEq, Repr

/-- A canonical code. -/
structure Code where
  /-- How many code words there are of each length from 1 on. -/
  counts : List Nat
  /-- The symbols in the order of their code words. -/
  symbols : Array Nat
deriving DecidableEq, Repr

namespace Code

/-- The greatest length of a code word. -/
def maxLength : Nat := 15

/-- How many symbols have each length from 1 to the greatest one that occurs. -/
def countLengths (lengths : List Nat) : List Nat :=
  let greatest := lengths.foldl max 0
  (List.range greatest).map fun n => lengths.countP (· == n + 1)

/-- The symbols by length, and within one length in order. -/
def sortSymbols (lengths : List Nat) : List Nat :=
  (List.range maxLength).flatMap fun n =>
    (lengths.zipIdx.filter fun e => e.1 == n + 1).map (·.2)

/-- The room that is left after words of the given counts, in words of the last length; none when
there are too many words. -/
def room? : Nat → List Nat → Option Nat
  | left, [] => some left
  | left, count :: counts => if 2 * left < count then none else room? (2 * left - count) counts

/-- The code with the given lengths, where 0 marks an unused symbol. A set without any symbol is
accepted and decodes nothing. An incomplete set is refused, unless `single` allows one that is a
single word of length 1. -/
def ofLengths? (single : Bool) (lengths : List Nat) : Option Code :=
  let counts := countLengths lengths
  let code : Code := ⟨counts, (sortSymbols lengths).toArray⟩
  if counts.isEmpty then some code
  else
    match room? 1 counts with
    | none => none
    | some 0 => some code
    | some (_ + 1) => if single && counts.length == 1 then some code else none

/-- Continues to decode: `word` is what has been read, `first` the first word of the present length
and `index` how many symbols have shorter words. -/
def decodeFrom (symbols : Array Nat) : List Nat → Nat → Nat → Nat → Bits →
    Except Fault (Option Nat × Bits)
  | [], _, _, _, bits => .ok (none, bits)
  | _ :: _, _, _, _, [] => .error .truncated
  | count :: counts, word, first, index, bit :: bits =>
    let word := 2 * word + bit.toNat
    let first := 2 * first
    if word < first + count then .ok (symbols[index + (word - first)]?, bits)
    else decodeFrom symbols counts word (first + count) (index + count) bits

/-- Reads one symbol; there is none when the bits are no word of the code. A code without symbols
still takes one bit. -/
def decode (c : Code) (bits : Bits) : Except Fault (Option Nat × Bits) :=
  match c.counts with
  | [] => match bits with
    | [] => .error .truncated
    | _ :: bits => .ok (none, bits)
  | counts => decodeFrom c.symbols counts 0 0 0 bits

end Code

end Provision.Deflate
