/-!
# Punycode

A text is written in ASCII as its basic characters and a series of numbers. Each number says how far
to go before the next of the other characters is put in: the code point counts up by one each time
the place has run once through the text so far.

* `Punycode.insertions` is the order in which the other characters are put in.
* `Punycode.encode` and `Punycode.decode?` write and read the form.
-/

namespace Provision.Punycode

/-- Is the character one of those that stand for themselves? -/
def isBasic (c : Char) : Bool := c.toNat < 0x80

/-! ## Numbers -/

/-- The base of the digits. -/
def base : Nat := 36

/-- The digit of a value: letters, then figures. -/
def digit (n : Nat) : Char := Char.ofNat (if n < 26 then 0x61 + n else 0x30 + (n - 26))

/-- The value of a digit. -/
def digitValue? (c : Char) : Option Nat :=
  if 'a' ≤ c ∧ c ≤ 'z' then some (c.toNat - 0x61)
  else if 'A' ≤ c ∧ c ≤ 'Z' then some (c.toNat - 0x41)
  else if '0' ≤ c ∧ c ≤ '9' then some (c.toNat - 0x30 + 26)
  else none

/-- The least digit, at a position counted from one, that does not end a number. -/
def threshold (bias position : Nat) : Nat := max 1 (min 26 (base * position - bias))

theorem threshold_pos (bias position : Nat) : 0 < threshold bias position := by
  unfold threshold
  omega

/-- The digits of a number from a position on, the lowest first. -/
def numberDigits (bias position n : Nat) : List Char :=
  let t := threshold bias position
  if n < t then [digit n]
  else
    digit (t + (n - t) % (base - t)) :: numberDigits bias (position + 1) ((n - t) / (base - t))
termination_by n
decreasing_by
  have := threshold_pos bias position
  have := Nat.div_le_self (n - threshold bias position) (base - threshold bias position)
  omega

/-- Reads the digits of a number from a position on, where a digit has the given weight. -/
def readNumber? (bias position weight : Nat) : List Char → Option (Nat × List Char)
  | [] => none
  | c :: rest => do
    let d ← digitValue? c
    let t := threshold bias position
    if d < t then some (d * weight, rest)
    else
      let (n, rest) ← readNumber? bias (position + 1) (weight * (base - t)) rest
      some (d * weight + n, rest)

/-- How often a number is divided by 35 until it is at most 455, and what is left. -/
def reduced (n : Nat) : Nat × Nat :=
  if 455 < n then
    let (steps, rest) := reduced (n / 35)
    (steps + 1, rest)
  else (0, n)
termination_by n

/-! ## Insertions -/

/-- What the characters put in so far determine. -/
structure Coder where
  /-- The code point that has been reached. -/
  code : Nat := 0x80
  /-- The place that has been reached. -/
  place : Nat := 0
  /-- The number of characters so far. -/
  length : Nat
  bias : Nat := 72
deriving DecidableEq, Repr

/-- A code point to be put in, and its place among the characters that are there by then. -/
structure Insertion where
  code : Nat
  place : Nat
deriving DecidableEq, Repr

/-- How far an insertion is away. -/
def Coder.distance (s : Coder) (i : Insertion) : Nat :=
  (i.code - s.code) * (s.length + 1) + i.place - s.place

/-- The bias after a number; the first one counts for less. -/
def Coder.nextBias (s : Coder) (isFirst : Bool) (distance : Nat) : Nat :=
  let scaled := if isFirst then distance / 700 else distance / 2
  let (steps, rest) := reduced (scaled + scaled / (s.length + 1))
  base * steps + base * rest / (rest + 38)

/-- The coder after an insertion. -/
def Coder.insert (s : Coder) (isFirst : Bool) (i : Insertion) : Coder :=
  ⟨i.code, i.place + 1, s.length + 1, s.nextBias isFirst (s.distance i)⟩

/-- The insertions that make a text of its basic characters, by code point and then by place. -/
def insertions (cs : List Char) : List Insertion :=
  let others := cs.zipIdx.filter fun p => !isBasic p.1
  (others.mergeSort fun p q => p.1.toNat ≤ q.1.toNat).map fun p =>
    ⟨p.1.toNat, (cs.take p.2).countP fun c => c.toNat ≤ p.1.toNat⟩

/-- The digits of a series of insertions. -/
def Coder.digits (s : Coder) (isFirst : Bool) : List Insertion → List Char
  | [] => []
  | i :: more =>
    numberDigits s.bias 1 (s.distance i) ++ (s.insert isFirst i).digits false more

/-- A text in its ASCII form. -/
def encode (cs : List Char) : List Char :=
  let basic := cs.filter isBasic
  let digits := Coder.digits { length := basic.length } true (insertions cs)
  if basic.isEmpty then digits else basic ++ '-' :: digits

/-! ## Reading -/

/-- Puts the characters that a series of `fuel` digits at most describes into a text. -/
def insertAll? : Nat → Bool → Coder → List Char → List Char → Option (List Char)
  | _, _, _, text, [] => some text
  | 0, _, _, _, _ :: _ => none
  | fuel + 1, isFirst, s, text, digits => do
    let (n, rest) ← readNumber? s.bias 1 1 digits
    let reach := s.place + n
    let i : Insertion := ⟨s.code + reach / (s.length + 1), reach % (s.length + 1)⟩
    if i.code.isValidChar then
      insertAll? fuel false (s.insert isFirst i) (text.insertIdx i.place (Char.ofNat i.code)) rest
    else none

/-- The text of an ASCII form. The last hyphen, if there is one, ends the basic characters. -/
def decode? (cs : List Char) : Option (List Char) :=
  let tail := (cs.reverse.takeWhile (· != '-')).reverse
  let basic := (cs.take (cs.length - tail.length)).dropLast
  if basic.all isBasic then insertAll? tail.length true { length := basic.length } basic tail
  else none

end Provision.Punycode
