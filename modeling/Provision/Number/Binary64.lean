/-!
# Binary floating point with 53 bits

Non-negative numbers of the form `m · 2^e` with a 53-bit `m`, and the operations on them that round
to the nearest such number, a tie going to the even neighbour. All arithmetic is on natural numbers.

* `Binary64.ofRatio` rounds a quotient; `mul` and `div` round the exact result.
* `Binary64.shortest` gives the fewest decimal digits that round back to a number.
-/

namespace Provision

/-- A non-negative number: `mantissa · 2^exponent`, or beyond the largest finite number. -/
inductive Binary64 where
  | finite (mantissa : Nat) (exponent : Int)
  | infinite
deriving DecidableEq, Repr

namespace Binary64

/-- The exponent of the smallest step. -/
def minExponent : Int := -1074

/-- The exponent of the largest step. -/
def maxExponent : Int := 971

/-- The least mantissa of 53 bits. -/
def leastMantissa : Nat := 0x10000000000000

/-- `num / den` in units of `2^e`, as numerator and denominator. -/
def inUnits (num den : Nat) (e : Int) : Nat × Nat :=
  if e < 0 then (num * Nat.pow 2 e.natAbs, den) else (num, den * Nat.pow 2 e.natAbs)

/-- The quotient rounded to the nearest whole number, a half to the even one. -/
def roundEven (num den : Nat) : Nat :=
  let q := num / den
  let r := num % den
  if 2 * r < den then q else if den < 2 * r then q + 1 else q + q % 2

/-- The exponent at which the quotient has 53 bits, or the least one. -/
def unitOf (num den : Nat) : Int :=
  let guess : Int := (num.log2 : Int) - den.log2 - 52
  let (n, d) := inUnits num den guess
  max minExponent (if n / d < leastMantissa then guess - 1 else guess)

/-- The number nearest to `num / den`. -/
def ofRatio (num den : Nat) : Binary64 :=
  if num = 0 then .finite 0 minExponent
  else
    let e := unitOf num den
    let (n, d) := inUnits num den e
    let m := roundEven n d
    let (m, e) := if m = 2 * leastMantissa then (leastMantissa, e + 1) else (m, e)
    if maxExponent < e then .infinite else .finite m e

/-- The number nearest to a natural number. -/
def ofNat (n : Nat) : Binary64 := ofRatio n 1

/-- A finite number as a quotient. -/
def ratio (m : Nat) (e : Int) : Nat × Nat :=
  if e < 0 then (m, Nat.pow 2 e.natAbs) else (m * Nat.pow 2 e.natAbs, 1)

/-- The rounded product. -/
def mul : Binary64 → Binary64 → Binary64
  | .finite m₁ e₁, .finite m₂ e₂ =>
    let (n, d) := ratio (m₁ * m₂) (e₁ + e₂)
    ofRatio n d
  | _, _ => .infinite

/-- The rounded quotient by a positive number. -/
def div : Binary64 → Binary64 → Binary64
  | .finite m₁ e₁, .finite m₂ e₂ =>
    let (n₁, d₁) := ratio m₁ e₁
    let (n₂, d₂) := ratio m₂ e₂
    ofRatio (n₁ * d₂) (d₁ * n₂)
  | _, _ => .infinite

/-- Is the number zero? -/
def isZero : Binary64 → Bool
  | .finite m _ => m == 0
  | .infinite => false

/-- A decimal `digits · 10^scale` as a quotient. -/
def decimalRatio (digits : Nat) (scale : Int) : Nat × Nat :=
  if scale < 0 then (digits, Nat.pow 10 scale.natAbs) else (digits * Nat.pow 10 scale.natAbs, 1)

/-- The number nearest to a decimal. -/
def ofDecimal (digits : Nat) (scale : Int) : Binary64 :=
  let (n, d) := decimalRatio digits scale
  ofRatio n d

/-- Among the decimals with the given scale that round to `x`, the one nearest to it. -/
def onGrid? (x : Binary64) (num den : Nat) (scale : Int) : Option Nat :=
  let power := Nat.pow 10 scale.natAbs
  let (n, d) := if scale < 0 then (num * power, den) else (num, den * power)
  let low := n / d
  let high := low + 1
  let lowHits := 0 < low && ofDecimal low scale == x
  let highHits := ofDecimal high scale == x
  if lowHits && highHits then some (roundEven n d)
  else if lowHits then some low
  else if highHits then some high
  else none

/-- The number of decimal digits before the point of `num / den`, zero or less below one tenth. -/
def magnitude (num den : Nat) : Int :=
  if den ≤ num then ((Nat.toDigits 10 (num / den)).length : Int)
  else
    -- the least k with den ≤ num · 10^k has k - 1 zeros after the point
    1 - ((List.range 400).find? (fun k => den ≤ num * Nat.pow 10 k)).getD 400

/-- The fewest digits that round back to a positive number `m · 2^e`: the digits as a whole number
and the power of ten that they are to be multiplied by. -/
def shortest (m : Nat) (e : Int) : Nat × Int :=
  let (num, den) := ratio m e
  let top := magnitude num den
  let found := (List.range 17).findSome? fun k =>
    let scale := top - (k + 1 : Nat)
    (onGrid? (.finite m e) num den scale).map fun digits => (digits, scale)
  found.getD (0, 0)

end Binary64

end Provision
