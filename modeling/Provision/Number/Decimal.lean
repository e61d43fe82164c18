import Provision.Number.Binary64

/-!
# Decimal text of a floating-point number

* `Decimal.text` writes the fewest digits that read back. A number with its point within sixteen
  digits, or with at most four zeros after the point, is written out; any other gets an exponent
  with a sign.
-/

namespace Provision.Decimal

/-- Digits without the zeros at their end, and the power of ten adjusted. -/
def strip (digits : Nat) (scale : Int) : Nat × Int :=
  let ds := (Nat.toDigits 10 digits).reverse
  let zeros := (ds.takeWhile (· == '0')).length
  (digits / Nat.pow 10 zeros, scale + zeros)

/-- The exponent part. -/
def exponent (e : Int) : List Char :=
  (if e < 0 then ['e', '-'] else ['e', '+']) ++ Nat.toDigits 10 e.natAbs

/-- The text of the positive number `digits · 10^scale`. -/
def positive (digits : Nat) (scale : Int) : List Char :=
  let (digits, scale) := strip digits scale
  let ds := Nat.toDigits 10 digits
  let point : Int := ds.length + scale
  if 0 ≤ scale && point ≤ 16 then ds ++ List.replicate scale.natAbs '0' ++ ['.', '0']
  else if 0 < point && point ≤ 16 then ds.take point.natAbs ++ '.' :: ds.drop point.natAbs
  else if -5 < point && point ≤ 0 then
    ['0', '.'] ++ List.replicate point.natAbs '0' ++ ds
  else
    let tail := match ds.drop 1 with
      | [] => []
      | more => '.' :: more
    ds.take 1 ++ tail ++ exponent (point - 1)

/-- The text of a number with a sign. -/
def text (negative : Bool) (x : Binary64) : String :=
  let body := match x with
    | .infinite => ['i', 'n', 'f']
    | .finite 0 _ => ['0', '.', '0']
    | .finite m e =>
      let (digits, scale) := Binary64.shortest m e
      positive digits scale
  String.ofList (if negative then '-' :: body else body)

end Provision.Decimal
