import Superstep.Decimal.Binary64

/-!
# Writing decimals

How the shortest decimal of a binary number is laid out as text.
-/

namespace Superstep

/-- Where a layout changes from positional to scientific notation. The bounds are on `k` for a number
`0.d₁d₂… * 10 ^ k`. -/
structure DecimalLayout where
  /-- The greatest `k` that is written positionally. -/
  greatest : Int
  /-- The least `k` that is written positionally. -/
  least : Int
  deriving DecidableEq, Repr

namespace DecimalLayout

def zeros (count : Nat) : List Char := List.replicate count '0'

/-- The text of a positive decimal. Positional texts always have a point, scientific ones only between
digits, and their exponents have no plus sign. -/
def write (layout : DecimalLayout) (decimal : Binary64.Decimal) : List Char :=
  let digits := Nat.toDigits 10 decimal.digits
  let k : Int := digits.length + decimal.power
  if 0 < k ∧ k ≤ layout.greatest then
    if digits.length ≤ k then digits ++ zeros (k.toNat - digits.length) ++ ['.', '0']
    else digits.take k.toNat ++ '.' :: digits.drop k.toNat
  else if layout.least ≤ k ∧ k ≤ 0 then ['0', '.'] ++ zeros (-k).toNat ++ digits
  else
    let fraction := if digits.length = 1 then [] else '.' :: digits.drop 1
    digits.take 1 ++ fraction ++ 'e' :: (toString (k - 1)).toList

def text (layout : DecimalLayout) (number : Binary64) : String :=
  let sign := if number.negative then ['-'] else []
  let magnitude :=
    if number.mantissa = 0 then ['0', '.', '0']
    else layout.write (Binary64.shortest number.mantissa number.exponent)
  String.ofList (sign ++ magnitude)

/-- Numbers are positional from `0.0000d` up to sixteen digits before the point. -/
def standard : DecimalLayout := ⟨16, -4⟩

end DecimalLayout

end Superstep
