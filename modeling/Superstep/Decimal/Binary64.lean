/-!
# Finite binary numbers of sixty-four bits

A finite number of the format is `mantissa * 2 ^ exponent`. The module has the nearest such number to a
fraction, and the shortest decimal that is nearest to such a number. Everything is exact arithmetic on
natural numbers.
-/

namespace Superstep

/-- A finite binary number of sixty-four bits. The mantissa has at most fifty-three bits, and exactly
fifty-three unless the exponent is the least one. -/
structure Binary64 where
  negative : Bool
  mantissa : Nat
  exponent : Int
  deriving DecidableEq, Repr

namespace Binary64

def minExponent : Int := -1074

def maxExponent : Int := 971

/-- The natural number nearest to `num / den`. Of two that are equally near it is the even one. -/
def roundDiv (num den : Nat) : Nat :=
  let quotient := num / den
  let remainder := num % den
  if 2 * remainder < den then quotient
  else if den < 2 * remainder then quotient + 1
  else if quotient % 2 = 0 then quotient
  else quotient + 1

/-- The fraction `num / den / base ^ exponent`. -/
def scale (base num den : Nat) (exponent : Int) : Nat × Nat :=
  if 0 ≤ exponent then (num, den * Nat.pow base exponent.toNat)
  else (num * Nat.pow base (-exponent).toNat, den)

/-- The mantissa and exponent nearest to a positive fraction, unless it is beyond the format. -/
def nearest? (num den : Nat) : Option (Nat × Int) :=
  -- The fraction lies between `2 ^ (size - 1)` and `2 ^ (size + 1)`.
  let size : Int := (num.log2 : Int) - den.log2
  let low := max (size - 53) minExponent
  let (lowNum, lowDen) := scale 2 num den low
  let exponent := if Nat.pow 2 53 ≤ lowNum / lowDen then low + 1 else low
  let (scaledNum, scaledDen) := scale 2 num den exponent
  let rounded := roundDiv scaledNum scaledDen
  -- Rounding up to a power of two is the only way to leave the mantissa's range.
  let (mantissa, exponent) :=
    if rounded = Nat.pow 2 53 then (Nat.pow 2 52, exponent + 1) else (rounded, exponent)
  if maxExponent < exponent then none else some (mantissa, exponent)

def digitCount (n : Nat) : Nat := (Nat.toDigits 10 n).length

/-- The number nearest to `digits * 10 ^ power`, unless it is beyond the format. Magnitudes far outside
the format are told from the number of digits alone. -/
def ofDecimal? (negative : Bool) (digits : Nat) (power : Int) : Option Binary64 :=
  let zero : Binary64 := ⟨negative, 0, minExponent⟩
  if digits = 0 then some zero
  else
    let magnitude : Int := digitCount digits + power
    if 400 < magnitude then none
    else if magnitude < -400 then some zero
    else
      let (num, den) := scale 10 digits 1 (-power)
      (nearest? num den).map fun (mantissa, exponent) => ⟨negative, mantissa, exponent⟩

structure Decimal where
  digits : Nat
  power : Int
  deriving DecidableEq, Repr

/-- The fractions that are rounded to one number: from `low / den` to `high / den`, the ends included
or not, around `value / den`. -/
structure Interval where
  low : Nat
  value : Nat
  high : Nat
  den : Nat
  closed : Bool
  deriving DecidableEq, Repr

/-- The interval of a positive mantissa and an exponent. It reaches half way to the two neighbours; the
lower neighbour is nearer where the mantissa is a power of two. Ends belong to even mantissas. -/
def interval (mantissa : Nat) (exponent : Int) : Interval :=
  let up := Nat.pow 2 exponent.toNat
  let down := Nat.pow 2 (-exponent).toNat
  let below := if mantissa = Nat.pow 2 52 ∧ minExponent < exponent then 1 else 2
  { low := (4 * mantissa - below) * up
    value := 4 * mantissa * up
    high := (4 * mantissa + 2) * up
    den := 4 * down
    closed := mantissa % 2 = 0 }

namespace Interval

/-- The least `k` with `value / den < 10 ^ k`. It is within four of the first guess. -/
def magnitude (range : Interval) : Int :=
  let size : Int := (range.value.log2 : Int) - range.den.log2
  let guess : Int := (size - 1) * 30103 / 100000 - 1
  let below (k : Int) : Bool :=
    let (num, den) := scale 10 range.value range.den k
    num < den
  guess + ((List.range 6).takeWhile fun (i : Nat) => !below (guess + i)).length

/-- The interval in units of `10 ^ power`. -/
def inUnits (range : Interval) (power : Int) : Interval :=
  if 0 ≤ power then { range with den := range.den * Nat.pow 10 power.toNat }
  else
    let factor := Nat.pow 10 (-power).toNat
    { range with
      low := range.low * factor
      value := range.value * factor
      high := range.high * factor }

def holds (range : Interval) (n : Nat) : Bool :=
  let scaled := n * range.den
  if range.closed then range.low ≤ scaled && scaled ≤ range.high
  else range.low < scaled && scaled < range.high

/-- The whole number in the interval that is nearest to its value, of the two beside the value. -/
def nearestWhole? (range : Interval) : Option Nat :=
  let floor := range.value / range.den
  match range.holds floor, range.holds (floor + 1) with
  | true, true => some (roundDiv range.value range.den)
  | true, false => some floor
  | false, true => some (floor + 1)
  | false, false => none

end Interval

/-- The shortest decimal that is rounded to the number, and of those the nearest to it. Seventeen digits
always suffice. -/
def shortest (mantissa : Nat) (exponent : Int) : Decimal :=
  let range := interval mantissa exponent
  let magnitude := range.magnitude
  let attempt (count : Nat) : Option Decimal :=
    let power := magnitude - count
    -- Rounding up to a power of ten is the only way to gain a digit.
    (range.inUnits power).nearestWhole?.map fun digits =>
      if digits = Nat.pow 10 count then ⟨Nat.pow 10 (count - 1), power + 1⟩ else ⟨digits, power⟩
  ((List.range' 1 17).findSome? attempt).getD ⟨0, 0⟩

end Binary64

end Superstep
