import Superstep.Decimal.Binary64
import Superstep.Text.Digits

/-!
# Reading decimals

A decimal in a text, as the binary number that is nearest to it.
-/

namespace Superstep.Binary64

/-- An exponent with its mark, or nothing, which stands for zero. -/
def exponent? : List Char → Option Int
  | [] => some 0
  | c :: cs =>
    if c = 'e' || c = 'E' then
      match cs with
      | '-' :: digits => (Text.natural? 10 digits).map fun n => -(n : Int)
      | '+' :: digits => (Text.natural? 10 digits).map fun n => (n : Int)
      | digits => (Text.natural? 10 digits).map fun n => (n : Int)
    else none

/-- A decimal without a sign: digits with an optional point among them, at least one digit, and an
optional exponent. -/
def decimal? (text : List Char) : Option Decimal := do
  let whole := text.takeWhile Char.isDigit
  let afterWhole := text.dropWhile Char.isDigit
  let (fraction, afterFraction) := match afterWhole with
    | '.' :: cs => (cs.takeWhile Char.isDigit, cs.dropWhile Char.isDigit)
    | cs => ([], cs)
  let digits ← Text.natural? 10 (whole ++ fraction)
  let exponent ← exponent? afterFraction
  return ⟨digits, exponent - fraction.length⟩

/-- The number nearest to a decimal with an optional sign, unless it is beyond the format. -/
def ofText? (text : List Char) : Option Binary64 := do
  let (negative, unsigned) := match text with
    | '-' :: cs => (true, cs)
    | '+' :: cs => (false, cs)
    | cs => (false, cs)
  let decimal ← decimal? unsigned
  ofDecimal? negative decimal.digits decimal.power

end Superstep.Binary64
