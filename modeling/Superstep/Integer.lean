/-!
# Ranges of integers

The integers that fit in a number of bits, with a sign or without one.
-/

namespace Superstep

def fitsSigned64 (n : Int) : Bool := -9223372036854775808 ≤ n && n ≤ 9223372036854775807

/-- The integers of sixty-four bits without a sign. -/
def fitsUnsigned64 (n : Int) : Bool := 0 ≤ n && n ≤ 18446744073709551615

/-- The integers of a hundred and twenty-eight bits, with a sign or without one. -/
def fits128 (n : Int) : Bool :=
  -170141183460469231731687303715884105728 ≤ n && n ≤ 340282366920938463463374607431768211455

end Superstep
