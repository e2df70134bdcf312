/-
# The range of a double

A number in decimal is out of range when its double would be infinite.  There are two ways to get
that double: to round the number as a whole, or to round its digits and its power of ten each on
its own and then their product, which can differ near the end of the range.
-/

namespace VerseQuery

/-- The least number that is too large to be rounded to a double. -/
def doubleBound : Nat := Nat.pow 2 1024 - Nat.pow 2 970

/-- Whether `mantissa` times the power of ten is within the range of a double.  Powers far out of
that range are told by the number of digits alone. -/
def isWithinDouble (mantissa : Nat) (exponent : Int) : Bool :=
  let size : Int := (Nat.toDigits 10 mantissa).length + exponent
  if mantissa = 0 || size < 300 then true
  else if 320 < size then false
  else if 0 ≤ exponent then mantissa * Nat.pow 10 exponent.toNat < doubleBound
  else mantissa < doubleBound * Nat.pow 10 (-exponent).toNat

/-- The quotient rounded to the nearest whole number, a half to the even one. -/
def roundedQuotient (n unit : Nat) : Nat :=
  let below := n / unit
  let rest := n % unit
  if 2 * rest < unit || (2 * rest == unit && below % 2 == 0) then below else below + 1

/-- The nearest number of 53 binary digits followed by zeros. -/
def roundToDouble (n : Nat) : Nat :=
  let unit := Nat.pow 2 (n.log2 - 52)
  roundedQuotient n unit * unit

/-- Whether the product of the double of `mantissa` and that of the power of ten is within range.
No power of ten above the 308th has a double. -/
def isProductWithinDouble (mantissa : Nat) (exponent : Int) : Bool :=
  if mantissa = 0 || exponent ≤ 0 then true
  else if 308 < exponent then false
  else roundToDouble mantissa * roundToDouble (Nat.pow 10 exponent.toNat) < doubleBound

end VerseQuery
