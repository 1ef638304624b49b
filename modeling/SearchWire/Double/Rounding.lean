import SearchWire.Double.Basic

/-!
# Rounding to the nearest double

The one rounding rule of the library: an exact fraction goes to the nearest double, a tie goes to
the neighbour with an even last bit, and a fraction beyond the largest finite double goes to
infinity. The rule is stated on natural numbers; a carry out of the fraction bits moves into the
exponent bits by plain addition, so the pattern needs no second normalisation.
-/
namespace SearchWire.Double

/-- The quotient rounded to the nearest integer, a tie to the even neighbour. -/
def divideToEven (numerator denominator : Nat) : Nat :=
  let quotient := numerator / denominator
  let twice := 2 * (numerator % denominator)
  if twice < denominator then quotient
  else if denominator < twice then quotient + 1
  else quotient + quotient % 2

/-- The largest integer `e` with `2 ^ e ≤ numerator / denominator`, for positive arguments. -/
def leadingExponent (numerator denominator : Nat) : Int :=
  let guess : Int := numerator.log2 - denominator.log2
  if denominator <<< guess.toNat ≤ numerator <<< (-guess).toNat then guess else guess - 1

/-- Pattern, without a sign, of the double nearest to a fraction. The exponent of the last place
is at least `-1074`, which makes the smallest numbers share the spacing of the subnormals. -/
def nearestMagnitude (numerator denominator : Nat) : Nat :=
  if numerator = 0 then 0
  else
    let last := max (leadingExponent numerator denominator - 52) (-1074)
    let units := divideToEven (numerator <<< (-last).toNat) (denominator <<< last.toNat)
    min ((last + 1074).toNat * leadingBit + units) infinityMagnitude

/-- The double nearest to a fraction of the given sign. -/
def ofFraction (negative : Bool) (numerator denominator : Nat) : Double :=
  ofMagnitude negative (nearestMagnitude numerator denominator)

/-- The double nearest to an integer. -/
def ofInt (n : Int) : Double :=
  ofFraction (decide (n < 0)) n.natAbs 1

/-- The double nearest to the product of two finite numbers taken without their signs. -/
def productMagnitude (a b : Double) : Nat :=
  let q := a.exponent + b.exponent
  nearestMagnitude ((a.significand * b.significand) <<< q.toNat) (1 <<< (-q).toNat)

/-- The double nearest to the quotient of two finite numbers taken without their signs, the second
of which is not zero. -/
def quotientMagnitude (a b : Double) : Nat :=
  let q := a.exponent - b.exponent
  nearestMagnitude (a.significand <<< q.toNat) (b.significand <<< (-q).toNat)

end SearchWire.Double
