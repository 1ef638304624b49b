/-!
# Binary64 numbers

A double is kept as its bit pattern. Everything a command or a reply needs to know about one is
computed here from the pattern with exact integer arithmetic: its class, its order among the other
numbers, and the integer pair `(m, q)` with value `m * 2 ^ q`. Equality of the type is equality of
patterns, so a NaN keeps its payload and `-0` differs from `0`; the numeric comparisons are
functions of their own.
-/
namespace SearchWire

/-- A binary64 number, kept as its bit pattern. -/
structure Double where
  /-- Sign, exponent and fraction, from the highest bit down. -/
  bits : UInt64
deriving DecidableEq, Inhabited

namespace Double

/-- The weight of the sign bit. -/
def signBit : Nat := 0x8000000000000000

/-- The weight of the lowest exponent bit, which is also the leading bit that the fraction of a
normal number leaves out. -/
def leadingBit : Nat := 0x10000000000000

/-- Pattern of the infinities without their sign. -/
def infinityMagnitude : Nat := 0x7ff0000000000000

/-- The number with the given sign and the given pattern below the sign bit. -/
def ofMagnitude (negative : Bool) (magnitude : Nat) : Double :=
  ⟨UInt64.ofNat ((if negative then signBit else 0) + magnitude)⟩

/-- The positive zero. -/
def zero : Double := ofMagnitude false 0

/-- The number one. -/
def one : Double := ofMagnitude false 0x3ff0000000000000

/-- An infinity of the given sign. -/
def infinity (negative : Bool) : Double := ofMagnitude negative infinityMagnitude

/-- The quiet NaN of the given sign with an empty payload. -/
def nan (negative : Bool) : Double := ofMagnitude negative 0x7ff8000000000000

/-- Whether the sign bit is set. -/
def isNegative (d : Double) : Bool := decide (signBit ≤ d.bits.toNat)

/-- The pattern below the sign bit. -/
def magnitude (d : Double) : Nat := d.bits.toNat % signBit

/-- Whether the number is neither infinite nor a NaN. -/
def isFinite (d : Double) : Bool := decide (d.magnitude < infinityMagnitude)

/-- Whether the pattern stands for no number. -/
def isNaN (d : Double) : Bool := decide (infinityMagnitude < d.magnitude)

/-- The integer `m` of the absolute value `m * 2 ^ q` of a finite number. -/
def significand (d : Double) : Nat :=
  if d.magnitude < leadingBit then d.magnitude else d.magnitude % leadingBit + leadingBit

/-- The integer `q` of the absolute value `m * 2 ^ q` of a finite number. -/
def exponent (d : Double) : Int :=
  if d.magnitude < leadingBit then -1074 else (d.magnitude / leadingBit : Nat) - 1075

/-- Position among the numbers that are not NaN: patterns grow with the absolute value, and the
two zeros share one place. -/
def rank (d : Double) : Int :=
  if d.isNegative then -(d.magnitude : Int) else d.magnitude

/-- Numeric equality: a NaN equals nothing, and the two zeros are equal. -/
def numericEq (a b : Double) : Bool :=
  !a.isNaN && !b.isNaN && decide (a.rank = b.rank)

/-- Numeric order: a NaN is below nothing and above nothing. -/
def numericLe (a b : Double) : Bool :=
  !a.isNaN && !b.isNaN && decide (a.rank ≤ b.rank)

/-- Whether the number lies between zero and one, both included. -/
def inUnitInterval (d : Double) : Bool :=
  zero.numericLe d && d.numericLe one

/-- The integer that a finite number with no fraction is. -/
def integer? (d : Double) : Option Int :=
  if d.isFinite then
    let unit := 1 <<< (-d.exponent).toNat
    if d.significand % unit = 0 then
      let size : Int := ((d.significand / unit) <<< d.exponent.toNat : Nat)
      some (if d.isNegative then -size else size)
    else none
  else none

end Double

end SearchWire
