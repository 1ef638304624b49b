import SearchWire.Double.Basic

/-!
# The shortest decimal text of a double

A finite double is written with the fewest digits that still read back as the same double. The
reals that read back as it form an interval around it whose ends belong to it exactly when its
significand is even. On the grid of decimals with `n` digits only the two neighbours of the value
need to be tried: if any point of the grid lies in the interval, one of them does. The first `n`
with a hit wins; of two hits the nearer wins, and of two equally near ones the larger.

The digits are then written positionally, never with an exponent and never with a trailing zero
after the point.
-/
namespace SearchWire

/-- The number `coefficient * 10 ^ exponent`. -/
structure Decimal where
  /-- The digits, read as one natural number. -/
  coefficient : Nat
  /-- The power of ten of the last digit. -/
  exponent : Int
deriving DecidableEq, Repr

namespace Decimal

/-- Decimal digits of a natural number; zero has one. -/
def digitCount (n : Nat) : Nat := (Nat.toDigits 10 n).length

/-- All digits before the point, then, after a point, the digits of the fraction, if any. -/
def positional (d : Decimal) : String :=
  let digits := Nat.toDigits 10 d.coefficient
  let places := (-d.exponent).toNat
  if 0 ≤ d.exponent then String.ofList (digits ++ List.replicate d.exponent.toNat '0')
  else if places < digits.length then
    String.ofList (digits.take (digits.length - places) ++
      '.' :: digits.drop (digits.length - places))
  else String.ofList ('0' :: '.' :: (List.replicate (places - digits.length) '0' ++ digits))

end Decimal

namespace Double

/-- The interval of reals that round to a positive double, in quarters of its last place: the
lower end, the value and the upper end. Below a power of two the spacing halves. -/
def quarters (d : Double) : Nat × Nat × Nat :=
  let m := d.significand
  let below := if m = leadingBit ∧ -1074 < d.exponent then 1 else 2
  (4 * m - below, 4 * m, 4 * m + 2)

/-- The neighbour of a positive double on the grid of multiples of `10 ^ place` that reads back as
the double, if there is one: the nearer of two, and the larger of two equally near ones. -/
def onGrid? (d : Double) (place : Int) : Option Decimal :=
  let scale := d.exponent - 2
  let unit := Nat.pow 10 place.toNat <<< (-scale).toNat
  let quarter := Nat.pow 10 (-place).toNat <<< scale.toNat
  let (low, value, high) := d.quarters
  let inside := fun (count : Nat) =>
    if d.significand % 2 = 0 then
      decide (low * quarter ≤ count * unit) && decide (count * unit ≤ high * quarter)
    else decide (low * quarter < count * unit) && decide (count * unit < high * quarter)
  let floor := value * quarter / unit
  let upper := 2 * (value * quarter % unit)
  match inside floor, inside (floor + 1) with
  | true, true => some ⟨if upper < unit then floor else floor + 1, place⟩
  | true, false => some ⟨floor, place⟩
  | false, true => some ⟨floor + 1, place⟩
  | false, false => none

/-- So many places behind the point, every positive double has a digit. -/
def scalePlaces : Nat := 330

/-- The number of digits before the point of a positive double; zero or negative below one tenth.
Scaled by `10 ^ scalePlaces` every positive double is at least one, and the digits are counted
exactly. -/
def wholeDigits (d : Double) : Int :=
  let scaled :=
    (d.significand * Nat.pow 10 scalePlaces) <<< d.exponent.toNat >>> (-d.exponent).toNat
  (Decimal.digitCount scaled : Int) - scalePlaces

/-- The shortest decimal that reads back as a positive finite double. Seventeen digits always
suffice. A carry into a new digit leaves one trailing zero, which moves into the exponent. -/
def shortest (d : Double) : Decimal :=
  let found := (List.range 17).findSome? fun (more : Nat) => d.onGrid? (d.wholeDigits - (more + 1 : Nat))
  match found with
  | some ⟨coefficient, place⟩ =>
    if coefficient % 10 = 0 then ⟨coefficient / 10, place + 1⟩ else ⟨coefficient, place⟩
  | none => ⟨0, 0⟩

/-- The text of a double: the shortest positional digits, `-0` with its sign, `inf`, `-inf` and
`NaN`. -/
def text (d : Double) : String :=
  if d.isNaN then "NaN"
  else
    let size :=
      if !d.isFinite then "inf"
      else if d.magnitude = 0 then "0"
      else d.shortest.positional
    if d.isNegative then "-" ++ size else size

end Double

end SearchWire
