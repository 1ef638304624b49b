import SearchWire.Double.Reading
import SearchWire.Json.Basic

/-!
# Numbers of a data exchange

A number is an optional minus, digits without a leading zero, and optionally a fraction and an
exponent. Without fraction and exponent it is an integer as long as a 64-bit word holds it; `-0` is
the double that keeps its sign.

Any other number becomes a double in three roundings: digits are collected into one significand as
long as it fits 64 bits, the significand is rounded to a double, and the double is multiplied with
or divided by the rounded power of ten. A result beyond the largest double stands for no value.
-/
namespace SearchWire.Json

/-- The parts of a number. -/
structure Numeral where
  /-- Whether a minus stands in front. -/
  negative : Bool
  /-- The digits before the point. -/
  whole : List Char
  /-- The digits behind the point, if there is one. -/
  fraction : Option (List Char)
  /-- The exponent, if there is one: whether it is negative, and its digits. -/
  exponent : Option (Bool × List Char)

namespace Numeral

/-- Read at least one digit. -/
def digits? (text : List Char) : Option (List Char × List Char) :=
  let digits := text.takeWhile Char.isDigit
  if digits = [] then none else some (digits, text.dropWhile Char.isDigit)

/-- Read a numeral from the front of a text and return what follows it. -/
def read? (text : List Char) : Option (Numeral × List Char) := do
  let (negative, rest) :=
    match text with
    | '-' :: rest => (true, rest)
    | rest => (false, rest)
  let (whole, rest) ← digits? rest
  if whole.length ≠ 1 ∧ whole.head? = some '0' then none
  else
    let (fraction, rest) ←
      match rest with
      | '.' :: rest => (digits? rest).map fun (digits, rest) => (some digits, rest)
      | rest => some (none, rest)
    match rest with
    | 'e' :: rest | 'E' :: rest =>
      let (below, rest) := Decimal.splitSign rest
      let (digits, rest) ← digits? rest
      return (⟨negative, whole, fraction, some (below, digits)⟩, rest)
    | rest => return (⟨negative, whole, fraction, none⟩, rest)

/-- Collect digits into a significand until one more would not fit 64 bits; the count tells how
many were collected. -/
def collect (significand : Nat) : List Char → Nat × Nat
  | [] => (significand, 0)
  | c :: rest =>
    let next := 10 * significand + (c.toNat - '0'.toNat)
    if next ≤ 0xffffffffffffffff then
      let (total, count) := collect next rest
      (total, count + 1)
    else (significand, 0)

/-- The double nearest to a power of ten whose exponent is at most 308. -/
def powerOfTen (exponent : Nat) : Double := Double.ofFraction false (Nat.pow 10 exponent) 1

/-- Divide by powers of ten until the exponent is used up or nothing is left. -/
def scaleDown (d : Double) (exponent : Nat) : Double :=
  if exponent ≤ 308 then
    Double.ofMagnitude false (Double.quotientMagnitude d (powerOfTen exponent))
  else if d.magnitude = 0 then d
  else
    scaleDown (Double.ofMagnitude false (Double.quotientMagnitude d (powerOfTen 308)))
      (exponent - 308)
termination_by exponent

/-- The double of a significand and a power of ten, if it is finite. -/
def scaled? (significand : Nat) (exponent : Int) : Option Double :=
  let d := Double.ofInt significand
  if exponent < 0 then some (scaleDown d exponent.natAbs)
  else if exponent ≤ 308 then
    let magnitude := Double.productMagnitude d (powerOfTen exponent.natAbs)
    if magnitude < Double.infinityMagnitude then some (Double.ofMagnitude false magnitude) else none
  else if significand = 0 then some d
  else none

/-- The exponent of a numeral; one that no signed 32-bit word holds is told by its sign alone. -/
def exponent? (n : Numeral) : Except Bool Int :=
  match n.exponent with
  | none => .ok 0
  | some (below, digits) =>
    let size := Decimal.value digits
    if size ≤ 0x7fffffff then .ok (if below then -(size : Int) else size) else .error below

/-- The double of a numeral, without its sign, if it is finite. -/
def magnitude? (n : Numeral) : Option Double :=
  let (first, kept) := collect 0 n.whole
  let (significand, places) := collect first (n.fraction.getD [])
  match n.exponent? with
  | .ok exponent => scaled? significand ((n.whole.length - kept : Nat) - places + exponent)
  | .error true => some .zero
  | .error false => if significand = 0 then some .zero else none

/-- The value of a numeral. -/
def value (n : Numeral) : Json :=
  let size := Decimal.value n.whole
  let isInteger := n.fraction.isNone && n.exponent.isNone
  if isInteger && !n.negative && decide (size ≤ 0xffffffffffffffff) then .integer size
  else if isInteger && n.negative && decide (0 < size) && decide (size ≤ 0x8000000000000000) then
    .integer (-(size : Int))
  else
    match n.magnitude? with
    | some d => .double (Double.ofMagnitude n.negative d.magnitude)
    | none => .valueless

end Numeral

end SearchWire.Json
