import SearchWire.Double.Rounding

/-!
# Doubles read from decimal text

A number is an optional sign, digits with an optional point among or around them, and an optional
exponent; at least one digit stands before the exponent. Independently of case, `inf`, `infinity`
and `nan` are read too. The digits denote an exact fraction, which is rounded once.
-/
namespace SearchWire

namespace Decimal

/-- Value of a list of decimal digits. -/
def value (digits : List Char) : Nat :=
  digits.foldl (fun high digit => 10 * high + (digit.toNat - '0'.toNat)) 0

/-- Value of a non-empty list that holds digits only. -/
def natural? (digits : List Char) : Option Nat :=
  if digits ≠ [] ∧ digits.all Char.isDigit then some (value digits) else none

/-- The value of a list that is read is the one of its digits. -/
theorem natural?_eq_some_iff {digits : List Char} {n : Nat} :
    natural? digits = some n ↔
      digits ≠ [] ∧ (∀ c ∈ digits, c.isDigit = true) ∧ value digits = n := by
  simp only [natural?, List.all_eq_true]
  split
  · next read =>
    rw [Option.some.injEq, ← and_assoc]
    exact (and_iff_right read).symm
  · next refused =>
    simp only [reduceCtorEq, false_iff]
    exact fun ⟨present, numeric, _⟩ => refused ⟨present, numeric⟩

/-- A number is the value of its digits. -/
theorem natural?_toDigits (n : Nat) : natural? (Nat.toDigits 10 n) = some n := by
  refine natural?_eq_some_iff.mpr ⟨Nat.toDigits_ne_nil, ?_, ?_⟩
  · exact fun c inside => Nat.isDigit_of_mem_toDigits (by decide) (by decide) inside
  · have read := Nat.ofDigitChars_ten_toDigits (n := n)
    rw [Nat.ofDigitChars_eq_foldl] at read
    exact read

/-- Strip one sign from the front; the flag says whether it was a minus. -/
def splitSign : List Char → Bool × List Char
  | '-' :: rest => (true, rest)
  | '+' :: rest => (false, rest)
  | text => (false, text)

/-- An integer: an optional sign and at least one digit, nothing else. -/
def integer? (text : List Char) : Option Int :=
  let (negative, digits) := splitSign text
  (natural? digits).map fun size => if negative then -(size : Int) else size

end Decimal

namespace Double

/-- The double nearest to `coefficient * 10 ^ exponent`. Far outside the range of the finite
doubles the result is settled from the position of the first digit alone. -/
def ofDecimal (negative : Bool) (coefficient : Nat) (exponent : Int) : Double :=
  let leading := exponent + (Nat.toDigits 10 coefficient).length
  if coefficient = 0 then ofMagnitude negative 0
  else if 400 < leading then infinity negative
  else if leading < -400 then ofMagnitude negative 0
  else
    ofFraction negative (coefficient * Nat.pow 10 exponent.toNat) (Nat.pow 10 (-exponent).toNat)

/-- The exponent part of a number: nothing, or a mark and an integer. -/
def exponentPart? : List Char → Option Int
  | [] => some 0
  | mark :: text => if mark = 'e' ∨ mark = 'E' then Decimal.integer? text else none

/-- A number without its sign and in digits. -/
def digits? (negative : Bool) (text : List Char) : Option Double :=
  let whole := text.takeWhile Char.isDigit
  let afterWhole := text.dropWhile Char.isDigit
  let (fraction, afterDigits) :=
    match afterWhole with
    | '.' :: rest => (rest.takeWhile Char.isDigit, rest.dropWhile Char.isDigit)
    | rest => ([], rest)
  if whole = [] ∧ fraction = [] then none
  else
    (exponentPart? afterDigits).map fun exponent =>
      ofDecimal negative (Decimal.value (whole ++ fraction)) (exponent - fraction.length)

/-- Read a whole text as a double. -/
def ofChars? (text : List Char) : Option Double :=
  let (negative, rest) := Decimal.splitSign text
  let word := String.ofList (rest.map Char.toLower)
  if word = "inf" ∨ word = "infinity" then some (infinity negative)
  else if word = "nan" then some (nan negative)
  else digits? negative rest

end Double

end SearchWire
