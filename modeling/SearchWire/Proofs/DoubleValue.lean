import SearchWire.Double.Basic
import Mathlib.Algebra.Order.Field.Power
import Mathlib.Data.Rat.Cast.Order
import Mathlib.Tactic.FieldSimp
import Mathlib.Tactic.Linarith
import Mathlib.Tactic.Positivity
import Mathlib.Tactic.Ring

/-!
# The numbers that doubles stand for

A finite double stands for a signed integer below `2 ^ 53` times a power of two that is at least
`2 ^ -1074`. It is an integer exactly if the integer that is computed from its pattern is there, and
that one is its value.
-/
namespace SearchWire.Double

/-- A power with an exponent of any sign is a quotient of two with natural exponents. -/
theorem zpow_eq_div {b : ℚ} (nonzero : b ≠ 0) (q : ℤ) : b ^ q = b ^ q.toNat / b ^ (-q).toNat := by
  nth_rewrite 1 [← Int.toNat_sub_toNat_neg q]
  rw [zpow_sub₀ nonzero, zpow_natCast, zpow_natCast]

/-- A shift to the left multiplies by a power of two. -/
theorem cast_shiftLeft (n k : ℕ) : ((n <<< k : ℕ) : ℚ) = n * 2 ^ k := by
  rw [Nat.shiftLeft_eq]
  push_cast
  rfl

/-- The significand with the sign of the number. -/
def coefficient (d : Double) : ℤ := if d.isNegative then -d.significand else d.significand

/-- The number that a finite double stands for. -/
def value (d : Double) : ℚ := d.coefficient * 2 ^ d.exponent

/-- The absolute value of a finite double. -/
def absValue (d : Double) : ℚ := d.significand * 2 ^ d.exponent

/-- A number with a sign in front of it. -/
def signed (negative : Bool) (x : ℚ) : ℚ := if negative then -x else x

/-- The value of a double is its absolute value with the sign of the pattern. -/
theorem value_eq_signed (d : Double) : d.value = signed d.isNegative d.absValue := by
  rw [value, coefficient, signed, absValue]
  cases d.isNegative with
  | false => simp only [Bool.false_eq_true, if_false, Int.cast_natCast]
  | true => simp only [if_true, Int.cast_neg, Int.cast_natCast, neg_mul]

/-- A sign can be moved from one number to the other when the distance between them is taken. -/
theorem abs_signed_sub (negative : Bool) (x y : ℚ) :
    |signed negative x - y| = |x - signed negative y| := by
  cases negative with
  | false => rfl
  | true =>
    simp only [signed, if_true]
    rw [← abs_neg, neg_sub, sub_neg_eq_add, sub_neg_eq_add, add_comm]

/-- A sign leaves the absolute value. -/
theorem abs_signed (negative : Bool) (x : ℚ) : |signed negative x| = |x| := by
  cases negative with
  | false => rfl
  | true => exact abs_neg x

/-- Two signs cancel each other. -/
theorem signed_signed (negative : Bool) (x : ℚ) : signed negative (signed negative x) = x := by
  cases negative with
  | false => rfl
  | true => exact neg_neg x

/-- A sign in front of a natural number makes it an integer. -/
theorem signed_natCast (negative : Bool) (n : ℕ) :
    signed negative n = ((if negative then -(n : ℤ) else n : ℤ) : ℚ) := by
  cases negative with
  | false => rfl
  | true => simp only [signed, if_true, Int.cast_neg, Int.cast_natCast]

/-- An integer is its size with its sign. -/
theorem signed_natAbs (n : ℤ) : signed (decide (n < 0)) n.natAbs = n := by
  rw [signed_natCast, Int.cast_inj]
  simp only [decide_eq_true_eq]
  omega

/-- A significand has at most 53 bits. -/
theorem significand_lt (d : Double) : d.significand < 2 ^ 53 := by
  have unit : leadingBit = 2 ^ 52 := rfl
  have fraction : d.magnitude % leadingBit < leadingBit := Nat.mod_lt _ (by decide)
  unfold significand
  split <;> omega

/-- A coefficient has at most 53 bits beside its sign. -/
theorem abs_coefficient_lt (d : Double) : |d.coefficient| < 2 ^ 53 := by
  have bound := d.significand_lt
  have size : |d.coefficient| = d.significand := by
    unfold coefficient
    split
    · rw [abs_neg, Nat.abs_cast]
    · exact Nat.abs_cast _
  rw [size]
  exact_mod_cast bound

/-- No double is spaced more finely than the subnormal ones. -/
theorem neg_1074_le_exponent (d : Double) : -1074 ≤ d.exponent := by
  unfold exponent
  split
  · exact le_rfl
  · next normal =>
    have one : 1 ≤ d.magnitude / leadingBit :=
      (Nat.one_le_div_iff (by decide)).mpr (Nat.not_lt.mp normal)
    omega

/-- A significand times a power of two is an integer exactly if the places behind the point are
zeros, and then it is the significand moved by the exponent. -/
theorem shifted_eq_iff (m : ℕ) (q n : ℤ) :
    m % (1 <<< (-q).toNat) = 0 ∧ (((m / (1 <<< (-q).toNat)) <<< q.toNat : ℕ) : ℤ) = n ↔
      (m : ℚ) * 2 ^ q = n := by
  rw [Nat.one_shiftLeft, zpow_eq_div two_ne_zero]
  rcases le_or_gt 0 q with whole | fraction
  · have none : (-q).toNat = 0 := by omega
    simp only [none, pow_zero, Nat.mod_one, Nat.div_one, div_one, true_and]
    rw [← Int.cast_inj (α := ℚ), Int.cast_natCast, cast_shiftLeft]
  · have none : q.toNat = 0 := by omega
    have positive : (0 : ℚ) < 2 ^ (-q).toNat := by positivity
    simp only [none, pow_zero, Nat.shiftLeft_zero, mul_one_div]
    rw [div_eq_iff positive.ne']
    constructor
    · rintro ⟨even, rfl⟩
      exact_mod_cast (Nat.div_mul_cancel (Nat.dvd_of_mod_eq_zero even)).symm
    · intro same
      have multiple : (m : ℤ) = n * 2 ^ (-q).toNat := by exact_mod_cast same
      have divides : 2 ^ (-q).toNat ∣ m := by
        rw [← Int.natCast_dvd_natCast, multiple]
        push_cast
        exact Dvd.intro_left n rfl
      refine ⟨Nat.mod_eq_zero_of_dvd divides, ?_⟩
      rw [Int.natCast_div, multiple]
      push_cast
      exact Int.mul_ediv_cancel n (by positivity)

/-- The integer that is computed from the pattern of a finite double is its value. -/
theorem integer?_eq_some_iff {d : Double} {n : ℤ} :
    d.integer? = some n ↔ d.isFinite = true ∧ d.value = n := by
  cases finite : d.isFinite with
  | false => simp [integer?, finite]
  | true =>
    simp only [integer?, finite, if_true, true_and, value, coefficient,
      Option.ite_none_right_eq_some, Option.some_inj]
    cases d.isNegative with
    | false =>
      simp only [Bool.false_eq_true, if_false, Int.cast_natCast]
      exact shifted_eq_iff d.significand d.exponent n
    | true =>
      simp only [if_true, Int.cast_neg, Int.cast_natCast]
      rw [neg_mul, neg_eq_iff_eq_neg, neg_eq_iff_eq_neg, ← Int.cast_neg]
      exact shifted_eq_iff d.significand d.exponent (-n)

end SearchWire.Double
