import SearchWire.Double.Reading
import SearchWire.Proofs.DoubleGrid
import Mathlib.Data.Rat.Floor

/-!
# Rounding goes to the nearest double

The pattern of a rounded fraction is the one of its point on the grid, with the carry that a full
fraction leaves. A fraction and a decimal therefore become the nearest finite double, unless they go
to infinity. The integers up to the 53rd power of two are doubles, so a number that becomes one of
them is less than one away from it, and does not become another one if it is an integer itself.
-/
namespace SearchWire.Double

/-! ## Patterns -/

/-- A magnitude below the sign bit stays beside a sign. -/
theorem ofMagnitude_spec (negative : Bool) {magnitude : ℕ} (inside : magnitude < signBit) :
    (ofMagnitude negative magnitude).isNegative = negative ∧
      (ofMagnitude negative magnitude).magnitude = magnitude := by
  have unit : signBit = 0x8000000000000000 := rfl
  have bits : (ofMagnitude negative magnitude).bits.toNat =
      (if negative then signBit else 0) + magnitude := by
    apply UInt64.toNat_ofNat_of_lt'
    split <;> simp only [UInt64.size] <;> omega
  rw [isNegative, Double.magnitude, bits]
  cases negative with
  | false =>
    simp only [Bool.false_eq_true, if_false, zero_add, decide_eq_false_iff_not]
    exact ⟨by omega, Nat.mod_eq_of_lt inside⟩
  | true =>
    simp only [if_true, decide_eq_true_eq, Nat.add_mod_left]
    exact ⟨by omega, Nat.mod_eq_of_lt inside⟩

/-- A magnitude below the one of infinity is the one of a finite number. -/
theorem isFinite_ofMagnitude (negative : Bool) {magnitude : ℕ}
    (bounded : magnitude < infinityMagnitude) :
    (ofMagnitude negative magnitude).isFinite = true := by
  have inside : magnitude < signBit := bounded.trans (by decide)
  rw [isFinite, (ofMagnitude_spec negative inside).2]
  exact decide_eq_true bounded

/-- The units of a spacing, added to the pattern of the spacing, are the pattern of their
product. -/
theorem absValue_of_magnitude {d : Double} {k u : ℕ}
    (pattern : d.magnitude = k * leadingBit + u) (carried : u ≤ 2 ^ 53)
    (normal : k = 0 ∨ 2 ^ 52 ≤ u) :
    d.absValue = u * 2 ^ ((k : ℤ) - 1074) ∧ (Even u → Even d.significand) := by
  have unit : leadingBit = 2 ^ 52 := rfl
  rw [unit] at pattern
  rw [absValue, significand, exponent, unit]
  rcases Nat.lt_or_ge d.magnitude (2 ^ 52) with subnormal | leading
  · have none : k = 0 := by omega
    have same : d.magnitude = u := by omega
    rw [if_pos subnormal, if_pos subnormal, same, none]
    exact ⟨rfl, id⟩
  · rw [if_neg (Nat.not_lt.mpr leading), if_neg (Nat.not_lt.mpr leading)]
    rcases Nat.lt_or_ge u (2 ^ 53) with below | carry
    · have fraction : d.magnitude % 2 ^ 52 + 2 ^ 52 = u := by omega
      have place : ((d.magnitude / 2 ^ 52 : ℕ) : ℤ) - 1075 = k - 1074 := by omega
      rw [fraction, place]
      exact ⟨rfl, id⟩
    · have fraction : d.magnitude % 2 ^ 52 + 2 ^ 52 = 2 ^ 52 := by omega
      have place : ((d.magnitude / 2 ^ 52 : ℕ) : ℤ) - 1075 = k - 1074 + 1 := by omega
      have full : u = 2 ^ 53 := le_antisymm carried carry
      rw [fraction, place, full, zpow_add_one₀ two_ne_zero]
      refine ⟨?_, fun _ => ⟨2 ^ 51, rfl⟩⟩
      push_cast
      ring

/-! ## Fractions -/

/-- Whether a double is what a number is rounded to: as near to it as any finite double, and even if
another one is as near. -/
structure RoundsTo (x : ℚ) (d : Double) : Prop where
  /-- The double stands for a number. -/
  finite : d.isFinite = true
  /-- No finite double is nearer. -/
  nearest : ∀ other : Double, other.isFinite = true → |x - d.value| ≤ |x - other.value|
  /-- If there are two nearest ones, it is the even one. -/
  even : ∀ other : Double, other.isFinite = true → |x - other.value| = |x - d.value| →
    other.value ≠ d.value → Even d.significand

/-- A number that is the value of a double is rounded to that double. -/
theorem roundsTo_of_value_eq {x : ℚ} {d : Double} (finite : d.isFinite = true)
    (same : d.value = x) : RoundsTo x d := by
  subst same
  refine ⟨finite, fun other _ => ?_, fun other _ tie apart => ?_⟩
  · rw [sub_self, abs_zero]
    exact abs_nonneg _
  · rw [sub_self, abs_zero, abs_eq_zero, sub_eq_zero] at tie
    exact absurd tie.symm apart

/-- A double whose absolute value is the point of the grid to which a number is rounded is what the
number is rounded to, with the sign of the double. -/
theorem roundsTo_of_grid {d : Double} {x : ℚ} {s : ℤ} {u : ℕ} (finite : d.isFinite = true)
    (rounded : Rounded (x / 2 ^ s) u) (fine : -1074 ≤ s) (normal : -1074 < s → 2 ^ 52 * 2 ^ s ≤ x)
    (size : d.absValue = u * 2 ^ s)
    (parity : Even u → Even d.significand) : RoundsTo (signed d.isNegative x) d := by
  have distance : |signed d.isNegative x - d.value| = |x - (u : ℤ) * 2 ^ s| := by
    rw [abs_signed_sub, value_eq_signed, signed_signed, size, Int.cast_natCast]
  have grid := fun other : Double =>
    nearest_on_grid rounded fine normal (other.dyadic_value.signed d.isNegative)
  refine ⟨finite, fun other _ => ?_, fun other _ tie apart => ?_⟩
  · rw [distance, abs_signed_sub]
    exact (grid other).1
  · rw [distance, abs_signed_sub] at tie
    refine parity ((Int.even_coe_nat u).mp ((grid other).2 tie fun same => apart ?_))
    rw [value_eq_signed d, size, ← Int.cast_natCast u, ← same, signed_signed]

/-- The pattern of a fraction is made of its last place and its units. -/
theorem nearestMagnitude_eq {numerator : ℕ} (denominator : ℕ) (above : 0 < numerator) :
    nearestMagnitude numerator denominator =
      min ((lastPlace numerator denominator + 1074).toNat * leadingBit +
        units numerator denominator) infinityMagnitude := by
  rw [nearestMagnitude, if_neg above.ne']
  rfl

/-- A fraction is rounded to the nearest double unless it goes to infinity. -/
theorem roundsTo_ofFraction (negative : Bool) {numerator denominator : ℕ} (above : 0 < numerator)
    (below : 0 < denominator)
    (finite : (ofFraction negative numerator denominator).isFinite = true) :
    RoundsTo (signed negative (numerator / denominator))
      (ofFraction negative numerator denominator) := by
  let last := lastPlace numerator denominator
  have chosen := nearestMagnitude_eq denominator above
  have inside : nearestMagnitude numerator denominator < signBit := by
    rw [chosen]
    exact (min_le_right _ _).trans_lt (by decide)
  obtain ⟨sign, pattern⟩ := ofMagnitude_spec negative inside
  have plain : nearestMagnitude numerator denominator =
      (last + 1074).toNat * leadingBit + units numerator denominator := by
    have bounded : nearestMagnitude numerator denominator < infinityMagnitude := by
      rw [← pattern]
      exact of_decide_eq_true finite
    rw [chosen] at bounded ⊢
    exact min_eq_left (by omega)
  obtain ⟨rounded, carried, leading⟩ := units_spec above below
  obtain ⟨size, parity⟩ := absValue_of_magnitude (pattern.trans plain) carried leading
  have fine : -1074 ≤ last := le_max_right _ _
  have place : ((last + 1074).toNat : ℤ) - 1074 = last := by omega
  rw [place] at size
  have result := roundsTo_of_grid finite rounded fine (lastPlace_spec above below).2 size parity
  rwa [ofFraction, sign] at result

/-! ## Decimals -/

/-- A number that is nearer to zero than to any other double is rounded to zero. -/
theorem roundsTo_zero (negative : Bool) {x : ℚ} (small : |x| < 2 ^ (-1075 : ℤ)) :
    RoundsTo (signed negative x) (ofMagnitude negative 0) := by
  obtain ⟨sign, pattern⟩ := ofMagnitude_spec negative (by decide : 0 < signBit)
  have finite := isFinite_ofMagnitude negative (by decide : 0 < infinityMagnitude)
  have none : (ofMagnitude negative 0).significand = 0 := by
    rw [significand, pattern]
    rfl
  have rounded : Rounded (x / 2 ^ (-1074 : ℤ)) (0 : ℕ) := by
    left
    have spacing : (0 : ℚ) < 2 ^ (-1074 : ℤ) := by positivity
    have half : (2 : ℚ) ^ (-1075 : ℤ) = 1 / 2 * 2 ^ (-1074 : ℤ) := by
      rw [show (-1075 : ℤ) = -1074 - 1 from rfl, zpow_sub_one₀ two_ne_zero]
      ring
    rw [Nat.cast_zero, Int.cast_zero, sub_zero, abs_div, abs_of_pos spacing, div_lt_iff₀ spacing,
      ← half]
    exact small
  have result := roundsTo_of_grid finite rounded le_rfl (fun more => absurd more (lt_irrefl _))
    (by rw [absValue, none, Nat.cast_zero, zero_mul, zero_mul])
    (fun _ => by rw [none]; exact Even.zero)
  rwa [sign] at result

/-- A number is below the power of ten with as many zeros as it has digits. -/
theorem lt_pow_length_toDigits (n : ℕ) : n < 10 ^ (Nat.toDigits 10 n).length :=
  (Nat.length_toDigits_le_iff (by decide) Nat.length_toDigits_pos).mp le_rfl

/-- A number that is not zero is not below the power of ten of its first digit. -/
theorem pow_length_toDigits_le {n : ℕ} (nonzero : n ≠ 0) :
    10 ^ ((Nat.toDigits 10 n).length - 1) ≤ n := by
  by_contra small
  have positive : 0 < (Nat.toDigits 10 n).length - 1 := by
    by_contra none
    rw [Nat.eq_zero_of_not_pos none] at small
    omega
  have length := (Nat.length_toDigits_le_iff (by decide) positive).mpr (not_le.mp small)
  omega

/-- A decimal whose first digit stands far behind the point is below all doubles but zero. -/
theorem tiny_of_leading {coefficient : ℕ} {exponent : ℤ}
    (leading : exponent + (Nat.toDigits 10 coefficient).length < -400) :
    |(coefficient : ℚ) * 10 ^ exponent| < 2 ^ (-1075 : ℤ) := by
  let count := (Nat.toDigits 10 coefficient).length
  have size : (coefficient : ℚ) < 10 ^ (count : ℤ) := by
    exact_mod_cast lt_pow_length_toDigits coefficient
  have power : (0 : ℚ) < 10 ^ exponent := by positivity
  rw [abs_of_nonneg (by positivity)]
  calc (coefficient : ℚ) * 10 ^ exponent < 10 ^ (count : ℤ) * 10 ^ exponent := by gcongr
    _ = 10 ^ (exponent + count) := by rw [zpow_add₀ (by norm_num), mul_comm]
    _ ≤ 10 ^ (-401 : ℤ) := zpow_le_zpow_right₀ (by norm_num) (by omega)
    _ ≤ (2 ^ 3) ^ (-401 : ℤ) := by
      rw [zpow_neg, zpow_neg]
      exact inv_anti₀ (by positivity) (zpow_le_zpow_left₀ (by decide) (by norm_num) (by norm_num))
    _ = 2 ^ (-1203 : ℤ) := by
      rw [← zpow_natCast, ← zpow_mul]
      rfl
    _ ≤ 2 ^ (-1075 : ℤ) := zpow_le_zpow_right₀ one_le_two (by decide)

/-- Reading a decimal depends on the place of its first digit. -/
theorem ofDecimal_eq (negative : Bool) (coefficient : ℕ) (exponent : ℤ) :
    ofDecimal negative coefficient exponent =
      if coefficient = 0 then ofMagnitude negative 0
      else if 400 < exponent + (Nat.toDigits 10 coefficient).length then infinity negative
      else if exponent + (Nat.toDigits 10 coefficient).length < -400 then ofMagnitude negative 0
      else ofFraction negative (coefficient * 10 ^ exponent.toNat) (10 ^ (-exponent).toNat) :=
  rfl

/-- A decimal is a fraction. -/
theorem decimal_eq_fraction (coefficient : ℕ) (exponent : ℤ) :
    (coefficient : ℚ) * 10 ^ exponent =
      (coefficient * 10 ^ exponent.toNat : ℕ) / (10 ^ (-exponent).toNat : ℕ) := by
  rw [zpow_eq_div (by norm_num)]
  push_cast
  ring

/-- A decimal is rounded to the nearest double unless it goes to infinity. -/
theorem roundsTo_ofDecimal (negative : Bool) (coefficient : ℕ) (exponent : ℤ)
    (finite : (ofDecimal negative coefficient exponent).isFinite = true) :
    RoundsTo (signed negative (coefficient * 10 ^ exponent))
      (ofDecimal negative coefficient exponent) := by
  rw [ofDecimal_eq] at finite ⊢
  split_ifs at finite ⊢ with zero huge tiny
  · refine roundsTo_zero negative ?_
    rw [zero, Nat.cast_zero, zero_mul, abs_zero]
    positivity
  · cases negative <;> contradiction
  · exact roundsTo_zero negative (tiny_of_leading tiny)
  · have above : 0 < coefficient * 10 ^ exponent.toNat := by positivity
    rw [decimal_eq_fraction]
    exact roundsTo_ofFraction negative above (by positivity) finite

/-! ## Integers -/

/-- A pattern of a spacing and units below the one of infinity is the one of a finite double. -/
theorem exists_value_eq (negative : Bool) {k u : ℕ} (carried : u ≤ 2 ^ 53)
    (normal : k = 0 ∨ 2 ^ 52 ≤ u) (bounded : k * leadingBit + u < infinityMagnitude) :
    ∃ d : Double, d.isFinite = true ∧ d.value = signed negative (u * 2 ^ ((k : ℤ) - 1074)) := by
  have inside : k * leadingBit + u < signBit := bounded.trans (by decide)
  obtain ⟨sign, pattern⟩ := ofMagnitude_spec negative inside
  refine ⟨ofMagnitude negative (k * leadingBit + u), isFinite_ofMagnitude negative bounded, ?_⟩
  rw [value_eq_signed, sign, (absValue_of_magnitude pattern carried normal).1]

/-- A number up to the 53rd power of two has 53 bits after it was moved by some places. -/
theorem exists_places {n : ℕ} (positive : 0 < n) (small : n ≤ 2 ^ 53) :
    ∃ places ≤ 52, 2 ^ 52 ≤ n * 2 ^ places ∧ n * 2 ^ places ≤ 2 ^ 53 := by
  have lower := Nat.log2_self_le positive.ne'
  have upper := Nat.lt_log2_self (n := n)
  rcases Nat.lt_or_ge 52 n.log2 with wide | narrow
  · refine ⟨0, Nat.zero_le 52, ?_, ?_⟩ <;> rw [pow_zero, mul_one]
    · exact (Nat.pow_le_pow_right two_pos wide.le).trans lower
    · exact small
  · have below : n.log2 + (52 - n.log2) = 52 := Nat.add_sub_cancel' narrow
    have next : n.log2 + 1 + (52 - n.log2) = 53 := by omega
    refine ⟨52 - n.log2, Nat.sub_le 52 _, ?_, ?_⟩
    · nth_rewrite 1 [← below]
      rw [pow_add]
      exact Nat.mul_le_mul_right _ lower
    · rw [← next, pow_add]
      exact Nat.mul_le_mul_right _ upper.le

/-- Every integer up to the 53rd power of two is the value of a finite double. -/
theorem exists_value_eq_intCast {n : ℤ} (small : |n| ≤ 2 ^ 53) :
    ∃ d : Double, d.isFinite = true ∧ d.value = n := by
  by_cases zero : n = 0
  · subst zero
    exact ⟨Double.zero, rfl, by rw [Int.cast_zero]; exact zero_mul _⟩
  · have size : n.natAbs ≤ 2 ^ 53 := by
      rw [Int.abs_eq_natAbs] at small
      exact_mod_cast small
    obtain ⟨places, few, normal, carried⟩ := exists_places (Int.natAbs_pos.mpr zero) size
    have bounded : (1074 - places) * leadingBit + n.natAbs * 2 ^ places < infinityMagnitude := by
      have unit : leadingBit = 2 ^ 52 := rfl
      have limit : infinityMagnitude = 2047 * 2 ^ 52 := rfl
      rw [unit, limit]
      omega
    obtain ⟨d, finite, same⟩ := exists_value_eq (decide (n < 0)) carried (.inr normal) bounded
    refine ⟨d, finite, ?_⟩
    have inverse : (2 : ℚ) ^ places * 2 ^ (((1074 - places : ℕ) : ℤ) - 1074) = 1 := by
      have exponent : ((1074 - places : ℕ) : ℤ) - 1074 = -places := by omega
      rw [exponent, zpow_neg, zpow_natCast, mul_inv_cancel₀ (by positivity)]
    rw [same, Nat.cast_mul, Nat.cast_pow, Nat.cast_ofNat, mul_assoc, inverse, mul_one,
      signed_natAbs]

/-- What a number is rounded to is as near to it as any integer up to the 53rd power of two. -/
theorem RoundsTo.nearest_integer {x : ℚ} {d : Double} (rounds : RoundsTo x d) {k : ℤ}
    (small : |k| ≤ 2 ^ 53) : |x - d.value| ≤ |x - k| := by
  obtain ⟨other, finite, same⟩ := exists_value_eq_intCast small
  rw [← same]
  exact rounds.nearest other finite

/-- A number that is rounded to one below the 53rd power of two is not above that power. -/
theorem RoundsTo.bounded {x : ℚ} {d : Double} (rounds : RoundsTo x d)
    (small : |d.value| < 2 ^ 53) : |x| ≤ 2 ^ 53 := by
  have limit : |((2 : ℤ) ^ 53)| = 2 ^ 53 := abs_of_pos (by positivity)
  rw [abs_lt] at small
  rw [abs_le]
  constructor
  · by_contra beyond
    have bottom := rounds.nearest_integer (k := -2 ^ 53) (by rw [abs_neg, limit])
    rw [Int.cast_neg, Int.cast_pow, Int.cast_ofNat, abs_of_neg (by linarith),
      abs_of_neg (by linarith)] at bottom
    linarith
  · by_contra beyond
    have top := rounds.nearest_integer limit.le
    rw [Int.cast_pow, Int.cast_ofNat, abs_of_pos (by linarith), abs_of_pos (by linarith)] at top
    linarith

/-- A number that is rounded to an integer of less than 54 bits is at most a half away from it, and
is that integer if it is one. -/
theorem RoundsTo.near_integer {x : ℚ} {d : Double} {n : ℤ} (rounds : RoundsTo x d)
    (whole : d.value = n) (small : |n| < 2 ^ 53) :
    |x - n| ≤ 1 / 2 ∧ ∀ k : ℤ, x = k → k = n := by
  have inside : |x| ≤ 2 ^ 53 := by
    apply rounds.bounded
    rw [whole, ← Int.cast_abs]
    exact_mod_cast small
  have closest : ∀ k : ℤ, |(k : ℚ)| < 2 ^ 53 + 1 → |x - n| ≤ |x - k| := by
    intro k size
    rw [← whole]
    apply rounds.nearest_integer
    rw [← Int.cast_abs] at size
    exact Int.lt_add_one_iff.mp (by exact_mod_cast size)
  constructor
  · have half := abs_sub_round x
    have size : |(round x : ℚ)| ≤ |x| + |x - round x| := by
      have triangle := abs_sub x (x - round x)
      rwa [sub_sub_cancel] at triangle
    exact (closest (round x) (by linarith)).trans half
  · rintro k rfl
    have same := closest k (by linarith)
    rw [sub_self, abs_zero, abs_nonpos_iff, sub_eq_zero] at same
    exact_mod_cast same

end SearchWire.Double
