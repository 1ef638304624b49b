import SearchWire.Proofs.NearestDouble

/-!
# The nearest double is unique

The absolute values of the doubles grow with their patterns, and a significand is even if its
pattern is. Two doubles with even patterns therefore have one between them. If both were what a
number is rounded to, then the number would be half way between them, and the one between would be
nearer. So a number is rounded to one value, and a moderate number is rounded to a finite one.
-/
namespace SearchWire.Double

/-- The sign of a double makes its value the absolute one. -/
theorem signed_value (d : Double) : signed d.isNegative d.value = d.absValue := by
  rw [value_eq_signed, signed_signed]

/-- With either sign a value is the absolute one or its opposite. -/
theorem signed_value_cases (negative : Bool) (d : Double) :
    signed negative d.value = d.absValue ∨ signed negative d.value = -d.absValue := by
  by_cases same : negative = d.isNegative
  · left
    rw [same, signed_value]
  · right
    rw [← signed_value, Bool.eq_not.mpr same]
    cases d.isNegative with
    | false => rfl
    | true => exact (neg_neg _).symm

/-- The absolute value of a pattern is below the one of the next pattern. -/
theorem absValue_lt_next {d e : Double} (next : e.magnitude = d.magnitude + 1) :
    d.absValue < e.absValue := by
  have unit : leadingBit = 2 ^ 52 := rfl
  let k := d.magnitude / 2 ^ 52 - 1
  let u := d.magnitude - k * 2 ^ 52
  have pattern : d.magnitude = k * leadingBit + u := by
    rw [unit]
    omega
  have pattern' : e.magnitude = k * leadingBit + (u + 1) := by rw [next, pattern, add_assoc]
  have below : u + 1 ≤ 2 ^ 53 := by omega
  have normal : k = 0 ∨ 2 ^ 52 ≤ u := by omega
  rw [(absValue_of_magnitude pattern (by omega) normal).1,
    (absValue_of_magnitude pattern' below (by omega)).1]
  have spacing : (0 : ℚ) < 2 ^ ((k : ℤ) - 1074) := by positivity
  apply mul_lt_mul_of_pos_right _ spacing
  exact_mod_cast Nat.lt_succ_self u

/-- Absolute values grow with the patterns. -/
theorem absValue_lt {d e : Double} (less : d.magnitude < e.magnitude) :
    d.absValue < e.absValue := by
  obtain ⟨gap, distance⟩ := Nat.exists_eq_add_of_lt less
  induction gap generalizing e with
  | zero => exact absValue_lt_next distance
  | succ gap ih =>
    have inside : d.magnitude + gap + 1 < signBit := by
      have bound : e.magnitude < signBit := Nat.mod_lt _ (by decide)
      omega
    have pattern := (ofMagnitude_spec false inside).2
    exact (ih (by omega) pattern).trans (absValue_lt_next (by omega))

/-- A significand is even if its pattern is. -/
theorem even_significand_iff (d : Double) : Even d.significand ↔ Even d.magnitude := by
  have unit : leadingBit = 2 ^ 52 := rfl
  rw [significand, Nat.even_iff, Nat.even_iff, unit]
  split <;> omega

/-- Half way between two numbers, what lies between them is nearer than they are. -/
theorem nearer_between {x a b c : ℚ} (tie : |x - a| = |x - b|) (above : a < c) (below : c < b) :
    |x - c| < |x - a| := by
  have middle : x - a = (b - a) / 2 := by
    rcases abs_eq_abs.mp tie with same | opposite <;> linarith
  rw [middle, abs_of_pos (by linarith : 0 < (b - a) / 2), abs_lt]
  constructor <;> linarith

/-- The absolute value of a double is the one of its pattern. -/
theorem absValue_congr {d e : Double} (same : d.magnitude = e.magnitude) :
    d.absValue = e.absValue := by
  rw [absValue, absValue, significand, significand, exponent, exponent, same]

/-- A double stands between two with even patterns, seen with the sign of the greater one. -/
theorem exists_between {d e : Double} (finite : e.isFinite = true) (even : Even d.magnitude)
    (even' : Even e.magnitude) (order : d.magnitude ≤ e.magnitude) (apart : d.value ≠ e.value) :
    ∃ middle : Double, middle.isFinite = true ∧
      signed e.isNegative d.value < signed e.isNegative middle.value ∧
      signed e.isNegative middle.value < e.absValue := by
  by_cases alike : signed e.isNegative d.value = d.absValue
  · have differs : d.magnitude ≠ e.magnitude := by
      intro same
      rw [absValue_congr same, ← e.signed_value] at alike
      apply apart
      rw [← signed_signed e.isNegative d.value, alike, signed_signed]
    rw [Nat.even_iff] at even even'
    have less : d.magnitude + 1 < e.magnitude := by omega
    have bound : e.magnitude < infinityMagnitude := of_decide_eq_true finite
    have inside : d.magnitude + 1 < signBit := (less.trans bound).trans (by decide)
    obtain ⟨sign, pattern⟩ := ofMagnitude_spec e.isNegative inside
    have middle := (ofMagnitude e.isNegative (d.magnitude + 1)).signed_value
    rw [sign] at middle
    refine ⟨ofMagnitude e.isNegative (d.magnitude + 1),
      isFinite_ofMagnitude _ (less.trans bound), ?_, ?_⟩
    · rw [alike, middle]
      exact absValue_lt_next pattern
    · rw [middle]
      exact absValue_lt (by omega)
  · have opposite := (signed_value_cases e.isNegative d).resolve_left alike
    have positive : 0 < d.absValue := by
      refine lt_of_le_of_ne (by unfold absValue; positivity) fun vanishes => alike ?_
      rw [opposite, ← vanishes, neg_zero]
    have none : signed e.isNegative zero.value = 0 := by
      have vanishes : zero.absValue = 0 := zero_mul _
      rcases signed_value_cases e.isNegative zero with same | same <;> rw [same, vanishes]
      exact neg_zero
    refine ⟨zero, rfl, ?_, ?_⟩
    · rw [opposite, none]
      exact neg_neg_of_pos positive
    · rw [none]
      rcases order.lt_or_eq with less | same
      · exact positive.trans (absValue_lt less)
      · rwa [← absValue_congr same]

/-- Two doubles to which a number is rounded have one value. -/
theorem RoundsTo.value_eq {x : ℚ} {d e : Double} (one : RoundsTo x d) (other : RoundsTo x e) :
    d.value = e.value := by
  wlog order : d.magnitude ≤ e.magnitude generalizing d e
  · exact (this other one (le_of_not_ge order)).symm
  · by_contra apart
    have tie : |x - d.value| = |x - e.value| :=
      le_antisymm (one.nearest e other.finite) (other.nearest d one.finite)
    have even := d.even_significand_iff.mp (one.even e other.finite tie.symm (Ne.symm apart))
    have even' := e.even_significand_iff.mp (other.even d one.finite tie apart)
    obtain ⟨middle, finite, above, below⟩ :=
      exists_between other.finite even even' order apart
    have near := one.nearest middle finite
    have mirrored : ∀ y, |x - y| = |signed e.isNegative x - signed e.isNegative y| := by
      intro y
      rw [abs_signed_sub, signed_signed]
    rw [mirrored, mirrored e.value, e.signed_value] at tie
    rw [mirrored, mirrored middle.value] at near
    exact absurd near (not_le.mpr (nearer_between tie above below))

/-! ## Moderate numbers -/

/-- A fraction up to the 64th power of two does not go to infinity. -/
theorem isFinite_ofFraction (negative : Bool) {numerator denominator : ℕ} (above : 0 < numerator)
    (below : 0 < denominator) (small : (numerator : ℚ) / denominator ≤ 2 ^ 64) :
    (ofFraction negative numerator denominator).isFinite = true := by
  have leading : leadingExponent numerator denominator ≤ 64 := by
    have power : (2 : ℚ) ^ leadingExponent numerator denominator ≤ 2 ^ (64 : ℤ) :=
      (leadingExponent_spec above below).1.trans small
    exact (zpow_le_zpow_iff_right₀ one_lt_two).mp power
  have carried := (units_spec above below).2.1
  have place : lastPlace numerator denominator =
      max (leadingExponent numerator denominator - 52) (-1074) := rfl
  have unit : leadingBit = 2 ^ 52 := rfl
  have limit : infinityMagnitude = 2047 * 2 ^ 52 := rfl
  have bounded : nearestMagnitude numerator denominator < infinityMagnitude := by
    rw [nearestMagnitude_eq denominator above, unit, limit]
    omega
  exact isFinite_ofMagnitude negative bounded

/-- A decimal whose first digit stands far in front of the point is not moderate. -/
theorem huge_of_leading {coefficient : ℕ} {exponent : ℤ} (nonzero : coefficient ≠ 0)
    (leading : 400 < exponent + (Nat.toDigits 10 coefficient).length) :
    2 ^ 64 < (coefficient : ℚ) * 10 ^ exponent := by
  let below := (Nat.toDigits 10 coefficient).length - 1
  have size : 10 ^ below ≤ coefficient := pow_length_toDigits_le nonzero
  calc (2 : ℚ) ^ 64 < 10 ^ (20 : ℤ) := by norm_num
    _ ≤ 10 ^ ((below : ℤ) + exponent) := zpow_le_zpow_right₀ (by norm_num) (by omega)
    _ = 10 ^ below * 10 ^ exponent := by rw [zpow_add₀ (by norm_num), zpow_natCast]
    _ ≤ coefficient * 10 ^ exponent := by
      gcongr
      exact_mod_cast size

/-- A decimal up to the 64th power of two does not go to infinity. -/
theorem isFinite_ofDecimal (negative : Bool) {coefficient : ℕ} {exponent : ℤ}
    (small : (coefficient : ℚ) * 10 ^ exponent ≤ 2 ^ 64) :
    (ofDecimal negative coefficient exponent).isFinite = true := by
  have zero := isFinite_ofMagnitude negative (by decide : 0 < infinityMagnitude)
  rw [ofDecimal_eq]
  split_ifs with none huge tiny
  · exact zero
  · exact absurd small (not_le.mpr (huge_of_leading none huge))
  · exact zero
  · have above : 0 < coefficient * 10 ^ exponent.toNat := by positivity
    rw [decimal_eq_fraction] at small
    exact isFinite_ofFraction negative above (by positivity) small

/-- An integer up to the 64th power of two becomes the nearest double. -/
theorem roundsTo_ofInt {n : ℤ} (small : |n| ≤ 2 ^ 64) : RoundsTo n (ofInt n) := by
  by_cases zero : n = 0
  · subst zero
    have none : |(0 : ℚ)| < 2 ^ (-1075 : ℤ) := by
      rw [abs_zero]
      positivity
    rw [Int.cast_zero, ← neg_zero]
    exact roundsTo_zero false none
  · have above : 0 < n.natAbs := Int.natAbs_pos.mpr zero
    have size : ((n.natAbs : ℕ) : ℚ) / (1 : ℕ) ≤ 2 ^ 64 := by
      rw [Int.abs_eq_natAbs] at small
      rw [Nat.cast_one, div_one]
      exact_mod_cast small
    have rounds := roundsTo_ofFraction (decide (n < 0)) above one_pos
      (isFinite_ofFraction _ above one_pos size)
    rwa [Nat.cast_one, div_one, signed_natAbs] at rounds

end SearchWire.Double
