import SearchWire.Double.Rounding
import SearchWire.Proofs.DoubleValue
import Mathlib.Data.Nat.Log

/-!
# The grid of the doubles

Between two powers of two the doubles stand on one grid, and below it every double stands on a
finer one. A fraction is divided by the spacing of the grid it falls in and rounded to an integer, a
half to the even one. That integer times the spacing is as near to the fraction as any double: the
doubles on the grid are integers times the spacing too, and a double beside the grid lies below its
first point, from which the fraction is further away than from that point.
-/
namespace SearchWire.Double

/-! ## The nearest integer -/

/-- Whether an integer is what a number is rounded to: less than a half away from it, or even and a
half away. -/
def Rounded (t : ℚ) (u : ℤ) : Prop := |t - u| < 1 / 2 ∨ |t - u| = 1 / 2 ∧ Even u

/-- What a number is rounded to is as near to it as any integer, and even if another one is as
near. -/
theorem Rounded.nearest {t : ℚ} {u : ℤ} (rounded : Rounded t u) (k : ℤ) :
    |t - u| ≤ |t - k| ∧ (|t - k| = |t - u| → k ≠ u → Even u) := by
  by_cases same : k = u
  · subst same
    exact ⟨le_rfl, fun _ differs => absurd rfl differs⟩
  · have apart : (1 : ℚ) ≤ |(k : ℚ) - u| := by
      have nonzero : 0 < |k - u| := abs_pos.mpr (sub_ne_zero.mpr same)
      exact_mod_cast nonzero
    have triangle : |(k : ℚ) - u| ≤ |t - u| + |t - k| := by
      have sum := abs_sub_le (k : ℚ) t u
      rw [abs_sub_comm (k : ℚ) t] at sum
      linarith
    rcases rounded with closer | ⟨half, even⟩
    · exact ⟨by linarith, fun tie _ => absurd tie (by linarith)⟩
    · exact ⟨by linarith, fun _ _ => even⟩

/-- What a number is rounded to is on the same side of every integer. -/
theorem Rounded.bounds {t : ℚ} {u : ℤ} (rounded : Rounded t u) (k : ℤ) :
    (t ≤ k → u ≤ k) ∧ (k ≤ t → k ≤ u) := by
  have near : |t - u| ≤ 1 / 2 := rounded.elim le_of_lt fun half => half.1.le
  rw [abs_le] at near
  constructor <;> intro side
  · have less : (u : ℚ) < k + 1 := by linarith
    exact Int.lt_add_one_iff.mp (by exact_mod_cast less)
  · have less : (k : ℚ) < u + 1 := by linarith
    exact Int.lt_add_one_iff.mp (by exact_mod_cast less)

/-- A quotient is rounded by comparing twice the remainder with the divisor. -/
theorem rounded_divideToEven (numerator : ℕ) {denominator : ℕ} (positive : 0 < denominator) :
    Rounded (numerator / denominator) (divideToEven numerator denominator) := by
  let quotient := numerator / denominator
  let rest := numerator % denominator
  have divisor : (0 : ℚ) < denominator := by exact_mod_cast positive
  have split : (numerator : ℚ) / denominator = quotient + (rest : ℚ) / denominator := by
    have whole : (numerator : ℚ) = denominator * quotient + rest := by
      exact_mod_cast (Nat.div_add_mod numerator denominator).symm
    rw [whole]
    field_simp
  have proper : (rest : ℚ) / denominator < 1 :=
    (div_lt_one divisor).mpr (by exact_mod_cast Nat.mod_lt _ positive)
  have nonnegative : 0 ≤ (rest : ℚ) / denominator := by positivity
  have compare : ((rest : ℚ) / denominator < 1 / 2 ↔ 2 * rest < denominator) ∧
      (1 / 2 < (rest : ℚ) / denominator ↔ denominator < 2 * rest) := by
    rw [div_lt_div_iff₀ divisor two_pos, div_lt_div_iff₀ two_pos divisor]
    norm_cast
    omega
  have rounded : divideToEven numerator denominator =
      if 2 * rest < denominator then quotient
      else if denominator < 2 * rest then quotient + 1 else quotient + quotient % 2 := rfl
  rw [split, rounded, Rounded]
  split_ifs with below above
  · left
    have small := compare.1.mpr below
    rw [Int.cast_natCast, abs_lt]
    constructor <;> linarith
  · left
    have large := compare.2.mpr above
    push_cast
    rw [abs_lt]
    constructor <;> linarith
  · right
    have half : (rest : ℚ) / denominator = 1 / 2 :=
      le_antisymm (not_lt.mp fun large => above (compare.2.mp large))
        (not_lt.mp fun small => below (compare.1.mp small))
    rw [half]
    rcases Nat.mod_two_eq_zero_or_one quotient with even | odd
    · rw [even, add_zero, Int.cast_natCast, add_sub_cancel_left, abs_of_pos one_half_pos]
      exact ⟨rfl, (Int.even_coe_nat quotient).mpr (Nat.even_iff.mpr even)⟩
    · rw [odd]
      push_cast
      have next : (quotient : ℚ) + 1 / 2 - (quotient + 1) = -(1 / 2) := by ring
      rw [next, abs_neg, abs_of_pos one_half_pos]
      exact ⟨rfl, Int.even_add_one.mpr (by rw [Int.even_coe_nat, Nat.even_iff]; omega)⟩

/-! ## The grid -/

/-- Whether a number is a signed integer of at most 53 bits times a power of two that is no finer
than the spacing of the subnormal numbers. -/
def Dyadic (y : ℚ) : Prop := ∃ m q : ℤ, |m| < 2 ^ 53 ∧ -1074 ≤ q ∧ y = m * 2 ^ q

/-- Doubles stand for such numbers. -/
theorem dyadic_value (d : Double) : Dyadic d.value :=
  ⟨d.coefficient, d.exponent, d.abs_coefficient_lt, d.neg_1074_le_exponent, rfl⟩

/-- They may have either sign. -/
theorem Dyadic.signed {y : ℚ} (dyadic : Dyadic y) (negative : Bool) :
    Dyadic (signed negative y) := by
  cases negative with
  | false => exact dyadic
  | true =>
    obtain ⟨m, q, size, fine, rfl⟩ := dyadic
    refine ⟨-m, q, ?_, fine, ?_⟩
    · rw [abs_neg]
      exact size
    · rw [Int.cast_neg, neg_mul]
      rfl

/-- Such a number stands on the grid of a spacing, or below the first point from which all the
numbers of 53 bits stand on that grid. -/
theorem Dyadic.on_grid_or_below {y : ℚ} (dyadic : Dyadic y) {s : ℤ} (fine : -1074 ≤ s) :
    (∃ k : ℤ, y = k * 2 ^ s) ∨ -1074 < s ∧ y < 2 ^ 52 * 2 ^ s := by
  obtain ⟨m, q, size, subnormal, rfl⟩ := dyadic
  rcases le_or_gt s q with coarser | finer
  · left
    refine ⟨m * 2 ^ (q - s).toNat, ?_⟩
    have exponent : q = ((q - s).toNat : ℤ) + s := by omega
    nth_rewrite 1 [exponent]
    rw [zpow_add₀ two_ne_zero, zpow_natCast]
    push_cast
    ring
  · right
    refine ⟨by omega, ?_⟩
    have bits : (m : ℚ) < 2 ^ 53 := by exact_mod_cast (le_abs_self m).trans_lt size
    have step : (2 : ℚ) ^ s = 2 ^ (s - 1) * 2 := by
      rw [← zpow_add_one₀ two_ne_zero, sub_add_cancel]
    calc (m : ℚ) * 2 ^ q < 2 ^ 53 * 2 ^ q := by gcongr
      _ ≤ 2 ^ 53 * 2 ^ (s - 1) := by
        have order : q ≤ s - 1 := by omega
        gcongr
        norm_num
      _ = 2 ^ 52 * 2 ^ s := by
        rw [step]
        ring

/-- The point of the grid to which a number is rounded is as near to it as any number of 53 bits,
and an even one if another is as near. -/
theorem nearest_on_grid {x y : ℚ} {s u : ℤ} (rounded : Rounded (x / 2 ^ s) u) (fine : -1074 ≤ s)
    (normal : -1074 < s → 2 ^ 52 * 2 ^ s ≤ x) (dyadic : Dyadic y) :
    |x - u * 2 ^ s| ≤ |x - y| ∧ (|x - y| = |x - u * 2 ^ s| → y ≠ u * 2 ^ s → Even u) := by
  have spacing : (0 : ℚ) < 2 ^ s := by positivity
  have distance : ∀ k : ℤ, |x - k * 2 ^ s| = |x / 2 ^ s - k| * 2 ^ s := by
    intro k
    rw [← abs_of_pos spacing, ← abs_mul, abs_of_pos spacing, sub_mul,
      div_mul_cancel₀ x spacing.ne']
  have grid : ∀ k : ℤ, |x - u * 2 ^ s| ≤ |x - k * 2 ^ s| := by
    intro k
    rw [distance, distance]
    exact mul_le_mul_of_nonneg_right (rounded.nearest k).1 spacing.le
  rcases dyadic.on_grid_or_below fine with ⟨k, rfl⟩ | ⟨coarse, below⟩
  · refine ⟨grid k, fun tie apart => (rounded.nearest k).2 ?_ ?_⟩
    · rw [distance, distance] at tie
      exact mul_right_cancel₀ spacing.ne' tie
    · rintro rfl
      exact apart rfl
  · have first := grid (2 ^ 52)
    rw [Int.cast_pow, Int.cast_ofNat] at first
    have beyond := normal coarse
    rw [abs_of_nonneg (sub_nonneg.mpr beyond)] at first
    have further : x - 2 ^ 52 * 2 ^ s < |x - y| := by
      have distance := le_abs_self (x - y)
      linarith
    exact ⟨by linarith, fun tie _ => absurd tie (by linarith)⟩

/-! ## The spacing of a fraction -/

/-- Moving numerator and denominator divides a fraction by a power of two. -/
theorem shifted_fraction (numerator denominator : ℕ) (q : ℤ) :
    ((numerator <<< (-q).toNat : ℕ) : ℚ) / (denominator <<< q.toNat : ℕ) =
      numerator / denominator / 2 ^ q := by
  rw [cast_shiftLeft, cast_shiftLeft, zpow_eq_div two_ne_zero, div_div_div_eq]

/-- A fraction lies between the power of two with its leading exponent and the next one. -/
theorem leadingExponent_spec {numerator denominator : ℕ} (above : 0 < numerator)
    (below : 0 < denominator) :
    (2 : ℚ) ^ leadingExponent numerator denominator ≤ numerator / denominator ∧
      (numerator : ℚ) / denominator < 2 ^ (leadingExponent numerator denominator + 1) := by
  let guess : ℤ := numerator.log2 - denominator.log2
  have size : ∀ {n : ℕ}, 0 < n → (2 : ℚ) ^ (n.log2 : ℤ) ≤ n ∧ (n : ℚ) < 2 ^ (n.log2 + 1 : ℤ) := by
    intro n positive
    have lower := Nat.log2_self_le positive.ne'
    have upper := Nat.lt_log2_self (n := n)
    exact_mod_cast And.intro lower upper
  have divisor : (0 : ℚ) < denominator := by exact_mod_cast below
  have compare : denominator <<< guess.toNat ≤ numerator <<< (-guess).toNat ↔
      (2 : ℚ) ^ guess ≤ numerator / denominator := by
    rw [← Nat.cast_le (α := ℚ), cast_shiftLeft, cast_shiftLeft, zpow_eq_div two_ne_zero,
      div_le_div_iff₀ (by positivity) divisor, mul_comm (2 ^ guess.toNat : ℚ)]
  have lower : (2 : ℚ) ^ (guess - 1) ≤ numerator / denominator := by
    have quotient : guess - 1 = numerator.log2 - (denominator.log2 + 1) := by omega
    rw [quotient, zpow_sub₀ two_ne_zero]
    exact div_le_div₀ (Nat.cast_nonneg _) (size above).1 divisor (size below).2.le
  have upper : (numerator : ℚ) / denominator < 2 ^ (guess + 1) := by
    have quotient : guess + 1 = numerator.log2 + 1 - denominator.log2 := by omega
    rw [quotient, zpow_sub₀ two_ne_zero]
    exact div_lt_div₀ (size above).2 (size below).1 (by positivity) (by positivity)
  have chosen : leadingExponent numerator denominator =
      if denominator <<< guess.toNat ≤ numerator <<< (-guess).toNat then guess else guess - 1 := rfl
  rw [chosen]
  split_ifs with reached
  · exact ⟨compare.mp reached, upper⟩
  · rw [sub_add_cancel]
    exact ⟨lower, not_le.mp fun reaches => reached (compare.mpr reaches)⟩

/-- The exponent of the spacing at a fraction. -/
def lastPlace (numerator denominator : ℕ) : ℤ :=
  max (leadingExponent numerator denominator - 52) (-1074)

/-- A fraction has at most 53 bits before the last place, and exactly as many unless the last place
is the one of the subnormal numbers. -/
theorem lastPlace_spec {numerator denominator : ℕ} (above : 0 < numerator)
    (below : 0 < denominator) :
    (numerator : ℚ) / denominator ≤ 2 ^ 53 * 2 ^ lastPlace numerator denominator ∧
      (-1074 < lastPlace numerator denominator →
        2 ^ 52 * 2 ^ lastPlace numerator denominator ≤ (numerator : ℚ) / denominator) := by
  obtain ⟨lower, upper⟩ := leadingExponent_spec above below
  have place : lastPlace numerator denominator =
      max (leadingExponent numerator denominator - 52) (-1074) := rfl
  have product : ∀ n : ℕ, (2 : ℚ) ^ n * 2 ^ lastPlace numerator denominator =
      2 ^ (n + lastPlace numerator denominator : ℤ) := by
    intro n
    rw [zpow_add₀ two_ne_zero, zpow_natCast]
  constructor
  · rw [product]
    exact upper.le.trans (zpow_le_zpow_right₀ one_le_two (by omega))
  · intro normal
    rw [product]
    exact (zpow_le_zpow_right₀ one_le_two (by omega)).trans lower

/-- A fraction in units of its last place, rounded. -/
def units (numerator denominator : ℕ) : ℕ :=
  let last := lastPlace numerator denominator
  divideToEven (numerator <<< (-last).toNat) (denominator <<< last.toNat)

/-- The rounded units have 53 bits, or are the next power of two, or the last place is the one of
the subnormal numbers. -/
theorem units_spec {numerator denominator : ℕ} (above : 0 < numerator) (below : 0 < denominator) :
    Rounded ((numerator : ℚ) / denominator / 2 ^ lastPlace numerator denominator)
        (units numerator denominator) ∧
      units numerator denominator ≤ 2 ^ 53 ∧
      ((lastPlace numerator denominator + 1074).toNat = 0 ∨
        2 ^ 52 ≤ units numerator denominator) := by
  have rounded : Rounded ((numerator : ℚ) / denominator / 2 ^ lastPlace numerator denominator)
      (units numerator denominator) := by
    rw [← shifted_fraction]
    refine rounded_divideToEven _ ?_
    rw [Nat.shiftLeft_eq]
    positivity
  obtain ⟨top, normal⟩ := lastPlace_spec above below
  have spacing : (0 : ℚ) < 2 ^ lastPlace numerator denominator := by positivity
  refine ⟨rounded, ?_, ?_⟩
  · have bound := (rounded.bounds (2 ^ 53)).1
    rw [Int.cast_pow, Int.cast_ofNat, div_le_iff₀ spacing] at bound
    exact_mod_cast bound top
  · rcases le_or_gt (lastPlace numerator denominator) (-1074) with subnormal | coarse
    · exact .inl (by omega)
    · have bound := (rounded.bounds (2 ^ 52)).2
      rw [Int.cast_pow, Int.cast_ofNat, le_div_iff₀ spacing] at bound
      exact .inr (by exact_mod_cast bound (normal coarse))

end SearchWire.Double
