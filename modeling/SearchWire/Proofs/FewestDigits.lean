import SearchWire.Proofs.ShortestText

/-!
# The text of a double has the fewest digits

The ends of the interval around a double lie halfway to its neighbours, so a number that is rounded
to the double lies within, unless it is so large that only infinity is left. A decimal with a few
digits that lies within puts a point of a coarse grid there too: itself, or the power of ten between
it and the double. The coarsest grid with a point within is the one that is taken, so no decimal with
fewer digits is rounded to the double.
-/
namespace SearchWire

namespace Decimal

variable {d : Decimal}

/-- A decimal is a multiple of every power of ten that is not above the place of its last digit. -/
theorem exists_multiple {place : ℤ} (fine : place ≤ d.exponent) :
    ∃ count : ℕ, count * 10 ^ place = d.toRat := by
  obtain ⟨more, split⟩ := Int.le.dest fine
  refine ⟨d.coefficient * 10 ^ more, ?_⟩
  rw [toRat, ← split, zpow_add₀ (by norm_num), zpow_natCast]
  push_cast
  ring

/-- A decimal that is not below a power of ten has a digit before the place of that power. -/
theorem lt_of_zpow_le_toRat {place : ℤ} (above : 10 ^ place ≤ d.toRat) :
    place < (Nat.toDigits 10 d.coefficient).length + d.exponent := by
  have size : (d.coefficient : ℚ) < 10 ^ (Nat.toDigits 10 d.coefficient).length := by
    exact_mod_cast Double.lt_pow_length_toDigits d.coefficient
  have bound : (10 : ℚ) ^ place < 10 ^ ((Nat.toDigits 10 d.coefficient).length + d.exponent) :=
    calc (10 : ℚ) ^ place ≤ d.coefficient * 10 ^ d.exponent := above
      _ < 10 ^ (Nat.toDigits 10 d.coefficient).length * 10 ^ d.exponent := by gcongr
      _ = 10 ^ ((Nat.toDigits 10 d.coefficient).length + d.exponent) := by
        rw [zpow_add₀ (by norm_num), zpow_natCast]
  exact (zpow_lt_zpow_iff_right₀ (by norm_num : (1 : ℚ) < 10)).mp bound

end Decimal

namespace Double

variable {d : Double}

/-! ## Neighbours -/

/-- The pattern of a double is made of its last place and its units. -/
theorem magnitude_eq (d : Double) :
    d.magnitude = (d.exponent + 1074).toNat * leadingBit + d.significand := by
  have unit : leadingBit = 2 ^ 52 := rfl
  rw [exponent, significand, unit]
  split <;> omega

/-- Other units of the last place of a double are the ones of another double. -/
theorem exists_units (d : Double) {u : ℕ} (carried : u ≤ 2 ^ 53)
    (normal : -1074 < d.exponent → 2 ^ 52 ≤ u)
    (bounded : (d.exponent + 1074).toNat * leadingBit + u < infinityMagnitude) :
    ∃ other : Double, other.isFinite = true ∧
      other.value = signed d.isNegative (4 * u * 2 ^ (d.exponent - 2)) := by
  have fine := d.neg_1074_le_exponent
  have place : (((d.exponent + 1074).toNat : ℕ) : ℤ) - 1074 = d.exponent := by omega
  obtain ⟨other, finite, value⟩ := exists_value_eq d.isNegative carried (by omega) bounded
  refine ⟨other, finite, ?_⟩
  rw [value, place, zpow_exponent]
  congr 1
  ring

/-- There is a double above, as far from the upper end as the one below it, unless only infinity is
left. -/
theorem exists_above (room : d.magnitude + 1 < infinityMagnitude) :
    ∃ other : Double, other.isFinite = true ∧
      other.value = signed d.isNegative (2 * d.high - d.absValue) := by
  have bits (normal : -1074 < d.exponent) := leadingBit_le_significand normal
  have pattern := d.magnitude_eq
  obtain ⟨other, finite, value⟩ := d.exists_units (u := d.significand + 1) d.significand_lt
    (by omega) (by omega)
  refine ⟨other, finite, ?_⟩
  rw [value, high_eq, absValue_eq_quarters]
  push_cast
  congr 1
  ring

/-- Below a power of two, the next double is half of the last place away. -/
theorem exists_below_leading (finite : d.isFinite = true) (leading : d.significand = 2 ^ 52)
    (normal : -1074 < d.exponent) :
    ∃ other : Double, other.isFinite = true ∧
      other.value = signed d.isNegative ((4 * d.significand - 2) * 2 ^ (d.exponent - 2)) := by
  have pattern := d.magnitude_eq
  have room : d.magnitude < infinityMagnitude := of_decide_eq_true finite
  have unit : leadingBit = 2 ^ 52 := rfl
  have place : (((d.exponent + 1073).toNat : ℕ) : ℤ) - 1074 = d.exponent - 1 := by omega
  have bounded : (d.exponent + 1073).toNat * leadingBit + (2 * d.significand - 1) <
      infinityMagnitude := by
    rw [unit] at pattern ⊢
    omega
  obtain ⟨other, finite, value⟩ := exists_value_eq d.isNegative (by omega) (by omega) bounded
  refine ⟨other, finite, ?_⟩
  rw [value, place, zpow_exponent_sub_one, Nat.cast_sub (by omega)]
  push_cast
  congr 1
  ring

/-- There is a double below a positive one, as far from the lower end as the one above it. -/
theorem exists_below (finite : d.isFinite = true) (positive : d.significand ≠ 0) :
    ∃ other : Double, other.isFinite = true ∧
      other.value = signed d.isNegative (2 * d.low - d.absValue) := by
  rcases low_cases positive with ⟨leading, normal, low⟩ | ⟨wide, low⟩
  · obtain ⟨other, finite, value⟩ := exists_below_leading finite leading normal
    refine ⟨other, finite, ?_⟩
    rw [value, low, absValue_eq_quarters]
    congr 1
    ring
  · have bits (normal : -1074 < d.exponent) := leadingBit_le_significand normal
    have pattern := d.magnitude_eq
    have small := d.significand_lt
    have room : d.magnitude < infinityMagnitude := of_decide_eq_true finite
    obtain ⟨other, finite, value⟩ := d.exists_units (u := d.significand - 1) (by omega) (by omega)
      (by omega)
    refine ⟨other, finite, ?_⟩
    rw [value, low, absValue_eq_quarters, Nat.cast_sub (Nat.one_le_iff_ne_zero.mpr positive)]
    push_cast
    congr 1
    ring

/-- Of two points with the same distance to a middle, the one on the side of a number is nearer to
it. -/
theorem abs_sub_le_mirror_iff {x a middle : ℚ} :
    |x - a| ≤ |x - (2 * middle - a)| ↔ 0 ≤ (x - middle) * (a - middle) := by
  rw [← sq_le_sq]
  constructor <;> intro <;> linarith

/-- What is rounded to a double is on its side of the middle to another one, and not in the middle if
the double is odd. -/
theorem RoundsTo.side {x middle : ℚ} (rounds : RoundsTo (signed d.isNegative x) d) {other : Double}
    (finite : other.isFinite = true)
    (mirror : other.value = signed d.isNegative (2 * middle - d.absValue))
    (apart : middle ≠ d.absValue) :
    0 ≤ (x - middle) * (d.absValue - middle) ∧ (¬Even d.significand → x ≠ middle) := by
  have distance (y : ℚ) : |signed d.isNegative x - signed d.isNegative y| = |x - y| := by
    rw [abs_signed_sub, signed_signed]
  constructor
  · have nearest := rounds.nearest other finite
    rw [value_eq_signed d, mirror, distance, distance] at nearest
    exact abs_sub_le_mirror_iff.mp nearest
  · -- In the middle the other one is as near, and of two nearest doubles the even one is taken.
    rintro odd rfl
    refine odd (rounds.even other finite ?_ fun same => apart ?_)
    · rw [value_eq_signed d, mirror, distance, distance, abs_sub_comm x d.absValue]
      congr 1
      ring
    · have sizes := congrArg (signed d.isNegative) same
      rw [value_eq_signed d, mirror, signed_signed, signed_signed] at sizes
      linarith

/-- The largest double has its upper end halfway to the 1024th power of two. -/
theorem high_of_largest (largest : d.magnitude + 1 = infinityMagnitude) :
    d.high = 2 ^ 1024 - 2 ^ 970 := by
  have pattern := d.magnitude_eq
  have small := d.significand_lt
  have fine := d.neg_1074_le_exponent
  have unit : leadingBit = 2 ^ 52 := rfl
  have limit : infinityMagnitude = 2047 * 2 ^ 52 := rfl
  have bits (normal : -1074 < d.exponent) := leadingBit_le_significand normal
  rw [unit] at pattern
  rw [limit] at largest
  have full : d.significand = 2 ^ 53 - 1 := by omega
  have place : d.exponent = 971 := by omega
  have top : (2 : ℚ) ^ 1024 = 2 ^ 55 * 2 ^ 969 := pow_add 2 55 969
  have half : (2 : ℚ) ^ 970 = 2 * 2 ^ 969 := pow_succ' 2 969
  have last : (2 : ℚ) ^ (971 - 2 : ℤ) = 2 ^ 969 := zpow_natCast 2 969
  rw [high_eq, place, full, top, half, last]
  generalize (2 : ℚ) ^ 969 = step
  push_cast
  ring

/-- A number that is rounded to a positive double lies within, unless it is so large that only
infinity is left. -/
theorem within_of_roundsTo {x : ℚ} (positive : d.significand ≠ 0) (moderate : x < 2 ^ 1024 - 2 ^ 970)
    (rounds : RoundsTo (signed d.isNegative x) d) : d.Within x := by
  obtain ⟨below, above⟩ := absValue_between positive
  obtain ⟨other, finite, mirror⟩ := exists_below rounds.finite positive
  have bottom := rounds.side finite mirror below.ne
  have least : d.low ≤ x :=
    sub_nonneg.mp (nonneg_of_mul_nonneg_left bottom.1 (sub_pos.mpr below))
  have most : x ≤ d.high ∧ (¬Even d.significand → x ≠ d.high) := by
    rcases Nat.lt_or_ge (d.magnitude + 1) infinityMagnitude with room | none
    · obtain ⟨other, finite, mirror⟩ := exists_above room
      have top := rounds.side finite mirror above.ne'
      exact ⟨sub_nonpos.mp (nonpos_of_mul_nonneg_left top.1 (sub_neg.mpr above)), top.2⟩
    · have largest : d.magnitude + 1 = infinityMagnitude :=
        le_antisymm (of_decide_eq_true rounds.finite) none
      rw [high_of_largest largest]
      exact ⟨moderate.le, fun _ => moderate.ne⟩
  exact within_iff.mpr ⟨⟨least, most.1⟩, fun odd =>
    ⟨lt_of_le_of_ne least (bottom.2 odd).symm, lt_of_le_of_ne most.1 (most.2 odd)⟩⟩

/-! ## Coarse grids -/

/-- The double lies within. -/
theorem within_absValue (positive : d.significand ≠ 0) : d.Within d.absValue :=
  within_of_between (absValue_between positive).1 (absValue_between positive).2

/-- What lies between two numbers within lies within. -/
theorem Within.between {x y z : ℚ} (left : d.Within x) (right : d.Within z) (above : x ≤ y)
    (below : y ≤ z) : d.Within y := by
  rw [within_iff] at left right ⊢
  exact ⟨⟨left.1.1.trans above, below.trans right.1.2⟩, fun odd =>
    ⟨(left.2 odd).1.trans_le above, below.trans_lt (right.2 odd).2⟩⟩

/-- A grid with a point within is not passed over. -/
theorem onGrid?_ne_none_of_within (positive : d.significand ≠ 0) {place : ℤ} {count : ℕ}
    (within : d.Within (count * 10 ^ place)) : d.onGrid? place ≠ none := by
  obtain ⟨below, above⟩ := d.floorGrid_spec place
  have step : (0 : ℚ) < 10 ^ place := by positivity
  apply onGrid?_ne_none_of_inside
  rcases Nat.lt_or_ge (d.floorGrid place) count with upper | lower
  · have next : ((d.floorGrid place + 1 : ℕ) : ℚ) ≤ count := by exact_mod_cast upper
    exact .inr (insideGrid_iff.mpr ((within_absValue positive).between within above.le (by gcongr)))
  · have previous : (count : ℚ) ≤ d.floorGrid place := by exact_mod_cast lower
    exact .inl (insideGrid_iff.mpr (within.between (within_absValue positive) (by gcongr) below))

/-- A decimal within is a point of every grid that is at least as fine. -/
theorem onGrid?_ne_none_of_fine (positive : d.significand ≠ 0) {other : Decimal} {place : ℤ}
    (within : d.Within other.toRat) (fine : place ≤ other.exponent) : d.onGrid? place ≠ none := by
  obtain ⟨count, same⟩ := Decimal.exists_multiple fine
  rw [← same] at within
  exact onGrid?_ne_none_of_within positive within

/-- A decimal within puts a point on the grid with as many digits as it has. -/
theorem onGrid?_ne_none_of_decimal (positive : d.significand ≠ 0) {other : Decimal}
    (within : d.Within other.toRat) :
    d.onGrid? (d.wholeDigits - (Nat.toDigits 10 other.coefficient).length) ≠ none := by
  have some : 0 < (Nat.toDigits 10 other.coefficient).length := Nat.length_toDigits_pos
  rcases lt_or_ge other.toRat (10 ^ (d.wholeDigits - 1)) with below | above
  · -- The power of ten between the decimal and the double is a point of every grid.
    have power : (⟨1, d.wholeDigits - 1⟩ : Decimal).toRat = 10 ^ (d.wholeDigits - 1) := by
      rw [Decimal.toRat, Nat.cast_one, one_mul]
    have inside : d.Within (10 ^ (d.wholeDigits - 1)) :=
      within.between (within_absValue positive) below.le (wholeDigits_spec positive).1
    rw [← power] at inside
    exact onGrid?_ne_none_of_fine positive inside (by dsimp only; omega)
  · have first := Decimal.lt_of_zpow_le_toRat above
    exact onGrid?_ne_none_of_fine positive within (by omega)

/-- What is taken from a grid has at most one more than the digits of the grid, and then only zeros
behind the first. -/
theorem coefficient_le (positive : d.significand ≠ 0) {count : ℕ} {found : Decimal}
    (hit : d.onGrid? (d.wholeDigits - count) = some found) : found.coefficient ≤ 10 ^ count := by
  obtain ⟨-, near, -⟩ := of_onGrid?_eq_some hit
  have below := (d.floorGrid_spec (d.wholeDigits - count)).1
  have size := (wholeDigits_spec positive).2
  have step : (0 : ℚ) < 10 ^ (d.wholeDigits - count) := by positivity
  have split : (10 : ℚ) ^ d.wholeDigits = 10 ^ count * 10 ^ (d.wholeDigits - count) := by
    rw [← zpow_natCast, ← zpow_add₀ (by norm_num), add_sub_cancel]
  rw [split] at size
  have floor := lt_of_mul_lt_mul_right (below.trans_lt size) step.le
  exact near.trans (by exact_mod_cast floor)

/-- No decimal that lies within has fewer digits than the shortest one. -/
theorem length_shortest_le (positive : d.significand ≠ 0) {other : Decimal}
    (within : d.Within other.toRat) :
    (Nat.toDigits 10 d.shortest.coefficient).length ≤
      (Nat.toDigits 10 other.coefficient).length := by
  obtain ⟨more, -, found, hit, missed, same⟩ := shortest_spec positive
  have some : 0 < (Nat.toDigits 10 other.coefficient).length := Nat.length_toDigits_pos
  have grid := onGrid?_ne_none_of_decimal positive within
  have few : more + 1 ≤ (Nat.toDigits 10 other.coefficient).length := by
    by_contra fewer
    have none := missed ((Nat.toDigits 10 other.coefficient).length - 1) (by omega)
    rw [Nat.sub_add_cancel some] at none
    exact grid none
  have bound := coefficient_le positive hit
  have ten : 10 ^ (more + 1) = 10 * 10 ^ more := pow_succ' 10 more
  have power : 0 < 10 ^ more := Nat.pow_pos (by decide)
  refine le_trans ((Nat.length_toDigits_le_iff (by decide) (Nat.succ_pos more)).mpr ?_) few
  rw [same]
  split
  · dsimp only
    omega
  · omega

/-! ## The text -/

/-- Whether a text is what a double is written as. -/
inductive Written : Double → String → Prop where
  /-- A pattern that stands for no number. -/
  | nan {d : Double} (none : d.isNaN = true) : Written d "NaN"
  /-- An infinity with its sign. -/
  | infinite {d : Double} (some : d.isNaN = false) (infinite : d.isFinite = false) :
    Written d (if d.isNegative then "-inf" else "inf")
  /-- The sign of a number and the digits of a decimal that is rounded to it, with as few digits as
  such a decimal can have. Decimals from halfway to the 1024th power of two on do not count, they go
  to infinity. -/
  | finite {d : Double} {decimal : Decimal} {digits : List Char} (finite : d.isFinite = true)
    (stands : Decimal.Stands digits decimal)
    (rounds : RoundsTo (signed d.isNegative decimal.toRat) d)
    (fewest : ∀ other : Decimal, other.toRat < 2 ^ 1024 - 2 ^ 970 →
      RoundsTo (signed d.isNegative other.toRat) d →
      (Nat.toDigits 10 decimal.coefficient).length ≤
        (Nat.toDigits 10 other.coefficient).length) :
    Written d (String.ofList ((if d.isNegative then ['-'] else []) ++ digits))

/-- What is not zero has a significand. -/
theorem significand_ne_zero (nonzero : d.magnitude ≠ 0) : d.significand ≠ 0 := by
  unfold significand
  split
  next => exact nonzero
  next => exact (Nat.add_pos_right _ (by decide)).ne'

/-- The text of a finite double is a sign and the digits of its absolute value. -/
theorem text_eq (number : d.isNaN = false) (finite : d.isFinite = true) :
    d.text = String.ofList ((if d.isNegative then ['-'] else []) ++
      (if d.magnitude = 0 then "0" else d.shortest.positional).toList) := by
  unfold text
  rw [number, finite, String.ofList_append, String.ofList_toList]
  cases d.isNegative with
  | false => exact (String.empty_append).symm
  | true => rfl

/-- Zero is written as one digit. -/
theorem written_zero (finite : d.isFinite = true) (zero : d.magnitude = 0) :
    Written d (String.ofList ((if d.isNegative then ['-'] else []) ++ ['0'])) := by
  have none : d.significand = 0 := by
    rw [significand, zero]
    rfl
  have number : (⟨0, 0⟩ : Decimal).toRat = 0 := by rw [Decimal.toRat, Nat.cast_zero, zero_mul]
  have stands : Decimal.Stands ['0'] ⟨0, 0⟩ :=
    ⟨['0'], [], .whole (List.cons_ne_nil _ _) (Decimal.digits_toDigits 0), rfl, rfl⟩
  refine .finite finite stands (roundsTo_of_value_eq finite ?_)
    fun _ _ _ => Nat.length_toDigits_pos
  rw [number, value_eq_signed, absValue, none, Nat.cast_zero, zero_mul]

/-- A positive double or its negative is written as its shortest decimal. -/
theorem written_shortest (finite : d.isFinite = true) (positive : d.significand ≠ 0) :
    Written d (String.ofList
      ((if d.isNegative then ['-'] else []) ++ d.shortest.positional.toList)) :=
  .finite finite (Decimal.stands_positional d.shortest)
    (roundsTo_of_within finite positive (within_shortest positive))
    fun _ moderate rounds =>
      length_shortest_le positive (within_of_roundsTo positive moderate rounds)

/-- Every double is written as its text. -/
theorem written_text (d : Double) : Written d d.text := by
  cases number : d.isNaN with
  | true =>
    unfold text
    rw [number]
    exact .nan number
  | false =>
    cases finite : d.isFinite with
    | false =>
      have named := Written.infinite number finite
      unfold text
      rw [number, finite]
      cases negative : d.isNegative <;> rw [negative] at named <;> exact named
    | true =>
      rw [text_eq number finite]
      by_cases zero : d.magnitude = 0
      · rw [if_pos zero]
        exact written_zero finite zero
      · rw [if_neg zero]
        exact written_shortest finite (significand_ne_zero zero)

end Double

end SearchWire
