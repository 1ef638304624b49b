import SearchWire.Double.Shortest
import SearchWire.Proofs.NearestDouble
import SearchWire.Proofs.Numerals
import Mathlib.Algebra.Order.Floor.Semifield

/-!
# The text of a double reads as that double

The digits of a finite double are the ones of a decimal, and the double is what that decimal is
rounded to. The numbers that lie in an interval around a positive double are rounded to it. A point
of a decimal grid is only taken if it lies within the interval, so what is to be shown is that one is
found at last: of the grid with seventeen digits, the points are nearer to each other than the ends
of the interval, so one of the two neighbours of the double lies within.
-/
namespace SearchWire

/-! ## Decimals in positional digits -/

namespace Decimal

/-- The number that a decimal stands for. -/
def toRat (d : Decimal) : ℚ := d.coefficient * 10 ^ d.exponent

/-- A zero at the end moves into the exponent. -/
theorem toRat_drop_zero {coefficient : ℕ} {place : ℤ} (zero : coefficient % 10 = 0) :
    (⟨coefficient / 10, place + 1⟩ : Decimal).toRat = (⟨coefficient, place⟩ : Decimal).toRat := by
  obtain ⟨rest, rfl⟩ := Nat.dvd_of_mod_eq_zero zero
  rw [toRat, toRat, Nat.mul_div_cancel_left rest (by decide), zpow_add_one₀ (by norm_num)]
  push_cast
  ring

/-- A number is the value of its digits. -/
theorem value_toDigits (n : ℕ) : value (Nat.toDigits 10 n) = n :=
  (natural?_eq_some_iff.mp (natural?_toDigits n)).2.2

/-- Zeros in front of digits do not count. -/
theorem value_zeros_append (count : ℕ) (digits : List Char) :
    value (List.replicate count '0' ++ digits) = value digits := by
  induction count with
  | zero => rfl
  | succ count ih => exact ih

/-- Whether a text holds the digits of a decimal: as many of them behind a point as its exponent is
below zero, and as many zeros at the end as it is above. -/
def Stands (text : List Char) (d : Decimal) : Prop :=
  ∃ whole fraction, Mantissa text whole fraction ∧ fraction.length = (-d.exponent).toNat ∧
    value (whole ++ fraction) = d.coefficient * 10 ^ d.exponent.toNat

/-- Digits around a point are the ones of a decimal. -/
theorem stands_pointed {d : Decimal} {whole fraction : List Char} (numeric : Digits whole)
    (behind : Digits fraction) (below : d.exponent < 0)
    (places : fraction.length = (-d.exponent).toNat)
    (number : value (whole ++ fraction) = d.coefficient) : Stands (whole ++ '.' :: fraction) d := by
  have present : ¬(whole = [] ∧ fraction = []) := by
    rintro ⟨-, rfl⟩
    rw [List.length_nil] at places
    omega
  refine ⟨whole, fraction, .pointed present numeric behind, places, ?_⟩
  rw [number, Int.toNat_of_nonpos below.le, pow_zero, mul_one]

/-- The positional digits of a decimal are its digits. -/
theorem stands_positional (d : Decimal) : Stands d.positional.toList d := by
  have numeric : Digits (Nat.toDigits 10 d.coefficient) := digits_toDigits d.coefficient
  have present : Nat.toDigits 10 d.coefficient ≠ [] := Nat.toDigits_ne_nil
  have number := value_toDigits d.coefficient
  have zeros (count : ℕ) : Digits (List.replicate count '0') := by
    intro c inside
    rw [List.eq_of_mem_replicate inside]
    rfl
  unfold positional
  dsimp only
  generalize Nat.toDigits 10 d.coefficient = digits at numeric present number
  split_ifs with whole inside <;> rw [String.toList_ofList]
  · refine ⟨_, [], .whole (fun none => present (List.append_eq_nil_iff.mp none).1)
      (List.forall_mem_append.mpr ⟨numeric, zeros d.exponent.toNat⟩), ?_, ?_⟩
    · rw [List.length_nil]
      omega
    · rw [List.append_nil, value_append_zeros, number]
  · refine stands_pointed (fun c taken => numeric c (List.mem_of_mem_take taken))
      (fun c left => numeric c (List.mem_of_mem_drop left)) (not_le.mp whole) ?_ ?_
    · rw [List.length_drop]
      omega
    · rw [List.take_append_drop, number]
  · refine stands_pointed (zeros 1) (List.forall_mem_append.mpr ⟨zeros _, numeric⟩)
      (not_le.mp whole) ?_ ?_
    · rw [List.length_append, List.length_replicate]
      omega
    · rw [value_zeros_append, value_zeros_append, number]

end Decimal

namespace Double

/-! ## The interval around a double -/

variable {d : Double}

/-- The lower end of the interval around a positive double. -/
def low (d : Double) : ℚ := d.quarters.1 * 2 ^ (d.exponent - 2)

/-- The upper end of the interval around a positive double. -/
def high (d : Double) : ℚ := d.quarters.2.2 * 2 ^ (d.exponent - 2)

/-- Whether a number lies in the interval around a positive double, to which the ends belong if the
double is even. -/
def Within (d : Double) (x : ℚ) : Prop :=
  if d.significand % 2 = 0 then d.low ≤ x ∧ x ≤ d.high else d.low < x ∧ x < d.high

/-- A number within is not beyond the ends, and is none of them if the double is odd. -/
theorem within_iff {x : ℚ} : d.Within x ↔
    (d.low ≤ x ∧ x ≤ d.high) ∧ (¬Even d.significand → d.low < x ∧ x < d.high) := by
  unfold Within
  rw [Nat.even_iff]
  split
  next even => exact ⟨fun closed => ⟨closed, fun odd => absurd even odd⟩, fun both => both.1⟩
  next odd =>
    exact ⟨fun inside => ⟨⟨inside.1.le, inside.2.le⟩, fun _ => inside⟩, fun both => both.2 odd⟩

/-- A number between the ends lies within, even if they do not. -/
theorem within_of_between {x : ℚ} (above : d.low < x) (below : x < d.high) : d.Within x :=
  within_iff.mpr ⟨⟨above.le, below.le⟩, fun _ => ⟨above, below⟩⟩

/-- The last place in quarters. -/
theorem zpow_exponent (d : Double) : (2 : ℚ) ^ d.exponent = 4 * 2 ^ (d.exponent - 2) := by
  rw [zpow_sub₀ two_ne_zero]
  ring

/-- Half of the last place in quarters. -/
theorem zpow_exponent_sub_one (d : Double) :
    (2 : ℚ) ^ (d.exponent - 1) = 2 * 2 ^ (d.exponent - 2) := by
  rw [← zpow_one_add₀ two_ne_zero]
  congr 1
  omega

/-- The double in quarters of its last place. -/
theorem absValue_eq_quarters (d : Double) :
    d.absValue = 4 * d.significand * 2 ^ (d.exponent - 2) := by
  rw [absValue, zpow_exponent]
  ring

/-- The upper end is half of the last place above the double. -/
theorem high_eq (d : Double) : d.high = (4 * d.significand + 2) * 2 ^ (d.exponent - 2) := by
  change ((4 * d.significand + 2 : ℕ) : ℚ) * _ = _
  push_cast
  rfl

/-- The lower end is half of the last place below the double, and a quarter of it below a power of
two, where the doubles are twice as dense. -/
theorem low_cases (positive : d.significand ≠ 0) :
    (d.significand = 2 ^ 52 ∧ -1074 < d.exponent ∧
      d.low = (4 * d.significand - 1) * 2 ^ (d.exponent - 2)) ∨
    (¬(d.significand = 2 ^ 52 ∧ -1074 < d.exponent) ∧
      d.low = (4 * d.significand - 2) * 2 ^ (d.exponent - 2)) := by
  have least : 2 ≤ 4 * d.significand := by omega
  unfold low quarters
  dsimp only
  by_cases narrow : d.significand = leadingBit ∧ -1074 < d.exponent
  · refine .inl ⟨narrow.1, narrow.2, ?_⟩
    rw [if_pos narrow, Nat.cast_sub (by omega)]
    push_cast
    rfl
  · refine .inr ⟨narrow, ?_⟩
    rw [if_neg narrow, Nat.cast_sub least]
    push_cast
    rfl

/-- A positive double is between the ends. -/
theorem absValue_between (positive : d.significand ≠ 0) :
    d.low < d.absValue ∧ d.absValue < d.high := by
  have step : (0 : ℚ) < 2 ^ (d.exponent - 2) := by positivity
  rw [high_eq, absValue_eq_quarters]
  constructor
  · rcases low_cases positive with ⟨-, -, low⟩ | ⟨-, low⟩ <;> (rw [low]; gcongr; linarith)
  · gcongr
    linarith

/-- A step of the grid of a power of ten, as an integer beside a step of the grid of quarters. -/
def unit (d : Double) (place : ℤ) : ℕ := Nat.pow 10 place.toNat <<< (-(d.exponent - 2)).toNat

/-- A quarter of the last place, as an integer beside a step of the grid of a power of ten. -/
def quarter (d : Double) (place : ℤ) : ℕ := Nat.pow 10 (-place).toNat <<< (d.exponent - 2).toNat

/-- A power of ten is the same as a fraction. -/
theorem cast_pow_ten (k : ℕ) : ((Nat.pow 10 k : ℕ) : ℚ) = 10 ^ k := Nat.cast_pow 10 k

/-- Both are what they stand for, times the same factor. -/
theorem exists_factor (d : Double) (place : ℤ) : ∃ factor : ℚ, 0 < factor ∧
    (d.unit place : ℚ) = 10 ^ place * factor ∧
    (d.quarter place : ℚ) = 2 ^ (d.exponent - 2) * factor := by
  refine ⟨10 ^ (-place).toNat * 2 ^ (-(d.exponent - 2)).toNat, by positivity, ?_, ?_⟩
  · rw [unit, cast_shiftLeft, zpow_eq_div (by norm_num : (10 : ℚ) ≠ 0), cast_pow_ten]
    field_simp
  · rw [quarter, cast_shiftLeft, zpow_eq_div (two_ne_zero : (2 : ℚ) ≠ 0), cast_pow_ten]
    field_simp

/-- A point of the grid is compared to a number of quarters by integers. -/
theorem grid_le_iff (d : Double) (place : ℤ) (count size : ℕ) :
    (size * d.quarter place ≤ count * d.unit place ↔
      (size : ℚ) * 2 ^ (d.exponent - 2) ≤ count * 10 ^ place) ∧
    (count * d.unit place ≤ size * d.quarter place ↔
      (count : ℚ) * 10 ^ place ≤ size * 2 ^ (d.exponent - 2)) := by
  obtain ⟨factor, positive, step, part⟩ := d.exists_factor place
  constructor <;>
    rw [← Nat.cast_le (α := ℚ), Nat.cast_mul, Nat.cast_mul, step, part, ← mul_assoc, ← mul_assoc,
      mul_le_mul_iff_left₀ positive]

/-- Whether a point of the grid lies within, by integers. -/
def insideGrid (d : Double) (place : ℤ) (count : ℕ) : Bool :=
  if d.significand % 2 = 0 then
    decide (d.quarters.1 * d.quarter place ≤ count * d.unit place) &&
      decide (count * d.unit place ≤ d.quarters.2.2 * d.quarter place)
  else
    decide (d.quarters.1 * d.quarter place < count * d.unit place) &&
      decide (count * d.unit place < d.quarters.2.2 * d.quarter place)

/-- The integers say whether the point lies within. -/
theorem insideGrid_iff {place : ℤ} {count : ℕ} :
    d.insideGrid place count = true ↔ d.Within (count * 10 ^ place) := by
  have bottom := d.grid_le_iff place count d.quarters.1
  have top := d.grid_le_iff place count d.quarters.2.2
  unfold insideGrid Within low high
  split
  · rw [Bool.and_eq_true, decide_eq_true_eq, decide_eq_true_eq, bottom.1, top.2]
  · rw [Bool.and_eq_true, decide_eq_true_eq, decide_eq_true_eq, ← not_le, ← not_le, bottom.2, top.1,
      not_le, not_le]

/-- The number of the point of the grid at or below the double. -/
def floorGrid (d : Double) (place : ℤ) : ℕ :=
  d.quarters.2.1 * d.quarter place / d.unit place

/-- The double lies between this point and the next one. -/
theorem floorGrid_spec (d : Double) (place : ℤ) :
    (d.floorGrid place : ℚ) * 10 ^ place ≤ d.absValue ∧
      d.absValue < (d.floorGrid place + 1 : ℕ) * 10 ^ place := by
  have size : (d.quarters.2.1 : ℚ) * 2 ^ (d.exponent - 2) = d.absValue := by
    rw [absValue_eq_quarters]
    change ((4 * d.significand : ℕ) : ℚ) * _ = _
    push_cast
    rfl
  have positive : 0 < d.unit place := by
    rw [unit, Nat.shiftLeft_eq]
    exact Nat.mul_pos (Nat.pow_pos (by decide)) (Nat.two_pow_pos _)
  rw [← size]
  constructor
  · exact (d.grid_le_iff place _ _).2.mp (Nat.div_mul_le_self _ _)
  · rw [← not_le, ← (d.grid_le_iff place _ _).2, not_le]
    exact (Nat.div_lt_iff_lt_mul positive).mp (Nat.lt_succ_self _)

/-- Of a grid, the two neighbours of the double are tried. -/
theorem onGrid?_eq (d : Double) (place : ℤ) : d.onGrid? place =
    match d.insideGrid place (d.floorGrid place), d.insideGrid place (d.floorGrid place + 1) with
    | true, true =>
      some ⟨if 2 * (d.quarters.2.1 * d.quarter place % d.unit place) < d.unit place
        then d.floorGrid place else d.floorGrid place + 1, place⟩
    | true, false => some ⟨d.floorGrid place, place⟩
    | false, true => some ⟨d.floorGrid place + 1, place⟩
    | false, false => none :=
  rfl

/-- What is taken from a grid is one of its two points next to the double, and lies within. -/
theorem of_onGrid?_eq_some {place : ℤ} {found : Decimal} (hit : d.onGrid? place = some found) :
    found.exponent = place ∧ found.coefficient ≤ d.floorGrid place + 1 ∧ d.Within found.toRat := by
  rw [onGrid?_eq] at hit
  split at hit
  next below above =>
    cases hit
    dsimp only [Decimal.toRat]
    split
    · exact ⟨rfl, Nat.le_succ _, insideGrid_iff.mp below⟩
    · exact ⟨rfl, le_rfl, insideGrid_iff.mp above⟩
  next below _ =>
    cases hit
    exact ⟨rfl, Nat.le_succ _, insideGrid_iff.mp below⟩
  next _ above =>
    cases hit
    exact ⟨rfl, le_rfl, insideGrid_iff.mp above⟩
  next => contradiction

/-! ## A point is found -/

/-- The interval is wider than a unit of the seventeenth digit of the double. -/
theorem absValue_lt_width (positive : d.significand ≠ 0) :
    d.absValue < 10 ^ 16 * (d.high - d.low) := by
  have small : (d.significand : ℚ) < 2 ^ 53 := by exact_mod_cast d.significand_lt
  have step : (0 : ℚ) < 2 ^ (d.exponent - 2) := by positivity
  have wide : 4 * (d.significand : ℚ) * 2 ^ (d.exponent - 2) <
      4 * 2 ^ 53 * 2 ^ (d.exponent - 2) := by gcongr
  rw [absValue_eq_quarters, high_eq]
  rcases low_cases positive with ⟨leading, -, low⟩ | ⟨-, low⟩
  · rw [low, leading]
    push_cast
    linarith
  · rw [low]
    linarith

/-- The double scaled by a power of ten, without its fraction. -/
def scaled (d : Double) (k : ℕ) : ℕ :=
  (d.significand * Nat.pow 10 k) <<< d.exponent.toNat >>> (-d.exponent).toNat

/-- The power of ten makes up for the least exponent of a double. -/
theorem one_le_scale : (1 : ℚ) ≤ 2 ^ (-1074 : ℤ) * 10 ^ scalePlaces := by
  have power : (2 : ℚ) ^ 1074 ≤ 10 ^ 330 :=
    calc (2 : ℚ) ^ 1074 ≤ 2 ^ (33 * 33) := pow_le_pow_right₀ one_le_two (by decide)
      _ = (2 ^ 33) ^ 33 := pow_mul _ _ _
      _ ≤ (10 ^ 10) ^ 33 := by
        gcongr
        norm_num
      _ = 10 ^ 330 := (pow_mul _ _ _).symm
  rw [zpow_neg, inv_mul_eq_div, one_le_div (by positivity)]
  exact power

/-- What is left is the integer at or below the scaled double. -/
theorem floor_absValue_mul (d : Double) (k : ℕ) : ⌊d.absValue * 10 ^ k⌋₊ = d.scaled k := by
  have fraction : d.absValue * 10 ^ k =
      (((d.significand * Nat.pow 10 k) <<< d.exponent.toNat : ℕ) : ℚ) /
        (2 ^ (-d.exponent).toNat : ℕ) := by
    rw [cast_shiftLeft, Nat.cast_mul, cast_pow_ten, absValue, zpow_eq_div two_ne_zero]
    push_cast
    ring
  rw [fraction, Nat.floor_div_eq_div, scaled, Nat.shiftRight_eq_div_pow]

/-- The power of ten is so large that every positive double is scaled to one that is not below
one. -/
theorem one_le_absValue_mul (positive : d.significand ≠ 0) : 1 ≤ d.absValue * 10 ^ scalePlaces := by
  have least : (1 : ℚ) ≤ d.significand := by exact_mod_cast Nat.one_le_iff_ne_zero.mpr positive
  calc (1 : ℚ) ≤ 2 ^ (-1074 : ℤ) * 10 ^ scalePlaces := one_le_scale
    _ ≤ 2 ^ d.exponent * 10 ^ scalePlaces := by
      gcongr
      · exact one_le_two
      · exact d.neg_1074_le_exponent
    _ ≤ d.significand * 2 ^ d.exponent * 10 ^ scalePlaces := by
      gcongr
      exact le_mul_of_one_le_left (by positivity) least

/-- The number of digits that a scaled number has tells the place of its first digit. -/
theorem zpow_length_toDigits {x : ℚ} {k : ℕ} (one : 1 ≤ x * 10 ^ k) :
    10 ^ ((Nat.toDigits 10 ⌊x * 10 ^ k⌋₊).length - k - 1 : ℤ) ≤ x ∧
      x < 10 ^ ((Nat.toDigits 10 ⌊x * 10 ^ k⌋₊).length - k : ℤ) := by
  have nonzero : ⌊x * 10 ^ k⌋₊ ≠ 0 := (Nat.floor_pos.mpr one).ne'
  have least := pow_length_toDigits_le nonzero
  have most := lt_pow_length_toDigits ⌊x * 10 ^ k⌋₊
  have some : 0 < (Nat.toDigits 10 ⌊x * 10 ^ k⌋₊).length := Nat.length_toDigits_pos
  have scale : (0 : ℚ) < 10 ^ k := by positivity
  generalize (Nat.toDigits 10 ⌊x * 10 ^ k⌋₊).length = count at least most some
  have shift (e : ℕ) (q : ℤ) (same : q + k = e) : (10 : ℚ) ^ q * 10 ^ k = (10 ^ e : ℕ) := by
    rw [← zpow_natCast, ← zpow_add₀ (by norm_num), same, zpow_natCast, Nat.cast_pow, Nat.cast_ofNat]
  rw [← mul_le_mul_iff_left₀ scale, ← mul_lt_mul_iff_left₀ scale, shift (count - 1) _ (by omega),
    shift count _ (by omega)]
  exact ⟨(Nat.le_floor_iff (by linarith)).mp least, (Nat.floor_lt (by linarith)).mp most⟩

/-- The digits of a positive double before its point are counted. -/
theorem wholeDigits_spec (positive : d.significand ≠ 0) :
    10 ^ (d.wholeDigits - 1) ≤ d.absValue ∧ d.absValue < 10 ^ d.wholeDigits := by
  have count : d.wholeDigits =
      (Nat.toDigits 10 (d.scaled scalePlaces)).length - (scalePlaces : ℕ) := rfl
  rw [count, ← floor_absValue_mul]
  exact zpow_length_toDigits (one_le_absValue_mul positive)

/-- A grid is taken if one of its points next to the double lies within. -/
theorem onGrid?_ne_none_of_inside {place : ℤ}
    (hit : d.insideGrid place (d.floorGrid place) = true ∨
      d.insideGrid place (d.floorGrid place + 1) = true) : d.onGrid? place ≠ none := by
  rw [onGrid?_eq]
  rcases hit with hit | hit <;> rw [hit]
  · cases d.insideGrid place (d.floorGrid place + 1) <;> exact Option.some_ne_none _
  · cases d.insideGrid place (d.floorGrid place) <;> exact Option.some_ne_none _

/-- On a grid whose steps are smaller than the interval, one of the points next to the double lies
within. -/
theorem onGrid?_ne_none (positive : d.significand ≠ 0) {place : ℤ}
    (fine : 10 ^ place < d.high - d.low) : d.onGrid? place ≠ none := by
  obtain ⟨below, above⟩ := d.floorGrid_spec place
  obtain ⟨bottom, top⟩ := absValue_between positive
  apply onGrid?_ne_none_of_inside
  rcases lt_or_ge d.low (d.floorGrid place * 10 ^ place) with inside | outside
  · exact .inl (insideGrid_iff.mpr (within_of_between inside (below.trans_lt top)))
  · refine .inr (insideGrid_iff.mpr (within_of_between (bottom.trans above) ?_))
    push_cast
    linarith

/-- The grid of seventeen digits has steps that are smaller than the interval. -/
theorem step_lt_width (positive : d.significand ≠ 0) :
    (10 : ℚ) ^ (d.wholeDigits - 17) < d.high - d.low := by
  have first := (wholeDigits_spec positive).1
  have width := absValue_lt_width positive
  have place : (10 : ℚ) ^ (d.wholeDigits - 1) = 10 ^ 16 * 10 ^ (d.wholeDigits - 17) := by
    rw [← zpow_natCast, ← zpow_add₀ (by norm_num)]
    congr 1
    omega
  linarith

/-- The shortest decimal of a positive double is taken from the coarsest of seventeen grids that has a
point within, without a zero at its end. -/
theorem shortest_spec (positive : d.significand ≠ 0) :
    ∃ more < 17, ∃ found, d.onGrid? (d.wholeDigits - (more + 1 : ℕ)) = some found ∧
      (∀ fewer < more, d.onGrid? (d.wholeDigits - (fewer + 1 : ℕ)) = none) ∧
      d.shortest = if found.coefficient % 10 = 0
        then ⟨found.coefficient / 10, found.exponent + 1⟩ else found := by
  have hit : ∃ found, (List.range 17).findSome?
      (fun more => d.onGrid? (d.wholeDigits - (more + 1 : ℕ))) = some found := by
    rw [← Option.ne_none_iff_exists']
    intro missed
    exact onGrid?_ne_none positive (step_lt_width positive)
      (List.findSome?_eq_none_iff.mp missed 16 (List.mem_range.mpr (by decide)))
  obtain ⟨found, hit⟩ := hit
  obtain ⟨front, more, back, split, taken, missed⟩ := List.findSome?_eq_some_iff.mp hit
  -- The grids are tried from the coarsest on, so the coarser ones are those in front of the hit.
  have sorted : (front ++ more :: back).Pairwise (· < ·) := by
    rw [← split]
    exact List.pairwise_lt_range
  have tried : more < 17 := by
    rw [← List.mem_range, split]
    exact List.mem_append_right _ List.mem_cons_self
  refine ⟨more, tried, found, taken, fun fewer less => ?_, ?_⟩
  · have earlier : fewer ∈ front ++ more :: back := by
      rw [← split, List.mem_range]
      exact less.trans tried
    rcases List.mem_append.mp earlier with before | behind
    · exact missed fewer before
    · rcases List.mem_cons.mp behind with rfl | later
      · exact absurd less (lt_irrefl _)
      · exact absurd less
          (List.rel_of_pairwise_cons (List.pairwise_append.mp sorted).2.1 later).not_gt
  · unfold shortest
    rw [hit]

/-- The shortest decimal of a positive double lies within. -/
theorem within_shortest (positive : d.significand ≠ 0) : d.Within d.shortest.toRat := by
  obtain ⟨more, -, found, hit, -, same⟩ := shortest_spec positive
  obtain ⟨-, -, within⟩ := of_onGrid?_eq_some hit
  rw [same]
  split
  next zero =>
    rw [Decimal.toRat_drop_zero zero]
    exact within
  next => exact within

/-! ## What lies within is rounded to the double -/

/-- What is at most a half away from an integer is rounded to it, if the integer is even or less than
a half away. -/
theorem rounded_of_half {t : ℚ} {u : ℕ} (near : |t - u| ≤ 1 / 2)
    (odd : ¬Even u → |t - u| < 1 / 2) : Rounded t u := by
  rw [Rounded, Int.cast_natCast]
  by_cases even : Even u
  · rcases near.lt_or_eq with closer | half
    · exact .inl closer
    · exact .inr ⟨half, (Int.even_coe_nat u).mpr even⟩
  · exact .inl (odd even)

/-- The exponent is the least one, or the significand has all its bits. -/
theorem leadingBit_le_significand (normal : -1074 < d.exponent) : 2 ^ 52 ≤ d.significand := by
  unfold exponent at normal
  unfold significand
  split at normal
  next => exact absurd normal (lt_irrefl _)
  next leading =>
    rw [if_neg leading]
    exact Nat.le_add_left _ _

/-- Below a power of two, a number within is rounded on the grid that is twice as dense. -/
theorem roundsTo_of_within_below {x : ℚ} (finite : d.isFinite = true)
    (leading : d.significand = 2 ^ 52) (normal : -1074 < d.exponent)
    (bottom : (4 * d.significand - 1) * 2 ^ (d.exponent - 2) ≤ x) (below : x < d.absValue) :
    RoundsTo (signed d.isNegative x) d := by
  have step : (0 : ℚ) < 2 ^ (d.exponent - 2) := by positivity
  have size : d.absValue = (2 * d.significand : ℕ) * 2 ^ (d.exponent - 1) := by
    rw [absValue_eq_quarters, zpow_exponent_sub_one]
    push_cast
    ring
  rw [absValue_eq_quarters] at below
  refine roundsTo_of_grid finite (rounded_of_half ?_ fun odd => absurd (even_two_mul _) odd)
    (by omega) (fun _ => ?_) size fun _ => by rw [leading]; exact ⟨2 ^ 51, rfl⟩
  · rw [zpow_exponent_sub_one, abs_le, le_sub_iff_add_le, sub_le_iff_le_add,
      le_div_iff₀ (by positivity), div_le_iff₀ (by positivity)]
    push_cast
    constructor <;> linarith
  · rw [zpow_exponent_sub_one]
    rw [leading] at bottom
    push_cast at bottom
    linarith

/-- What is at most half of the last place away from a double, and is not below its power of two, is
rounded on the grid of its last place. -/
theorem roundsTo_of_half_place {x : ℚ} (finite : d.isFinite = true)
    (bottom : (4 * d.significand - 2) * 2 ^ (d.exponent - 2) ≤ x) (top : x ≤ d.high)
    (odd : ¬Even d.significand →
      (4 * d.significand - 2) * 2 ^ (d.exponent - 2) < x ∧ x < d.high)
    (normal : -1074 < d.exponent → 2 ^ 52 * 2 ^ d.exponent ≤ x) :
    RoundsTo (signed d.isNegative x) d := by
  have step : (0 : ℚ) < 2 ^ (d.exponent - 2) := by positivity
  rw [high_eq] at top odd
  refine roundsTo_of_grid finite (rounded_of_half ?_ fun notEven => ?_)
    d.neg_1074_le_exponent normal rfl id
  · rw [zpow_exponent, abs_le, le_sub_iff_add_le, sub_le_iff_le_add, le_div_iff₀ (by positivity),
      div_le_iff₀ (by positivity)]
    constructor <;> linarith
  · obtain ⟨above, below⟩ := odd notEven
    rw [zpow_exponent, abs_lt, lt_sub_iff_add_lt, sub_lt_iff_lt_add, lt_div_iff₀ (by positivity),
      div_lt_iff₀ (by positivity)]
    constructor <;> linarith

/-- A number within is rounded to the double. -/
theorem roundsTo_of_within {x : ℚ} (finite : d.isFinite = true) (positive : d.significand ≠ 0)
    (within : d.Within x) : RoundsTo (signed d.isNegative x) d := by
  obtain ⟨⟨bottom, top⟩, odd⟩ := within_iff.mp within
  have step : (0 : ℚ) < 2 ^ (d.exponent - 2) := by positivity
  rcases low_cases positive with ⟨leading, normal, low⟩ | ⟨wide, low⟩
  · -- The spacing changes at a power of two, so the two sides of it are rounded on two grids.
    rcases lt_or_ge x d.absValue with below | above
    · rw [low] at bottom
      exact roundsTo_of_within_below finite leading normal bottom below
    · have even : Even d.significand := by rw [leading]; exact ⟨2 ^ 51, rfl⟩
      have inside : (4 * d.significand - 2 : ℚ) * 2 ^ (d.exponent - 2) ≤ x := by
        rw [absValue_eq_quarters] at above
        linarith
      refine roundsTo_of_half_place finite inside top (fun notEven => absurd even notEven)
        fun _ => ?_
      rwa [absValue, leading, Nat.cast_pow, Nat.cast_ofNat] at above
  · rw [low] at bottom odd
    refine roundsTo_of_half_place finite bottom top odd fun normal => ?_
    have bits : 2 ^ 52 + 1 ≤ d.significand :=
      lt_of_le_of_ne (leadingBit_le_significand normal) fun leading => wide ⟨leading.symm, normal⟩
    have size : (2 ^ 52 + 1 : ℚ) ≤ d.significand := by exact_mod_cast bits
    have least : (4 * (2 ^ 52 + 1) - 2 : ℚ) * 2 ^ (d.exponent - 2) ≤
        (4 * d.significand - 2) * 2 ^ (d.exponent - 2) := by gcongr
    rw [zpow_exponent]
    linarith

end Double

end SearchWire
