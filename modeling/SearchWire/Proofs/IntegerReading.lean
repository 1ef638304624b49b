import SearchWire.Proofs.Numerals
import SearchWire.Proofs.RowGrammar

/-!
# Integers read from replies

An integer is read from a reply that is one, from a double that has its value and from a text that
spells a number. Digits alone and digits in front of a fraction of zeros are read exactly. Every
other number is first rounded to a double, and what is read is the value of that double: it is the
number itself if the number is an integer, but a number that is none can be rounded to one.
-/
namespace SearchWire.Reply

/-- The integer that is read from a double is its value, and has less than 54 bits. -/
theorem integerOfDouble?_eq_some_iff {d : Double} {n : Int64} :
    integerOfDouble? d = some n ↔
      d.isFinite = true ∧ d.value = n.toInt ∧ |n.toInt| < 2 ^ 53 := by
  have limit : ∀ k : ℤ, k.natAbs < firstInexact ↔ |k| < 2 ^ 53 := by
    intro k
    have unit : firstInexact = 2 ^ 53 := rfl
    rw [unit, Int.abs_eq_natAbs]
    norm_cast
  simp only [integerOfDouble?, Option.bind_eq_some_iff, Option.filter_eq_some_iff,
    decide_eq_true_eq, Word.int64?_eq_some_iff, limit, Double.integer?_eq_some_iff]
  constructor
  · rintro ⟨k, ⟨⟨finite, whole⟩, small⟩, rfl⟩
    exact ⟨finite, whole, small⟩
  · rintro ⟨finite, whole, small⟩
    exact ⟨n.toInt, ⟨⟨finite, whole⟩, small⟩, rfl⟩

/-- The integer that is read from a text without a fraction is the one it spells. -/
theorem wordOfText?_eq_some_iff {text : List Char} {n : Int64} :
    wordOfText? text = some n ↔ Decimal.SpellsInteger text n.toInt := by
  rw [wordOfText?, Option.bind_eq_some_iff, ← Decimal.integer?_eq_some_iff]
  simp only [Word.int64?_eq_some_iff]
  constructor
  · rintro ⟨k, read, rfl⟩
    exact read
  · exact fun read => ⟨n.toInt, read, rfl⟩

/-- A text is split at a point. -/
theorem eq_of_splitAtPoint? {text before after : List Char}
    (split : splitAtPoint? text = some (before, after)) : text = before ++ '.' :: after := by
  have joined := (List.takeWhile_append_dropWhile (p := (· != '.')) (l := text)).symm
  have point := List.head?_dropWhile_not (· != '.') text
  unfold splitAtPoint? at split
  split at split
  · contradiction
  · next c rest drop =>
    obtain ⟨rfl, rfl⟩ := Prod.mk.inj (Option.some.inj split)
    rw [drop] at joined point
    rwa [(bne_eq_false_iff_eq).mp point] at joined

/-- The text in front of a fraction of zeros is followed by a point and zeros. -/
theorem eq_of_beforeZeros? {text before : List Char} (read : beforeZeros? text = some before) :
    ∃ count, text = before ++ '.' :: List.replicate count '0' := by
  unfold beforeZeros? at read
  split at read
  · next part zeros split =>
    obtain ⟨⟨-, empty⟩, same⟩ := Option.ite_none_right_eq_some.mp read
    obtain rfl := Option.some.inj same
    have same : zeros = List.replicate zeros.length '0' :=
      List.eq_replicate_of_mem fun c inside => eq_of_beq (List.all_eq_true.mp empty c inside)
    refine ⟨zeros.length, ?_⟩
    rw [← same]
    exact eq_of_splitAtPoint? split
  · contradiction

/-! ## Numbers beside the integers -/

/-- A number that is no integer, and the integer it is taken for: it is rounded to a double that has
the value of the integer. -/
structure TakenFor (x : ℚ) (n : ℤ) : Prop where
  /-- The number is no integer. -/
  beside : ∀ k : ℤ, x ≠ k
  /-- The integer has less than 54 bits. -/
  small : |n| < 2 ^ 53
  /-- The double of the number has the value of the integer. -/
  rounded : ∃ d, Double.RoundsTo x d ∧ d.value = n

/-- The integer is at most a half away. -/
theorem TakenFor.near {x : ℚ} {n : ℤ} (taken : TakenFor x n) : |x - n| ≤ 1 / 2 := by
  obtain ⟨d, rounds, whole⟩ := taken.rounded
  exact (rounds.near_integer whole taken.small).1

/-- From a text that spells the number, a double with the value of the integer is read. -/
theorem TakenFor.exists_ofChars? {text : List Char} {x : ℚ} {n : ℤ} (taken : TakenFor x n)
    (spelled : Decimal.Spells text x) :
    ∃ d, Double.ofChars? text = some d ∧ d.isFinite = true ∧ d.value = n := by
  obtain ⟨e, rounds, whole⟩ := taken.rounded
  have size : |e.value| < 2 ^ 53 := by
    rw [whole, ← Int.cast_abs]
    exact_mod_cast taken.small
  have moderate : |x| ≤ 2 ^ 64 := (rounds.bounded size).trans (by norm_num)
  obtain ⟨d, number, rounds'⟩ := Double.ofChars?_of_spells spelled moderate
  exact ⟨d, number, rounds'.finite, (rounds'.value_eq rounds).trans whole⟩

/-- The value of a double is taken for no integer. -/
theorem not_takenFor_value {d : Double} (finite : d.isFinite = true) (n : ℤ) :
    ¬TakenFor d.value n := by
  rintro ⟨beside, -, e, rounds, whole⟩
  have near := rounds.nearest d finite
  rw [sub_self, abs_zero, abs_nonpos_iff, sub_eq_zero, whole] at near
  exact beside n near

/-- The number that a text spells is the integer that is read from the text, or is taken for it. -/
theorem spells_of_integerOfText? {text : List Char} {n : Int64}
    (read : integerOfText? text = some n) :
    ∃ x, Decimal.Spells text x ∧ (x = n.toInt ∨ TakenFor x n.toInt) := by
  unfold integerOfText? at read
  split at read
  · next k word =>
    obtain rfl := Option.some.inj read
    exact ⟨_, (wordOfText?_eq_some_iff.mp word).spells, .inl rfl⟩
  · split at read
    · next before zeros =>
      obtain ⟨count, rfl⟩ := eq_of_beforeZeros? zeros
      exact ⟨_, (wordOfText?_eq_some_iff.mp read).spells_pointed count, .inl rfl⟩
    · obtain ⟨d, number, read⟩ := Option.bind_eq_some_iff.mp read
      obtain ⟨finite, whole, small⟩ := integerOfDouble?_eq_some_iff.mp read
      obtain ⟨x, spelled, rounds⟩ := Double.roundsTo_of_ofChars? number finite
      refine ⟨x, spelled, ?_⟩
      by_cases integral : ∃ k : ℤ, x = k
      · obtain ⟨k, same⟩ := integral
        left
        rw [same, (rounds.near_integer whole small).2 k same]
      · exact .inr ⟨not_exists.mp integral, small, d, rounds, whole⟩

/-- From a text that spells no integer, the integer is read for which its number is taken. -/
theorem integerOfText?_eq_some_iff_of_beside {text : List Char} {x : ℚ} {n : Int64}
    (spelled : Decimal.Spells text x) (beside : ∀ k : ℤ, x ≠ k) :
    integerOfText? text = some n ↔ TakenFor x n.toInt := by
  constructor
  · intro read
    obtain ⟨y, spelled', denoted⟩ := spells_of_integerOfText? read
    obtain rfl := spelled.unique spelled'
    exact denoted.resolve_left (beside _)
  · intro taken
    have plain : wordOfText? text = none := by
      refine Option.eq_none_iff_forall_ne_some.mpr fun k word => ?_
      exact beside _ (spelled.unique (wordOfText?_eq_some_iff.mp word).spells)
    have pointed : beforeZeros? text = none := by
      refine Option.eq_none_iff_forall_ne_some.mpr fun before zeros => ?_
      obtain ⟨count, rfl⟩ := eq_of_beforeZeros? zeros
      obtain ⟨k, same⟩ := spelled.integral
      exact beside k same
    obtain ⟨d, number, finite, whole⟩ := taken.exists_ofChars? spelled
    rw [integerOfText?, plain, pointed]
    dsimp only
    rw [number, Option.bind_some, integerOfDouble?_eq_some_iff]
    exact ⟨finite, whole, taken.small⟩

/-! ## Replies -/

/-- What is found is read, and nothing found is a refusal. -/
theorem found_eq_ok_iff {found : Option Int64} {e : Error} {n : Int64} :
    (match found with
      | some n => Except.ok n
      | none => Except.error e) = .ok n ↔ found = some n := by
  cases found with
  | none => simp only [reduceCtorEq]
  | some k => simp only [Except.ok.injEq, Option.some.injEq]

/-- A reply that is a text is read as its text is. -/
theorem asInteger_of_holds {r : Reply} {text : String} (holds : r.Holds text) :
    r.asInteger =
      match integerOfText? (Blank.trim text.toList) with
      | some n => .ok n
      | none => .error (.conversion "integer" r.describe) := by
  have read := text?_eq_some_iff.mpr holds
  cases r with
  | simple s =>
    obtain rfl : s = text := holds
    rfl
  | bulk octets =>
    have found : (bulk octets).asInteger =
        match (bulk octets).text?.bind fun text => integerOfText? (Blank.trim text.toList) with
        | some n => .ok n
        | none => .error (.conversion "integer" (bulk octets).describe) := rfl
    rw [found, read]
    rfl
  | null | integer | double | array | error => exact absurd holds not_false

/-- An integer is read from an integer, from a double or from a text. -/
theorem asInteger_cases {r : Reply} {n : Int64} (read : r.asInteger = .ok n) :
    r = .integer n ∨ (∃ d, r = .double d ∧ integerOfDouble? d = some n) ∨
      ∃ text, r.Holds text ∧ integerOfText? (Blank.trim text.toList) = some n := by
  cases r with
  | integer k =>
    cases read
    exact .inl rfl
  | double d => exact .inr (.inl ⟨d, rfl, found_eq_ok_iff.mp read⟩)
  | simple s => exact .inr (.inr ⟨s, rfl, found_eq_ok_iff.mp read⟩)
  | bulk octets =>
    obtain ⟨text, held, found⟩ := Option.bind_eq_some_iff.mp (found_eq_ok_iff.mp read)
    exact .inr (.inr ⟨text, text?_eq_some_iff.mp held, found⟩)
  | null | array | error => contradiction

/-- An integer is read from a reply only if the reply denotes it, as an integer, as a double or as a
text, except for a text that spells a number beside the integers: from this one the integer is read
to whose double the number is rounded, and it is refused if the number is not rounded to one. -/
theorem integers_exact_unless_rounded (r : Reply) :
    (∀ n : Int64, r.asInteger = .ok n →
      r = .integer n ∨ (∃ d, r = .double d ∧ d.isFinite = true ∧ d.value = n.toInt) ∨
      ∃ text x, r.Holds text ∧ Decimal.Spells (Blank.trim text.toList) x ∧
        (x = n.toInt ∨ TakenFor x n.toInt ∧ |x - n.toInt| ≤ 1 / 2)) ∧
    ∀ (text : String) (x : ℚ), r.Holds text →
      Decimal.Spells (Blank.trim text.toList) x → (∀ k : ℤ, x ≠ k) →
      (∀ n : Int64, r.asInteger = .ok n ↔ TakenFor x n.toInt) ∧
      ((∀ n : ℤ, ¬TakenFor x n) → r.asInteger = .error (.conversion "integer" r.describe)) := by
  constructor
  · intro n read
    rcases asInteger_cases read with same | ⟨d, same, found⟩ | ⟨text, holds, found⟩
    · exact .inl same
    · obtain ⟨finite, whole, -⟩ := integerOfDouble?_eq_some_iff.mp found
      exact .inr (.inl ⟨d, same, finite, whole⟩)
    · obtain ⟨x, spelled, denoted⟩ := spells_of_integerOfText? found
      have near := denoted.imp_right fun taken => And.intro taken taken.near
      exact .inr (.inr ⟨text, x, holds, spelled, near⟩)
  · intro text x holds spelled beside
    have taken := fun n => integerOfText?_eq_some_iff_of_beside (n := n) spelled beside
    rw [asInteger_of_holds holds]
    refine ⟨fun n => found_eq_ok_iff.trans (taken n), fun never => ?_⟩
    rw [Option.eq_none_iff_forall_ne_some.mpr fun n found => never _ ((taken n).mp found)]

/-- A number with a denominator is no integer. -/
theorem ne_intCast_of_den {x : ℚ} (fraction : x.den ≠ 1) (k : ℤ) : x ≠ k := by
  rintro rfl
  exact fraction (Rat.den_intCast k)

/-- Digits with a point after the sixteenth spell a quarter beside an integer of 53 bits. -/
theorem spells_quarter :
    Decimal.Spells (Blank.trim "9007199254740991.25".toList) (9007199254740991 + 1 / 4) := by
  refine Decimal.spells_iff.mpr ⟨"9007199254740991".toList, "25".toList, 0, rfl, ?_⟩
  change _ = Double.signed false ((900719925474099125 : ℕ) * 10 ^ ((0 : ℤ) - (2 : ℕ)))
  norm_num [Double.signed]

/-- An integer in front of zeros is read, a half beside an integer is refused, and a quarter beside
an integer of 53 bits is taken for that integer. -/
theorem integers_exact_at_three_fractions :
    (∃ text x, (simple " -42.000 ").Holds text ∧ Decimal.Spells (Blank.trim text.toList) x ∧
      (x = (-42 : ℤ) ∨ TakenFor x (-42) ∧ |x - (-42 : ℤ)| ≤ 1 / 2)) ∧
    (simple "15.5").asInteger = .error (.conversion "integer" (simple "15.5").describe) ∧
    TakenFor (9007199254740991 + 1 / 4) 9007199254740991 := by
  refine ⟨?_, ?_, ?_⟩
  · rcases (integers_exact_unless_rounded (simple " -42.000 ")).1 (-42) rfl with
      same | ⟨d, same, -⟩ | denoted
    · contradiction
    · contradiction
    · exact denoted
  · have half : (Double.ofMagnitude false 0x402f000000000000).value = 31 / 2 := by
      change ((31 * 2 ^ 48 : ℤ) : ℚ) * 2 ^ (-49 : ℤ) = 31 / 2
      norm_num
    have spelled : Decimal.Spells (Blank.trim "15.5".toList) (31 / 2) := by
      refine Decimal.spells_iff.mpr ⟨"15".toList, "5".toList, 0, rfl, ?_⟩
      change _ = Double.signed false ((155 : ℕ) * 10 ^ ((0 : ℤ) - (1 : ℕ)))
      norm_num [Double.signed]
    have beside := ne_intCast_of_den (by decide +kernel : (31 / 2 : ℚ).den ≠ 1)
    refine ((integers_exact_unless_rounded (simple "15.5")).2 _ _ rfl spelled beside).2 ?_
    rw [← half]
    exact not_takenFor_value rfl
  · have beside :=
      ne_intCast_of_den (by decide +kernel : (9007199254740991 + 1 / 4 : ℚ).den ≠ 1)
    have taken := (integers_exact_unless_rounded (simple "9007199254740991.25")).2 _ _ rfl
      spells_quarter beside
    exact (taken.1 9007199254740991).mp rfl

/-- The number of a text with a quarter behind the point is no integer, but the integer before the
point is read, for the doubles have no fraction there. -/
theorem quarter_lost_beyond_fractions :
    (bulk (Octets.ofText "9007199254740991.25")).asInteger = .ok 9007199254740991 ∧
      (bulk (Octets.ofText "9007199254740991.25")).Holds "9007199254740991.25" ∧
      Decimal.Spells (Blank.trim "9007199254740991.25".toList) (9007199254740991 + 1 / 4) ∧
      ∀ k : ℤ, (9007199254740991 + 1 / 4 : ℚ) ≠ k :=
  ⟨rfl, rfl, spells_quarter, ne_intCast_of_den (by decide +kernel)⟩

end SearchWire.Reply
