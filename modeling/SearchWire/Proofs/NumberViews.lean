import SearchWire.Proofs.IntegerReading

/-!
# Plain integers, and integers seen as doubles

Digits with an optional sign, an optional fraction of zeros and blanks around them spell an integer
plainly. Whatever their number, they are read as that integer if a signed word holds it, and are
refused if not: a number beyond the words is too large to come back from a double. The text of a
word is such a text, so a word is read back from it.

A reply that has a view as an integer also has one as a double, whichever way the integer was found,
and that double is the one nearest to the integer.
-/
namespace SearchWire

namespace Decimal

/-- Whether a text is nothing, or a point with zeros behind it. -/
inductive ZeroFraction : List Char → Prop
  /-- No fraction. -/
  | absent : ZeroFraction []
  /-- A point and at least one zero. -/
  | zeros (more : ℕ) : ZeroFraction ('.' :: List.replicate (more + 1) '0')

/-- Whether a text spells an integer plainly: as a sign and digits, followed by nothing but a
fraction of zeros and surrounded by nothing but blanks. -/
inductive SpellsPlainly : List Char → ℤ → Prop
  /-- Blanks, an integer, a fraction of zeros, and blanks. -/
  | mk {left word fraction right : List Char} {m : ℤ} (before : Blank.Blanks left)
    (spelled : SpellsInteger word m) (zeros : ZeroFraction fraction)
    (after : Blank.Blanks right) : SpellsPlainly (left ++ (word ++ fraction ++ right)) m

/-- No blank stands in an integer. -/
theorem SpellsInteger.visible {text : List Char} {m : ℤ} (spelled : SpellsInteger text m) :
    ∀ c ∈ text, Blank.isBlank c = false := by
  obtain ⟨signed, -, numeric⟩ := spelled
  intro c inside
  rcases List.mem_append.mp inside with inside | inside
  · cases signed with
    | absent => contradiction
    | plus | minus =>
      obtain rfl := List.mem_singleton.mp inside
      decide
  · exact Blank.isBlank_of_isDigit (numeric c inside)

/-- No blank stands in a fraction of zeros. -/
theorem ZeroFraction.visible {text : List Char} (zeros : ZeroFraction text) :
    ∀ c ∈ text, Blank.isBlank c = false := by
  cases zeros with
  | absent => exact fun c inside => absurd inside List.not_mem_nil
  | zeros more =>
    intro c inside
    rcases List.mem_cons.mp inside with rfl | inside
    · decide
    · rw [List.eq_of_mem_replicate inside]
      decide

/-- Between the blanks of a text that spells an integer plainly stand an integer and a fraction of
zeros. -/
theorem SpellsPlainly.trim {text : List Char} {m : ℤ} (plain : SpellsPlainly text m) :
    ∃ word fraction, Blank.trim text = word ++ fraction ∧ SpellsInteger word m ∧
      ZeroFraction fraction := by
  obtain ⟨before, spelled, zeros, after⟩ := plain
  refine ⟨_, _, Blank.trim_append before after (Blank.tight_of_forall fun c inside => ?_), spelled,
    zeros⟩
  exact (List.mem_append.mp inside).elim (spelled.visible c) (zeros.visible c)

/-- A fraction of zeros leaves the number that an integer spells. -/
theorem SpellsInteger.spells_append {word fraction : List Char} {m : ℤ}
    (spelled : SpellsInteger word m) (zeros : ZeroFraction fraction) :
    Spells (word ++ fraction) m := by
  cases zeros with
  | absent =>
    rw [List.append_nil]
    exact spelled.spells
  | zeros more => exact spelled.spells_pointed (more + 1)

/-- The text of an integer spells it. -/
theorem spellsInteger_toString (m : ℤ) : SpellsInteger (toString m).toList m := by
  rw [Int.toString_eq_repr, Int.repr_eq_if]
  split
  · next nonnegative =>
    have spelled := spellsInteger_toDigits .absent m.toNat
    rwa [if_neg Bool.false_ne_true, Int.toNat_of_nonneg nonnegative, List.nil_append,
      ← Nat.toList_repr] at spelled
  · next negative =>
    have spelled := spellsInteger_toDigits .minus (-m).toNat
    rw [if_pos rfl, Int.toNat_of_nonneg (by omega), neg_neg, ← Nat.toList_repr] at spelled
    rw [String.toList_append]
    exact spelled

/-- An integer is spelled plainly as it stands. -/
theorem SpellsInteger.plainly {text : List Char} {m : ℤ} (spelled : SpellsInteger text m) :
    SpellsPlainly text m := by
  have empty : Blank.Blanks [] := fun _ inside => absurd inside List.not_mem_nil
  have plain := SpellsPlainly.mk empty spelled .absent empty
  rwa [List.append_nil, List.append_nil, List.nil_append] at plain

end Decimal

namespace Reply

/-! ## Plain integers -/

/-- A text is split at its first point. -/
theorem splitAtPoint?_append {before : List Char} (plain : '.' ∉ before) (after : List Char) :
    splitAtPoint? (before ++ '.' :: after) = some (before, after) := by
  have other : ∀ c ∈ before, (c != '.') = true := by
    intro c inside
    rw [bne_iff_ne]
    rintro rfl
    exact plain inside
  rw [splitAtPoint?, List.dropWhile_append_of_pos other, List.takeWhile_append_of_pos other,
    List.dropWhile_cons_of_neg (by decide), List.takeWhile_cons_of_neg (by decide),
    List.append_nil]

/-- From an integer with a fraction of zeros, that integer is read. -/
theorem integerOfText?_eq_some_iff_of_plain {word fraction : List Char} {m : ℤ} {n : Int64}
    (spelled : Decimal.SpellsInteger word m) (zeros : Decimal.ZeroFraction fraction) :
    integerOfText? (word ++ fraction) = some n ↔ n.toInt = m := by
  constructor
  · intro read
    obtain ⟨x, spelled', denoted⟩ := spells_of_integerOfText? read
    obtain rfl := spelled'.unique (spelled.spells_append zeros)
    rcases denoted with same | taken
    · exact_mod_cast same.symm
    · exact absurd rfl (taken.beside m)
  · rintro rfl
    have exactly := wordOfText?_eq_some_iff.mpr spelled
    cases zeros with
    | absent => rw [List.append_nil, integerOfText?, exactly]
    | zeros more =>
      have pointed : wordOfText? (word ++ '.' :: List.replicate (more + 1) '0') = none := by
        refine Option.eq_none_iff_forall_ne_some.mpr fun k found => ?_
        exact (wordOfText?_eq_some_iff.mp found).no_point
          (List.mem_append_right _ List.mem_cons_self)
      have front : beforeZeros? (word ++ '.' :: List.replicate (more + 1) '0') = some word := by
        rw [beforeZeros?, splitAtPoint?_append spelled.no_point]
        simp
      rw [integerOfText?, pointed, front]
      exact exactly

/-- From a text that spells an integer plainly, the integer is read if a word holds it. -/
theorem asInteger_eq_ok_iff_of_plain {r : Reply} {text : String} {m : ℤ} {n : Int64}
    (holds : r.Holds text) (plain : Decimal.SpellsPlainly text.toList m) :
    r.asInteger = .ok n ↔ n.toInt = m := by
  obtain ⟨word, fraction, trimmed, spelled, zeros⟩ := plain.trim
  rw [asInteger_of_holds holds, found_eq_ok_iff, trimmed,
    integerOfText?_eq_some_iff_of_plain spelled zeros]

/-- An integer is refused with the reply it was looked for in. -/
theorem eq_of_asInteger_eq_error {r : Reply} {e : Error} (refused : r.asInteger = .error e) :
    e = .conversion "integer" r.describe := by
  unfold asInteger at refused
  dsimp only at refused
  split at refused
  · contradiction
  · exact (Except.error.inj refused).symm

/-- Every text that spells an integer plainly is read as that integer if a signed word holds it, and
is refused otherwise; and from the text of a word that word is read. -/
theorem plain_integers_exact :
    (∀ (r : Reply) (text : String) (m : ℤ), r.Holds text → Decimal.SpellsPlainly text.toList m →
      (-2 ^ 63 ≤ m ∧ m < 2 ^ 63 → ∃ n : Int64, n.toInt = m ∧ r.asInteger = .ok n) ∧
      (¬(-2 ^ 63 ≤ m ∧ m < 2 ^ 63) → r.asInteger = .error (.conversion "integer" r.describe))) ∧
    ∀ n : Int64, ∃ text, (integer n).toText = .ok text ∧
      ∀ r : Reply, r.Holds text → r.asInteger = .ok n := by
  refine ⟨fun r text m holds plain => ⟨?_, ?_⟩, fun n => ⟨toString n.toInt, rfl, ?_⟩⟩
  · rintro ⟨lower, upper⟩
    have same : (Int64.ofInt m).toInt = m := Int64.toInt_ofInt_of_le lower upper
    exact ⟨Int64.ofInt m, same, (asInteger_eq_ok_iff_of_plain holds plain).mpr same⟩
  · intro beyond
    cases outcome : r.asInteger with
    | ok n =>
      obtain rfl := (asInteger_eq_ok_iff_of_plain holds plain).mp outcome
      exact absurd ⟨n.le_toInt, n.toInt_lt⟩ beyond
    | error e => rw [eq_of_asInteger_eq_error outcome]
  · intro r holds
    exact (asInteger_eq_ok_iff_of_plain holds (Decimal.spellsInteger_toString _).plainly).mpr rfl

/-- The least word is read behind leading zeros and in front of a fraction of zeros, the number
beyond the greatest word is refused. -/
theorem plain_integers_at_the_ends :
    (∃ n : Int64, n.toInt = -9223372036854775808 ∧
      (simple " -0009223372036854775808.000\n").asInteger = .ok n) ∧
    (bulk (Octets.ofText "+9223372036854775808")).asInteger =
      .error (.conversion "integer" (bulk (Octets.ofText "+9223372036854775808")).describe) := by
  have blanks : Blank.Blanks [' '] ∧ Blank.Blanks ['\n'] :=
    ⟨List.forall_mem_singleton.mpr rfl, List.forall_mem_singleton.mpr rfl⟩
  have digits : Decimal.SpellsInteger "-0009223372036854775808".toList (-9223372036854775808) :=
    Decimal.integer?_eq_some_iff.mp rfl
  have least : Decimal.SpellsPlainly " -0009223372036854775808.000\n".toList
      (-9223372036854775808) := .mk blanks.1 digits (.zeros 2) blanks.2
  have beyond : Decimal.SpellsInteger "+9223372036854775808".toList 9223372036854775808 :=
    Decimal.integer?_eq_some_iff.mp rfl
  exact ⟨(plain_integers_exact.1 (simple _) _ _ rfl least).1 (by decide),
    (plain_integers_exact.1 (bulk _) _ _ rfl beyond.plainly).2 (by decide)⟩

/-! ## Integers seen as doubles -/

/-- A signed word is below the 64th power of two. -/
theorem abs_toInt_le (n : Int64) : |n.toInt| ≤ 2 ^ 64 := by
  have lower := n.le_toInt
  have upper := n.toInt_lt
  rw [abs_le]
  constructor <;> omega

/-- From a text from which an integer is read, the double nearest to the integer is read. -/
theorem exists_ofChars?_of_integerOfText? {text : List Char} {n : Int64}
    (read : integerOfText? text = some n) :
    ∃ d, Double.ofChars? text = some d ∧ Double.RoundsTo n.toInt d := by
  obtain ⟨x, spelled, rfl | taken⟩ := spells_of_integerOfText? read
  · refine Double.ofChars?_of_spells spelled ?_
    rw [← Int.cast_abs]
    exact_mod_cast abs_toInt_le n
  · -- the number is beside the integer, but the double it is rounded to is not
    obtain ⟨d, number, finite, whole⟩ := taken.exists_ofChars? spelled
    exact ⟨d, number, Double.roundsTo_of_value_eq finite whole⟩

/-- A reply that is a text is read as the double its text is read as. -/
theorem asDouble_of_holds {r : Reply} {text : String} {d : Double} (holds : r.Holds text)
    (read : Double.ofChars? (Blank.trim text.toList) = some d) : r.asDouble = .ok d := by
  have held := text?_eq_some_iff.mpr holds
  cases r with
  | simple s =>
    obtain rfl : s = text := holds
    simp only [asDouble, text?, Option.bind_some, read]
  | bulk octets => simp only [asDouble, held, Option.bind_some, read]
  | null | integer | double | array | error => exact absurd holds not_false

/-- A reply that is read as an integer is read as a double too, and that double is the one nearest to
the integer: it has the value of the double that the integer becomes. -/
theorem integer_view_has_double_view {r : Reply} {n : Int64} (read : r.asInteger = .ok n) :
    ∃ d, r.asDouble = .ok d ∧ Double.RoundsTo n.toInt d ∧
      d.value = (Double.ofInt n.toInt).value := by
  suffices seen : ∃ d, r.asDouble = .ok d ∧ Double.RoundsTo n.toInt d by
    obtain ⟨d, read', rounds⟩ := seen
    exact ⟨d, read', rounds, rounds.value_eq (Double.roundsTo_ofInt (abs_toInt_le n))⟩
  rcases asInteger_cases read with rfl | ⟨d, rfl, found⟩ | ⟨text, holds, found⟩
  · exact ⟨Double.ofInt n.toInt, rfl, Double.roundsTo_ofInt (abs_toInt_le n)⟩
  · obtain ⟨finite, whole, -⟩ := integerOfDouble?_eq_some_iff.mp found
    exact ⟨d, rfl, Double.roundsTo_of_value_eq finite whole⟩
  · obtain ⟨d, number, rounds⟩ := exists_ofChars?_of_integerOfText? found
    exact ⟨d, asDouble_of_holds holds number, rounds⟩

/-- The integer in front of a fraction of zeros, half way between two doubles, is seen as the even
one. -/
theorem double_view_of_tie :
    (simple "9007199254740993.0").asInteger = .ok 9007199254740993 ∧
      ∃ d, (simple "9007199254740993.0").asDouble = .ok d ∧
        Double.RoundsTo ((9007199254740993 : Int64).toInt : ℚ) d ∧
        d.value = (Double.ofInt (9007199254740993 : Int64).toInt).value :=
  ⟨rfl, integer_view_has_double_view rfl⟩

end Reply

end SearchWire
