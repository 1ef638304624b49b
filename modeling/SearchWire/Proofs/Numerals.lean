import SearchWire.Proofs.RoundingUniqueness
import Mathlib.Data.List.TakeWhile

/-!
# The grammar of decimal numbers

Which texts spell a decimal number, and which number they spell, is said without reading them: a
sign, digits with a point among or around them, and a mark with a power of ten, of which the sign,
the point and the power can be left out. A text spells one number at most. The double that is read
from a text is the one to which the number it spells is rounded.
-/
namespace SearchWire

namespace Decimal

/-! ## The grammar -/

/-- Whether a text is a sign or nothing; the flag says whether it is a minus. -/
inductive Sign : List Char → Bool → Prop
  /-- No sign. -/
  | absent : Sign [] false
  /-- A plus. -/
  | plus : Sign ['+'] false
  /-- A minus. -/
  | minus : Sign ['-'] true

/-- Whether a text holds digits only. -/
def Digits (text : List Char) : Prop := ∀ c ∈ text, c.isDigit = true

/-- Whether a text spells an integer: a sign and at least one digit. -/
inductive SpellsInteger : List Char → ℤ → Prop
  /-- A sign and digits. -/
  | mk {sign digits : List Char} {negative : Bool} (signed : Sign sign negative)
    (present : digits ≠ []) (numeric : Digits digits) :
    SpellsInteger (sign ++ digits) (if negative then -(value digits : ℤ) else value digits)

/-- Whether a text holds the given digits before and behind a point; one digit has to be there, and
the point only in front of a digit. -/
inductive Mantissa : List Char → List Char → List Char → Prop
  /-- Digits without a point. -/
  | whole {whole : List Char} (present : whole ≠ []) (numeric : Digits whole) :
    Mantissa whole whole []
  /-- Digits around a point. -/
  | pointed {whole fraction : List Char} (present : ¬(whole = [] ∧ fraction = []))
    (numeric : Digits whole) (behind : Digits fraction) :
    Mantissa (whole ++ '.' :: fraction) whole fraction

/-- Whether a text is the power of ten behind the digits. -/
inductive Scale : List Char → ℤ → Prop
  /-- No power. -/
  | absent : Scale [] 0
  /-- A mark and the exponent. -/
  | marked {mark : Char} {text : List Char} {exponent : ℤ} (letter : mark = 'e' ∨ mark = 'E')
    (spelled : SpellsInteger text exponent) : Scale (mark :: text) exponent

/-- Whether a text spells a number. -/
inductive Spells : List Char → ℚ → Prop
  /-- A sign, digits and a power of ten. -/
  | mk {sign mantissa scale whole fraction : List Char} {negative : Bool} {exponent : ℤ}
    (signed : Sign sign negative) (digits : Mantissa mantissa whole fraction)
    (power : Scale scale exponent) :
    Spells (sign ++ (mantissa ++ scale))
      (Double.signed negative (value (whole ++ fraction) * 10 ^ (exponent - fraction.length)))

/-! ## Reading -/

/-- The sign that is split off a text stands in front of the rest. -/
theorem sign_splitSign (text : List Char) :
    ∃ sign, text = sign ++ (splitSign text).2 ∧ Sign sign (splitSign text).1 := by
  unfold splitSign
  split
  · exact ⟨['-'], rfl, .minus⟩
  · exact ⟨['+'], rfl, .plus⟩
  · exact ⟨[], rfl, .absent⟩

/-- A sign is split off a text that goes on with no other sign. -/
theorem splitSign_append {sign rest : List Char} {negative : Bool} (signed : Sign sign negative)
    (plain : ∀ c ∈ rest.head?, c ≠ '-' ∧ c ≠ '+') :
    splitSign (sign ++ rest) = (negative, rest) := by
  cases signed with
  | plus | minus => rfl
  | absent =>
    rw [List.nil_append]
    unfold splitSign
    split
    · exact absurd rfl (plain '-' rfl).1
    · exact absurd rfl (plain '+' rfl).2
    · rfl

/-- Digits are no signs. -/
theorem Digits.plain {digits : List Char} (numeric : Digits digits) :
    ∀ c ∈ digits.head?, c ≠ '-' ∧ c ≠ '+' := by
  intro c first
  have digit := numeric c (List.mem_of_mem_head? first)
  constructor <;> rintro rfl <;> contradiction

/-- An integer is read from the digits behind the sign. -/
theorem integer?_eq (text : List Char) :
    integer? text = (natural? (splitSign text).2).map fun size : ℕ =>
      if (splitSign text).1 then -(size : ℤ) else size := by
  rw [integer?]
  obtain ⟨negative, digits⟩ := splitSign text
  cases h : natural? digits <;> simp [h]

/-- The integer that is read is the one that is spelled. -/
theorem integer?_eq_some_iff {text : List Char} {n : ℤ} :
    integer? text = some n ↔ SpellsInteger text n := by
  rw [integer?_eq]
  constructor
  · intro read
    obtain ⟨size, digits, rfl⟩ := Option.map_eq_some_iff.mp read
    obtain ⟨present, numeric, rfl⟩ := natural?_eq_some_iff.mp digits
    obtain ⟨sign, split, signed⟩ := sign_splitSign text
    have spelled := SpellsInteger.mk signed present numeric
    rwa [← split] at spelled
  · rintro ⟨signed, present, numeric⟩
    rw [splitSign_append signed (Digits.plain numeric),
      natural?_eq_some_iff.mpr ⟨present, numeric, rfl⟩]
    rfl

/-- A number is written with digits. -/
theorem digits_toDigits (n : ℕ) : Digits (Nat.toDigits 10 n) :=
  (natural?_eq_some_iff.mp (natural?_toDigits n)).2.1

/-- A sign and the digits of a number spell that number with that sign. -/
theorem spellsInteger_toDigits {sign : List Char} {negative : Bool} (signed : Sign sign negative)
    (n : ℕ) : SpellsInteger (sign ++ Nat.toDigits 10 n) (if negative then -(n : ℤ) else n) := by
  obtain ⟨present, numeric, same⟩ := natural?_eq_some_iff.mp (natural?_toDigits n)
  have spelled := SpellsInteger.mk signed present numeric
  rwa [same] at spelled

/-- Digits are taken up to what is no digit. -/
theorem span_digits {digits rest : List Char} (numeric : Digits digits)
    (stop : ∀ c ∈ rest.head?, c.isDigit = false) :
    (digits ++ rest).takeWhile Char.isDigit = digits ∧
      (digits ++ rest).dropWhile Char.isDigit = rest := by
  rw [List.takeWhile_append_of_pos numeric, List.dropWhile_append_of_pos numeric]
  cases rest with
  | nil => exact ⟨List.append_nil _, rfl⟩
  | cons c rest =>
    have other := stop c rfl
    rw [List.takeWhile_cons_of_neg (by rw [other]; decide), List.append_nil,
      List.dropWhile_cons_of_neg (by rw [other]; decide)]
    exact ⟨rfl, rfl⟩

/-- The power that is read is the one behind the digits. -/
theorem exponentPart?_eq_some_iff {text : List Char} {exponent : ℤ} :
    Double.exponentPart? text = some exponent ↔ Scale text exponent := by
  constructor
  · intro read
    cases text with
    | nil =>
      cases read
      exact .absent
    | cons mark text =>
      obtain ⟨letter, read⟩ := Option.ite_none_right_eq_some.mp read
      exact .marked letter (integer?_eq_some_iff.mp read)
  · rintro (_ | ⟨letter, spelled⟩)
    · rfl
    · exact Option.ite_none_right_eq_some.mpr ⟨letter, integer?_eq_some_iff.mpr spelled⟩

/-- A power begins with neither a digit nor a point. -/
theorem Scale.stop {text : List Char} {exponent : ℤ} (power : Scale text exponent) :
    ∀ c ∈ text.head?, c.isDigit = false ∧ c ≠ '.' := by
  cases power with
  | absent => exact fun c inside => by contradiction
  | marked letter _ =>
    rintro c ⟨⟩
    rcases letter with rfl | rfl <;> decide

/-- The digits behind a point, if there is a point, and the rest of the text. -/
def fractionPart : List Char → List Char × List Char
  | '.' :: rest => (rest.takeWhile Char.isDigit, rest.dropWhile Char.isDigit)
  | rest => ([], rest)

/-- The digits before the point, those behind it and the power of a number without its sign. -/
def parts? (text : List Char) : Option (List Char × List Char × ℤ) :=
  let whole := text.takeWhile Char.isDigit
  let (fraction, afterDigits) := fractionPart (text.dropWhile Char.isDigit)
  if whole = [] ∧ fraction = [] then none
  else (Double.exponentPart? afterDigits).map fun exponent => (whole, fraction, exponent)

/-- The digits that are taken are digits. -/
theorem digits_takeWhile (text : List Char) : Digits (text.takeWhile Char.isDigit) :=
  fun _ inside => List.mem_takeWhile_imp inside

/-- Digits are split off behind a point, and nothing is split off otherwise. -/
theorem fractionPart_cases (text : List Char) :
    (∃ rest, text = '.' :: rest ∧
      fractionPart text = (rest.takeWhile Char.isDigit, rest.dropWhile Char.isDigit)) ∨
    fractionPart text = ([], text) := by
  unfold fractionPart
  split
  · next rest => exact .inl ⟨rest, rfl, rfl⟩
  · exact .inr rfl

/-- The parts of a number make up its digits and its power. -/
theorem parts?_eq_some_iff {text whole fraction : List Char} {exponent : ℤ} :
    parts? text = some (whole, fraction, exponent) ↔
      ∃ mantissa scale, text = mantissa ++ scale ∧ Mantissa mantissa whole fraction ∧
        Scale scale exponent := by
  constructor
  · intro read
    have split := (List.takeWhile_append_dropWhile (p := Char.isDigit) (l := text)).symm
    have numeric := digits_takeWhile text
    rw [parts?] at read
    rcases fractionPart_cases (text.dropWhile Char.isDigit) with ⟨rest, point, part⟩ | part
    · simp only [part, Option.ite_none_left_eq_some, Option.map_eq_some_iff, Prod.mk.injEq] at read
      obtain ⟨present, _, power, rfl, rfl, rfl⟩ := read
      refine ⟨_, rest.dropWhile Char.isDigit, ?_,
        .pointed present numeric (digits_takeWhile rest), exponentPart?_eq_some_iff.mp power⟩
      rw [List.append_assoc, List.cons_append, List.takeWhile_append_dropWhile, ← point]
      exact split
    · simp only [part, and_true, Option.ite_none_left_eq_some, Option.map_eq_some_iff,
        Prod.mk.injEq] at read
      obtain ⟨present, _, power, rfl, rfl, rfl⟩ := read
      exact ⟨_, _, split, .whole present numeric,
        exponentPart?_eq_some_iff.mp power⟩
  · rintro ⟨mantissa, scale, rfl, digits, power⟩
    have last := fun c first => (power.stop c first).1
    have read := exponentPart?_eq_some_iff.mpr power
    cases digits with
    | whole present numeric =>
      have none : fractionPart scale = ([], scale) := by
        unfold fractionPart
        split
        · exact absurd rfl (power.stop '.' rfl).2
        · rfl
      rw [parts?, (span_digits numeric last).1, (span_digits numeric last).2, none]
      simp only [present, false_and, if_false, read, Option.map_some]
    | @pointed whole fraction present numeric behind =>
      have point : ∀ c ∈ ('.' :: (fraction ++ scale)).head?, c.isDigit = false := by
        rintro c ⟨⟩
        decide
      have part : fractionPart ('.' :: (fraction ++ scale)) = (fraction, scale) :=
        Prod.ext (span_digits behind last).1 (span_digits behind last).2
      rw [List.append_assoc, List.cons_append, parts?, (span_digits numeric point).1,
        (span_digits numeric point).2, part]
      simp only [present, if_false, read, Option.map_some]

/-- The digits of a number begin with a digit or the point. -/
theorem Mantissa.exists_cons {mantissa whole fraction : List Char}
    (digits : Mantissa mantissa whole fraction) :
    ∃ c rest, mantissa = c :: rest ∧ (c.isDigit = true ∨ c = '.') := by
  cases digits with
  | whole present numeric =>
    obtain ⟨c, rest, rfl⟩ := List.exists_cons_of_ne_nil present
    exact ⟨c, rest, rfl, .inl (numeric c List.mem_cons_self)⟩
  | pointed present numeric behind =>
    cases whole with
    | nil => exact ⟨'.', fraction, rfl, .inr rfl⟩
    | cons c whole => exact ⟨c, _, rfl, .inl (numeric c List.mem_cons_self)⟩

/-- The digits of a number do not begin with a sign. -/
theorem Mantissa.plain {mantissa whole fraction : List Char}
    (digits : Mantissa mantissa whole fraction) (scale : List Char) :
    ∀ c ∈ (mantissa ++ scale).head?, c ≠ '-' ∧ c ≠ '+' := by
  obtain ⟨first, rest, rfl, shape⟩ := digits.exists_cons
  rintro c ⟨⟩
  rcases shape with digit | rfl
  · constructor <;> rintro rfl <;> contradiction
  · decide

/-- A number that is spelled is the one that its sign and its parts make up. -/
theorem spells_iff {text : List Char} {x : ℚ} :
    Spells text x ↔ ∃ whole fraction exponent,
      parts? (splitSign text).2 = some (whole, fraction, exponent) ∧
        x = Double.signed (splitSign text).1
          (value (whole ++ fraction) * 10 ^ (exponent - fraction.length)) := by
  constructor
  · rintro ⟨signed, digits, power⟩
    rw [splitSign_append signed (digits.plain _)]
    exact ⟨_, _, _, parts?_eq_some_iff.mpr ⟨_, _, rfl, digits, power⟩, rfl⟩
  · rintro ⟨whole, fraction, exponent, parts, rfl⟩
    obtain ⟨mantissa, scale, joined, digits, power⟩ := parts?_eq_some_iff.mp parts
    obtain ⟨sign, split, signed⟩ := sign_splitSign text
    have spelled := Spells.mk signed digits power
    rwa [← joined, ← split] at spelled

/-- A text spells one number at most. -/
theorem Spells.unique {text : List Char} {x y : ℚ} (one : Spells text x) (other : Spells text y) :
    x = y := by
  obtain ⟨whole, fraction, exponent, parts, rfl⟩ := spells_iff.mp one
  obtain ⟨whole', fraction', exponent', parts', rfl⟩ := spells_iff.mp other
  obtain ⟨⟩ := parts.symm.trans parts'
  rfl

/-- Zeros behind digits multiply by a power of ten. -/
theorem value_append_zeros (digits : List Char) (count : ℕ) :
    value (digits ++ List.replicate count '0') = value digits * 10 ^ count := by
  have same : ∀ text, value text = Nat.ofDigitChars 10 text 0 := fun _ =>
    Nat.ofDigitChars_eq_foldl.symm
  rw [same, same, Nat.ofDigitChars_append, Nat.ofDigitChars_replicate_zero, mul_comm]

/-- A fraction of zeros leaves the value of the digits before the point. -/
theorem value_pointed_zeros (whole : List Char) (count : ℕ) :
    (value (whole ++ List.replicate count '0') : ℚ) *
      10 ^ (0 - ((List.replicate count '0').length : ℤ)) = value whole := by
  rw [value_append_zeros, List.length_replicate, Nat.cast_mul, Nat.cast_pow, Nat.cast_ofNat,
    mul_assoc, ← zpow_natCast, ← zpow_add₀ (by norm_num), add_sub_cancel, zpow_zero, mul_one]

/-- An integer is spelled as a number too. -/
theorem SpellsInteger.spells {text : List Char} {n : ℤ} (spelled : SpellsInteger text n) :
    Spells text n := by
  obtain ⟨signed, present, numeric⟩ := spelled
  have number := Spells.mk signed (.whole present numeric) .absent
  rw [List.append_nil, List.length_nil, Nat.cast_zero, sub_zero, zpow_zero, mul_one,
    Double.signed_natCast] at number
  exact number

/-- A point and zeros behind an integer leave its value as it is. -/
theorem SpellsInteger.spells_pointed {text : List Char} {n : ℤ} (spelled : SpellsInteger text n)
    (count : ℕ) : Spells (text ++ '.' :: List.replicate count '0') n := by
  obtain ⟨signed, present, numeric⟩ := spelled
  have zeros : Digits (List.replicate count '0') := by
    intro c inside
    rw [List.eq_of_mem_replicate inside]
    rfl
  have number := Spells.mk signed (.pointed (fun empty => present empty.1) numeric zeros) .absent
  rw [value_pointed_zeros, Double.signed_natCast, List.append_nil, ← List.append_assoc] at number
  exact number

/-- No point stands in a sign. -/
theorem Sign.no_point {sign : List Char} {negative : Bool} (signed : Sign sign negative) :
    '.' ∉ sign := by
  cases signed <;> decide

/-- No point stands among digits. -/
theorem Digits.no_point {digits : List Char} (numeric : Digits digits) : '.' ∉ digits := by
  intro inside
  have digit := numeric _ inside
  contradiction

/-- No point stands in an integer. -/
theorem SpellsInteger.no_point {text : List Char} {n : ℤ} (spelled : SpellsInteger text n) :
    '.' ∉ text := by
  obtain ⟨signed, -, numeric⟩ := spelled
  exact fun inside => (List.mem_append.mp inside).elim signed.no_point numeric.no_point

/-- No point stands in a power. -/
theorem Scale.no_point {scale : List Char} {exponent : ℤ} (power : Scale scale exponent) :
    '.' ∉ scale := by
  cases power with
  | absent => decide
  | marked letter spelled =>
    intro inside
    rcases List.mem_cons.mp inside with rfl | inside
    · rcases letter with same | same <;> contradiction
    · exact spelled.no_point inside

/-- A number with a point and nothing but zeros behind it is an integer. -/
theorem Spells.integral {before : List Char} {count : ℕ} {x : ℚ}
    (spelled : Spells (before ++ '.' :: List.replicate count '0') x) : ∃ k : ℤ, x = k := by
  generalize same : before ++ '.' :: List.replicate count '0' = text at spelled
  obtain @⟨sign, mantissa, scale, whole, fraction, negative, exponent, signed, digits, power⟩ :=
    spelled
  cases digits with
  | whole present numeric =>
    have point : '.' ∈ before ++ '.' :: List.replicate count '0' :=
      List.mem_append_right _ List.mem_cons_self
    rw [same, List.mem_append, List.mem_append] at point
    exact absurd point (not_or.mpr ⟨signed.no_point, not_or.mpr ⟨numeric.no_point, power.no_point⟩⟩)
  | pointed present numeric behind =>
    have split : (sign ++ whole) ++ '.' :: (fraction ++ scale) =
        before ++ '.' :: List.replicate count '0' := by
      rw [same]
      simp only [List.append_assoc, List.cons_append]
    have front := fun inside => (List.mem_append.mp inside).elim signed.no_point numeric.no_point
    have back := fun inside => (List.mem_append.mp inside).elim behind.no_point power.no_point
    obtain ⟨-, -, zeros⟩ := (List.append_cons_inj_of_notMem front back).mp split
    cases power with
    | absent =>
      rw [List.append_nil] at zeros
      rw [zeros, value_pointed_zeros, Double.signed_natCast]
      exact ⟨_, rfl⟩
    | @marked mark text exponent letter _ =>
      have inside : mark ∈ List.replicate count '0' := by
        rw [← zeros]
        exact List.mem_append_right _ List.mem_cons_self
      rw [List.eq_of_mem_replicate inside] at letter
      contradiction

end Decimal

namespace Double

/-- A double is read from the parts of a number. -/
theorem digits?_eq (negative : Bool) (text : List Char) :
    digits? negative text = (Decimal.parts? text).map fun parts =>
      ofDecimal negative (Decimal.value (parts.1 ++ parts.2.1)) (parts.2.2 - parts.2.1.length) := by
  have same : digits? negative text =
      match Decimal.fractionPart (text.dropWhile Char.isDigit) with
      | (fraction, rest) =>
        if text.takeWhile Char.isDigit = [] ∧ fraction = [] then none
        else (exponentPart? rest).map fun exponent =>
          ofDecimal negative (Decimal.value (text.takeWhile Char.isDigit ++ fraction))
            (exponent - fraction.length) := rfl
  rw [same, Decimal.parts?]
  obtain ⟨fraction, rest⟩ := Decimal.fractionPart (text.dropWhile Char.isDigit)
  dsimp only
  split
  · rfl
  · rw [Option.map_map]
    rfl

/-- Numbers are read from what is neither a name of infinity nor of NaN. -/
theorem ofChars?_eq (text : List Char) :
    ofChars? text =
      let word := String.ofList ((Decimal.splitSign text).2.map Char.toLower)
      if word = "inf" ∨ word = "infinity" then some (infinity (Decimal.splitSign text).1)
      else if word = "nan" then some (nan (Decimal.splitSign text).1)
      else digits? (Decimal.splitSign text).1 (Decimal.splitSign text).2 :=
  rfl

/-- The finite double that is read from a text is the one to which the number is rounded that the
text spells. -/
theorem roundsTo_of_ofChars? {text : List Char} {d : Double} (read : ofChars? text = some d)
    (finite : d.isFinite = true) : ∃ x, Decimal.Spells text x ∧ RoundsTo x d := by
  have special : ∀ negative,
      (infinity negative).isFinite = false ∧ (nan negative).isFinite = false := by decide
  rw [ofChars?_eq] at read
  dsimp only at read
  split_ifs at read
  · rw [← Option.some.inj read, (special _).1] at finite
    contradiction
  · rw [← Option.some.inj read, (special _).2] at finite
    contradiction
  · rw [digits?_eq] at read
    obtain ⟨⟨whole, fraction, exponent⟩, parts, rfl⟩ := Option.map_eq_some_iff.mp read
    exact ⟨_, Decimal.spells_iff.mpr ⟨whole, fraction, exponent, parts, rfl⟩,
      roundsTo_ofDecimal _ _ _ finite⟩

/-- What begins a number is no letter. -/
theorem toLower_eq {c : Char} (shape : c.isDigit = true ∨ c = '.') : c.toLower = c := by
  rcases shape with digit | rfl
  · rw [Char.isDigit_iff_toNat] at digit
    unfold Char.toLower
    split
    · next upper =>
      have letter := UInt32.le_iff_toNat_le.mp upper.1
      exact absurd digit.2 (not_le.mpr (lt_of_lt_of_le (by decide) letter))
    · rfl
  · decide

/-- A text that begins like a number is no word that begins with a letter. -/
theorem ne_word {c first : Char} {rest letters : List Char} {word : String}
    (shape : c.isDigit = true ∨ c = '.') (spelling : word.toList = first :: letters)
    (letter : ¬(first.isDigit = true ∨ first = '.')) :
    String.ofList ((c :: rest).map Char.toLower) ≠ word := by
  intro same
  have chars := congrArg String.toList same
  rw [String.toList_ofList, spelling, List.map_cons, List.cons.injEq, toLower_eq shape] at chars
  exact letter (chars.1 ▸ shape)

/-- A moderate number that a text spells is rounded to the double that is read from the text. -/
theorem ofChars?_of_spells {text : List Char} {x : ℚ} (spelled : Decimal.Spells text x)
    (small : |x| ≤ 2 ^ 64) : ∃ d, ofChars? text = some d ∧ RoundsTo x d := by
  obtain @⟨sign, mantissa, scale, whole, fraction, negative, exponent, signed, digits, power⟩ :=
    spelled
  have split := Decimal.splitSign_append signed (digits.plain scale)
  have parts := Decimal.parts?_eq_some_iff.mpr ⟨mantissa, scale, rfl, digits, power⟩
  have moderate := (le_abs_self _).trans ((abs_signed negative _).ge.trans small)
  obtain ⟨c, rest, rfl, shape⟩ := digits.exists_cons
  have number : ∀ {word : String} {first : Char} {letters : List Char},
      word.toList = first :: letters → ¬(first.isDigit = true ∨ first = '.') →
      String.ofList ((c :: (rest ++ scale)).map Char.toLower) ≠ word := ne_word shape
  rw [ofChars?_eq, split, List.cons_append]
  dsimp only
  rw [if_neg (not_or.mpr ⟨number rfl (by decide), number rfl (by decide)⟩),
    if_neg (number rfl (by decide)), digits?_eq, ← List.cons_append, parts]
  exact ⟨_, rfl, roundsTo_ofDecimal _ _ _ (isFinite_ofDecimal negative moderate)⟩

end Double

end SearchWire
