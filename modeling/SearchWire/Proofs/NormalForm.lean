import SearchWire.Schema.Index

/-!
# Normal forms of index descriptions

Two descriptions of an index can mean the same: a score or a weight of one is what the engine takes
for a missing one, and an empty list of stopwords says the same as the flag that switches stopwords
off. The normal form of a description drops these differences and no others.
-/
namespace SearchWire

namespace Double

/-- A pattern is a sign and a magnitude. -/
theorem bits_eq (d : Double) :
    d.bits.toNat = (if d.isNegative then signBit else 0) + d.magnitude := by
  have below : d.bits.toNat < 0x10000000000000000 := d.bits.toNat_lt
  by_cases negative : signBit ≤ d.bits.toNat
  · rw [isNegative, decide_eq_true negative, if_pos rfl, magnitude]
    unfold signBit at negative ⊢
    omega
  · rw [isNegative, decide_eq_false negative, if_neg (by decide), magnitude]
    unfold signBit at negative ⊢
    omega

/-- A number in a comparison that holds is not NaN. -/
theorem isNaN_of_numericLe {a b : Double} (ordered : a.numericLe b = true) :
    a.isNaN = false ∧ b.isNaN = false := by
  simp only [numericLe, Bool.and_eq_true, Bool.not_eq_true'] at ordered
  exact ordered.1

/-- A finite number is not NaN. -/
theorem isNaN_of_isFinite {d : Double} (finite : d.isFinite = true) : d.isNaN = false := by
  simp only [isFinite, isNaN, decide_eq_true_eq, decide_eq_false_iff_not] at finite ⊢
  omega

/-- Numbers of one rank have one pattern, unless they are zero. -/
theorem eq_of_rank {a b : Double} (nonzero : a.magnitude ≠ 0) (rank : a.rank = b.rank) : a = b := by
  have bits : a.bits.toNat = b.bits.toNat := by
    rw [bits_eq a, bits_eq b]
    unfold Double.rank at rank
    cases negative : a.isNegative <;> cases negative' : b.isNegative <;>
      simp only [negative, negative', if_true, if_false, Bool.false_eq_true] at rank ⊢ <;> omega
  obtain ⟨pattern⟩ := a
  obtain ⟨pattern'⟩ := b
  exact congrArg Double.mk (UInt64.toNat_inj.mp bits)

/-- One is the only number equal to one. -/
theorem numericEq_one_iff {d : Double} : d.numericEq one = true ↔ d = one := by
  constructor
  · intro same
    simp only [numericEq, Bool.and_eq_true, decide_eq_true_eq] at same
    exact (eq_of_rank (by decide) same.2.symm).symm
  · rintro rfl
    decide

/-- An optional number whose missing value stands for one. -/
def unlessOne (value : Option Double) : Option Double := if value = some one then none else value

/-- Leaving out what is numerically one leaves out exactly one. -/
theorem filter_ne_one (value : Option Double) :
    (value.filter fun d => !d.numericEq one) = unlessOne value := by
  cases value with
  | none => rfl
  | some d =>
    by_cases isOne : d = one
    · subst isOne
      rfl
    · have differs : d.numericEq one = false := by
        rw [← Bool.not_eq_true, numericEq_one_iff]
        exact isOne
      simp [unlessOne, isOne, differs]

/-- What is left out once need not be left out again. -/
theorem unlessOne_unlessOne (value : Option Double) :
    unlessOne (unlessOne value) = unlessOne value := by
  by_cases isOne : value = some one <;> simp [unlessOne, isOne]

end Double

namespace Field

/-- The normal form of a field: a weight of one is dropped. -/
def normal (f : Field) : Field := { f with weight := Double.unlessOne f.weight }

/-- The weight that is written is the one of the normal form. -/
theorem writtenWeight_eq (f : Field) : f.writtenWeight = f.normal.weight :=
  Double.filter_ne_one f.weight

/-- A field and its normal form are written alike. -/
theorem tokens_normal (f : Field) : f.normal.tokens = f.tokens := by
  have weight : f.normal.writtenWeight = f.writtenWeight := by
    rw [writtenWeight_eq, writtenWeight_eq]
    exact Double.unlessOne_unlessOne f.weight
  rw [tokens, tokens, weight]
  rfl

end Field

namespace IndexSpec

/-- The normal form of an index: a score of one and weights of one are dropped, and the flag that
switches stopwords off becomes an empty list of them. -/
def normal (spec : IndexSpec) : IndexSpec where
  document := spec.document
  options :=
    { spec.options with
      score := Double.unlessOne spec.options.score
      stopwords := if spec.options.noStopwords then some [] else spec.options.stopwords
      noStopwords := false }
  fields := spec.fields.map Field.normal

end IndexSpec

end SearchWire
