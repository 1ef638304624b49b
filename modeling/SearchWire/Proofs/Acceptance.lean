import SearchWire.Schema.Index

/-!
# What is accepted

The checks of a field and of an index find the first fault. Read together they say what an accepted
description looks like: each option stands only on the kinds of field that have it, and every value
lies in the range of its option.
-/
namespace SearchWire

/-- All checks of an option that may be absent have a property if the check of its value has it. -/
theorem Check.forall_mem_optional {α : Type} {value : Option α} {check : α → Check}
    {property : Check → Prop} :
    (∀ c ∈ Check.optional value check, property c) ↔ ∀ v ∈ value, property (check v) := by
  cases value <;> simp [Check.optional]

namespace Field

/-- Whether the options of a field stand on a kind that has them and lie within their ranges. -/
structure Placed (f : Field) : Prop where
  /-- These options stand on text fields only. -/
  ofText : f.noStem = true ∨ f.weight.isSome = true ∨ f.phonetic.isSome = true → f.kind = .text
  /-- These options stand on tag fields only. -/
  ofTag : f.separator.isSome = true ∨ f.caseSensitive = true → f.kind = .tag
  /-- These options stand on text and tag fields only. -/
  ofWords : f.withSuffixTrie = true ∨ f.sorting = .unnormalized → f.kind = .text ∨ f.kind = .tag
  /-- The separator is a punctuation character. -/
  separator : ∀ c ∈ f.separator, isPunctuation c = true
  /-- The weight is finite and not below or at zero. -/
  weight : ∀ w ∈ f.weight, w.isFinite = true ∧ w.numericLe .zero = false

/-- What an accepted field of an index over a kind of document looks like. -/
structure Accepted (f : Field) (document : DocumentKind) : Prop where
  /-- It has a name. -/
  name : f.name ≠ ""
  /-- Its second name, if it has one, is not empty. -/
  label : f.label ≠ some ""
  /-- Its name is a path exactly for documents whose fields are paths. -/
  path : isPath f.name = document.usesPaths
  /-- Its options are in place. -/
  placed : f.Placed

/-- The options of text fields are not set on a field of another kind. -/
theorem Placed.withoutText {f : Field} (placed : f.Placed) (other : f.kind ≠ .text) :
    f.noStem = false ∧ f.weight = none ∧ f.phonetic = none := by
  have unset := mt placed.ofText other
  simp only [not_or, Bool.not_eq_true, Option.isSome_eq_false_iff, Option.isNone_iff_eq_none]
    at unset
  exact unset

/-- The options of tag fields are not set on a field of another kind. -/
theorem Placed.withoutTag {f : Field} (placed : f.Placed) (other : f.kind ≠ .tag) :
    f.separator = none ∧ f.caseSensitive = false := by
  have unset := mt placed.ofTag other
  simp only [not_or, Bool.not_eq_true, Option.isSome_eq_false_iff, Option.isNone_iff_eq_none]
    at unset
  exact unset

/-- The options of text and tag fields are not set on a field of another kind. -/
theorem Placed.withoutWords {f : Field} (placed : f.Placed) (text : f.kind ≠ .text)
    (tag : f.kind ≠ .tag) : f.withSuffixTrie = false ∧ f.sorting ≠ .unnormalized := by
  have unset := mt placed.ofWords (not_or.mpr ⟨text, tag⟩)
  rwa [not_or, Bool.not_eq_true] at unset

/-- The options that are not misplaced stand on kinds that have them. -/
theorem misplaced_iff {f : Field} :
    (∀ option ∈ f.misplaced, option.1 = false) ↔
      (f.noStem = true ∨ f.weight.isSome = true ∨ f.phonetic.isSome = true → f.kind = .text) ∧
      (f.separator.isSome = true ∨ f.caseSensitive = true → f.kind = .tag) ∧
      (f.withSuffixTrie = true ∨ f.sorting = .unnormalized → f.kind = .text ∨ f.kind = .tag) := by
  simp only [misplaced, List.forall_mem_cons, List.not_mem_nil, false_implies, implies_true,
    and_true, Bool.and_eq_false_iff, Bool.not_eq_false', Bool.or_eq_true, beq_iff_eq]
  grind

/-- The check of an option that is set, or not, on a kind that does not have it. -/
def placeCheck (f : Field) (option : Bool × String) : Check :=
  ⟨option.1, .misplacedOption option.2 f.kind f.name⟩

/-- What is checked of a field: its names, the places of its options, and their values. -/
theorem checks_eq (f : Field) (document : DocumentKind) :
    f.checks document =
      [⟨f.name.isEmpty, .emptyFieldName⟩, ⟨f.label == some "", .emptyFieldLabel f.name⟩,
        ⟨document.usesPaths && !isPath f.name, .notAPath f.name⟩,
        ⟨!document.usesPaths && isPath f.name, .pathOnHash f.name⟩] ++
      f.misplaced.map f.placeCheck ++
      Check.optional f.separator (fun c => ⟨!isPunctuation c, .badSeparator f.name c⟩) ++
      Check.optional f.weight
        fun w => ⟨!w.isFinite || w.numericLe .zero, .badWeight f.name w⟩ := rfl

/-- A field passes its checks exactly if it looks like an accepted one. -/
theorem validate_eq_ok_iff {f : Field} {document : DocumentKind} :
    f.validate document = .ok () ↔ f.Accepted document := by
  have path : ((document.usesPaths && !isPath f.name) = false ∧
      (!document.usesPaths && isPath f.name) = false) ↔ isPath f.name = document.usesPaths := by
    cases document.usesPaths <;> cases isPath f.name <;> decide
  rw [validate, Check.run_eq_ok_iff, checks_eq]
  simp only [List.forall_mem_append, List.forall_mem_cons, List.forall_mem_map, placeCheck,
    Check.forall_mem_optional, List.not_mem_nil, false_implies, implies_true, and_true, path,
    misplaced_iff, Bool.not_eq_false', Bool.or_eq_false_iff, beq_eq_false_iff_ne,
    String.isEmpty_eq_false_iff]
  constructor
  · rintro ⟨⟨⟨⟨name, label, path⟩, ofText, ofTag, ofWords⟩, separator⟩, weight⟩
    exact ⟨name, label, path, ofText, ofTag, ofWords, separator, weight⟩
  · rintro ⟨name, label, path, ofText, ofTag, ofWords, separator, weight⟩
    exact ⟨⟨⟨⟨name, label, path⟩, ofText, ofTag, ofWords⟩, separator⟩, weight⟩

end Field

/-- What the options of an accepted index over a kind of document look like. -/
structure IndexOptions.Accepted (options : IndexOptions) (document : DocumentKind) : Prop where
  /-- No stopwords are listed if stopwords are switched off. -/
  stopwords : options.noStopwords = true → ∀ words ∈ options.stopwords, words = []
  /-- A payload is a field of a hash. -/
  payload : options.payloadField.isSome = true → document = .hash
  /-- The lifespan is not zero and fits an integer token. -/
  temporary : ∀ seconds ∈ options.temporary, seconds ≠ 0 ∧ seconds.toNat ≤ Word.greatest
  /-- The score lies in the unit interval. -/
  score : ∀ score ∈ options.score, score.inUnitInterval = true
  /-- No beginning of keys is empty. -/
  keyStarts : ∀ start ∈ options.keyStarts, start ≠ ""

namespace IndexSpec

/-- What an accepted index looks like. -/
structure Accepted (spec : IndexSpec) : Prop where
  /-- It has a field. -/
  declared : spec.fields ≠ []
  /-- Its options are accepted. -/
  options : spec.options.Accepted spec.document
  /-- Every field is accepted. -/
  fields : ∀ f ∈ spec.fields, f.Accepted spec.document

/-- An index passes its checks exactly if it looks like an accepted one. -/
theorem validate_eq_ok_iff {spec : IndexSpec} :
    spec.validate = .ok () ↔ spec.Accepted := by
  have stopwords : (spec.options.noStopwords &&
      spec.options.stopwords.any fun words => !words.isEmpty) = false ↔
      (spec.options.noStopwords = true → ∀ words ∈ spec.options.stopwords, words = []) := by
    cases spec.options.noStopwords <;> cases spec.options.stopwords <;> simp
  have payload : (spec.options.payloadField.isSome && spec.document == .json) = false ↔
      (spec.options.payloadField.isSome = true → spec.document = .hash) := by
    cases spec.options.payloadField <;> cases spec.document <;> simp
  have fields : (∀ check ∈ spec.fields.flatMap (·.checks spec.document),
      check.applies = false) ↔ ∀ f ∈ spec.fields, f.Accepted spec.document := by
    simp only [← Field.validate_eq_ok_iff, Field.validate, Check.run_eq_ok_iff, List.mem_flatMap,
      forall_exists_index, and_imp]
    exact ⟨fun passed f inside check found => passed check f inside found,
      fun passed check f inside found => passed f inside check found⟩
  rw [validate, Check.run_eq_ok_iff]
  simp only [checks, optionChecks, List.forall_mem_append, List.forall_mem_cons,
    Check.forall_mem_optional, List.not_mem_nil, false_implies, implies_true, and_true, stopwords,
    payload, fields, Check.applies_fits_eq_false_iff, Bool.not_eq_false', beq_eq_false_iff_ne,
    List.isEmpty_eq_false_iff, List.any_eq_false, String.isEmpty_iff]
  constructor
  · rintro ⟨⟨⟨⟨⟨declared, stopwords, payload, nonzero⟩, fits⟩, score⟩, keyStarts⟩, fields⟩
    refine ⟨declared, ⟨stopwords, payload, fun seconds given => ⟨?_, fits seconds given⟩, score,
      keyStarts⟩, fields⟩
    rintro rfl
    exact nonzero given
  · rintro ⟨declared, ⟨stopwords, payload, temporary, score, keyStarts⟩, fields⟩
    exact ⟨⟨⟨⟨⟨declared, stopwords, payload, fun given => (temporary 0 given).1 rfl⟩,
      fun seconds given => (temporary seconds given).2⟩, score⟩, keyStarts⟩, fields⟩

end IndexSpec

end SearchWire
