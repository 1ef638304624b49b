import SearchWire.Proofs.IndexReading

/-!
# Lengths of bodies

Clauses are assembled without a fault as long as each announces what it writes, and all clauses the
library writes itself do, whether or not what they describe would pass its checks. The length of a
body can therefore be read off a description: two tokens for the kind of document, what each option
that is set adds, one for the keyword of the schema, and two for each field with what its options
add.
-/
namespace SearchWire

/-- What an option of a keyword and a value adds. -/
def valueCount {α : Type} (value : Option α) : Nat := if value.isSome then 2 else 0

/-- What an option of a keyword and a number adds whose default is one. -/
def factorCount (value : Option Double) : Nat :=
  if value = none ∨ value = some .one then 0 else 2

/-- What is made of a value adds as much as the value. -/
theorem valueCount_map {α β : Type} (f : α → β) (value : Option α) :
    valueCount (value.map f) = valueCount value := by
  cases value <;> rfl

/-- A number that is one is not written. -/
theorem valueCount_unlessOne (value : Option Double) :
    valueCount (Double.unlessOne value) = factorCount value := by
  cases value with
  | none => rfl
  | some d =>
    by_cases isOne : d = .one <;> simp [Double.unlessOne, valueCount, factorCount, isOne]

/-- A keyword and its value add two tokens if there is a value. -/
theorem Token.length_keyed_eq (keyword : String) (value : Option Token) :
    (keyed keyword value).length = valueCount value :=
  length_keyed keyword value

namespace Field

/-- What the options of a field add to its name and its type. -/
def modifierCount (f : Field) : Nat :=
  valueCount f.label + f.noStem.toNat + factorCount f.weight + valueCount f.phonetic +
    valueCount f.separator + f.caseSensitive.toNat + f.withSuffixTrie.toNat +
    (match f.sorting with
      | .no => 0
      | .yes => 1
      | .unnormalized => 2) +
    f.noIndex.toNat

/-- A field takes its name, its type and what its options add. -/
theorem length_tokens (f : Field) : f.tokens.length = 2 + f.modifierCount := by
  have weight : valueCount (f.writtenWeight.map Token.double) = factorCount f.weight := by
    rw [valueCount_map, writtenWeight_eq]
    exact valueCount_unlessOne f.weight
  have sorting : (f.sorting.keywords.map Token.text).length =
      match f.sorting with
      | .no => 0
      | .yes => 1
      | .unnormalized => 2 := by
    cases f.sorting <;> rfl
  simp only [tokens, modifierCount, List.length_append, List.length_cons, Token.length_flag,
    Token.length_keyed_eq, weight, sorting, valueCount_map]
  omega

end Field

/-- Items behind a keyword and their number take two tokens more, if they are written. -/
theorem Section.length_tokens_counted (keyword : String) (items : Option (List Token)) :
    (counted keyword items).tokens.length = items.elim 0 fun listed => 2 + listed.length := by
  cases items with
  | none => rfl
  | some items =>
    change (Token.counted items).length + 1 = 2 + items.length
    rw [Token.length_counted]
    omega

namespace IndexOptions

/-- What the options of an index add. -/
def tokenCount (options : IndexOptions) : Nat :=
  (if options.keyStarts = [] then 0 else 2 + options.keyStarts.length) +
    valueCount options.filter + valueCount options.language + valueCount options.languageField +
    factorCount options.score + valueCount options.scoreField + valueCount options.payloadField +
    options.maxTextFields.toNat + valueCount options.temporary + options.noOffsets.toNat +
    options.noHighlights.toNat + options.noFields.toNat + options.noFrequencies.toNat +
    (if options.noStopwords then 2
      else match options.stopwords with
        | .none => 0
        | some words => 2 + words.length) +
    options.skipInitialScan.toNat

end IndexOptions

namespace IndexSpec

/-- The options of an index take what each of them adds. -/
theorem length_sections (spec : IndexSpec) :
    (spec.sections.flatMap Section.tokens).length = spec.options.tokenCount := by
  have keyStarts : ((if spec.options.keyStarts.isEmpty then none
      else some (spec.options.keyStarts.map Token.text)).elim 0 fun listed => 2 + listed.length) =
      if spec.options.keyStarts = [] then 0 else 2 + spec.options.keyStarts.length := by
    cases spec.options.keyStarts <;> simp
  have score : valueCount (spec.options.score.filter fun s => !s.numericEq .one) =
      factorCount spec.options.score := by
    rw [Double.filter_ne_one]
    exact valueCount_unlessOne spec.options.score
  have stopwords : (((writtenStopwords spec.options).map fun words => words.map Token.text).elim 0
      fun listed => 2 + listed.length) =
      if spec.options.noStopwords then 2
      else match spec.options.stopwords with
        | .none => 0
        | some words => 2 + words.length := by
    rw [writtenStopwords]
    cases spec.options.noStopwords with
    | true => rfl
    | false => cases spec.options.stopwords <;> simp
  simp only [sections, List.flatMap_cons, List.flatMap_nil, List.length_append, List.length_nil,
    Section.tokens_flag, Section.tokens_keyed, Section.length_tokens_counted, Token.length_flag,
    Token.length_keyed_eq, valueCount_map, keyStarts, score, stopwords, IndexOptions.tokenCount,
    Nat.add_assoc, Nat.add_zero]

/-- What the fields of a schema take: two tokens each and what their options add. -/
def fieldsCount : List Field → Nat
  | [] => 0
  | f :: rest => 2 + f.modifierCount + fieldsCount rest

/-- The schema takes what its fields take. -/
theorem length_fields (fields : List Field) :
    (fields.flatMap Field.tokens).length = fieldsCount fields := by
  induction fields with
  | nil => rfl
  | cons f rest ih => rw [List.flatMap_cons, List.length_append, f.length_tokens, ih, fieldsCount]

/-- The body of an index takes what its kind of document, its options and its schema take. -/
theorem length_bodyTokens (spec : IndexSpec) :
    spec.bodyTokens.length = 2 + spec.options.tokenCount + 1 + fieldsCount spec.fields := by
  rw [bodyTokens_eq, List.length_cons, List.length_cons, List.length_append, List.length_cons,
    length_sections, length_fields]
  omega

end IndexSpec

/-- The two passes of an assembly agree: clauses of the library are assembled to their tokens, which
are as many as announced; so an index or an aggregation is refused or compiled whatever was set,
and the body of an index is as long as what was set in it. -/
theorem assembled_and_compiled :
    (∀ clauses : List Clause, (∀ c ∈ clauses, c.Standard) →
      assemble clauses = .ok (clauses.flatMap Clause.tokens) ∧
        (clauses.flatMap Clause.tokens).length = Clause.total clauses) ∧
    (∀ spec : IndexSpec, (∃ cause, spec.compile = .error (.refused cause)) ∨
      ∃ body, spec.compile = .ok body ∧
        body.tokens.length =
          2 + spec.options.tokenCount + 1 + IndexSpec.fieldsCount spec.fields) ∧
    ∀ a : Aggregation, (∃ cause, a.compile = .error (.refused cause)) ∨
      ∃ body, a.compile = .ok body ∧ body.tokens.length = Clause.total a.clauses := by
  refine ⟨fun clauses standard => ?_, fun spec => ?_, fun a => ?_⟩
  · have honest : ∀ c ∈ clauses, c.Honest := fun c inside => (standard c inside).honest
    exact ⟨Clause.assemble_honest honest, Clause.length_flatMap_tokens honest⟩
  · rw [IndexSpec.compile_eq]
    cases spec.validate with
    | error cause => exact .inl ⟨cause, rfl⟩
    | ok =>
      refine .inr ⟨⟨spec.document, spec.bodyTokens⟩, rfl, ?_⟩
      dsimp only
      exact spec.length_bodyTokens
  · have honest : ∀ c ∈ a.clauses, c.Honest := fun c inside => (a.standard_clauses c inside).honest
    have length : a.bodyTokens.length = Clause.total a.clauses :=
      Clause.length_flatMap_tokens honest
    rw [Aggregation.compile_eq]
    cases a.validate with
    | error cause => exact .inl ⟨cause, rfl⟩
    | ok =>
      refine .inr ⟨⟨a.index, a.bodyTokens, a.dialect, a.cursor.isSome⟩, rfl, ?_⟩
      dsimp only
      exact length

/-- Clauses that no check would pass are assembled too. -/
theorem assembled_unchecked :
    assemble [(Field.ofOptions "" .tag [.weight (.nan false)]).clause,
        .group [(Reducer.call "" []).clause, .group [(Part.flag "NOHL").clause]],
        (Stage.sortBy (.on [] none)).clause, IndexSpec.schemaClause []] =
      .ok [.text "", .text "TAG", .text "WEIGHT", .double (.nan false), .text "REDUCE",
        .text "", .integer 0, .text "NOHL", .text "SORTBY", .integer 0, .text "SCHEMA"] := by
  refine (assembled_and_compiled.1 _ ?_).1
  have inner : ∀ c ∈ [(Part.flag "NOHL").clause], c.Standard :=
    List.forall_mem_singleton.mpr (.part _)
  have outer : ∀ c ∈ [(Reducer.call "" []).clause, .group [(Part.flag "NOHL").clause]],
      c.Standard :=
    List.forall_mem_cons.mpr ⟨.reducer _, List.forall_mem_singleton.mpr (.group _ inner)⟩
  simp only [List.forall_mem_cons]
  exact ⟨.field _, .group _ outer, .stage _, .schema _, List.forall_mem_nil _⟩

end SearchWire
