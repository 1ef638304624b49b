import SearchWire.Proofs.Assembly
import SearchWire.Proofs.SchemaReading

/-!
# One reading of an index

The body of an index is `ON` and the kind of document, fifteen optional sections, and the schema.
Two accepted descriptions are written alike exactly if they have one normal form.
-/
namespace SearchWire

/-- The kind of document is told by its keyword. -/
theorem DocumentKind.keyword_inj {left right : DocumentKind}
    (same : left.keyword = right.keyword) : left = right := by
  revert same
  cases left <;> cases right <;> simp [keyword]

namespace IndexSpec

/-- The options of an index, in their one order. -/
def sections (spec : IndexSpec) : List Section :=
  let options := spec.options
  [.counted "PREFIX"
      (if options.keyStarts.isEmpty then none else some (options.keyStarts.map .text)),
    .keyed "FILTER" (options.filter.map .text),
    .keyed "LANGUAGE" (options.language.map .text),
    .keyed "LANGUAGE_FIELD" (options.languageField.map .text),
    .keyed "SCORE" ((options.score.filter fun s => !s.numericEq .one).map .double),
    .keyed "SCORE_FIELD" (options.scoreField.map .text),
    .keyed "PAYLOAD_FIELD" (options.payloadField.map .text),
    .flag "MAXTEXTFIELDS" options.maxTextFields,
    .keyed "TEMPORARY" (options.temporary.map fun seconds => .ofNat seconds.toNat),
    .flag "NOOFFSETS" options.noOffsets,
    .flag "NOHL" options.noHighlights,
    .flag "NOFIELDS" options.noFields,
    .flag "NOFREQS" options.noFrequencies,
    .counted "STOPWORDS" ((writtenStopwords options).map fun words => words.map .text),
    .flag "SKIPINITIALSCAN" options.skipInitialScan]

/-- The beginnings of keys are written as texts. -/
theorem keyStarts_eq (starts : List String) :
    (if starts.isEmpty then none else some (starts.map Token.text)) =
      (if starts.isEmpty then none else some starts).map fun list => list.map Token.text := by
  split <;> rfl

/-- The keywords of the options of an index. -/
def optionWords : List String :=
  ["PREFIX", "FILTER", "LANGUAGE", "LANGUAGE_FIELD", "SCORE", "SCORE_FIELD", "PAYLOAD_FIELD",
    "MAXTEXTFIELDS", "TEMPORARY", "NOOFFSETS", "NOHL", "NOFIELDS", "NOFREQS", "STOPWORDS",
    "SKIPINITIALSCAN"]

/-- Every index has the same options to offer. -/
theorem map_keyword_sections (spec : IndexSpec) :
    spec.sections.map Section.keyword = optionWords := rfl

/-- A flag part is written as the section. -/
theorem flatMap_flagPart (keyword : String) (on : Bool) :
    (flagPart keyword on).flatMap Part.tokens = (Section.flag keyword on).tokens :=
  Section.flatMap_flag keyword on

/-- A part with a value is written as the section. -/
theorem flatMap_keyedPart (keyword : String) (value : Option Token) :
    (keyedPart keyword value).flatMap Part.tokens = (Section.keyed keyword value).tokens := by
  cases value <;> rfl

/-- The options are written section by section. -/
theorem flatMap_parts (spec : IndexSpec) :
    spec.parts.flatMap Part.tokens =
      .text "ON" :: .text spec.document.keyword :: spec.sections.flatMap Section.tokens := by
  simp only [parts, sections, List.flatMap_append, List.flatMap_cons, List.flatMap_nil,
    flatMap_flagPart, flatMap_keyedPart, Section.flatMap_counted, Section.flatMap_counted_unless,
    Part.tokens, List.append_assoc, List.cons_append, List.nil_append, List.append_nil]

/-- The body of an index is its kind of document, its options and its schema. -/
theorem bodyTokens_eq (spec : IndexSpec) :
    spec.bodyTokens =
      .text "ON" :: .text spec.document.keyword :: (spec.sections.flatMap Section.tokens ++
        .text "SCHEMA" :: spec.fields.flatMap Field.tokens) := by
  have schema : (schemaClause spec.fields).tokens =
      .text "SCHEMA" :: spec.fields.flatMap Field.tokens := by
    simp only [schemaClause, Clause.group, List.flatMap_cons, List.flatMap_map, List.cons_append,
      List.nil_append]
    rfl
  rw [bodyTokens, clauses, List.flatMap_append, Part.flatMap_clause, flatMap_parts,
    List.flatMap_cons, List.flatMap_nil, List.append_nil, schema, List.cons_append,
    List.cons_append]

/-! ## Descriptions and their normal forms -/

/-- An index and its normal form have the same options to write. -/
theorem sections_normal (spec : IndexSpec) : spec.normal.sections = spec.sections := by
  have stopwords : writtenStopwords spec.normal.options = writtenStopwords spec.options := rfl
  have score : (spec.normal.options.score.filter fun s => !s.numericEq .one) =
      spec.options.score.filter fun s => !s.numericEq .one := by
    rw [Double.filter_ne_one, Double.filter_ne_one]
    exact Double.unlessOne_unlessOne spec.options.score
  simp only [sections, score, stopwords]
  rfl

/-- An index and its normal form are written alike. -/
theorem bodyTokens_normal (spec : IndexSpec) : spec.normal.bodyTokens = spec.bodyTokens := by
  have fields : spec.normal.fields.flatMap Field.tokens = spec.fields.flatMap Field.tokens := by
    change (spec.fields.map Field.normal).flatMap Field.tokens = _
    rw [List.flatMap_map]
    simp only [Field.tokens_normal]
  rw [bodyTokens_eq, bodyTokens_eq, sections_normal, fields]
  rfl

/-- The lists of an index that are written with their number fit in memory. -/
structure Storable (spec : IndexSpec) : Prop where
  /-- The beginnings of keys. -/
  keyStarts : SearchWire.Storable spec.options.keyStarts
  /-- The stopwords. -/
  stopwords : ∀ words ∈ spec.options.stopwords, SearchWire.Storable words

/-- Whether no number of an index is clamped when it is written. -/
structure Exact (spec : IndexSpec) : Prop where
  /-- The lists fit in memory. -/
  storable : spec.Storable
  /-- The lifespan is an integer token. -/
  temporary : ∀ seconds ∈ spec.options.temporary, seconds.toNat ≤ Word.greatest

/-- An accepted index has a lifespan that is an integer token. -/
theorem exact_of_validate {spec : IndexSpec} (accepted : spec.validate = .ok ())
    (storable : spec.Storable) : spec.Exact := by
  refine ⟨storable, ?_⟩
  intro seconds present
  have passed := Check.run_eq_ok_iff.mp accepted
  refine Check.applies_fits_eq_false_iff.mp (passed (.fits "TEMPORARY" seconds) ?_)
  have checked : Check.fits "TEMPORARY" seconds ∈
      Check.optional spec.options.temporary (Check.fits "TEMPORARY") := Check.mem_optional present
  simp only [checks, optionChecks, List.mem_append]
  exact .inl (.inl (.inl (.inr checked)))

/-- The items behind a count are not more than a word counts. -/
theorem Exact.stopwords_le {spec : IndexSpec} (exact : spec.Exact) {items : List Token}
    (present : items ∈ (writtenStopwords spec.options).map fun words => words.map Token.text) :
    items.length ≤ Word.greatest := by
  obtain ⟨words, written, rfl⟩ := Option.map_eq_some_iff.mp present
  rw [List.length_map]
  rw [writtenStopwords] at written
  split at written
  · cases written
    exact Nat.zero_le _
  · exact (exact.storable.stopwords words written).length_le

/-- The beginnings of keys are not more than a word counts. -/
theorem Exact.keyStarts_le {spec : IndexSpec} (exact : spec.Exact) {items : List Token}
    (present : items ∈ if spec.options.keyStarts.isEmpty then none
      else some (spec.options.keyStarts.map Token.text)) : items.length ≤ Word.greatest := by
  split at present
  · contradiction
  · cases present
    rw [List.length_map]
    exact exact.storable.keyStarts.length_le

/-- The options of two indexes are aligned if no count is clamped. -/
theorem aligned_sections {a b : IndexSpec} (exact : a.Exact) (exact' : b.Exact) :
    List.Forall₂ Section.Aligned a.sections b.sections := by
  have keyStarts := Section.aligned_counted "PREFIX" (fun _ => exact.keyStarts_le)
    (fun _ => exact'.keyStarts_le)
  have stopwords := Section.aligned_counted "STOPWORDS" (fun _ => exact.stopwords_le)
    (fun _ => exact'.stopwords_le)
  simp only [sections, List.forall₂_cons, List.forall₂_nil_left_iff, Section.aligned_flag,
    Section.aligned_keyed, keyStarts, stopwords, true_and]

/-- Behind the options stands the schema. -/
def AtSchema (tokens : List Token) : Prop := ∃ rest, tokens = .text "SCHEMA" :: rest

/-- Bodies written alike have the same kind of document, options and fields. -/
theorem bodyTokens_inj {a b : IndexSpec} (exact : a.Exact) (exact' : b.Exact)
    (same : a.bodyTokens = b.bodyTokens) :
    a.document = b.document ∧ a.sections = b.sections ∧
      a.fields.map Field.normal = b.fields.map Field.normal := by
  rw [bodyTokens_eq, bodyTokens_eq] at same
  simp only [List.cons.injEq, true_and, Token.text.injEq] at same
  obtain ⟨keyword, same⟩ := same
  have document : a.document = b.document := DocumentKind.keyword_inj keyword
  have ends : AtSchema (.text "SCHEMA" :: a.fields.flatMap Field.tokens) := ⟨_, rfl⟩
  have ends' : AtSchema (.text "SCHEMA" :: b.fields.flatMap Field.tokens) := ⟨_, rfl⟩
  have fresh : ∀ word ∈ a.sections.map Section.keyword, ∀ later,
      ¬AtSchema (.text word :: later) := by
    rw [map_keyword_sections]
    rintro word inside later ⟨rest, schema⟩
    obtain rfl := Token.text.inj (List.cons.inj schema).1
    revert inside
    decide
  obtain ⟨sections, rest⟩ := Section.flatMap_tokens_append_inj_of_fresh
    (aligned_sections exact exact') (by rw [map_keyword_sections]; decide) fresh ends ends' same
  exact ⟨document, sections, Field.flatMap_tokens_eq_iff.mp (List.cons.inj rest).2⟩

/-- Options written alike have one normal form. -/
theorem normal_eq_of_sections {a b : IndexSpec} (exact : a.Exact) (exact' : b.Exact)
    (document : a.document = b.document) (sections : a.sections = b.sections)
    (fields : a.fields.map Field.normal = b.fields.map Field.normal) : a.normal = b.normal := by
  have texts : ∀ {left right : Option String},
      left.map Token.text = right.map Token.text → left = right :=
    fun same => Option.map_injective (fun _ _ => Token.text.inj) same
  have lists : ∀ {left right : List String},
      left.map Token.text = right.map Token.text → left = right :=
    fun same => List.map_injective_iff.mpr (fun _ _ => Token.text.inj) same
  simp only [IndexSpec.sections, List.cons.injEq, Section.flag_inj, Section.keyed_inj,
    Section.counted_inj, and_true] at sections
  obtain ⟨keyStarts, filter, language, languageField, score, scoreField, payloadField,
    maxTextFields, temporary, noOffsets, noHighlights, noFields, noFrequencies, stopwords,
    skipInitialScan⟩ := sections
  have keyStarts : a.options.keyStarts = b.options.keyStarts := by
    cases starts : a.options.keyStarts with
    | nil =>
      cases starts' : b.options.keyStarts with
      | nil => rfl
      | cons => simp [starts, starts'] at keyStarts
    | cons =>
      cases starts' : b.options.keyStarts with
      | nil => simp [starts, starts'] at keyStarts
      | cons =>
        rw [starts, starts'] at keyStarts
        exact lists (Option.some.inj keyStarts)
  have score : a.normal.options.score = b.normal.options.score := by
    have kept := Option.map_injective (fun _ _ => Token.double.inj) score
    rw [Double.filter_ne_one, Double.filter_ne_one] at kept
    exact kept
  have temporary : a.options.temporary = b.options.temporary :=
    Token.map_ofNat_toNat_inj exact.temporary exact'.temporary temporary
  have stopwords : a.normal.options.stopwords = b.normal.options.stopwords :=
    Option.map_injective (fun _ _ same => lists same) stopwords
  simp only [normal] at score stopwords ⊢
  rw [document, keyStarts, texts filter, texts language, texts languageField, score,
    texts scoreField, texts payloadField, maxTextFields, temporary, noOffsets, noHighlights,
    noFields, noFrequencies, stopwords, skipInitialScan, fields]

/-- Bodies are written alike exactly if the descriptions have one normal form. -/
theorem bodyTokens_eq_iff {a b : IndexSpec} (exact : a.Exact) (exact' : b.Exact) :
    a.bodyTokens = b.bodyTokens ↔ a.normal = b.normal := by
  constructor
  · intro same
    obtain ⟨document, sections, fields⟩ := bodyTokens_inj exact exact' same
    exact normal_eq_of_sections exact exact' document sections fields
  · intro same
    rw [← bodyTokens_normal a, same, bodyTokens_normal]

end IndexSpec

end SearchWire
