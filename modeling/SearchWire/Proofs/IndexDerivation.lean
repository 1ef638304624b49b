import SearchWire.Proofs.IndexGrammar

/-!
# Accepted indexes and the grammar

The body of every accepted index is derived by the grammar, and every list of tokens that the
grammar derives is the body of an accepted index. The first needs what the checks say, the second
that no option is out of reach: from the values in the tokens a description is put together that
passes the checks and is written as those tokens.
-/
open scoped Computability

namespace SearchWire

namespace Grammar

/-- The lifespans of the grammar are the tokens of lifespans that are accepted. -/
theorem value_lifespan :
    (value Token.integer fun n => 1 ≤ n.toInt) =
      value (fun seconds : UInt64 => .ofNat seconds.toNat)
        fun seconds => seconds ≠ 0 ∧ seconds.toNat ≤ Word.greatest := by
  have nonzero : ∀ seconds : UInt64, seconds ≠ 0 ↔ seconds.toNat ≠ 0 :=
    fun seconds => not_congr UInt64.toNat_inj.symm
  ext tokens
  constructor
  · rintro ⟨n, positive, rfl⟩
    have upper := n.toInt_lt
    let seconds := UInt64.ofNat n.toInt.toNat
    have number : seconds.toNat = n.toInt.toNat := by
      apply UInt64.toNat_ofNat_of_lt'
      unfold UInt64.size
      omega
    have fits : seconds.toNat ≤ Word.greatest := by
      unfold Word.greatest
      omega
    have written : Word.saturate seconds.toNat = n := by
      apply Int64.toInt_inj.mp
      rw [Word.toInt_saturate fits]
      omega
    refine ⟨seconds, ⟨(nonzero seconds).mpr (by omega), fits⟩, ?_⟩
    simp only [Token.ofNat, written]
  · rintro ⟨seconds, ⟨positive, fits⟩, rfl⟩
    have number := Word.toInt_saturate fits
    have positive := (nonzero seconds).mp positive
    have above : 1 ≤ (Word.saturate seconds.toNat).toInt := by omega
    exact ⟨Word.saturate seconds.toNat, above, rfl⟩

/-- A score is in its range exactly if it is accepted and written. -/
theorem isScore_iff {s : Double} :
    IsScore s ↔ s.inUnitInterval = true ∧ s.numericEq .one = false := by
  rw [IsScore, Double.inUnitInterval, Bool.and_eq_true, and_assoc]

/-- The options of an accepted index are derived, if no number of texts is clamped. -/
theorem sections_mem_options {spec : IndexSpec} (accepted : spec.options.Accepted spec.document)
    (exact : spec.Exact) :
    spec.sections.flatMap Section.tokens ∈ (options spec.document).prod := by
  have keyStarts : (Section.counted "PREFIX" (if spec.options.keyStarts.isEmpty then none
      else some (spec.options.keyStarts.map .text))).tokens ∈
      optional (word "PREFIX" *
        counted fun starts => starts ≠ [] ∧ ∀ start ∈ starts, start ≠ "") := by
    rw [mem_optional_counted_iff, IndexSpec.keyStarts_eq]
    refine ⟨if spec.options.keyStarts.isEmpty then none else some spec.options.keyStarts, ?_, rfl⟩
    intro starts present
    split at present
    next => contradiction
    next declared =>
      cases present
      exact ⟨⟨by simpa using declared, accepted.keyStarts⟩, exact.storable.keyStarts.length_le⟩
  have stopwords : (Section.counted "STOPWORDS" ((IndexSpec.writtenStopwords spec.options).map
      fun words => words.map .text)).tokens ∈
      optional (word "STOPWORDS" * counted fun _ => True) := by
    refine mem_optional_counted_iff.mpr ⟨_, fun words present => ⟨trivial, ?_⟩, rfl⟩
    have small := exact.stopwords_le (Option.mem_map_of_mem (List.map Token.text) present)
    rwa [List.length_map] at small
  have score : ∀ s ∈ spec.options.score.filter fun s => !s.numericEq .one, IsScore s := by
    intro s written
    obtain ⟨given, differs⟩ := Option.filter_eq_some_iff.mp written
    exact isScore_iff.mpr ⟨accepted.score s given, by simpa using differs⟩
  apply flatMap_tokens_mem_prod
  simp only [IndexSpec.sections, options, value_lifespan, List.forall₂_cons,
    List.forall₂_nil_left_iff, Section.tokens_flag, Section.tokens_keyed, keyStarts, stopwords,
    mem_optional_text_iff, mem_optional_value_iff, mem_optional_word_iff, true_and, and_true]
  exact ⟨⟨_, rfl⟩, ⟨_, rfl⟩, ⟨_, rfl⟩, ⟨_, score, rfl⟩, ⟨_, rfl⟩,
    ⟨_, fun _ given => accepted.payload (Option.isSome_of_mem given), rfl⟩, ⟨_, rfl⟩,
    ⟨_, accepted.temporary, rfl⟩, ⟨_, rfl⟩, ⟨_, rfl⟩, ⟨_, rfl⟩, ⟨_, rfl⟩, ⟨_, rfl⟩⟩

/-- What the options of the grammar derive are the options of an accepted index. -/
theorem exists_sections_of_mem {document : DocumentKind} {tokens : List Token}
    (inside : tokens ∈ (options document).prod) :
    ∃ chosen : IndexOptions, chosen.Accepted document ∧
      ∀ fields, (IndexSpec.mk document chosen fields).sections.flatMap Section.tokens = tokens := by
  simp only [options, value_lifespan, mem_cons_prod_iff, mem_nil_prod_iff, mem_optional_text_iff,
    mem_optional_value_iff, mem_optional_word_iff, mem_optional_counted_iff] at inside
  obtain ⟨_, ⟨keyStarts, starting, rfl⟩, _, inside, rfl⟩ := inside
  obtain ⟨_, ⟨filter, rfl⟩, _, inside, rfl⟩ := inside
  obtain ⟨_, ⟨language, rfl⟩, _, inside, rfl⟩ := inside
  obtain ⟨_, ⟨languageField, rfl⟩, _, inside, rfl⟩ := inside
  obtain ⟨_, ⟨score, scoring, rfl⟩, _, inside, rfl⟩ := inside
  obtain ⟨_, ⟨scoreField, rfl⟩, _, inside, rfl⟩ := inside
  obtain ⟨_, ⟨payloadField, payload, rfl⟩, _, inside, rfl⟩ := inside
  obtain ⟨_, ⟨maxTextFields, rfl⟩, _, inside, rfl⟩ := inside
  obtain ⟨_, ⟨temporary, lasting, rfl⟩, _, inside, rfl⟩ := inside
  obtain ⟨_, ⟨noOffsets, rfl⟩, _, inside, rfl⟩ := inside
  obtain ⟨_, ⟨noHighlights, rfl⟩, _, inside, rfl⟩ := inside
  obtain ⟨_, ⟨noFields, rfl⟩, _, inside, rfl⟩ := inside
  obtain ⟨_, ⟨noFrequencies, rfl⟩, _, inside, rfl⟩ := inside
  obtain ⟨_, ⟨stopwords, -, rfl⟩, _, inside, rfl⟩ := inside
  obtain ⟨_, ⟨skipInitialScan, rfl⟩, _, rfl, rfl⟩ := inside
  let chosen : IndexOptions :=
    { keyStarts := keyStarts.getD []
      filter := filter
      language := language
      languageField := languageField
      score := score
      scoreField := scoreField
      payloadField := payloadField
      maxTextFields := maxTextFields
      temporary := temporary
      noOffsets := noOffsets
      noHighlights := noHighlights
      noFields := noFields
      noFrequencies := noFrequencies
      stopwords := stopwords
      noStopwords := false
      skipInitialScan := skipInitialScan }
  -- What the description leaves out is in no option of the grammar: no beginnings of keys, and one
  -- as the score.
  have started : (if chosen.keyStarts.isEmpty then none else some chosen.keyStarts) =
      keyStarts := by
    cases keyStarts with
    | none => rfl
    | some starts => simpa [chosen] using (starting starts rfl).1.1
  have scored : (chosen.score.filter fun s => !s.numericEq .one) = score :=
    filter_eq_self_iff.mpr fun s given => by simp [(scoring s given).2.2]
  have accepted : chosen.Accepted document := by
    refine ⟨nofun, ?_, lasting, fun s given => (isScore_iff.mp (scoring s given)).1, ?_⟩
    · intro present
      obtain ⟨field, given⟩ := Option.isSome_iff_exists.mp present
      exact payload field given
    · cases keyStarts with
      | none => exact List.forall_mem_nil _
      | some starts => exact (starting starts rfl).1.2
  refine ⟨chosen, accepted, fun fields => ?_⟩
  simp only [IndexSpec.sections, IndexSpec.keyStarts_eq, started, scored, List.flatMap_cons,
    List.flatMap_nil, Section.tokens_flag, Section.tokens_keyed]
  rfl

/-- A body of the grammar is the name of its kind of document, its options and its fields. -/
theorem mem_body_iff {name : String} {document : DocumentKind} {tokens : List Token} :
    tokens ∈ body name document ↔
      ∃ sections ∈ (options document).prod, ∃ fields ∈ field document * (field document)∗,
        tokens = .text "ON" :: .text name :: (sections ++ .text "SCHEMA" :: fields) := by
  rw [body, mem_word_mul_iff]
  constructor
  · rintro ⟨_, kind, rfl⟩
    obtain ⟨_, parts, rfl⟩ := mem_word_mul_iff.mp kind
    obtain ⟨sections, chosen, _, schema, rfl⟩ := Language.mem_mul.mp parts
    obtain ⟨fields, declared, rfl⟩ := mem_word_mul_iff.mp schema
    exact ⟨sections, chosen, fields, declared, rfl⟩
  · rintro ⟨sections, chosen, fields, declared, rfl⟩
    refine ⟨_, mem_word_mul_iff.mpr ⟨_, Language.mem_mul.mpr ?_, rfl⟩, rfl⟩
    exact ⟨sections, chosen, _, mem_word_mul_iff.mpr ⟨fields, declared, rfl⟩, rfl⟩

/-- The body of an accepted index is derived, if no number of texts is clamped. -/
theorem bodyTokens_mem_body {spec : IndexSpec} (accepted : spec.Accepted) (exact : spec.Exact) :
    spec.bodyTokens ∈ body spec.document.keyword spec.document := by
  have fields : spec.fields.flatMap Field.tokens ∈ field spec.document * (field spec.document)∗ :=
    mem_fields_iff.mpr ⟨spec.fields, accepted.declared, accepted.fields, rfl⟩
  exact mem_body_iff.mpr
    ⟨_, sections_mem_options accepted.options exact, _, fields, spec.bodyTokens_eq⟩

/-- What is derived as a body is the body of an accepted index. -/
theorem exists_accepted_of_mem {document : DocumentKind} {tokens : List Token}
    (inside : tokens ∈ body document.keyword document) :
    ∃ spec : IndexSpec, spec.Accepted ∧ spec.bodyTokens = tokens := by
  obtain ⟨_, sections, _, derived, rfl⟩ := mem_body_iff.mp inside
  obtain ⟨chosen, options, written⟩ := exists_sections_of_mem sections
  obtain ⟨fields, declared, accepted, rfl⟩ := mem_fields_iff.mp derived
  refine ⟨⟨document, chosen, fields⟩, ⟨declared, options, accepted⟩, ?_⟩
  rw [IndexSpec.bodyTokens_eq, written]

end Grammar

namespace IndexSpec

/-- The lists of an accepted index are not longer than its body. -/
theorem storable_of_bodyTokens {spec : IndexSpec} (accepted : spec.Accepted)
    (storable : SearchWire.Storable spec.bodyTokens) : spec.Storable := by
  have total := spec.length_bodyTokens
  simp only [SearchWire.Storable, IndexOptions.tokenCount] at storable total
  constructor
  · unfold SearchWire.Storable
    cases starts : spec.options.keyStarts with
    | nil => exact Nat.zero_le _
    | cons start rest =>
      simp only [starts, reduceCtorEq, if_false] at total
      omega
  · intro words given
    unfold SearchWire.Storable
    cases off : spec.options.noStopwords with
    | true =>
      rw [accepted.options.stopwords off words given]
      exact Nat.zero_le _
    | false =>
      simp only [off, Option.mem_def.mp given, Bool.false_eq_true, if_false] at total
      omega

/-- The bodies that indexes are compiled to are exactly those of the grammar, as far as memory can
hold them. -/
theorem compiled_iff_derived {tokens : List Token} (storable : SearchWire.Storable tokens) :
    (∃ (spec : IndexSpec) (body : IndexBody), spec.compile = .ok body ∧ body.tokens = tokens) ↔
      tokens ∈ Grammar.index := by
  have documents : tokens ∈ Grammar.index ↔
      ∃ document : DocumentKind, tokens ∈ Grammar.body document.keyword document := by
    rw [Grammar.index, Language.mem_add]
    constructor
    · rintro (inside | inside)
      · exact ⟨.hash, inside⟩
      · exact ⟨.json, inside⟩
    · rintro ⟨document, inside⟩
      cases document with
      | hash => exact .inl inside
      | json => exact .inr inside
  rw [documents]
  constructor
  · rintro ⟨spec, body, compiled, rfl⟩
    obtain ⟨valid, rfl⟩ := compile_eq_ok_iff.mp compiled
    dsimp only at storable ⊢
    have accepted := validate_eq_ok_iff.mp valid
    have exact := exact_of_validate valid (storable_of_bodyTokens accepted storable)
    exact ⟨spec.document, Grammar.bodyTokens_mem_body accepted exact⟩
  · rintro ⟨document, inside⟩
    obtain ⟨spec, accepted, rfl⟩ := Grammar.exists_accepted_of_mem inside
    have compiled : spec.compile = .ok ⟨spec.document, spec.bodyTokens⟩ :=
      compile_eq_ok_iff.mpr ⟨validate_eq_ok_iff.mpr accepted, rfl⟩
    refine ⟨spec, _, compiled, ?_⟩
    dsimp only

/-- Texts that read like keywords are derived where texts stand, and the negative zero is a
score. -/
theorem derived_of_keyword_texts :
    ∃ tokens, tokens = [.text "ON", .text "JSON", .text "PREFIX", .integer 1, .text "SCHEMA",
        .text "SCORE", .double (.ofMagnitude true 0), .text "TEMPORARY", .integer 5,
        .text "STOPWORDS", .integer 0, .text "SCHEMA", .text "$", .text "AS", .text "AS",
        .text "TAG", .text "SEPARATOR", .text ";", .text "$.TAG", .text "TEXT", .text "SORTABLE",
        .text "UNF"] ∧
      SearchWire.Storable tokens ∧ tokens ∈ Grammar.index := by
  refine ⟨_, rfl, by decide, ?_⟩
  refine (compiled_iff_derived (by decide)).mp ⟨ofSteps .json [.keyStart "SCHEMA",
    .score (.ofMagnitude true 0), .temporary 5, .noStopwords,
    .field (.ofOptions "$" .tag [.label "AS", .separator ';']),
    .field (.ofOptions "$.TAG" .text [.sortableUnnormalized])], _,
    compile_eq_ok_iff.mpr ⟨rfl, rfl⟩, rfl⟩

end IndexSpec

end SearchWire
