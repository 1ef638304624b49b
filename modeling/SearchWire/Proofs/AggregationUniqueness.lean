import SearchWire.Proofs.PipelineReading

/-!
# Bodies of aggregations determine their descriptions

The body of an aggregation is the query, the options in front of the pipeline, its stages and the
options behind it. Each of the four is told apart from what follows it, and no number that passed
the checks is clamped when it is written; so an accepted description can be read off its tokens.
-/
namespace SearchWire

namespace Load

/-- What stands behind `LOAD`. -/
def body : Load → List Token
  | all => [.text "*"]
  | fields properties => Token.counted (properties.map .text)

/-- Two ways to load fields are told apart by what stands behind `LOAD`. -/
theorem level_body {left right : Load}
    (small : ∀ properties, left = fields properties → properties.length ≤ Word.greatest)
    (small' : ∀ properties, right = fields properties → properties.length ≤ Word.greatest) :
    Section.Level left.body right.body := by
  cases left with
  | all =>
    cases right with
    | all => exact Section.level_of_length rfl
    | fields =>
      intro rest rest' same
      simp [body, Token.counted, Token.ofNat] at same
  | fields properties =>
    cases right with
    | all =>
      intro rest rest' same
      simp [body, Token.counted, Token.ofNat] at same
    | fields properties' =>
      exact Section.level_counted (by rw [List.length_map]; exact small properties rfl)
        (by rw [List.length_map]; exact small' properties' rfl)

/-- What stands behind `LOAD` tells which fields are loaded. -/
theorem body_inj {left right : Load} (same : left.body = right.body) : left = right := by
  cases left with
  | all =>
    cases right with
    | all => rfl
    | fields => simp [body, Token.counted, Token.ofNat] at same
  | fields properties =>
    cases right with
    | all => simp [body, Token.counted, Token.ofNat] at same
    | fields properties' =>
      rw [Token.map_text_inj (List.cons.inj same).2]

end Load

namespace Aggregation

/-- The options in front of the pipeline. -/
def headSections (a : Aggregation) : List Section :=
  [.flag "VERBATIM" a.verbatim,
    ⟨"LOAD", a.load.map Load.body⟩,
    .keyed "TIMEOUT" (a.timeout.map fun n => .ofNat n.toNat)]

/-- The parameters as they are written. -/
def paramTokens (params : List (String × String)) : List Token :=
  params.flatMap fun (name, value) => [.text name, .text value]

/-- The options behind the pipeline. -/
def tailSections (a : Aggregation) : List Section :=
  [.flag "WITHCURSOR" a.cursor.isSome,
    .keyed "COUNT" ((a.cursor.bind CursorOptions.count).map fun n => .ofNat n.toNat),
    .keyed "MAXIDLE" ((a.cursor.bind CursorOptions.maxIdle).map fun n => .ofNat n.toNat),
    .counted "PARAMS" (if a.params.isEmpty then none else some (paramTokens a.params)),
    .keyed "DIALECT" (a.dialect.map fun number => .ofNat number.toNat)]

/-- The keywords of the options in front of the pipeline. -/
def headWords : List String := ["VERBATIM", "LOAD", "TIMEOUT"]

/-- Every aggregation has the same options in front of its pipeline. -/
theorem map_keyword_headSections (a : Aggregation) :
    a.headSections.map Section.keyword = headWords := rfl

/-- Every aggregation has the same options behind its pipeline. -/
theorem map_keyword_tailSections (a : Aggregation) :
    a.tailSections.map Section.keyword = tailWords := rfl

/-- A number part is written as the section. -/
theorem flatMap_numberPart (keyword : String) (value : Option UInt64) :
    (numberPart keyword value).flatMap Part.tokens =
      (Section.keyed keyword (value.map fun n => .ofNat n.toNat)).tokens :=
  Section.flatMap_keyed keyword (fun n : UInt64 => .ofNat n.toNat) value

/-- The parts in front of the pipeline are the query and the sections. -/
theorem flatMap_headParts (a : Aggregation) :
    a.headParts.flatMap Part.tokens =
      .text a.query :: a.headSections.flatMap Section.tokens := by
  have verbatim := Section.flatMap_flag "VERBATIM" a.verbatim
  have load : (a.load.map loadPart).toList.flatMap Part.tokens =
      Section.tokens ⟨"LOAD", a.load.map Load.body⟩ := by
    cases a.load with
    | none => rfl
    | some load =>
      cases load <;> simp [loadPart, Part.tokens, Load.body, Section.tokens]
  simp only [headParts, headSections, List.flatMap_append, List.flatMap_cons, List.flatMap_nil,
    flatMap_numberPart, verbatim, load, Part.tokens, List.append_assoc, List.cons_append,
    List.nil_append, List.append_nil]

/-- The parts behind the pipeline are the sections. -/
theorem flatMap_tailParts (a : Aggregation) :
    a.tailParts.flatMap Part.tokens = a.tailSections.flatMap Section.tokens := by
  have dialect := Section.flatMap_keyed "DIALECT" (fun number : UInt32 => .ofNat number.toNat)
    a.dialect
  have params := Section.flatMap_counted_unless "PARAMS" a.params.isEmpty (paramTokens a.params)
  rw [tailParts, tailSections, List.flatMap_append, List.flatMap_append, dialect]
  simp only [List.flatMap_cons, List.flatMap_nil, List.append_nil]
  rw [← params, List.append_assoc]
  cases a.cursor with
  | none => rfl
  | some options =>
    simp only [cursorParts, List.flatMap_append, List.flatMap_cons, flatMap_numberPart,
      List.append_assoc]
    rfl

/-- The body of an aggregation is its query, its options and its stages. -/
theorem bodyTokens_eq (a : Aggregation) :
    a.bodyTokens =
      .text a.query :: (a.headSections.flatMap Section.tokens ++
        (a.stages.flatMap Stage.tokens ++ a.tailSections.flatMap Section.tokens)) := by
  have stages : (a.stages.map Stage.clause).flatMap Clause.tokens =
      a.stages.flatMap Stage.tokens := by
    rw [List.flatMap_map]
    rfl
  rw [bodyTokens, clauses, List.flatMap_append, List.flatMap_append, Part.flatMap_clause,
    Part.flatMap_clause, stages, flatMap_headParts, flatMap_tailParts, List.cons_append,
    List.cons_append, List.append_assoc]

/-! ## Numbers that are written as they are -/

/-- The lists of an aggregation that are written with their number fit in memory. -/
structure Storable (a : Aggregation) : Prop where
  /-- The fields to load. -/
  load : ∀ properties, a.load = some (.fields properties) → SearchWire.Storable properties
  /-- The parameters. -/
  params : SearchWire.Storable a.params
  /-- The lists of the stages. -/
  stages : ∀ s ∈ a.stages, s.Storable

/-- Whether no number of an aggregation is clamped when it is written. -/
structure Exact (a : Aggregation) : Prop where
  /-- The lists fit in memory. -/
  storable : a.Storable
  /-- The timeout is an integer token. -/
  timeout : ∀ n ∈ a.timeout, n.toNat ≤ Word.greatest
  /-- The size of a page is an integer token. -/
  count : ∀ n ∈ a.cursor.bind CursorOptions.count, n.toNat ≤ Word.greatest
  /-- The life of an idle cursor is an integer token. -/
  maxIdle : ∀ n ∈ a.cursor.bind CursorOptions.maxIdle, n.toNat ≤ Word.greatest
  /-- The numbers of the stages are integer tokens. -/
  stages : ∀ s ∈ a.stages, s.Exact

/-- No number of an accepted aggregation is clamped. -/
theorem exact_of_validate {a : Aggregation} (accepted : a.validate = .ok ())
    (storable : a.Storable) : a.Exact := by
  have passed := Check.run_eq_ok_iff.mp accepted
  have optional : ∀ check ∈ a.optionChecks, check.applies = false := fun check inside =>
    passed check (List.mem_append_left _ inside)
  simp only [optionChecks, List.mem_append] at optional
  refine ⟨storable, ?_, ?_, ?_, ?_⟩
  · intro n present
    have checked := optional _ (.inl (.inl (.inr (Check.mem_optional present))))
    exact Check.applies_fits_eq_false_iff.mp checked
  · intro n present
    have checked := optional _ (.inl (.inr (Check.mem_optional present)))
    exact Check.applies_fits_eq_false_iff.mp checked
  · intro n present
    have checked := optional _ (.inr (Check.mem_optional present))
    exact Check.applies_fits_eq_false_iff.mp checked
  · intro s inside
    refine Stage.exact_of_checks (fun check found => passed check ?_) (storable.stages s inside)
    exact List.mem_append_right _ (List.mem_flatMap.mpr ⟨s, inside, found⟩)

/-- The parameters are not more than a word counts. -/
theorem Storable.paramTokens_le {a : Aggregation} (storable : a.Storable) {items : List Token}
    (present : items ∈ if a.params.isEmpty then none else some (paramTokens a.params)) :
    items.length ≤ Word.greatest := by
  split at present
  · contradiction
  · cases present
    have length : (paramTokens a.params).length = 2 * a.params.length :=
      Token.length_flatMap_pair _ _ a.params
    rw [length]
    exact storable.params

/-- The options in front of two pipelines are aligned. -/
theorem aligned_headSections {a b : Aggregation} (storable : a.Storable) (storable' : b.Storable) :
    List.Forall₂ Section.Aligned a.headSections b.headSections := by
  have load : Section.Aligned ⟨"LOAD", a.load.map Load.body⟩ ⟨"LOAD", b.load.map Load.body⟩ := by
    refine ⟨rfl, ?_⟩
    intro body inside body' inside'
    obtain ⟨load, present, rfl⟩ := Option.map_eq_some_iff.mp inside
    obtain ⟨load', present', rfl⟩ := Option.map_eq_some_iff.mp inside'
    exact Load.level_body
      (fun properties same => (storable.load properties (same ▸ present)).length_le)
      (fun properties same => (storable'.load properties (same ▸ present')).length_le)
  simp only [headSections, List.forall₂_cons, List.forall₂_nil_left_iff, Section.aligned_flag,
    Section.aligned_keyed, load, true_and]

/-- The options behind two pipelines are aligned. -/
theorem aligned_tailSections {a b : Aggregation} (storable : a.Storable) (storable' : b.Storable) :
    List.Forall₂ Section.Aligned a.tailSections b.tailSections := by
  have params := Section.aligned_counted "PARAMS" (fun _ => storable.paramTokens_le)
    (fun _ => storable'.paramTokens_le)
  simp only [tailSections, List.forall₂_cons, List.forall₂_nil_left_iff, Section.aligned_flag,
    Section.aligned_keyed, params, true_and]

/-- Parameters are told by their tokens. -/
theorem params_eq_of_section {left right : List (String × String)}
    (same : (if left.isEmpty then none else some (paramTokens left)) =
      if right.isEmpty then none else some (paramTokens right)) : left = right := by
  have tokens : paramTokens left = paramTokens right := by
    cases left with
    | nil => cases right <;> simp_all
    | cons => cases right <;> simp_all
  refine Section.flatMap_pair_inj ?_ tokens
  rintro ⟨name, value⟩ ⟨name', value'⟩ names values
  exact Prod.ext (Token.text.inj names) (Token.text.inj values)

/-- Cursor options are told by whether they are given and by their two numbers. -/
theorem cursor_eq_of_parts {left right : Option CursorOptions}
    (given : left.isSome = right.isSome)
    (count : left.bind CursorOptions.count = right.bind CursorOptions.count)
    (maxIdle : left.bind CursorOptions.maxIdle = right.bind CursorOptions.maxIdle) :
    left = right := by
  cases left with
  | none => cases right <;> simp_all
  | some left =>
    cases right with
    | none => simp at given
    | some right =>
      obtain ⟨_, _⟩ := left
      obtain ⟨_, _⟩ := right
      simp_all

/-- The options behind a pipeline may follow its last stage. -/
theorem atTail_tailSections (a : Aggregation) :
    AtTail (a.tailSections.flatMap Section.tokens) := by
  rw [AtTail, ← map_keyword_tailSections a,
    ← List.append_nil (a.tailSections.flatMap Section.tokens)]
  exact Section.continues_flatMap rfl

/-- A pipeline and the options behind it may follow the options in front of it. -/
theorem atEnd_stages (a : Aggregation) :
    Stage.AtEnd (a.stages.flatMap Stage.tokens ++ a.tailSections.flatMap Section.tokens) :=
  Section.continues_append.mpr
    (Section.continues_items Stage.opens a.stages a.atTail_tailSections)

/-- The query, the options and the stages of an aggregation are told by its tokens. -/
theorem bodyTokens_inj {a b : Aggregation} (exact : a.Exact) (exact' : b.Exact)
    (same : a.bodyTokens = b.bodyTokens) :
    a.query = b.query ∧ a.headSections = b.headSections ∧ a.stages = b.stages ∧
      a.tailSections = b.tailSections := by
  rw [bodyTokens_eq, bodyTokens_eq, List.cons.injEq, Token.text.injEq] at same
  obtain ⟨query, same⟩ := same
  have fresh : ∀ word ∈ a.headSections.map Section.keyword, ∀ later,
      ¬Stage.AtEnd (.text word :: later) := by
    rw [map_keyword_headSections]
    intro word inside later
    refine Section.not_continues_of_notMem ?_ later
    revert word
    decide
  obtain ⟨head, same⟩ := Section.flatMap_tokens_append_inj_of_fresh
    (aligned_headSections exact.storable exact'.storable)
    (by rw [map_keyword_headSections]; decide) fresh a.atEnd_stages b.atEnd_stages same
  obtain ⟨stages, same⟩ := Stage.flatMap_tokens_append_inj exact.stages exact'.stages
    a.atTail_tailSections b.atTail_tailSections same
  have tail := Section.flatMap_tokens_inj (aligned_tailSections exact.storable exact'.storable)
    (by rw [map_keyword_tailSections]; decide) same
  exact ⟨query, head, stages, tail⟩

/-- Aggregations over one index whose numbers are written as they are, are told by their tokens. -/
theorem eq_of_bodyTokens_eq {a b : Aggregation} (exact : a.Exact) (exact' : b.Exact)
    (index : a.index = b.index) (same : a.bodyTokens = b.bodyTokens) : a = b := by
  obtain ⟨query, head, stages, tail⟩ := bodyTokens_inj exact exact' same
  simp only [headSections, List.cons.injEq, Section.flag_inj, Section.keyed_inj,
    Section.mk.injEq, true_and, and_true] at head
  obtain ⟨verbatim, load, timeout⟩ := head
  have load : a.load = b.load := Option.map_injective (fun _ _ => Load.body_inj) load
  have timeout := Token.map_ofNat_toNat_inj exact.timeout exact'.timeout timeout
  simp only [tailSections, List.cons.injEq, Section.flag_inj, Section.keyed_inj,
    Section.counted_inj, and_true] at tail
  obtain ⟨given, count, maxIdle, params, dialect⟩ := tail
  have cursor := cursor_eq_of_parts given
    (Token.map_ofNat_toNat_inj exact.count exact'.count count)
    (Token.map_ofNat_toNat_inj exact.maxIdle exact'.maxIdle maxIdle)
  have params := params_eq_of_section params
  have dialect : a.dialect = b.dialect := by
    refine Option.map_injective ?_ dialect
    intro m n same
    have small := m.toNat_lt
    have small' := n.toNat_lt
    refine UInt32.toNat_inj.mp (Word.saturate_inj ?_ ?_ (Token.integer.inj same)) <;>
      (unfold Word.greatest; omega)
  obtain ⟨⟩ := a
  obtain ⟨⟩ := b
  simp only at index query verbatim load timeout stages cursor params dialect
  rw [index, query, verbatim, load, timeout, stages, cursor, params, dialect]

/-- Two accepted aggregations over one index with the same tokens are the same, and so their senders
know the same about them. -/
theorem eq_of_compile_tokens_eq {a b : Aggregation} {body body' : AggregationBody}
    (compiled : a.compile = .ok body) (compiled' : b.compile = .ok body')
    (storable : a.Storable) (storable' : b.Storable) (index : body.index = body'.index)
    (tokens : body.tokens = body'.tokens) :
    a = b ∧ body.dialect = body'.dialect ∧ body.paged = body'.paged := by
  obtain ⟨accepted, rfl⟩ := compile_eq_ok_iff.mp compiled
  obtain ⟨accepted', rfl⟩ := compile_eq_ok_iff.mp compiled'
  have same : a = b := eq_of_bodyTokens_eq (exact_of_validate accepted storable)
    (exact_of_validate accepted' storable') index tokens
  exact ⟨same, congrArg dialect same, congrArg (fun c => c.cursor.isSome) same⟩

/-- A pipeline whose names and texts are keywords is the same whichever option was set first. -/
theorem eq_of_keyword_texts :
    ∃ body body' : AggregationBody,
      (ofSteps "AS" [.query "LOAD",
        .stage (.groupBy (.on ["REDUCE"] [(Reducer.sum "AS").named "SORTBY"])),
        .stage (.sortBy (.on [("MAX", .ascending)] (some 3))),
        .cursor ⟨some 2, none⟩, .param "DIALECT" "COUNT"]).compile = .ok body ∧
      (ofSteps "AS" [.param "DIALECT" "COUNT", .cursor ⟨some 2, none⟩,
        .stage (.groupBy (.on ["REDUCE"] [(Reducer.sum "AS").named "SORTBY"])),
        .stage (.sortBy (.on [("MAX", .ascending)] (some 3))), .query "LOAD"]).compile =
          .ok body' ∧
      body.dialect = body'.dialect ∧ body.paged = body'.paged := by
  refine ⟨_, _, compile_eq_ok_iff.mpr ⟨rfl, rfl⟩, compile_eq_ok_iff.mpr ⟨rfl, rfl⟩, ?_⟩
  refine (eq_of_compile_tokens_eq (compile_eq_ok_iff.mpr ⟨rfl, rfl⟩)
    (compile_eq_ok_iff.mpr ⟨rfl, rfl⟩) ⟨?_, by decide, by decide⟩ ⟨?_, by decide, by decide⟩
    rfl rfl).2
  · rintro _ ⟨⟩
  · rintro _ ⟨⟩

end Aggregation

end SearchWire
