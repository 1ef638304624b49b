import SearchWire.Exchange.Command
import SearchWire.Proofs.AggregationUniqueness

/-!
# The default dialect

A dialect is written in one of two places: by the description of an aggregation that sets it, or by
the sender for one that does not. Both write the same clause at the same end, so what is sent is
always the body of one description, the one in which the default stands in for a dialect that was
not set. In it the dialect is the last clause, and no other clause opens with its keyword.
-/
namespace SearchWire

/-- Whether a clause begins with a keyword. -/
def Clause.OpensWith (c : Clause) (word : String) : Prop := ∃ rest, c.tokens = .text word :: rest

namespace Part

/-- The keyword of a part; a value in a fixed place has none. -/
def keyword? : Part → Option String
  | bare _ => none
  | flag keyword | keyed keyword _ | counted keyword _ => some keyword

/-- A part begins with its keyword. -/
theorem opensWith {p : Part} {word : String} (keyword : p.keyword? = some word) :
    p.clause.OpensWith word := by
  cases p with
  | bare => cases keyword
  | flag | keyed | counted =>
    cases keyword
    exact ⟨_, rfl⟩

end Part

namespace Aggregation

/-- The tokens of a dialect, if there is one. -/
def dialectTokens (dialect : Option UInt32) : List Token :=
  Token.keyed "DIALECT" (dialect.map fun number => .ofNat number.toNat)

/-- The description without a dialect. -/
def withoutDialect (a : Aggregation) : Aggregation := { a with dialect := none }

/-- The description that is sent: the default stands in for a dialect that was not set. -/
def resolved (a : Aggregation) (config : Config) : Aggregation :=
  { a with dialect := a.dialect.or config.defaultDialect }

/-- A dialect that is set keeps the default out. -/
theorem resolved_of_dialect {a : Aggregation} (given : a.dialect ≠ none) (config : Config) :
    a.resolved config = a := by
  have kept : a.dialect.or config.defaultDialect = a.dialect := by
    obtain ⟨d, set⟩ := Option.ne_none_iff_exists'.mp given
    rw [set]
    rfl
  rw [resolved, kept]

/-- The clauses of an aggregation are those without the dialect, and then the dialect. -/
theorem clauses_eq_append (a : Aggregation) :
    a.clauses = a.withoutDialect.clauses ++
      ((a.dialect.map fun number => Part.keyed "DIALECT" (.ofNat number.toNat)).toList).map
        Part.clause := by
  have tail : a.tailParts = a.withoutDialect.tailParts ++
      (a.dialect.map fun number => Part.keyed "DIALECT" (.ofNat number.toNat)).toList := by
    simp only [tailParts, withoutDialect, Option.map_none, Option.toList_none, List.append_nil]
    rfl
  rw [clauses, tail, List.map_append, ← List.append_assoc]
  rfl

/-- The dialect is written behind everything else. -/
theorem bodyTokens_eq_append (a : Aggregation) :
    a.bodyTokens = a.withoutDialect.bodyTokens ++ dialectTokens a.dialect := by
  have written := Section.flatMap_keyed "DIALECT" (fun number : UInt32 => .ofNat number.toNat)
    a.dialect
  rw [bodyTokens, clauses_eq_append, List.flatMap_append, Part.flatMap_clause, written,
    Section.tokens_keyed]
  rfl

/-- What is sent is the body and, if the default stands in, the clause of the default. -/
theorem bodyTokens_resolved {a : Aggregation} {body : AggregationBody}
    (dialect : body.dialect = a.dialect) (config : Config) :
    (a.resolved config).bodyTokens = a.bodyTokens ++ Command.dialectClause config body := by
  have resolved : (a.resolved config).bodyTokens =
      a.withoutDialect.bodyTokens ++ dialectTokens (a.dialect.or config.defaultDialect) :=
    bodyTokens_eq_append _
  rw [resolved, bodyTokens_eq_append a, List.append_assoc, Command.dialectClause, dialect]
  cases a.dialect with
  | some d => rfl
  | none =>
    cases config.defaultDialect with
    | some d => rfl
    | none => rfl

/-- An accepted aggregation has an index. -/
theorem index_of_validate {a : Aggregation} (accepted : a.validate = .ok ()) :
    a.index.isEmpty = false := by
  have passed := Check.run_eq_ok_iff.mp accepted
  exact passed ⟨a.index.isEmpty, .emptyIndexName⟩ (by simp [checks, optionChecks])

/-- A compiled aggregation is framed as the description in which the default stands in. -/
theorem frame_compiled {a : Aggregation} {body : AggregationBody} (compiled : a.compile = .ok body)
    (config : Config) :
    (Command.aggregate body).frame config =
      .ok ⟨config.aggregateCommand, .text a.index :: (a.resolved config).bodyTokens⟩ := by
  obtain ⟨accepted, rfl⟩ := compile_eq_ok_iff.mp compiled
  let body : AggregationBody := ⟨a.index, a.bodyTokens, a.dialect, a.cursor.isSome⟩
  have sent : (a.resolved config).bodyTokens = a.bodyTokens ++ Command.dialectClause config body :=
    bodyTokens_resolved rfl config
  refine Command.frame_eq_ok_iff.mpr ⟨?_, ?_⟩
  · intro check inside
    obtain rfl := List.mem_singleton.mp inside
    exact index_of_validate accepted
  · rw [sent]
    rfl

/-- A dialect that is not zero is accepted wherever none is. -/
theorem validate_dialect {a : Aggregation} {d : UInt32} (unset : a.dialect = none)
    (positive : d ≠ 0) : (a.step (.dialect d)).validate = a.validate := by
  have given : ((a.step (.dialect d)).dialect == some 0) = (a.dialect == some 0) := by
    rw [unset]
    simpa [step] using positive
  have options : (a.step (.dialect d)).optionChecks = a.optionChecks := by
    rw [optionChecks, given]
    rfl
  rw [validate, checks, options]
  rfl

/-! ## The clauses in front of the dialect -/

/-- The keywords of the clauses between the query and the dialect. -/
def frontWords : List String :=
  headWords ++ Stage.words ++ ["WITHCURSOR", "COUNT", "MAXIDLE", "PARAMS"]

/-- The part of a number begins with its keyword. -/
theorem keyword_numberPart {keyword : String} {value : Option UInt64} {p : Part}
    (inside : p ∈ numberPart keyword value) : p.keyword? = some keyword := by
  cases value with
  | none => contradiction
  | some n =>
    obtain rfl := List.mem_singleton.mp inside
    rfl

/-- A part in front of the stages, apart from the query, begins with its keyword. -/
theorem keyword_headParts {a : Aggregation} {p : Part} (inside : p ∈ a.headParts.tail) :
    ∃ word ∈ headWords, p.keyword? = some word := by
  simp only [headParts, List.cons_append, List.tail_cons, List.mem_append,
    Option.mem_toList] at inside
  rcases inside with (verbatim | load) | timeout
  · split at verbatim
    · obtain rfl := List.mem_singleton.mp verbatim
      exact ⟨"VERBATIM", by decide, rfl⟩
    · contradiction
  · obtain ⟨loaded, -, rfl⟩ := Option.map_eq_some_iff.mp load
    cases loaded <;> exact ⟨"LOAD", by decide, rfl⟩
  · exact ⟨"TIMEOUT", by decide, keyword_numberPart timeout⟩

/-- A part behind the stages begins with its keyword, which is none of a dialect if none is set. -/
theorem keyword_tailParts {a : Aggregation} (unset : a.dialect = none) {p : Part}
    (inside : p ∈ a.tailParts) :
    ∃ word ∈ ["WITHCURSOR", "COUNT", "MAXIDLE", "PARAMS"], p.keyword? = some word := by
  simp only [tailParts, unset, Option.map_none, Option.toList_none, List.append_nil,
    List.mem_append] at inside
  rcases inside with cursor | params
  · split at cursor
    · simp only [cursorParts, List.cons_append, List.mem_cons, List.mem_append] at cursor
      rcases cursor with rfl | count | maxIdle
      · exact ⟨"WITHCURSOR", by decide, rfl⟩
      · exact ⟨"COUNT", by decide, keyword_numberPart count⟩
      · exact ⟨"MAXIDLE", by decide, keyword_numberPart maxIdle⟩
    · contradiction
  · split at params
    · contradiction
    · obtain rfl := List.mem_singleton.mp params
      exact ⟨"PARAMS", by decide, rfl⟩

/-- The clauses of an aggregation are its query and clauses that begin with their keywords. -/
theorem clauses_eq_cons {a : Aggregation} (unset : a.dialect = none) :
    ∃ front, a.clauses = (Part.bare (.text a.query)).clause :: front ∧
      ∀ c ∈ front, ∃ word ∈ frontWords, c.OpensWith word := by
  refine ⟨a.headParts.tail.map Part.clause ++ a.stages.map Stage.clause ++
    a.tailParts.map Part.clause, rfl, ?_⟩
  intro c inside
  simp only [List.mem_append, List.mem_map] at inside
  rcases inside with (⟨p, inside, rfl⟩ | ⟨s, -, rfl⟩) | ⟨p, inside, rfl⟩
  · obtain ⟨word, known, keyword⟩ := keyword_headParts inside
    exact ⟨word, by simp [frontWords, known], Part.opensWith keyword⟩
  · obtain ⟨word, known, opens⟩ := s.opens
    exact ⟨word, by simp [frontWords, known], opens⟩
  · obtain ⟨word, known, keyword⟩ := keyword_tailParts unset inside
    exact ⟨word, List.mem_append_right _ known, Part.opensWith keyword⟩

/-- A default dialect is sent like one that is set, a dialect that is set keeps the default out, and
whatever is sent has at most one clause of a dialect, which is its last one. -/
theorem default_dialect_like_explicit :
    (∀ (a : Aggregation) (d : UInt32) (config config' : Config), a.dialect = none → d ≠ 0 →
      config.aggregateCommand = config'.aggregateCommand → config.defaultDialect = some d →
      ((∃ body, a.compile = .ok body) ↔ ∃ body, (a.step (.dialect d)).compile = .ok body) ∧
      ∀ body body', a.compile = .ok body → (a.step (.dialect d)).compile = .ok body' →
        ∃ f, (Command.aggregate body).frame config = .ok f ∧
          (Command.aggregate body').frame config' = .ok f) ∧
    (∀ (a : Aggregation) (body : AggregationBody), a.compile = .ok body → body.dialect ≠ none →
      ∀ (config : Config) (default : Option UInt32),
        (Command.aggregate body).frame { config with defaultDialect := default } =
          (Command.aggregate body).frame config) ∧
    ∀ (a : Aggregation) (body : AggregationBody), a.compile = .ok body → ∀ config : Config,
      ∃ f front, (Command.aggregate body).frame config = .ok f ∧
        f.args = .text a.index :: .text a.query :: (front.flatMap Clause.tokens ++
          dialectTokens (body.dialect.or config.defaultDialect)) ∧
        a.withoutDialect.clauses = (Part.bare (.text a.query)).clause :: front ∧
        ∀ c ∈ front, ¬c.OpensWith "DIALECT" := by
  refine ⟨fun a d config config' unset positive name default => ⟨?_, ?_⟩, ?_, ?_⟩
  · simp only [compile_eq_ok_iff, validate_dialect unset positive, exists_and_left, exists_eq,
      and_true]
  · intro body body' compiled compiled'
    have same : a.resolved config = (a.step (.dialect d)).resolved config' := by
      simp only [resolved, step, unset, default, Option.or]
    refine ⟨_, frame_compiled compiled config, ?_⟩
    rw [frame_compiled compiled' config', same, name]
    rfl
  · intro a body compiled given config default
    obtain ⟨-, rfl⟩ := compile_eq_ok_iff.mp compiled
    rw [frame_compiled compiled, frame_compiled compiled, resolved_of_dialect given,
      resolved_of_dialect given]
  · intro a body compiled config
    obtain ⟨front, clauses, words⟩ := clauses_eq_cons (a := a.withoutDialect) rfl
    obtain ⟨-, rfl⟩ := compile_eq_ok_iff.mp compiled
    refine ⟨_, front, frame_compiled compiled config, ?_, clauses, ?_⟩
    · have written : (a.resolved config).bodyTokens = a.withoutDialect.bodyTokens ++
          dialectTokens (a.dialect.or config.defaultDialect) := bodyTokens_eq_append _
      rw [written, bodyTokens, clauses]
      rfl
    · rintro c inside ⟨rest, dialect⟩
      obtain ⟨word, known, later, opens⟩ := words c inside
      obtain rfl := Token.text.inj (List.cons.inj (dialect.symm.trans opens)).1
      revert known
      decide

/-- An aggregation whose texts are spelled like the keyword of a dialect is sent under a default of
two as if it had asked for it. -/
theorem default_dialect_like_explicit_keywords :
    ∃ body body' : AggregationBody,
      (ofSteps "idx" [.query "DIALECT", .param "DIALECT" "3"]).compile = .ok body ∧
      (ofSteps "idx" [.query "DIALECT", .param "DIALECT" "3", .dialect 2]).compile = .ok body' ∧
      ∃ f, (Command.aggregate body).frame { Config.default with defaultDialect := some 2 } = .ok f ∧
        (Command.aggregate body').frame .default = .ok f := by
  refine ⟨_, _, compile_eq_ok_iff.mpr ⟨rfl, rfl⟩, compile_eq_ok_iff.mpr ⟨rfl, rfl⟩, ?_⟩
  exact (default_dialect_like_explicit.1 (ofSteps "idx" [.query "DIALECT", .param "DIALECT" "3"]) 2
    { Config.default with defaultDialect := some 2 } .default rfl (by decide) rfl rfl).2 _ _
    (compile_eq_ok_iff.mpr ⟨rfl, rfl⟩) (compile_eq_ok_iff.mpr ⟨rfl, rfl⟩)

end Aggregation

end SearchWire
