import SearchWire.Proofs.IndexReading

/-!
# Bodies of indexes determine their descriptions

Doubles can be compared by their patterns or as numbers. On numbers that are not NaN the second
comparison is the first one after the two zeros are made one, and making them one in a description
makes them one in its tokens. So the reading of bodies that are the same token by token also settles
when two bodies are the same number by number.
-/
namespace SearchWire

/-- Lists are related one by one exactly if their images agree, if that holds of their members. -/
theorem forall₂_iff_map_eq {α β : Type} {related : α → α → Prop} {image : α → β}
    {left right : List α}
    (same : ∀ a ∈ left, ∀ b ∈ right, (related a b ↔ image a = image b)) :
    List.Forall₂ related left right ↔ left.map image = right.map image := by
  induction left generalizing right with
  | nil => cases right <;> simp
  | cons a left ih =>
    cases right with
    | nil => simp
    | cons b right =>
      have first := same a (by simp) b (by simp)
      have later : List.Forall₂ related left right ↔ left.map image = right.map image :=
        ih fun x inside y inside' => same x (by simp [inside]) y (by simp [inside'])
      rw [List.forall₂_cons, List.map_cons, List.map_cons, List.cons.injEq, first, later]

namespace Double

/-- A number with the negative zero replaced by the positive one. -/
def merged (d : Double) : Double := if d.magnitude = 0 then zero else d

/-- Only the zeros have rank zero. -/
theorem rank_eq_zero_iff {d : Double} : d.rank = 0 ↔ d.magnitude = 0 := by
  unfold rank
  split <;> omega

/-- The zeros have no magnitude. -/
theorem magnitude_zero : zero.magnitude = 0 := by decide

/-- Making the zeros one keeps the rank. -/
theorem rank_merged (d : Double) : d.merged.rank = d.rank := by
  by_cases none : d.magnitude = 0
  · rw [merged, if_pos none, rank_eq_zero_iff.mpr none, rank_eq_zero_iff.mpr magnitude_zero]
  · rw [merged, if_neg none]

/-- Two numbers are equal exactly if they are the same once the zeros are made one. -/
theorem numericEq_iff_merged {a b : Double} (number : a.isNaN = false) (number' : b.isNaN = false) :
    a.numericEq b = true ↔ a.merged = b.merged := by
  simp only [numericEq, number, number', Bool.not_false, Bool.true_and, decide_eq_true_eq]
  constructor
  · intro rank
    by_cases none : a.magnitude = 0
    · have none' : b.magnitude = 0 := by
        rw [← rank_eq_zero_iff, ← rank, rank_eq_zero_iff]
        exact none
      rw [merged, merged, if_pos none, if_pos none']
    · rw [eq_of_rank none rank]
  · intro same
    rw [← rank_merged a, same, rank_merged]

/-- The same for numbers that may be absent. -/
theorem option_numericEq_iff {left right : Option Double}
    (number : ∀ d ∈ left, d.isNaN = false) (number' : ∀ d ∈ right, d.isNaN = false) :
    Option.Rel (fun a b => a.numericEq b = true) left right ↔
      left.map merged = right.map merged := by
  cases left with
  | none => cases right <;> simp
  | some a =>
    cases right with
    | none => simp
    | some b => simp [numericEq_iff_merged (number a rfl) (number' b rfl)]

/-- Making the zeros one makes no number one. -/
theorem merged_eq_one_iff {d : Double} : d.merged = one ↔ d = one := by
  by_cases none : d.magnitude = 0
  · have differs : d ≠ one := by
      rintro rfl
      revert none
      decide
    rw [merged, if_pos none]
    exact ⟨fun same => absurd same (by decide), fun same => absurd same differs⟩
  · rw [merged, if_neg none]

/-- One is left out before or after the zeros are made one. -/
theorem unlessOne_map_merged (value : Option Double) :
    unlessOne (value.map merged) = (unlessOne value).map merged := by
  cases value with
  | none => rfl
  | some d =>
    by_cases isOne : d = one
    · subst isOne
      decide
    · have kept : d.merged ≠ one := fun same => isOne (merged_eq_one_iff.mp same)
      simp [unlessOne, isOne, kept]

end Double

namespace Token

/-- A token with the zeros made one. -/
def merged : Token → Token
  | double d => double d.merged
  | t => t

/-- Two tokens are numerically equal exactly if they are the same once the zeros are made one. -/
theorem numericEq_iff_merged {s t : Token} (number : ∀ d, s = double d → d.isNaN = false)
    (number' : ∀ d, t = double d → d.isNaN = false) :
    s.numericEq t = true ↔ s.merged = t.merged := by
  cases s with
  | text => cases t <;> simp [numericEq, merged]
  | integer => cases t <;> simp [numericEq, merged]
  | double a =>
    cases t with
    | double b =>
      simp only [numericEq, merged, double.injEq]
      exact Double.numericEq_iff_merged (number a rfl) (number' b rfl)
    | text => simp [numericEq, merged]
    | integer => simp [numericEq, merged]

/-- The same for lists of tokens. -/
theorem forall₂_numericEq_iff {left right : List Token}
    (numbers : ∀ d, double d ∈ left → d.isNaN = false)
    (numbers' : ∀ d, double d ∈ right → d.isNaN = false) :
    List.Forall₂ (fun s t => s.numericEq t = true) left right ↔
      left.map merged = right.map merged := by
  apply forall₂_iff_map_eq
  intro s inside t inside'
  exact numericEq_iff_merged (fun d same => numbers d (same ▸ inside))
    (fun d same => numbers' d (same ▸ inside'))

/-- A flag is no double. -/
@[simp] theorem double_mem_flag {keyword : String} {on : Bool} {d : Double} :
    double d ∈ flag keyword on ↔ False := by
  cases on <;> simp [flag]

/-- A double behind a keyword is the value. -/
@[simp] theorem double_mem_keyed {keyword : String} {value : Option Token} {d : Double} :
    double d ∈ keyed keyword value ↔ value = some (double d) := by
  cases value <;> simp [keyed, eq_comm]

/-- A flag has no double in it. -/
@[simp] theorem map_merged_flag (keyword : String) (on : Bool) :
    (flag keyword on).map merged = flag keyword on := by
  cases on <;> rfl

/-- Making the zeros one behind a keyword makes them one in the value. -/
@[simp] theorem map_merged_keyed (keyword : String) (value : Option Token) :
    (keyed keyword value).map merged = keyed keyword (value.map merged) := by
  cases value <;> rfl

/-- Texts have no double in them. -/
@[simp] theorem map_merged_texts (texts : List String) :
    (texts.map text).map merged = texts.map text := by
  rw [List.map_map]
  rfl

/-- Optional texts have no double in them. -/
@[simp] theorem map_merged_text (value : Option String) :
    (value.map text).map merged = value.map text := by
  cases value <;> rfl

/-- Counted texts have no double in them. -/
theorem map_merged_counted {keyword : String} {texts : Option (List String)} :
    (Section.counted keyword (texts.map fun list => list.map text)).tokens.map merged =
      (Section.counted keyword (texts.map fun list => list.map text)).tokens := by
  cases texts with
  | none => rfl
  | some list =>
    simp only [Section.counted, Section.tokens, counted, Option.map_some, List.map_cons,
      map_merged_texts]
    rfl

/-- No double is among counted texts. -/
theorem double_mem_counted {keyword : String} {texts : Option (List String)} {d : Double} :
    double d ∈ (Section.counted keyword (texts.map fun list => list.map text)).tokens ↔ False := by
  cases texts <;> simp [Section.counted, Section.tokens, counted, ofNat]

end Token

namespace Field

/-- A field with the zeros made one. -/
def merged (f : Field) : Field := { f with weight := f.weight.map Double.merged }

/-- Making the zeros one in a field makes them one in its tokens. -/
theorem tokens_merged (f : Field) : f.merged.tokens = f.tokens.map Token.merged := by
  have weight : f.merged.writtenWeight = f.writtenWeight.map Double.merged := by
    rw [writtenWeight_eq, writtenWeight_eq]
    exact Double.unlessOne_map_merged f.weight
  have written : (f.writtenWeight.map Token.double).map Token.merged =
      (f.writtenWeight.map Double.merged).map Token.double := by
    cases f.writtenWeight <;> rfl
  have phonetic : (f.phonetic.map fun language => Token.text language.matcher).map Token.merged =
      f.phonetic.map fun language => Token.text language.matcher := by
    cases f.phonetic <;> rfl
  have separator : (f.separator.map fun c => Token.text c.toString).map Token.merged =
      f.separator.map fun c => Token.text c.toString := by
    cases f.separator <;> rfl
  simp only [tokens, weight, List.map_append, List.map_cons, Token.map_merged_flag,
    Token.map_merged_keyed, Token.map_merged_text, Token.map_merged_texts, written, phonetic,
    separator]
  rfl

/-- The only double in a field is the weight that is written. -/
theorem double_mem_tokens {f : Field} {d : Double} :
    .double d ∈ f.tokens ↔ f.writtenWeight = some d := by
  simp [tokens]

/-- Whether two fields are the same up to the numeric equality of their weights. -/
structure NumericEq (f g : Field) : Prop where
  /-- The weights are numerically equal. -/
  weight : Option.Rel (fun v w => v.numericEq w = true) f.weight g.weight
  /-- All else is the same. -/
  rest : { f with weight := g.weight } = g

/-- Two fields with numbers as weights are numerically equal exactly if they are the same once the
zeros are made one. -/
theorem numericEq_iff_merged {f g : Field} (number : ∀ w ∈ f.weight, w.isNaN = false)
    (number' : ∀ w ∈ g.weight, w.isNaN = false) : f.NumericEq g ↔ f.merged = g.merged := by
  have weights := Double.option_numericEq_iff number number'
  constructor
  · rintro ⟨weight, rest⟩
    have weight := weights.mp weight
    rw [← rest]
    simp only [merged] at weight ⊢
    rw [weight]
  · intro same
    have weight : f.weight.map Double.merged = g.weight.map Double.merged :=
      congrArg Field.weight same
    exact ⟨weights.mpr weight, congrArg (fun h : Field => { h with weight := g.weight }) same⟩

end Field

namespace IndexSpec

/-- An index with the zeros made one. -/
def merged (spec : IndexSpec) : IndexSpec where
  document := spec.document
  options := { spec.options with score := spec.options.score.map Double.merged }
  fields := spec.fields.map Field.merged

/-- Making the zeros one in an index makes them one in its tokens. -/
theorem bodyTokens_merged (spec : IndexSpec) :
    spec.merged.bodyTokens = spec.bodyTokens.map Token.merged := by
  have score : ((spec.merged.options.score.filter fun s => !s.numericEq .one).map Token.double) =
      ((spec.options.score.filter fun s => !s.numericEq .one).map Token.double).map
        Token.merged := by
    rw [Double.filter_ne_one, Double.filter_ne_one]
    change (Double.unlessOne (spec.options.score.map Double.merged)).map Token.double = _
    rw [Double.unlessOne_map_merged, Option.map_map, Option.map_map]
    rfl
  have temporary : (spec.options.temporary.map fun seconds => Token.ofNat seconds.toNat).map
      Token.merged = spec.options.temporary.map fun seconds => Token.ofNat seconds.toNat := by
    cases spec.options.temporary <;> rfl
  have fields : spec.merged.fields.flatMap Field.tokens =
      (spec.fields.flatMap Field.tokens).map Token.merged := by
    change (spec.fields.map Field.merged).flatMap Field.tokens = _
    rw [List.flatMap_map, List.map_flatMap]
    simp only [Field.tokens_merged]
  rw [bodyTokens_eq, bodyTokens_eq, fields]
  simp only [sections, score, keyStarts_eq, List.flatMap_cons, List.flatMap_nil, List.map_append,
    List.map_cons, List.map_nil, Section.tokens_flag, Section.tokens_keyed,
    Token.map_merged_counted, Token.map_merged_flag, Token.map_merged_keyed,
    Token.map_merged_text, temporary]
  rfl

/-- The doubles in an index are the score and the weights that are written. -/
theorem double_mem_bodyTokens {spec : IndexSpec} {d : Double} :
    .double d ∈ spec.bodyTokens ↔
      spec.options.score.filter (fun s => !s.numericEq .one) = some d ∨
        ∃ f ∈ spec.fields, f.writtenWeight = some d := by
  simp only [bodyTokens_eq, sections, keyStarts_eq, List.flatMap_cons, List.mem_cons,
    List.mem_append, Token.double_mem_counted]
  simp [Field.double_mem_tokens, Token.ofNat]

/-- Whether the score and the weights of an index are numbers. -/
structure Numeric (spec : IndexSpec) : Prop where
  /-- The score is a number. -/
  score : ∀ s ∈ spec.options.score, s.isNaN = false
  /-- The weights are numbers. -/
  weights : ∀ f ∈ spec.fields, ∀ w ∈ f.weight, w.isNaN = false

/-- Whether two indexes are the same up to the numeric equality of scores and weights. -/
structure NumericEq (a b : IndexSpec) : Prop where
  /-- The kinds of document are the same. -/
  document : a.document = b.document
  /-- The scores are numerically equal. -/
  score : Option.Rel (fun v w => v.numericEq w = true) a.options.score b.options.score
  /-- All other options are the same. -/
  options : { a.options with score := b.options.score } = b.options
  /-- The fields are numerically equal one by one. -/
  fields : List.Forall₂ Field.NumericEq a.fields b.fields

/-- Two indexes with numbers as scores and weights are numerically equal exactly if they are the
same once the zeros are made one. -/
theorem numericEq_iff_merged {a b : IndexSpec} (number : a.Numeric) (number' : b.Numeric) :
    a.NumericEq b ↔ a.merged = b.merged := by
  have scores := Double.option_numericEq_iff number.score number'.score
  have fields : List.Forall₂ Field.NumericEq a.fields b.fields ↔
      a.fields.map Field.merged = b.fields.map Field.merged := by
    apply forall₂_iff_map_eq
    intro f inside g inside'
    exact Field.numericEq_iff_merged (number.weights f inside) (number'.weights g inside')
  constructor
  · rintro ⟨document, score, options, sameFields⟩
    have score := scores.mp score
    have sameFields := fields.mp sameFields
    simp only [merged]
    rw [document, ← options, score, sameFields]
  · intro same
    have score : a.options.score.map Double.merged = b.options.score.map Double.merged :=
      congrArg (fun spec => spec.options.score) same
    have options : a.merged.options = b.merged.options := congrArg IndexSpec.options same
    have sameFields : a.fields.map Field.merged = b.fields.map Field.merged :=
      congrArg IndexSpec.fields same
    exact ⟨(congrArg IndexSpec.document same : a.merged.document = b.merged.document),
      scores.mpr score,
      congrArg (fun o : IndexOptions => { o with score := b.options.score }) options,
      fields.mpr sameFields⟩

/-- An accepted index has numbers as its score and weights. -/
theorem numeric_of_validate {spec : IndexSpec} (accepted : spec.validate = .ok ()) :
    spec.Numeric := by
  have passed := Check.run_eq_ok_iff.mp accepted
  constructor
  · intro s present
    have checked := passed _ (by
      simp only [checks, optionChecks, List.mem_append]
      exact .inl (.inl (.inr (Check.mem_optional present))))
    simp only [Bool.not_eq_false', Double.inUnitInterval, Bool.and_eq_true] at checked
    exact (Double.isNaN_of_numericLe checked.1).2
  · intro f inside w present
    have checked := passed _ (by
      simp only [checks, List.mem_append, List.mem_flatMap]
      refine .inr ⟨f, inside, ?_⟩
      simp only [Field.checks, List.mem_append]
      exact .inr (Check.mem_optional present))
    simp only [Bool.or_eq_false_iff, Bool.not_eq_false'] at checked
    exact Double.isNaN_of_isFinite checked.1

/-- The doubles in an accepted index are numbers. -/
theorem Numeric.bodyTokens {spec : IndexSpec} (numeric : spec.Numeric) (d : Double)
    (inside : .double d ∈ spec.bodyTokens) : d.isNaN = false := by
  rcases double_mem_bodyTokens.mp inside with score | ⟨f, declared, weight⟩
  · exact numeric.score d (Option.eq_some_of_filter_eq_some score)
  · exact numeric.weights f declared d (Option.eq_some_of_filter_eq_some weight)

/-- The normal form has numbers as its score and weights if the index has. -/
theorem Numeric.normal {spec : IndexSpec} (numeric : spec.Numeric) : spec.normal.Numeric := by
  have kept : ∀ {value : Option Double} {d : Double}, d ∈ Double.unlessOne value → d ∈ value := by
    intro value d present
    unfold Double.unlessOne at present
    split at present
    · contradiction
    · exact present
  constructor
  · intro s present
    exact numeric.score s (kept present)
  · intro f inside w present
    obtain ⟨g, declared, rfl⟩ := List.mem_map.mp inside
    exact numeric.weights g declared w (kept present)

/-- Normal forms are built before or after the zeros are made one. -/
theorem normal_merged (spec : IndexSpec) : spec.merged.normal = spec.normal.merged := by
  have fields : (spec.fields.map Field.merged).map Field.normal =
      (spec.fields.map Field.normal).map Field.merged := by
    simp only [List.map_map, List.map_inj_left, Function.comp_apply, Field.normal, Field.merged,
      Double.unlessOne_map_merged, implies_true]
  simp only [normal, merged, Double.unlessOne_map_merged, fields]
  rfl

/-- Making the zeros one clamps no number. -/
theorem Exact.merged {spec : IndexSpec} (exact : spec.Exact) : spec.merged.Exact :=
  ⟨⟨exact.storable.keyStarts, exact.storable.stopwords⟩, exact.temporary⟩

/-- Two accepted indexes have the same tokens exactly if they have one normal form, whether doubles
are compared by their patterns or as numbers. -/
theorem tokens_eq_iff_normal_eq {a b : IndexSpec} {body body' : IndexBody}
    (compiled : a.compile = .ok body) (compiled' : b.compile = .ok body')
    (storable : a.Storable) (storable' : b.Storable) :
    (body.tokens = body'.tokens ↔ a.normal = b.normal) ∧
      (List.Forall₂ (fun s t => s.numericEq t = true) body.tokens body'.tokens ↔
        a.normal.NumericEq b.normal) := by
  obtain ⟨accepted, rfl⟩ := compile_eq_ok_iff.mp compiled
  obtain ⟨accepted', rfl⟩ := compile_eq_ok_iff.mp compiled'
  have exact := exact_of_validate accepted storable
  have exact' := exact_of_validate accepted' storable'
  have numeric := numeric_of_validate accepted
  have numeric' := numeric_of_validate accepted'
  have patterns := bodyTokens_eq_iff exact exact'
  dsimp only
  refine ⟨patterns, ?_⟩
  calc List.Forall₂ (fun s t => s.numericEq t = true) a.bodyTokens b.bodyTokens
      ↔ a.bodyTokens.map Token.merged = b.bodyTokens.map Token.merged :=
        Token.forall₂_numericEq_iff numeric.bodyTokens numeric'.bodyTokens
    _ ↔ a.merged.bodyTokens = b.merged.bodyTokens := by
        rw [bodyTokens_merged, bodyTokens_merged]
    _ ↔ a.merged.normal = b.merged.normal := bodyTokens_eq_iff exact.merged exact'.merged
    _ ↔ a.normal.merged = b.normal.merged := by rw [normal_merged, normal_merged]
    _ ↔ a.normal.NumericEq b.normal :=
        (numericEq_iff_merged numeric.normal numeric'.normal).symm

/-- A score and a weight of one and the flag against stopwords leave no trace in an index whose
fields are named like options. -/
theorem tokens_eq_of_keyword_names :
    ∃ body body' : IndexBody,
      (ofSteps .hash [.score .one, .noStopwords,
        .field (.ofOptions "SORTABLE" .text [.weight .one, .sortable]),
        .field (.ofOptions "NOINDEX" .tag [.label "AS"])]).compile = .ok body ∧
      (ofSteps .hash [.stopwords [], .field (.ofOptions "SORTABLE" .text [.sortable]),
        .field (.ofOptions "NOINDEX" .tag [.label "AS"])]).compile = .ok body' ∧
      body.tokens = body'.tokens := by
  refine ⟨_, _, compile_eq_ok_iff.mpr ⟨rfl, rfl⟩, compile_eq_ok_iff.mpr ⟨rfl, rfl⟩, ?_⟩
  refine (tokens_eq_iff_normal_eq (compile_eq_ok_iff.mpr ⟨rfl, rfl⟩)
    (compile_eq_ok_iff.mpr ⟨rfl, rfl⟩) ⟨?_, ?_⟩ ⟨?_, ?_⟩).1.mpr rfl
  · exact Nat.zero_le _
  · rintro words ⟨⟩
  · exact Nat.zero_le _
  · rintro words ⟨⟩
    exact Nat.zero_le _

end IndexSpec

end SearchWire
