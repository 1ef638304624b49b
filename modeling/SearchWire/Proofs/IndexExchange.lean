import SearchWire.Proofs.CommandExchange
import SearchWire.Proofs.IndexGrammar
import SearchWire.Serial.Schema

/-!
# Descriptions of indexes in an exchange

The description of an index is serialized before it is checked, so it may hold a score or a weight
that is not finite. Such a number is written as `null`, and the options that may be missing are read
back from `null` as missing: the number is dropped without a word. A description that was refused
for it may then be compiled; in every other respect a description comes back as it was.
-/
namespace SearchWire

namespace Json

/-- A number that may be missing comes back if it is finite, and is missing if it is not. -/
theorem nullable?_ofOption_ofDouble (value : Option Double) :
    nullable? double? (ofOption ofDouble value) = some (value.filter Double.isFinite) := by
  cases value with
  | none => rfl
  | some d =>
    by_cases finite : d.isFinite = true
    · rw [ofOption, ofDouble, if_pos finite, Option.filter_some, if_pos finite]
      rfl
    · rw [ofOption, ofDouble, if_neg finite, Option.filter_some, if_neg finite]
      rfl

/-- The same for a number that is left out if it is missing. -/
theorem optional_of_lookup_ofDouble {value : Option Double} {members : List (String × Json)}
    {name : String} (found : members.lookup name = value.map ofDouble) :
    optional members name double? = some (value.filter Double.isFinite) := by
  rw [optional, found]
  cases value with
  | none => rfl
  | some d => exact nullable?_ofOption_ofDouble (some d)

end Json

open Json

namespace FieldKind

/-- A kind of field is read back. -/
theorem ofJson?_toJson (kind : FieldKind) : ofJson? kind.toJson = some kind := by
  cases kind <;> simp [ofJson?, toJson, unit?]

end FieldKind

/-- A choice of sorting is read back. -/
theorem Sorting.ofJson?_toJson (sorting : Sorting) : ofJson? sorting.toJson = some sorting := by
  cases sorting <;> simp [ofJson?, toJson, unit?]

/-- A phonetic matcher is read back. -/
theorem Phonetic.ofJson?_toJson (language : Phonetic) :
    ofJson? language.toJson = some language := by
  cases language <;> simp [ofJson?, toJson, unit?]

namespace Field

/-- A field as it comes back: without a weight that is not finite. -/
def shipped (f : Field) : Field := { f with weight := f.weight.filter Double.isFinite }

/-- The members of a serialized field. -/
def members (f : Field) : List (String × Json) :=
  [("name", .string f.name)] ++ memberIf "alias" .string f.label ++
    [("field_type", f.kind.toJson), ("no_stem", .boolean f.noStem)] ++
    memberIf "weight" .ofDouble f.weight ++ memberIf "phonetic" Phonetic.toJson f.phonetic ++
    memberIf "separator" (fun c => .string c.toString) f.separator ++
    [("case_sensitive", .boolean f.caseSensitive),
      ("with_suffix_trie", .boolean f.withSuffixTrie), ("sortable", f.sorting.toJson),
      ("no_index", .boolean f.noIndex)]

/-- The members of a serialized field have different names. -/
theorem nodup_members (f : Field) : (f.members.map Prod.fst).Nodup := by
  have names : (f.members.map Prod.fst).Sublist memberNames := by
    simp only [members, List.map_append]
    exact (((((((List.Sublist.refl ["name"]).append (map_fst_memberIf ..)).append
      (List.Sublist.refl ["field_type", "no_stem"])).append (map_fst_memberIf ..)).append
      (map_fst_memberIf ..)).append (map_fst_memberIf ..)).append (List.Sublist.refl
        ["case_sensitive", "with_suffix_trie", "sortable", "no_index"]))
  exact names.nodup (by decide)

/-- A field comes back without a weight that is not finite. -/
theorem ofJson?_toJson (f : Field) : ofJson? f.toJson = some f.shipped := by
  have object : (Json.object f.members).members? memberNames 3 = some f.members :=
    members?_object f.nodup_members 3
  have lookups : f.members.lookup "alias" = f.label.map .string ∧
      f.members.lookup "weight" = f.weight.map .ofDouble ∧
      f.members.lookup "phonetic" = f.phonetic.map Phonetic.toJson ∧
      f.members.lookup "separator" = f.separator.map fun c => .string c.toString := by
    refine ⟨?_, ?_, ?_, ?_⟩ <;>
      simp [members, List.lookup_append, List.lookup_cons, lookup_memberIf_of_ne]
  obtain ⟨label, weight, phonetic, separator⟩ := lookups
  have label := optional_of_lookup label (fun _ _ => nofun) fun _ _ => (rfl : text? _ = _)
  have weight := optional_of_lookup_ofDouble weight
  have phonetic := optional_of_lookup phonetic (fun language _ => by cases language <;> nofun)
    fun language _ => language.ofJson?_toJson
  have separator := optional_of_lookup separator (fun _ _ => nofun)
    fun c _ => character?_toString c
  have shape : f.toJson = .object f.members := rfl
  rw [shape, ofJson?, object, Option.bind_eq_bind, Option.bind_some]
  simp only [Option.bind_eq_bind, Option.bind_some, label, weight, phonetic, separator]
  simp [members, required, defaulted, List.lookup_append, List.lookup_cons, lookup_memberIf_of_ne,
    FieldKind.ofJson?_toJson, Sorting.ofJson?_toJson, shipped, text?, boolean?]

end Field

namespace IndexOptions

/-- Options as they come back: without a score that is not finite. -/
def shipped (o : IndexOptions) : IndexOptions :=
  { o with score := o.score.filter Double.isFinite }

/-- The members of serialized options. -/
def members (o : IndexOptions) : List (String × Json) :=
  [("prefixes", .ofList .string o.keyStarts), ("filter", .ofOption .string o.filter),
    ("language", .ofOption .string o.language),
    ("language_field", .ofOption .string o.languageField),
    ("score", .ofOption .ofDouble o.score), ("score_field", .ofOption .string o.scoreField),
    ("payload_field", .ofOption .string o.payloadField),
    ("max_text_fields", .boolean o.maxTextFields),
    ("temporary", .ofOption (fun n => .ofNat n.toNat) o.temporary),
    ("no_offsets", .boolean o.noOffsets), ("no_highlights", .boolean o.noHighlights),
    ("no_fields", .boolean o.noFields), ("no_frequencies", .boolean o.noFrequencies),
    ("stopwords", .ofOption (.ofList .string) o.stopwords),
    ("no_stopwords", .boolean o.noStopwords), ("skip_initial_scan", .boolean o.skipInitialScan)]

/-- Options come back without a score that is not finite. -/
theorem ofJson?_toJson (o : IndexOptions) : ofJson? o.toJson = some o.shipped := by
  have object : o.toJson.members? memberNames 0 = some o.members := rfl
  have text (value : Option String) : nullable? text? (ofOption string value) = some value :=
    nullable?_ofOption (fun _ _ => nofun) fun _ _ => rfl
  have keyStarts : defaulted o.members "prefixes" [] (list? text?) = some o.keyStarts :=
    list?_ofList_strings o.keyStarts
  have filter : Json.optional o.members "filter" text? = some o.filter := text o.filter
  have language : Json.optional o.members "language" text? = some o.language := text o.language
  have languageField : Json.optional o.members "language_field" text? = some o.languageField :=
    text o.languageField
  have score : Json.optional o.members "score" double? =
      some (o.score.filter Double.isFinite) := nullable?_ofOption_ofDouble o.score
  have scoreField : Json.optional o.members "score_field" text? = some o.scoreField :=
    text o.scoreField
  have payloadField : Json.optional o.members "payload_field" text? = some o.payloadField :=
    text o.payloadField
  have temporary : Json.optional o.members "temporary" uint64? = some o.temporary :=
    nullable?_ofOption (fun _ _ => ofNat_ne_null _) fun n _ => uint64?_ofNat n
  have stopwords : Json.optional o.members "stopwords" (list? text?) = some o.stopwords :=
    nullable?_ofOption (fun _ _ => nofun) fun words _ => list?_ofList_strings words
  have flags : defaulted o.members "max_text_fields" false boolean? = some o.maxTextFields ∧
      defaulted o.members "no_offsets" false boolean? = some o.noOffsets ∧
      defaulted o.members "no_highlights" false boolean? = some o.noHighlights ∧
      defaulted o.members "no_fields" false boolean? = some o.noFields ∧
      defaulted o.members "no_frequencies" false boolean? = some o.noFrequencies ∧
      defaulted o.members "no_stopwords" false boolean? = some o.noStopwords ∧
      defaulted o.members "skip_initial_scan" false boolean? = some o.skipInitialScan :=
    ⟨rfl, rfl, rfl, rfl, rfl, rfl, rfl⟩
  rw [ofJson?, object, Option.bind_eq_bind, Option.bind_some]
  simp only [Option.bind_eq_bind, Option.bind_some, keyStarts, filter, language, languageField,
    score, scoreField, payloadField, temporary, stopwords, flags]
  rfl

end IndexOptions

namespace IndexSpec

/-- The description of an index as it comes back: without a score and without weights that are not
finite. -/
def shipped (spec : IndexSpec) : IndexSpec where
  document := spec.document
  options := spec.options.shipped
  fields := spec.fields.map Field.shipped

/-- The description of an index comes back without a score and without weights that are not
finite. -/
theorem ofJson?_toJson (spec : IndexSpec) : ofJson? spec.toJson = some spec.shipped := by
  have fields : (ofList Field.toJson spec.fields).list? Field.ofJson? =
      some (spec.fields.map Field.shipped) :=
    list?_ofList_eq_some fun f _ => f.ofJson?_toJson
  simp [ofJson?, toJson, members?_object, required, defaulted, List.lookup_cons,
    DocumentKind.ofJson?_toJson, IndexOptions.ofJson?_toJson, fields, shipped]

/-! ## What is lost -/

/-- Whether the score and the weights of an index are finite. -/
structure Finite (spec : IndexSpec) : Prop where
  /-- The score is finite. -/
  score : ∀ s ∈ spec.options.score, s.isFinite = true
  /-- The weights are finite. -/
  weights : ∀ f ∈ spec.fields, ∀ w ∈ f.weight, w.isFinite = true

end IndexSpec

/-- A number in the unit interval is finite. -/
theorem Double.isFinite_of_inUnitInterval {d : Double} (inside : d.inUnitInterval = true) :
    d.isFinite = true := by
  have bounds : zero.rank = 0 ∧ one.rank = 0x3ff0000000000000 := by decide
  simp only [inUnitInterval, numericLe, Bool.and_eq_true, decide_eq_true_eq, bounds] at inside
  obtain ⟨⟨-, above⟩, -, below⟩ := inside
  have magnitude : (d.magnitude : Int) ≤ 0x3ff0000000000000 := by
    cases negative : d.isNegative with
    | false =>
      rw [rank, negative] at below
      exact below
    | true =>
      rw [rank, negative] at above
      simp only [if_true] at above
      omega
  rw [isFinite, infinityMagnitude, decide_eq_true_eq]
  omega

/-- A field comes back as it was exactly if its weight is finite. -/
theorem Field.shipped_eq_self_iff {f : Field} :
    f.shipped = f ↔ ∀ w ∈ f.weight, w.isFinite = true := by
  rw [← filter_eq_self_iff]
  constructor
  · exact congrArg Field.weight
  · intro same
    rw [shipped, same]

namespace IndexSpec

/-- The description of an index comes back as it was exactly if its numbers are finite. -/
theorem shipped_eq_self_iff {spec : IndexSpec} : spec.shipped = spec ↔ spec.Finite := by
  have fields : spec.fields.map Field.shipped = spec.fields ↔
      ∀ f ∈ spec.fields, ∀ w ∈ f.weight, w.isFinite = true := by
    simp only [← Field.shipped_eq_self_iff]
    nth_rewrite 2 [← List.map_id spec.fields]
    exact List.map_inj_left
  constructor
  · intro same
    have score : spec.options.score.filter Double.isFinite = spec.options.score :=
      congrArg (fun spec => spec.options.score) same
    exact ⟨filter_eq_self_iff.mp score, fields.mp (congrArg IndexSpec.fields same)⟩
  · rintro ⟨score, weights⟩
    rw [shipped, IndexOptions.shipped, filter_eq_self_iff.mpr score, fields.mpr weights]

/-- The numbers of an accepted index are finite. -/
theorem Accepted.finite {spec : IndexSpec} (accepted : spec.Accepted) : spec.Finite where
  score s given := Double.isFinite_of_inUnitInterval (accepted.options.score s given)
  weights f inside w given := ((accepted.fields f inside).placed.weight w given).1

/-- Whether a cause is about a number that is lost: a score or a weight that is not finite. -/
inductive Loses (spec : IndexSpec) : Refusal → Prop where
  /-- The score is out of its range. -/
  | score {s : Double} (given : spec.options.score = some s) (lost : s.isFinite = false) :
    Loses spec (.scoreOutOfRange s)
  /-- A weight is out of its range. -/
  | weight {f : Field} {w : Double} (inside : f ∈ spec.fields) (given : f.weight = some w)
    (lost : w.isFinite = false) : Loses spec (.badWeight f.name w)
  /-- A weight stands on a field that has none. -/
  | misplaced {f : Field} {w : Double} (inside : f ∈ spec.fields) (given : f.weight = some w)
    (lost : w.isFinite = false) : Loses spec (.misplacedOption "WEIGHT" f.kind f.name)

end IndexSpec

namespace Check

/-- Whether two lists of checks report the same, unless the first one reports a cause of a kind. -/
def AgreeUnless (kind : Refusal → Prop) (checks checks' : List Check) : Prop :=
  run checks' = run checks ∨ ∃ cause, kind cause ∧ run checks = .error cause

variable {kind : Refusal → Prop}

/-- A list of checks agrees with itself. -/
theorem agreeUnless_refl (checks : List Check) : AgreeUnless kind checks checks := .inl rfl

/-- A check that applies may be replaced by anything if its cause is of the kind. -/
theorem agreeUnless_of_applies {check : Check} (applies : check.applies = true)
    (lost : kind check.refusal) (checks' : List Check) : AgreeUnless kind [check] checks' :=
  .inr ⟨_, lost, by rw [run, List.find?_cons_of_pos applies]⟩

/-- Checks in a row agree if those in front and those behind do. -/
theorem AgreeUnless.append {first first' later later' : List Check}
    (front : AgreeUnless kind first first') (behind : AgreeUnless kind later later') :
    AgreeUnless kind (first ++ later) (first' ++ later') := by
  simp only [AgreeUnless, run_append]
  rcases front with same | ⟨cause, lost, refused⟩
  · rw [same]
    cases run first with
    | error cause => exact .inl rfl
    | ok => exact behind
  · rw [refused]
    exact .inr ⟨cause, lost, rfl⟩

/-- The check of a value that may be dropped agrees if what is dropped is reported as a cause of the
kind. -/
theorem agreeUnless_optional {α : Type} {value : Option α} {keep : α → Bool} {check : α → Check}
    (dropped : ∀ a ∈ value, keep a = false →
      (check a).applies = true ∧ kind (check a).refusal) :
    AgreeUnless kind (Check.optional value check) (Check.optional (value.filter keep) check) := by
  cases value with
  | none => exact agreeUnless_refl _
  | some a =>
    cases kept : keep a with
    | true =>
      rw [Option.filter_some, if_pos kept]
      exact agreeUnless_refl _
    | false =>
      obtain ⟨applies, lost⟩ := dropped a rfl kept
      exact agreeUnless_of_applies applies lost _

/-- The checks of the members of a list agree if those of each member do. -/
theorem agreeUnless_flatMap {α : Type} {items : List α} {become : α → α} {checks : α → List Check}
    (each : ∀ a ∈ items, AgreeUnless kind (checks a) (checks (become a))) :
    AgreeUnless kind (items.flatMap checks) ((items.map become).flatMap checks) := by
  induction items with
  | nil => exact agreeUnless_refl _
  | cons a items ih =>
    rw [List.forall_mem_cons] at each
    exact each.1.append (ih each.2)

end Check

open Check

namespace Field

/-- What is checked of a field before its weight is looked at. -/
def checksBeforeWeight (f : Field) (document : DocumentKind) : List Check :=
  [⟨f.name.isEmpty, .emptyFieldName⟩, ⟨f.label == some "", .emptyFieldLabel f.name⟩,
    ⟨document.usesPaths && !isPath f.name, .notAPath f.name⟩,
    ⟨!document.usesPaths && isPath f.name, .pathOnHash f.name⟩,
    f.placeCheck (f.noStem && !(f.kind == .text), "NOSTEM")]

/-- Whether the weight of a field is in its place. -/
def weightPlace (f : Field) : Check :=
  f.placeCheck (f.weight.isSome && !(f.kind == .text), "WEIGHT")

/-- What is checked of a field between the place of its weight and its range. -/
def checksAmidWeight (f : Field) : List Check :=
  (f.misplaced.drop 2).map f.placeCheck ++
    Check.optional f.separator fun c => ⟨!isPunctuation c, .badSeparator f.name c⟩

/-- Two checks look at the weight: whether it is in its place, and whether it is in its range. -/
theorem checks_eq_around_weight (f : Field) (document : DocumentKind) :
    f.checks document = f.checksBeforeWeight document ++ ([f.weightPlace] ++
      (f.checksAmidWeight ++ Check.optional f.weight
        fun w => ⟨!w.isFinite || w.numericLe .zero, .badWeight f.name w⟩)) := by
  rw [checks_eq, checksAmidWeight, List.append_assoc, List.append_assoc, List.append_assoc]
  rfl

/-- The checks of a field and of the field that comes back agree, unless its weight is lost. -/
theorem agreeUnless_checks {spec : IndexSpec} {f : Field} (inside : f ∈ spec.fields) :
    AgreeUnless spec.Loses (f.checks spec.document) (f.shipped.checks spec.document) := by
  have place : AgreeUnless spec.Loses [f.weightPlace] [f.shipped.weightPlace] := by
    by_cases finite : ∀ w ∈ f.weight, w.isFinite = true
    · rw [shipped_eq_self_iff.mpr finite]
      exact agreeUnless_refl _
    obtain ⟨w, given, lost⟩ : ∃ w, f.weight = some w ∧ w.isFinite = false := by simpa using finite
    by_cases text : f.kind = .text
    · -- On a text field a weight is in its place, whether it is there or not.
      have placed : f.shipped.weightPlace = f.weightPlace := by
        simp [weightPlace, placeCheck, shipped, text]
      rw [placed]
      exact agreeUnless_refl _
    · exact agreeUnless_of_applies (by simp [weightPlace, placeCheck, given, text])
        (.misplaced inside given lost) _
  have range : AgreeUnless spec.Loses
      (Check.optional f.weight fun w => ⟨!w.isFinite || w.numericLe .zero, .badWeight f.name w⟩)
      (Check.optional f.shipped.weight fun w =>
        ⟨!w.isFinite || w.numericLe .zero, .badWeight f.name w⟩) :=
    agreeUnless_optional fun w given lost => ⟨by simp [lost], .weight inside given lost⟩
  rw [checks_eq_around_weight, checks_eq_around_weight f.shipped]
  exact (agreeUnless_refl _).append (place.append ((agreeUnless_refl _).append range))

end Field

namespace IndexSpec

/-- The checks of an index and of the index that comes back agree, unless a number is lost. -/
theorem agreeUnless_checks (spec : IndexSpec) :
    AgreeUnless spec.Loses spec.checks spec.shipped.checks := by
  have declared : spec.shipped.fields.isEmpty = spec.fields.isEmpty := List.isEmpty_map
  have score : AgreeUnless spec.Loses
      (Check.optional spec.options.score fun s => ⟨!s.inUnitInterval, .scoreOutOfRange s⟩)
      (Check.optional (spec.options.score.filter Double.isFinite) fun s =>
        ⟨!s.inUnitInterval, .scoreOutOfRange s⟩) := by
    refine agreeUnless_optional fun s given lost => ⟨?_, .score given lost⟩
    have outside : s.inUnitInterval = false := by
      by_contra inside
      rw [Bool.not_eq_false] at inside
      rw [Double.isFinite_of_inUnitInterval inside] at lost
      contradiction
    simp [outside]
  have fields : AgreeUnless spec.Loses (spec.fields.flatMap (·.checks spec.document))
      (spec.shipped.fields.flatMap (·.checks spec.document)) :=
    agreeUnless_flatMap fun f inside => Field.agreeUnless_checks inside
  rw [checks, checks, optionChecks, optionChecks, declared]
  exact ((((agreeUnless_refl _).append score).append (agreeUnless_refl _)).append fields)

/-- The index that comes back is compiled alike, unless the index was refused for a number that is
lost. -/
theorem compile_shipped (spec : IndexSpec) :
    spec.shipped.compile = spec.compile ∨
      ∃ cause, spec.Loses cause ∧ spec.compile = .error (.refused cause) := by
  rcases spec.agreeUnless_checks with same | ⟨cause, lost, refused⟩
  · refine .inl ?_
    have same : spec.shipped.validate = spec.validate := same
    cases valid : spec.validate with
    | ok =>
      have finite := (validate_eq_ok_iff.mp valid).finite
      rw [shipped_eq_self_iff.mpr finite]
    | error cause => rw [compile_eq, compile_eq, same, valid]
  · exact .inr ⟨cause, lost, by rw [compile_eq, validate, refused]⟩

/-- A description is always read back. What comes back is the description without the numbers that
are not finite: the same one if there are none, and otherwise one that is compiled alike unless the
description was refused for one of these numbers. -/
theorem read_back_alike_unless_lost (spec : IndexSpec) :
    ofJson? spec.toJson = some spec.shipped ∧ (spec.shipped = spec ↔ spec.Finite) ∧
      (spec.shipped.compile = spec.compile ∨
        ∃ cause, spec.Loses cause ∧ spec.compile = .error (.refused cause)) :=
  ⟨spec.ofJson?_toJson, shipped_eq_self_iff, spec.compile_shipped⟩

/-- A text field with a weight that is no number is refused for it, and comes back as a field that
is accepted. -/
theorem accepted_without_lost_weight :
    ∃ spec : IndexSpec,
      spec = ofSteps .hash [.field (.ofOptions "t" .text [.weight (.nan false)])] ∧
      spec.compile = .error (.refused (.badWeight "t" (.nan false))) ∧
      ∃ spec' body, ofJson? spec.toJson = some spec' ∧ spec'.compile = .ok body ∧
        body.tokens = [.text "ON", .text "HASH", .text "SCHEMA", .text "t", .text "TEXT"] := by
  refine ⟨_, rfl, ?_, _, _, ofJson?_toJson _, compile_eq_ok_iff.mpr ⟨rfl, rfl⟩, rfl⟩
  rw [compile_eq]
  rfl

end IndexSpec

end SearchWire
