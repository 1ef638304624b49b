import SearchWire.Proofs.Assembly
import Mathlib.Data.List.Induction

/-!
# The order of the steps of an index

The steps that describe an index are of three sorts: a setting has one value and its last step
counts, a flag is on once a step has set it, and beginnings of keys and fields accumulate. A
description gathers steps if it says of each sort what they say. Every step keeps that, so by
induction a description gathers the steps that led to it; and as it consists of nothing else, steps
that agree sort by sort lead to one description, whatever their order, and are compiled or refused
alike.
-/
namespace SearchWire

namespace IndexStep

/-- The options that have one value. -/
inductive Setting where
  | filter
  | language
  | languageField
  | score
  | scoreField
  | payloadField
  | temporary
  | stopwords
deriving DecidableEq

/-- The options that are on or off. -/
inductive Flag where
  | maxTextFields
  | noOffsets
  | noHighlights
  | noFields
  | noFrequencies
  | noStopwords
  | skipInitialScan
deriving DecidableEq

/-- The setting that a step gives a value to. -/
def setting? : IndexStep → Option Setting
  | filter _ => some .filter
  | language _ => some .language
  | languageField _ => some .languageField
  | score _ => some .score
  | scoreField _ => some .scoreField
  | payloadField _ => some .payloadField
  | temporary _ => some .temporary
  | stopwords _ => some .stopwords
  | _ => none

/-- The flag that a step sets. -/
def flag? : IndexStep → Option Flag
  | maxTextFields => some .maxTextFields
  | noOffsets => some .noOffsets
  | noHighlights => some .noHighlights
  | noFields => some .noFields
  | noFrequencies => some .noFrequencies
  | noStopwords => some .noStopwords
  | skipInitialScan => some .skipInitialScan
  | _ => none

/-- The beginnings of keys that a step adds. -/
def addedKeyStarts : IndexStep → List String
  | keyStart start => [start]
  | keyStarts starts => starts
  | _ => []

/-- The fields that a step adds. -/
def addedFields : IndexStep → List Field
  | field f => [f]
  | fields fs => fs
  | _ => []

/-- The last step that gives a value to a setting. -/
def last? (k : Setting) (steps : List IndexStep) : Option IndexStep :=
  (steps.filter fun s => s.setting? == some k).getLast?

/-- A further step counts instead of those before it if it is one of the setting. -/
theorem last?_concat (k : Setting) (steps : List IndexStep) (s : IndexStep) :
    last? k (steps ++ [s]) = if s.setting? = some k then some s else last? k steps := by
  unfold last?
  rw [List.filter_append, List.filter_cons, List.filter_nil]
  by_cases same : s.setting? = some k
  · simp [same]
  · simp [same]

/-- Whether two lists of steps agree sort by sort: the same beginnings of keys and the same fields
in the same order, however they are split among the steps, the same last step of every setting, and
the same flags. -/
structure Alike (steps steps' : List IndexStep) : Prop where
  /-- The beginnings of keys agree. -/
  keyStarts : steps.flatMap addedKeyStarts = steps'.flatMap addedKeyStarts
  /-- The fields agree. -/
  fields : steps.flatMap addedFields = steps'.flatMap addedFields
  /-- The last steps agree. -/
  settings : ∀ k, last? k steps = last? k steps'
  /-- The flags agree. -/
  flags : ∀ f, f ∈ steps.filterMap flag? ↔ f ∈ steps'.filterMap flag?

end IndexStep

open IndexStep

namespace IndexOptions

/-- The step that gives a setting the value it has. -/
def step? (o : IndexOptions) : Setting → Option IndexStep
  | .filter => o.filter.map .filter
  | .language => o.language.map .language
  | .languageField => o.languageField.map .languageField
  | .score => o.score.map .score
  | .scoreField => o.scoreField.map .scoreField
  | .payloadField => o.payloadField.map .payloadField
  | .temporary => o.temporary.map .temporary
  | .stopwords => o.stopwords.map .stopwords

/-- Whether a flag is on. -/
def isOn (o : IndexOptions) : Flag → Bool
  | .maxTextFields => o.maxTextFields
  | .noOffsets => o.noOffsets
  | .noHighlights => o.noHighlights
  | .noFields => o.noFields
  | .noFrequencies => o.noFrequencies
  | .noStopwords => o.noStopwords
  | .skipInitialScan => o.skipInitialScan

/-- Options consist of beginnings of keys, settings and flags. -/
theorem eq_of_sorts {o o' : IndexOptions} (keyStarts : o.keyStarts = o'.keyStarts)
    (settings : ∀ k, o.step? k = o'.step? k) (flags : ∀ f, o.isOn f = o'.isOn f) : o = o' := by
  have filter := Option.map_injective (fun _ _ => IndexStep.filter.inj) (settings .filter)
  have language := Option.map_injective (fun _ _ => IndexStep.language.inj) (settings .language)
  have languageField :=
    Option.map_injective (fun _ _ => IndexStep.languageField.inj) (settings .languageField)
  have score := Option.map_injective (fun _ _ => IndexStep.score.inj) (settings .score)
  have scoreField :=
    Option.map_injective (fun _ _ => IndexStep.scoreField.inj) (settings .scoreField)
  have payloadField :=
    Option.map_injective (fun _ _ => IndexStep.payloadField.inj) (settings .payloadField)
  have temporary := Option.map_injective (fun _ _ => IndexStep.temporary.inj) (settings .temporary)
  have stopwords := Option.map_injective (fun _ _ => IndexStep.stopwords.inj) (settings .stopwords)
  cases o
  cases o'
  simp only [IndexOptions.mk.injEq]
  exact ⟨keyStarts, filter, language, languageField, score, scoreField, payloadField,
    flags .maxTextFields, temporary, flags .noOffsets, flags .noHighlights, flags .noFields,
    flags .noFrequencies, stopwords, flags .noStopwords, flags .skipInitialScan⟩

end IndexOptions

namespace IndexSpec

/-- Whether the description of an index over a kind of document says what steps say. -/
structure Gathers (document : DocumentKind) (steps : List IndexStep) (spec : IndexSpec) :
    Prop where
  /-- It is over that kind of document. -/
  document : spec.document = document
  /-- It has the beginnings of keys in their order. -/
  keyStarts : spec.options.keyStarts = steps.flatMap addedKeyStarts
  /-- It has the fields in their order. -/
  fields : spec.fields = steps.flatMap addedFields
  /-- Of each setting it has the last value. -/
  settings : ∀ k, spec.options.step? k = last? k steps
  /-- The flags that were set are on. -/
  flags : ∀ f, spec.options.isOn f = true ↔ f ∈ steps.filterMap flag?

variable {document : DocumentKind} {steps steps' : List IndexStep} {spec spec' : IndexSpec}

/-- A step changes the setting that it gives a value to, and no other. -/
theorem step?_step (spec : IndexSpec) (s : IndexStep) (k : Setting) :
    (spec.step s).options.step? k =
      if s.setting? = some k then some s else spec.options.step? k := by
  cases s <;> cases k <;> rfl

/-- A step sets its flag, and no other. -/
theorem isOn_step (spec : IndexSpec) (s : IndexStep) (f : Flag) :
    (spec.step s).options.isOn f = if s.flag? = some f then true else spec.options.isOn f := by
  cases s <;> cases f <;> rfl

/-- No step is gathered at the beginning. -/
theorem gathers_empty (document : DocumentKind) : Gathers document [] (empty document) where
  document := rfl
  keyStarts := rfl
  fields := rfl
  settings k := by cases k <;> rfl
  flags f := iff_of_false (by cases f <;> nofun) List.not_mem_nil

/-- A further step is gathered too. -/
theorem Gathers.step (gathers : Gathers document steps spec) (s : IndexStep) :
    Gathers document (steps ++ [s]) (spec.step s) where
  document := by
    rw [← gathers.document]
    cases s <;> rfl
  keyStarts := by
    rw [List.flatMap_append, List.flatMap_singleton, ← gathers.keyStarts]
    cases s <;> simp [IndexSpec.step, addedKeyStarts]
  fields := by
    rw [List.flatMap_append, List.flatMap_singleton, ← gathers.fields]
    cases s <;> simp [IndexSpec.step, addedFields]
  settings k := by rw [step?_step, last?_concat, gathers.settings]
  flags f := by
    rw [isOn_step, List.filterMap_append, List.mem_append, ← gathers.flags]
    by_cases same : s.flag? = some f
    · simp [same]
    · simp [same]

/-- The description that steps lead to gathers them. -/
theorem gathers_ofSteps (document : DocumentKind) (steps : List IndexStep) :
    Gathers document steps (ofSteps document steps) := by
  -- The induction is from the back, because the last step is the one that counts.
  induction steps using List.reverseRecOn with
  | nil => exact gathers_empty document
  | append_singleton steps s ih =>
    rw [ofSteps, List.foldl_append]
    exact ih.step s

/-- Steps that agree sort by sort are gathered by one description only. -/
theorem Gathers.eq_of_alike (gathers : Gathers document steps spec)
    (gathers' : Gathers document steps' spec') (alike : Alike steps steps') : spec = spec' := by
  have options : spec.options = spec'.options := by
    apply IndexOptions.eq_of_sorts
    · rw [gathers.keyStarts, gathers'.keyStarts, alike.keyStarts]
    · intro k
      rw [gathers.settings, gathers'.settings, alike.settings]
    · intro f
      rw [Bool.eq_iff_iff, gathers.flags, gathers'.flags, alike.flags]
  have fields : spec.fields = spec'.fields := by
    rw [gathers.fields, gathers'.fields, alike.fields]
  have documents : spec.document = spec'.document := by
    rw [gathers.document, gathers'.document]
  cases spec
  cases spec'
  rw [IndexSpec.mk.injEq]
  exact ⟨documents, options, fields⟩

/-- An index without a field is refused for that, whatever its options are. -/
theorem compile_of_fields_eq_nil (none : spec.fields = []) :
    spec.compile = .error (.refused .noFields) := by
  have refused : spec.validate = .error .noFields := by
    rw [validate, checks, optionChecks, none]
    rfl
  rw [compile_eq, refused]

/-- An index with a field is refused for stopwords that are listed and switched off, whatever its
other options are. -/
theorem compile_of_stopwords {words : List String} (declared : spec.fields ≠ [])
    (listed : spec.options.stopwords = some words) (given : words ≠ [])
    (off : spec.options.noStopwords = true) :
    spec.compile = .error (.refused .stopwordConflict) := by
  have refused : spec.validate = .error .stopwordConflict := by
    rw [validate, checks, optionChecks]
    simp only [List.cons_append, Check.run_cons, List.isEmpty_eq_false_iff.mpr declared, listed,
      off, Option.any_some, List.isEmpty_eq_false_iff.mpr given]
    rfl
  rw [compile_eq, refused]

/-- Steps that agree sort by sort are compiled alike, to the same body or to the same error. A list
of stopwords that is the last one and not empty conflicts with the flag that switches stopwords off,
in whatever order they are set, and steps without a field lead to nothing but the error that tells
it. -/
theorem compiled_alike_in_any_order :
    (∀ (document : DocumentKind) (steps steps' : List IndexStep), Alike steps steps' →
      (ofSteps document steps).compile = (ofSteps document steps').compile) ∧
    (∀ (document : DocumentKind) (steps : List IndexStep) (words : List String),
      steps.flatMap addedFields ≠ [] → last? .stopwords steps = some (.stopwords words) →
      words ≠ [] → .noStopwords ∈ steps →
      ∃ cause, (ofSteps document steps).compile = .error (.refused cause) ∧
        cause.error = .configConflict
          "a stopword list and the no-stopwords flag cannot both be set") ∧
    ∀ (document : DocumentKind) (steps : List IndexStep), steps.flatMap addedFields = [] →
      ∃ cause, (ofSteps document steps).compile = .error (.refused cause) ∧
        cause.error = .missingSchema := by
  refine ⟨?_, ?_, ?_⟩
  · intro document steps steps' alike
    have gathers := gathers_ofSteps document steps
    have gathers' := gathers_ofSteps document steps'
    rw [gathers.eq_of_alike gathers' alike]
  · intro document steps words declared listed given off
    have gathers := gathers_ofSteps document steps
    have stopwords : (ofSteps document steps).options.stopwords = some words := by
      have map := (gathers.settings .stopwords).trans listed
      exact Option.map_injective (fun _ _ => IndexStep.stopwords.inj) map
    have off : (ofSteps document steps).options.noStopwords = true :=
      (gathers.flags .noStopwords).mpr (List.mem_filterMap.mpr ⟨_, off, rfl⟩)
    rw [← gathers.fields] at declared
    exact ⟨_, compile_of_stopwords declared stopwords given off, rfl⟩
  · intro document steps none
    rw [← (gathers_ofSteps document steps).fields] at none
    exact ⟨_, compile_of_fields_eq_nil none, rfl⟩

/-- Options that fail the checks may be set in any order: a score out of its range is reported alike
before and after the beginnings of keys, though a step in between once set a valid one. A list of
stopwords conflicts with the flag that was set before it, unless there is no field. -/
theorem compiled_alike_among_faults :
    (ofSteps .hash [.score .one, .keyStarts ["a", "b"], .noFields, .field (.ofOptions "t" .text []),
        .score (.infinity true), .keyStart ""]).compile =
      (ofSteps .hash [.keyStart "a", .score (.infinity true), .fields [.ofOptions "t" .text []],
        .keyStarts ["b", ""], .noFields, .noFields]).compile ∧
    (∃ cause, (ofSteps .json [.noStopwords, .stopwords [], .field (.ofOptions "t" .text []),
        .stopwords ["the"], .payloadField "p"]).compile = .error (.refused cause) ∧
      cause.error = .configConflict
        "a stopword list and the no-stopwords flag cannot both be set") ∧
    ∃ cause, (ofSteps .json [.noStopwords, .fields [], .stopwords ["the"]]).compile =
        .error (.refused cause) ∧
      cause.error = .missingSchema := by
  refine ⟨?_, ?_, ?_⟩
  · refine compiled_alike_in_any_order.1 .hash _ _ ⟨rfl, rfl, fun k => ?_, fun f => ?_⟩
    · cases k <;> rfl
    · cases f <;> decide
  · exact compiled_alike_in_any_order.2.1 .json _ ["the"] (by decide) rfl (by decide) (by simp)
  · exact compiled_alike_in_any_order.2.2 .json _ rfl

end IndexSpec

end SearchWire
