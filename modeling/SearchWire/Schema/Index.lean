import SearchWire.Schema.Field

/-!
# Index definitions

The description of an index collects options and schema fields in any order and is checked as a
whole when it is compiled. The compiled body is always written in one order:

    ON <kind> [PREFIX n p..] [FILTER f] [LANGUAGE l] [LANGUAGE_FIELD f] [SCORE s] [SCORE_FIELD f]
    [PAYLOAD_FIELD f] [MAXTEXTFIELDS] [TEMPORARY n] [NOOFFSETS] [NOHL] [NOFIELDS] [NOFREQS]
    [STOPWORDS n w..] [SKIPINITIALSCAN] SCHEMA <field>..

A score of one is the engine's own default and is left out. A list of stopwords with no word in it
and the flag that switches stopwords off are written alike.
-/
namespace SearchWire

/-- The options of an index, each of which may be absent. -/
structure IndexOptions where
  /-- Only keys that start with one of these are indexed. -/
  keyStarts : List String
  /-- Only keys for which this expression holds are indexed. -/
  filter : Option String
  /-- The language of the documents. -/
  language : Option String
  /-- The field that names the language of a document. -/
  languageField : Option String
  /-- The score of a document, within the unit interval. -/
  score : Option Double
  /-- The field that holds the score of a document. -/
  scoreField : Option String
  /-- The field that holds the payload of a document. -/
  payloadField : Option String
  /-- Whether room for many text fields is made. -/
  maxTextFields : Bool
  /-- Seconds of inactivity after which the index is dropped. -/
  temporary : Option UInt64
  /-- Whether offsets are left out. -/
  noOffsets : Bool
  /-- Whether highlighting is left out. -/
  noHighlights : Bool
  /-- Whether field bits are left out. -/
  noFields : Bool
  /-- Whether frequencies are left out. -/
  noFrequencies : Bool
  /-- The stopwords; an empty list switches them off. -/
  stopwords : Option (List String)
  /-- Whether stopwords are switched off. -/
  noStopwords : Bool
  /-- Whether existing keys are left unscanned. -/
  skipInitialScan : Bool
deriving DecidableEq

/-- No option set. -/
def IndexOptions.none : IndexOptions where
  keyStarts := []
  filter := .none
  language := .none
  languageField := .none
  score := .none
  scoreField := .none
  payloadField := .none
  maxTextFields := false
  temporary := .none
  noOffsets := false
  noHighlights := false
  noFields := false
  noFrequencies := false
  stopwords := .none
  noStopwords := false
  skipInitialScan := false

/-- The description of an index. -/
structure IndexSpec where
  /-- The kind of document the index covers. -/
  document : DocumentKind
  /-- The options. -/
  options : IndexOptions
  /-- The schema fields in the order of their declaration. -/
  fields : List Field
deriving DecidableEq

/-- One step in describing an index. -/
inductive IndexStep where
  | keyStart (start : String)
  | keyStarts (starts : List String)
  | filter (expression : String)
  | language (name : String)
  | languageField (field : String)
  | score (value : Double)
  | scoreField (field : String)
  | payloadField (field : String)
  | maxTextFields
  | temporary (seconds : UInt64)
  | noOffsets
  | noHighlights
  | noFields
  | noFrequencies
  | stopwords (words : List String)
  | noStopwords
  | skipInitialScan
  | field (f : Field)
  | fields (fs : List Field)

/-- The body of a command that creates an index: everything after the name of the index. -/
structure IndexBody where
  /-- The kind of document the index covers. -/
  document : DocumentKind
  /-- The tokens of the body. -/
  tokens : List Token
deriving DecidableEq

namespace IndexBody

/-- The body as it is written. -/
def shown (b : IndexBody) : String := Token.joined b.tokens

end IndexBody

namespace IndexSpec

/-- The description of an index with neither options nor fields. -/
def empty (document : DocumentKind) : IndexSpec := ⟨document, .none, []⟩

/-- The description after one step: key beginnings and fields accumulate, of any other option the
last value counts, and flags stay set. -/
def step (spec : IndexSpec) : IndexStep → IndexSpec
  | .keyStart start =>
    { spec with options.keyStarts := spec.options.keyStarts ++ [start] }
  | .keyStarts starts =>
    { spec with options.keyStarts := spec.options.keyStarts ++ starts }
  | .filter expression => { spec with options.filter := some expression }
  | .language name => { spec with options.language := some name }
  | .languageField field => { spec with options.languageField := some field }
  | .score value => { spec with options.score := some value }
  | .scoreField field => { spec with options.scoreField := some field }
  | .payloadField field => { spec with options.payloadField := some field }
  | .maxTextFields => { spec with options.maxTextFields := true }
  | .temporary seconds => { spec with options.temporary := some seconds }
  | .noOffsets => { spec with options.noOffsets := true }
  | .noHighlights => { spec with options.noHighlights := true }
  | .noFields => { spec with options.noFields := true }
  | .noFrequencies => { spec with options.noFrequencies := true }
  | .stopwords words => { spec with options.stopwords := some words }
  | .noStopwords => { spec with options.noStopwords := true }
  | .skipInitialScan => { spec with options.skipInitialScan := true }
  | .field f => { spec with fields := spec.fields ++ [f] }
  | .fields fs => { spec with fields := spec.fields ++ fs }

/-- The description that steps lead to. -/
def ofSteps (document : DocumentKind) (steps : List IndexStep) : IndexSpec :=
  steps.foldl step (empty document)

/-- What is checked of the options. -/
def optionChecks (spec : IndexSpec) : List Check :=
  let options := spec.options
  [⟨spec.fields.isEmpty, .noFields⟩,
    ⟨options.noStopwords && options.stopwords.any (!·.isEmpty), .stopwordConflict⟩,
    ⟨options.payloadField.isSome && spec.document == .json, .payloadOnJson⟩,
    ⟨options.temporary == some 0, .zeroLifespan⟩] ++
  Check.optional options.temporary (Check.fits "TEMPORARY") ++
  Check.optional options.score (fun score => ⟨!score.inUnitInterval, .scoreOutOfRange score⟩) ++
  [⟨options.keyStarts.any String.isEmpty, .emptyKeyStart⟩]

/-- What is checked of an index, in the order in which faults are reported. -/
def checks (spec : IndexSpec) : List Check :=
  spec.optionChecks ++ spec.fields.flatMap (·.checks spec.document)

/-- The first fault of an index, if it has any. -/
def validate (spec : IndexSpec) : Except Refusal Unit := Check.run spec.checks

/-- A flag that is written only if it is set. -/
def flagPart (keyword : String) (on : Bool) : List Part := if on then [.flag keyword] else []

/-- An option that is written only if it has a value. -/
def keyedPart (keyword : String) (value : Option Token) : List Part :=
  (value.map (Part.keyed keyword)).toList

/-- The words that are written after `STOPWORDS`, if it is written. -/
def writtenStopwords (options : IndexOptions) : Option (List String) :=
  if options.noStopwords then some [] else options.stopwords

/-- The options that are written, in their one order. -/
def parts (spec : IndexSpec) : List Part :=
  let options := spec.options
  .keyed "ON" (.text spec.document.keyword) ::
  (if options.keyStarts.isEmpty then [] else [.counted "PREFIX" (options.keyStarts.map .text)]) ++
  keyedPart "FILTER" (options.filter.map .text) ++
  keyedPart "LANGUAGE" (options.language.map .text) ++
  keyedPart "LANGUAGE_FIELD" (options.languageField.map .text) ++
  keyedPart "SCORE" ((options.score.filter fun s => !s.numericEq .one).map .double) ++
  keyedPart "SCORE_FIELD" (options.scoreField.map .text) ++
  keyedPart "PAYLOAD_FIELD" (options.payloadField.map .text) ++
  flagPart "MAXTEXTFIELDS" options.maxTextFields ++
  keyedPart "TEMPORARY" (options.temporary.map fun seconds => .ofNat seconds.toNat) ++
  flagPart "NOOFFSETS" options.noOffsets ++
  flagPart "NOHL" options.noHighlights ++
  flagPart "NOFIELDS" options.noFields ++
  flagPart "NOFREQS" options.noFrequencies ++
  ((writtenStopwords options).map fun words =>
    Part.counted "STOPWORDS" (words.map .text)).toList ++
  flagPart "SKIPINITIALSCAN" options.skipInitialScan

/-- The schema: its keyword and all fields. -/
def schemaClause (fields : List Field) : Clause :=
  Clause.group (⟨1, [.text "SCHEMA"]⟩ :: fields.map Field.clause)

/-- All clauses of the body. -/
def clauses (spec : IndexSpec) : List Clause :=
  spec.parts.map Part.clause ++ [schemaClause spec.fields]

/-- Check the description and write its body. -/
def compile (spec : IndexSpec) : Except (CompileFault Refusal) IndexBody := do
  spec.validate.mapError .refused
  let tokens ← (assemble spec.clauses).mapError .broken
  return ⟨spec.document, tokens⟩

end IndexSpec

end SearchWire
