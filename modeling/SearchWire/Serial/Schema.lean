import SearchWire.Schema.Index
import SearchWire.Serial.Core

/-!
# Serialized fields and index definitions

A description is serialized as it was given: nothing is checked and nothing is completed on the way
out or in, so a description that would be refused is still exchanged.
-/
namespace SearchWire

namespace Field

/-- The members of a serialized field in their order. -/
def memberNames : List String :=
  ["name", "alias", "field_type", "no_stem", "weight", "phonetic", "separator", "case_sensitive",
    "with_suffix_trie", "sortable", "no_index"]

/-- The serialized form of a field. Options that are not set are left out. -/
def toJson (f : Field) : Json :=
  .object
    ([("name", .string f.name)] ++
      Json.memberIf "alias" .string f.label ++
      [("field_type", f.kind.toJson), ("no_stem", .boolean f.noStem)] ++
      Json.memberIf "weight" .ofDouble f.weight ++
      Json.memberIf "phonetic" Phonetic.toJson f.phonetic ++
      Json.memberIf "separator" (fun c => .string c.toString) f.separator ++
      [("case_sensitive", .boolean f.caseSensitive),
        ("with_suffix_trie", .boolean f.withSuffixTrie),
        ("sortable", f.sorting.toJson),
        ("no_index", .boolean f.noIndex)])

/-- A field from its serialized form. -/
def ofJson? (j : Json) : Option Field := do
  let members ← j.members? memberNames 3
  return {
    name := ← Json.required members "name" Json.text?
    label := ← Json.optional members "alias" Json.text?
    kind := ← Json.required members "field_type" FieldKind.ofJson?
    noStem := ← Json.defaulted members "no_stem" false Json.boolean?
    weight := ← Json.optional members "weight" Json.double?
    phonetic := ← Json.optional members "phonetic" Phonetic.ofJson?
    separator := ← Json.optional members "separator" Json.character?
    caseSensitive := ← Json.defaulted members "case_sensitive" false Json.boolean?
    withSuffixTrie := ← Json.defaulted members "with_suffix_trie" false Json.boolean?
    sorting := ← Json.defaulted members "sortable" .no Sorting.ofJson?
    noIndex := ← Json.defaulted members "no_index" false Json.boolean? }

end Field

namespace IndexOptions

/-- The members of serialized options in their order. -/
def memberNames : List String :=
  ["prefixes", "filter", "language", "language_field", "score", "score_field", "payload_field",
    "max_text_fields", "temporary", "no_offsets", "no_highlights", "no_fields", "no_frequencies",
    "stopwords", "no_stopwords", "skip_initial_scan"]

/-- The serialized form of options. Options that are not set are written as `null`. -/
def toJson (o : IndexOptions) : Json :=
  .object
    [("prefixes", .ofList .string o.keyStarts),
      ("filter", .ofOption .string o.filter),
      ("language", .ofOption .string o.language),
      ("language_field", .ofOption .string o.languageField),
      ("score", .ofOption .ofDouble o.score),
      ("score_field", .ofOption .string o.scoreField),
      ("payload_field", .ofOption .string o.payloadField),
      ("max_text_fields", .boolean o.maxTextFields),
      ("temporary", .ofOption (fun n => .ofNat n.toNat) o.temporary),
      ("no_offsets", .boolean o.noOffsets),
      ("no_highlights", .boolean o.noHighlights),
      ("no_fields", .boolean o.noFields),
      ("no_frequencies", .boolean o.noFrequencies),
      ("stopwords", .ofOption (.ofList .string) o.stopwords),
      ("no_stopwords", .boolean o.noStopwords),
      ("skip_initial_scan", .boolean o.skipInitialScan)]

/-- Options from their serialized form; every member has a default. -/
def ofJson? (j : Json) : Option IndexOptions := do
  let members ← j.members? memberNames 0
  return {
    keyStarts := ← Json.defaulted members "prefixes" [] (Json.list? Json.text?)
    filter := ← Json.optional members "filter" Json.text?
    language := ← Json.optional members "language" Json.text?
    languageField := ← Json.optional members "language_field" Json.text?
    score := ← Json.optional members "score" Json.double?
    scoreField := ← Json.optional members "score_field" Json.text?
    payloadField := ← Json.optional members "payload_field" Json.text?
    maxTextFields := ← Json.defaulted members "max_text_fields" false Json.boolean?
    temporary := ← Json.optional members "temporary" Json.uint64?
    noOffsets := ← Json.defaulted members "no_offsets" false Json.boolean?
    noHighlights := ← Json.defaulted members "no_highlights" false Json.boolean?
    noFields := ← Json.defaulted members "no_fields" false Json.boolean?
    noFrequencies := ← Json.defaulted members "no_frequencies" false Json.boolean?
    stopwords := ← Json.optional members "stopwords" (Json.list? Json.text?)
    noStopwords := ← Json.defaulted members "no_stopwords" false Json.boolean?
    skipInitialScan := ← Json.defaulted members "skip_initial_scan" false Json.boolean? }

end IndexOptions

namespace IndexSpec

/-- The serialized form of the description of an index. -/
def toJson (spec : IndexSpec) : Json :=
  .object
    [("structure", spec.document.toJson),
      ("options", spec.options.toJson),
      ("fields", .ofList Field.toJson spec.fields)]

/-- The description of an index from its serialized form. -/
def ofJson? (j : Json) : Option IndexSpec := do
  let members ← j.members? ["structure", "options", "fields"] 1
  return {
    document := ← Json.required members "structure" DocumentKind.ofJson?
    options := ← Json.defaulted members "options" .none IndexOptions.ofJson?
    fields := ← Json.defaulted members "fields" [] (Json.list? Field.ofJson?) }

end IndexSpec

namespace IndexBody

/-- The serialized form of a compiled body. -/
def toJson (b : IndexBody) : Json :=
  .object [("structure", b.document.toJson), ("tokens", .ofList Token.toJson b.tokens)]

/-- A compiled body from its serialized form. -/
def ofJson? (j : Json) : Option IndexBody := do
  let members ← j.members? ["structure", "tokens"] 2
  return {
    document := ← Json.required members "structure" DocumentKind.ofJson?
    tokens := ← Json.required members "tokens" (Json.list? Token.ofJson?) }

end IndexBody

end SearchWire
