import SearchWire.Clause
import SearchWire.Refusal

/-!
# Schema fields

A field of an index is written as

    <name> [AS <alias>] <KIND> [NOSTEM] [WEIGHT w] [PHONETIC m] [SEPARATOR c] [CASESENSITIVE]
    [WITHSUFFIXTRIE] [SORTABLE [UNF]] [NOINDEX]

where the options between the kind and `SORTABLE` are allowed on some kinds only. Options are
recorded as they are given and checked when the index is compiled, so that one on the wrong kind is
reported and not dropped.
-/
namespace SearchWire

/-- A schema field with the options that were set on it. -/
structure Field where
  /-- The name in the document: plain for a hash, a path for a JSON document. -/
  name : String
  /-- The name used in queries and replies, if it is another one. -/
  label : Option String
  /-- The declared type. -/
  kind : FieldKind
  /-- Whether words are kept unstemmed. -/
  noStem : Bool
  /-- The weight in ranking. -/
  weight : Option Double
  /-- The phonetic matcher. -/
  phonetic : Option Phonetic
  /-- The character between two tags. -/
  separator : Option Char
  /-- Whether tags keep their case. -/
  caseSensitive : Bool
  /-- Whether suffixes are indexed. -/
  withSuffixTrie : Bool
  /-- Whether and how the field can be sorted by. -/
  sorting : Sorting
  /-- Whether the field is stored without being indexed. -/
  noIndex : Bool
deriving DecidableEq

/-- One modification of a field. -/
inductive FieldOption where
  | label (name : String)
  | noStem
  | weight (w : Double)
  | phonetic (language : Phonetic)
  | separator (c : Char)
  | caseSensitive
  | withSuffixTrie
  | sortable
  | sortableUnnormalized
  | noIndex

namespace Field

/-- A field without options. -/
def plain (name : String) (kind : FieldKind) : Field where
  name := name
  label := none
  kind := kind
  noStem := false
  weight := none
  phonetic := none
  separator := none
  caseSensitive := false
  withSuffixTrie := false
  sorting := .no
  noIndex := false

/-- The field after one modification; a later value replaces an earlier one. -/
def set (f : Field) : FieldOption → Field
  | .label name => { f with label := some name }
  | .noStem => { f with noStem := true }
  | .weight w => { f with weight := some w }
  | .phonetic language => { f with phonetic := some language }
  | .separator c => { f with separator := some c }
  | .caseSensitive => { f with caseSensitive := true }
  | .withSuffixTrie => { f with withSuffixTrie := true }
  | .sortable => { f with sorting := .yes }
  | .sortableUnnormalized => { f with sorting := .unnormalized }
  | .noIndex => { f with noIndex := true }

/-- A field with options set in order. -/
def ofOptions (name : String) (kind : FieldKind) (options : List FieldOption) : Field :=
  options.foldl set (plain name kind)

/-- The name that queries and replies use. -/
def shownName (f : Field) : String := f.label.getD f.name

/-- The weight that is written: the engine takes a missing weight for one. -/
def writtenWeight (f : Field) : Option Double := f.weight.filter fun w => !w.numericEq .one

/-- Whether a name is a path into a JSON document. -/
def isPath (name : String) : Bool := name.toList.head? == some '$'

/-- The punctuation characters of ASCII: the visible ones that are neither letters nor digits. -/
def isPunctuation (c : Char) : Bool :=
  decide (0x20 < c.toNat) && decide (c.toNat < 0x7f) && !c.isAlphanum

/-- The options set on a field that its kind does not have, in the order they are reported. -/
def misplaced (f : Field) : List (Bool × String) :=
  let isText := f.kind == .text
  let isTag := f.kind == .tag
  [(f.noStem && !isText, "NOSTEM"),
    (f.weight.isSome && !isText, "WEIGHT"),
    (f.phonetic.isSome && !isText, "PHONETIC"),
    (f.separator.isSome && !isTag, "SEPARATOR"),
    (f.caseSensitive && !isTag, "CASESENSITIVE"),
    (f.withSuffixTrie && !(isText || isTag), "WITHSUFFIXTRIE"),
    (f.sorting == .unnormalized && !(isText || isTag), "UNF")]

/-- What is checked of a field of an index over the given kind of document. -/
def checks (f : Field) (document : DocumentKind) : List Check :=
  [⟨f.name.isEmpty, .emptyFieldName⟩,
    ⟨f.label == some "", .emptyFieldLabel f.name⟩,
    ⟨document.usesPaths && !isPath f.name, .notAPath f.name⟩,
    ⟨!document.usesPaths && isPath f.name, .pathOnHash f.name⟩] ++
  (f.misplaced.map fun (set, option) => ⟨set, .misplacedOption option f.kind f.name⟩) ++
  Check.optional f.separator (fun c => ⟨!isPunctuation c, .badSeparator f.name c⟩) ++
  Check.optional f.weight
    (fun w => ⟨!w.isFinite || w.numericLe .zero, .badWeight f.name w⟩)

/-- The first fault of a field, if it has any. -/
def validate (f : Field) (document : DocumentKind) : Except Refusal Unit :=
  Check.run (f.checks document)

/-- How many tokens a field takes. -/
def tokenCount (f : Field) : Nat :=
  2 + (if f.label.isSome then 2 else 0) + f.noStem.toNat +
    (if f.writtenWeight.isSome then 2 else 0) + (if f.phonetic.isSome then 2 else 0) +
    (if f.separator.isSome then 2 else 0) + f.caseSensitive.toNat + f.withSuffixTrie.toNat +
    (match f.sorting with
      | .no => 0
      | .yes => 1
      | .unnormalized => 2) +
    f.noIndex.toNat

/-- The tokens of a field. -/
def tokens (f : Field) : List Token :=
  .text f.name :: Token.keyed "AS" (f.label.map .text) ++
  .text f.kind.keyword :: Token.flag "NOSTEM" f.noStem ++
  Token.keyed "WEIGHT" (f.writtenWeight.map .double) ++
  Token.keyed "PHONETIC" (f.phonetic.map fun language => .text language.matcher) ++
  Token.keyed "SEPARATOR" (f.separator.map fun c => .text c.toString) ++
  Token.flag "CASESENSITIVE" f.caseSensitive ++
  Token.flag "WITHSUFFIXTRIE" f.withSuffixTrie ++
  f.sorting.keywords.map .text ++
  Token.flag "NOINDEX" f.noIndex

/-- A field as a clause. -/
def clause (f : Field) : Clause := ⟨f.tokenCount, f.tokens⟩

end Field

end SearchWire
