import SearchWire.Proofs.Acceptance
import SearchWire.Proofs.Grammar
import SearchWire.Proofs.Lengths

/-!
# The grammar of an index

The bodies of accepted indexes are a language with a grammar:

    ON (HASH|JSON) [PREFIX n p..] [FILTER f] [LANGUAGE l] [LANGUAGE_FIELD f] [SCORE s]
    [SCORE_FIELD f] [PAYLOAD_FIELD f] [MAXTEXTFIELDS] [TEMPORARY n] [NOOFFSETS] [NOHL] [NOFIELDS]
    [NOFREQS] [STOPWORDS n w..] [SKIPINITIALSCAN] SCHEMA <field> <field>..

with a range for every value. The grammar is stated without the checks and without the writer. No
check lets a body pass that the grammar does not derive, and every list of tokens it derives is the
body of some description.
-/
open scoped Computability

namespace SearchWire

namespace Double

/-- Strict numeric order: a NaN is below nothing and above nothing. -/
def numericLt (a b : Double) : Bool := !a.isNaN && !b.isNaN && decide (a.rank < b.rank)

/-- A finite number is above zero exactly if it is not below or at zero. -/
theorem zero_numericLt_iff {d : Double} (finite : d.isFinite = true) :
    zero.numericLt d = true ↔ d.numericLe zero = false := by
  have number : d.isNaN = false := isNaN_of_isFinite finite
  have numbers : zero.isNaN = false := by decide
  simp only [numericLt, numericLe, number, numbers, Bool.not_false, Bool.true_and,
    decide_eq_true_eq, decide_eq_false_iff_not, not_le]

end Double

/-- A value that may be missing is not dropped exactly if it passes. -/
theorem filter_eq_self_iff {α : Type} {value : Option α} {keep : α → Bool} :
    value.filter keep = value ↔ ∀ a ∈ value, keep a = true := by
  cases value with
  | none => simp
  | some a => simp [Option.filter_some]

namespace Grammar

/-- The punctuation characters of ASCII. -/
def IsMark (c : Char) : Prop :=
  (0x21 ≤ c.toNat ∧ c.toNat ≤ 0x2f) ∨ (0x3a ≤ c.toNat ∧ c.toNat ≤ 0x40) ∨
    (0x5b ≤ c.toNat ∧ c.toNat ≤ 0x60) ∨ (0x7b ≤ c.toNat ∧ c.toNat ≤ 0x7e)

/-- The numbers that a weight can be: one is left out. -/
def IsWeight (w : Double) : Prop :=
  w.isFinite = true ∧ Double.zero.numericLt w = true ∧ w.numericEq .one = false

/-- The numbers that a score can be: one is left out. -/
def IsScore (s : Double) : Prop :=
  Double.zero.numericLe s = true ∧ s.numericLe .one = true ∧ s.numericEq .one = false

/-- The name of a field: a path begins with a dollar sign, and only documents have paths. -/
def fieldName (document : DocumentKind) : Language Token :=
  value .text fun name => name ≠ "" ∧ (name.toList.head? = some '$' ↔ document = .json)

/-- The kind of a text field and its options. -/
def textField : Language Token :=
  word "TEXT" * [optional (word "NOSTEM"),
    optional (word "WEIGHT" * value .double IsWeight),
    optional (word "PHONETIC" * value .text (· ∈ ["dm:en", "dm:fr", "dm:pt", "dm:es"])),
    optional (word "WITHSUFFIXTRIE"),
    optional (word "SORTABLE" * optional (word "UNF")),
    optional (word "NOINDEX")].prod

/-- The kind of a tag field and its options. -/
def tagField : Language Token :=
  word "TAG" * [optional (word "SEPARATOR" * value (fun c => .text (String.singleton c)) IsMark),
    optional (word "CASESENSITIVE"),
    optional (word "WITHSUFFIXTRIE"),
    optional (word "SORTABLE" * optional (word "UNF")),
    optional (word "NOINDEX")].prod

/-- The kind of a field of numbers or of places and its options. -/
def plainField (keyword : String) : Language Token :=
  word keyword * [optional (word "SORTABLE"), optional (word "NOINDEX")].prod

/-- A field of an index over a kind of document. -/
def field (document : DocumentKind) : Language Token :=
  fieldName document * (optional (word "AS" * value .text (· ≠ "")) *
    (textField + tagField + plainField "NUMERIC" + plainField "GEO"))

/-- The options of an index over a kind of document. -/
def options (document : DocumentKind) : List (Language Token) :=
  [optional (word "PREFIX" * counted fun starts => starts ≠ [] ∧ ∀ start ∈ starts, start ≠ ""),
    optional (word "FILTER" * anyText),
    optional (word "LANGUAGE" * anyText),
    optional (word "LANGUAGE_FIELD" * anyText),
    optional (word "SCORE" * value .double IsScore),
    optional (word "SCORE_FIELD" * anyText),
    optional (word "PAYLOAD_FIELD" * value .text fun _ => document = .hash),
    optional (word "MAXTEXTFIELDS"),
    optional (word "TEMPORARY" * value .integer fun n => 1 ≤ n.toInt),
    optional (word "NOOFFSETS"),
    optional (word "NOHL"),
    optional (word "NOFIELDS"),
    optional (word "NOFREQS"),
    optional (word "STOPWORDS" * counted fun _ => True),
    optional (word "SKIPINITIALSCAN")]

/-- The body of an index over a kind of document, which has a name. -/
def body (name : String) (document : DocumentKind) : Language Token :=
  word "ON" * (word name * ((options document).prod *
    (word "SCHEMA" * (field document * (field document)∗))))

/-- The body of an index. -/
def index : Language Token := body "HASH" .hash + body "JSON" .json

/-! ## Fields -/

/-- The punctuation characters are what a separator is checked for. -/
theorem isMark_iff {c : Char} : IsMark c ↔ Field.isPunctuation c = true := by
  have code : c.toNat = c.val.toNat := rfl
  have ranges : c.isAlphanum = (decide (('A').val ≤ c.val ∧ c.val ≤ ('Z').val) ||
      decide (('a').val ≤ c.val) && decide (c.val ≤ ('z').val) ||
      decide (('0').val ≤ c.val) && decide (c.val ≤ ('9').val)) := rfl
  simp only [IsMark, Field.isPunctuation, ranges, UInt32.le_iff_toNat_le, code,
    Bool.and_eq_true, Bool.not_eq_true', Bool.or_eq_false_iff, Bool.and_eq_false_iff,
    decide_eq_true_eq, decide_eq_false_iff_not]
  simp only [Char.reduceVal, UInt32.reduceToNat]
  omega

/-- Weights that are finite, above zero and not one are those that are written. -/
theorem isWeight_iff {w : Double} :
    IsWeight w ↔ (w.isFinite = true ∧ w.numericLe .zero = false) ∧ w.numericEq .one = false := by
  unfold IsWeight
  constructor
  · rintro ⟨finite, positive, differs⟩
    exact ⟨⟨finite, (Double.zero_numericLt_iff finite).mp positive⟩, differs⟩
  · rintro ⟨⟨finite, positive⟩, differs⟩
    exact ⟨finite, (Double.zero_numericLt_iff finite).mpr positive, differs⟩

/-- The names of matchers are those of the languages. -/
theorem value_matcher :
    value Token.text (· ∈ ["dm:en", "dm:fr", "dm:pt", "dm:es"]) =
      value (fun language : Phonetic => .text language.matcher) fun _ => True := by
  ext tokens
  constructor
  · rintro ⟨name, known, rfl⟩
    simp only [List.mem_cons, List.not_mem_nil, or_false] at known
    rcases known with rfl | rfl | rfl | rfl
    · exact ⟨.english, trivial, rfl⟩
    · exact ⟨.french, trivial, rfl⟩
    · exact ⟨.portuguese, trivial, rfl⟩
    · exact ⟨.spanish, trivial, rfl⟩
  · rintro ⟨language, -, rfl⟩
    refine ⟨language.matcher, ?_, rfl⟩
    cases language <;> decide

/-- The words of sorting on kinds that can be sorted by their values as stored. -/
theorem mem_sorting_iff {tokens : List Token} :
    tokens ∈ optional (word "SORTABLE" * optional (word "UNF")) ↔
      ∃ s : Sorting, tokens = s.keywords.map .text := by
  simp only [mem_optional_iff, mem_word_mul_iff]
  constructor
  · rintro (rfl | ⟨_, rfl | rfl, rfl⟩)
    · exact ⟨.no, rfl⟩
    · exact ⟨.yes, rfl⟩
    · exact ⟨.unnormalized, rfl⟩
  · rintro ⟨s, rfl⟩
    cases s with
    | no => exact .inl rfl
    | yes => exact .inr ⟨[], .inl rfl, rfl⟩
    | unnormalized => exact .inr ⟨_, .inr rfl, rfl⟩

end Grammar

namespace Field

/-- The tokens of a field behind its names: its kind and its options. -/
def declaration (f : Field) : List Token :=
  .text f.kind.keyword :: f.sections.flatMap Section.tokens

/-- A field is its name, its second name if it has one, and its declaration. -/
theorem tokens_eq_declaration (f : Field) :
    f.tokens = .text f.name :: (Token.keyed "AS" (f.label.map .text) ++ f.declaration) :=
  f.tokens_eq

/-- A declaration is the kind of the field and its options, with the choice of sorting as one. -/
theorem declaration_eq (f : Field) :
    f.declaration = .text f.kind.keyword ::
      (Token.flag "NOSTEM" f.noStem ++
        (Token.keyed "WEIGHT" (f.writtenWeight.map .double) ++
          (Token.keyed "PHONETIC" (f.phonetic.map fun language => .text language.matcher) ++
            (Token.keyed "SEPARATOR" (f.separator.map fun c => .text c.toString) ++
              (Token.flag "CASESENSITIVE" f.caseSensitive ++
                (Token.flag "WITHSUFFIXTRIE" f.withSuffixTrie ++
                  (f.sorting.keywords.map .text ++ Token.flag "NOINDEX" f.noIndex))))))) := by
  simp only [declaration, sections, List.flatMap_cons, List.flatMap_nil, Section.tokens_flag,
    Section.tokens_keyed, keywords_eq, List.append_assoc, List.append_nil]

/-- The weight that is written is in its range. -/
theorem isWeight_of_placed {f : Field} (placed : f.Placed) :
    ∀ w ∈ f.writtenWeight, Grammar.IsWeight w := by
  intro w written
  obtain ⟨given, differs⟩ := Option.filter_eq_some_iff.mp written
  exact Grammar.isWeight_iff.mpr ⟨placed.weight w given, by simpa using differs⟩

/-- A weight in its range is written. -/
theorem writtenWeight_eq_of_isWeight {f : Field} (range : ∀ w ∈ f.weight, Grammar.IsWeight w) :
    f.writtenWeight = f.weight :=
  filter_eq_self_iff.mpr fun w given => by simp [(range w given).2.2]

end Field

namespace Grammar

/-- Declarations of text fields in the grammar are those of text fields with their options in
place. -/
theorem mem_textField_iff {tokens : List Token} :
    tokens ∈ textField ↔ ∃ f : Field, f.Placed ∧ f.kind = .text ∧ f.declaration = tokens := by
  simp only [textField, value_matcher, mem_word_mul_iff, mem_cons_prod_iff, mem_nil_prod_iff,
    mem_optional_word_iff, mem_optional_value_iff, mem_sorting_iff, implies_true, true_and]
  constructor
  · rintro ⟨_, inside, rfl⟩
    obtain ⟨_, ⟨noStem, rfl⟩, _, inside, rfl⟩ := inside
    obtain ⟨_, ⟨weight, range, rfl⟩, _, inside, rfl⟩ := inside
    obtain ⟨_, ⟨phonetic, rfl⟩, _, inside, rfl⟩ := inside
    obtain ⟨_, ⟨withSuffixTrie, rfl⟩, _, inside, rfl⟩ := inside
    obtain ⟨_, ⟨sorting, rfl⟩, _, inside, rfl⟩ := inside
    obtain ⟨_, ⟨noIndex, rfl⟩, _, rfl, rfl⟩ := inside
    let f : Field :=
      { Field.plain "" .text with
        noStem := noStem
        weight := weight
        phonetic := phonetic
        withSuffixTrie := withSuffixTrie
        sorting := sorting
        noIndex := noIndex }
    have written : f.writtenWeight = weight := Field.writtenWeight_eq_of_isWeight range
    have weights : ∀ w ∈ f.weight, w.isFinite = true ∧ w.numericLe .zero = false :=
      fun w given => (isWeight_iff.mp (range w given)).1
    refine ⟨f, ⟨fun _ => rfl, nofun, fun _ => .inl rfl, nofun, weights⟩, rfl, ?_⟩
    simp only [Field.declaration_eq, written, List.append_nil]
    rfl
  · rintro ⟨f, placed, kind, rfl⟩
    obtain ⟨separator, caseSensitive⟩ := placed.withoutTag (by rw [kind]; decide)
    refine ⟨_, ⟨_, ⟨f.noStem, rfl⟩, _, ⟨_, ⟨f.writtenWeight, Field.isWeight_of_placed placed, rfl⟩,
      _, ⟨_, ⟨f.phonetic, rfl⟩, _, ⟨_, ⟨f.withSuffixTrie, rfl⟩, _, ⟨_, ⟨f.sorting, rfl⟩,
      _, ⟨_, ⟨f.noIndex, rfl⟩, [], rfl, rfl⟩, rfl⟩, rfl⟩, rfl⟩, rfl⟩, rfl⟩, ?_⟩
    simp only [Field.declaration_eq, kind, separator, caseSensitive, Option.map_none,
      List.append_nil]
    rfl

/-- Declarations of tag fields in the grammar are those of tag fields with their options in
place. -/
theorem mem_tagField_iff {tokens : List Token} :
    tokens ∈ tagField ↔ ∃ f : Field, f.Placed ∧ f.kind = .tag ∧ f.declaration = tokens := by
  simp only [tagField, mem_word_mul_iff, mem_cons_prod_iff, mem_nil_prod_iff,
    mem_optional_word_iff, mem_optional_value_iff, mem_sorting_iff, isMark_iff]
  constructor
  · rintro ⟨_, inside, rfl⟩
    obtain ⟨_, ⟨separator, range, rfl⟩, _, inside, rfl⟩ := inside
    obtain ⟨_, ⟨caseSensitive, rfl⟩, _, inside, rfl⟩ := inside
    obtain ⟨_, ⟨withSuffixTrie, rfl⟩, _, inside, rfl⟩ := inside
    obtain ⟨_, ⟨sorting, rfl⟩, _, inside, rfl⟩ := inside
    obtain ⟨_, ⟨noIndex, rfl⟩, _, rfl, rfl⟩ := inside
    let f : Field :=
      { Field.plain "" .tag with
        separator := separator
        caseSensitive := caseSensitive
        withSuffixTrie := withSuffixTrie
        sorting := sorting
        noIndex := noIndex }
    refine ⟨f, ⟨by simp [f, Field.plain], fun _ => rfl, fun _ => .inr rfl, range, nofun⟩, rfl, ?_⟩
    simp only [Field.declaration_eq, List.append_nil]
    rfl
  · rintro ⟨f, placed, kind, rfl⟩
    obtain ⟨noStem, weight, phonetic⟩ := placed.withoutText (by rw [kind]; decide)
    have writtenWeight : f.writtenWeight = none := by rw [Field.writtenWeight, weight]; rfl
    refine ⟨_, ⟨_, ⟨f.separator, placed.separator, rfl⟩, _, ⟨_, ⟨f.caseSensitive, rfl⟩,
      _, ⟨_, ⟨f.withSuffixTrie, rfl⟩, _, ⟨_, ⟨f.sorting, rfl⟩, _, ⟨_, ⟨f.noIndex, rfl⟩,
      [], rfl, rfl⟩, rfl⟩, rfl⟩, rfl⟩, rfl⟩, ?_⟩
    simp only [Field.declaration_eq, kind, noStem, writtenWeight, phonetic, Option.map_none,
      List.append_nil]
    rfl

/-- Declarations of fields of another kind in the grammar are those of such fields with their
options in place. -/
theorem mem_plainField_iff {kind : FieldKind} (text : kind ≠ .text) (tag : kind ≠ .tag)
    {tokens : List Token} :
    tokens ∈ plainField kind.keyword ↔
      ∃ f : Field, f.Placed ∧ f.kind = kind ∧ f.declaration = tokens := by
  simp only [plainField, mem_word_mul_iff, mem_cons_prod_iff, mem_nil_prod_iff,
    mem_optional_word_iff]
  constructor
  · rintro ⟨_, inside, rfl⟩
    obtain ⟨_, ⟨sortable, rfl⟩, _, inside, rfl⟩ := inside
    obtain ⟨_, ⟨noIndex, rfl⟩, _, rfl, rfl⟩ := inside
    let f : Field :=
      { Field.plain "" kind with
        sorting := if sortable then .yes else .no
        noIndex := noIndex }
    have normalized : f.sorting ≠ .unnormalized := by cases sortable <;> nofun
    refine ⟨f, ⟨by simp [f, Field.plain], by simp [f, Field.plain], ?_, nofun, nofun⟩, rfl, ?_⟩
    · rintro (set | unnormalized)
      · cases set
      · exact absurd unnormalized normalized
    · simp only [Field.declaration_eq, List.append_nil]
      cases sortable <;> rfl
  · rintro ⟨f, placed, rfl, rfl⟩
    obtain ⟨noStem, weight, phonetic⟩ := placed.withoutText text
    obtain ⟨separator, caseSensitive⟩ := placed.withoutTag tag
    obtain ⟨withSuffixTrie, normalized⟩ := placed.withoutWords text tag
    have writtenWeight : f.writtenWeight = none := by rw [Field.writtenWeight, weight]; rfl
    have sorting : f.sorting.keywords.map .text = Token.flag "SORTABLE" (f.sorting != .no) := by
      cases chosen : f.sorting with
      | no => rfl
      | yes => rfl
      | unnormalized => exact absurd chosen normalized
    refine ⟨_, ⟨_, ⟨f.sorting != .no, rfl⟩, _, ⟨_, ⟨f.noIndex, rfl⟩, [], rfl, rfl⟩, rfl⟩, ?_⟩
    simp only [Field.declaration_eq, noStem, writtenWeight, phonetic, separator, caseSensitive,
      withSuffixTrie, sorting, Option.map_none, List.append_nil]
    rfl

/-- Declarations of the grammar are those of fields whose options are in place. -/
theorem mem_declaration_iff {tokens : List Token} :
    tokens ∈ textField + tagField + plainField "NUMERIC" + plainField "GEO" ↔
      ∃ f : Field, f.Placed ∧ f.declaration = tokens := by
  have numeric : tokens ∈ plainField "NUMERIC" ↔ _ :=
    mem_plainField_iff (show FieldKind.numeric ≠ .text by decide) (by decide)
  have geo : tokens ∈ plainField "GEO" ↔ _ :=
    mem_plainField_iff (show FieldKind.geo ≠ .text by decide) (by decide)
  simp only [Language.mem_add, mem_textField_iff, mem_tagField_iff, numeric, geo]
  constructor
  · rintro (((⟨f, placed, -, same⟩ | ⟨f, placed, -, same⟩) | ⟨f, placed, -, same⟩) |
      ⟨f, placed, -, same⟩) <;> exact ⟨f, placed, same⟩
  · rintro ⟨f, placed, same⟩
    cases kind : f.kind with
    | text => exact .inl (.inl (.inl ⟨f, placed, kind, same⟩))
    | tag => exact .inl (.inl (.inr ⟨f, placed, kind, same⟩))
    | numeric => exact .inl (.inr ⟨f, placed, kind, same⟩)
    | geo => exact .inr ⟨f, placed, kind, same⟩

/-- A name begins like a path exactly over documents whose fields are paths. -/
theorem isPath_iff {name : String} {document : DocumentKind} :
    (name.toList.head? = some '$' ↔ document = .json) ↔
      Field.isPath name = document.usesPaths := by
  cases document <;> simp [Field.isPath, DocumentKind.usesPaths]

/-- The fields of the grammar are the accepted ones. -/
theorem mem_field_iff {document : DocumentKind} {tokens : List Token} :
    tokens ∈ field document ↔ ∃ f : Field, f.Accepted document ∧ f.tokens = tokens := by
  simp only [field, fieldName, Language.mem_mul, mem_optional_value_iff, mem_declaration_iff,
    isPath_iff]
  constructor
  · rintro ⟨_, ⟨name, ⟨named, path⟩, rfl⟩, _, ⟨_, ⟨label, labelled, rfl⟩, _, ⟨f, placed, rfl⟩, rfl⟩,
      rfl⟩
    let g : Field := { f with name := name, label := label }
    have placed : g.Placed :=
      ⟨placed.ofText, placed.ofTag, placed.ofWords, placed.separator, placed.weight⟩
    have label : g.label ≠ some "" := fun empty => labelled "" empty rfl
    exact ⟨g, ⟨named, label, path, placed⟩, g.tokens_eq_declaration⟩
  · rintro ⟨f, accepted, rfl⟩
    have labelled : ∀ label ∈ f.label, label ≠ "" := by
      rintro _ given rfl
      exact accepted.label given
    exact ⟨_, ⟨f.name, ⟨accepted.name, accepted.path⟩, rfl⟩, _, ⟨_, ⟨f.label, labelled, rfl⟩,
      _, ⟨f, accepted.placed, rfl⟩, rfl⟩, f.tokens_eq_declaration.symm⟩

/-- What repeated fields derive are lists of accepted fields. -/
theorem mem_kstar_field_iff {document : DocumentKind} {tokens : List Token} :
    tokens ∈ (field document)∗ ↔
      ∃ fields : List Field, (∀ f ∈ fields, f.Accepted document) ∧
        fields.flatMap Field.tokens = tokens := by
  rw [Language.mem_kstar]
  constructor
  · rintro ⟨parts, rfl, inside⟩
    induction parts with
    | nil => exact ⟨[], List.forall_mem_nil _, rfl⟩
    | cons part parts ih =>
      rw [List.forall_mem_cons] at inside
      obtain ⟨f, accepted, rfl⟩ := mem_field_iff.mp inside.1
      obtain ⟨fields, others, same⟩ := ih inside.2
      refine ⟨f :: fields, List.forall_mem_cons.mpr ⟨accepted, others⟩, ?_⟩
      rw [List.flatMap_cons, List.flatten_cons, same]
  · rintro ⟨fields, accepted, rfl⟩
    refine ⟨fields.map Field.tokens, List.flatMap_def, ?_⟩
    intro part inside
    obtain ⟨f, declared, rfl⟩ := List.mem_map.mp inside
    exact mem_field_iff.mpr ⟨f, accepted f declared, rfl⟩

/-- What one field and repeated fields derive are lists of accepted fields that are not empty. -/
theorem mem_fields_iff {document : DocumentKind} {tokens : List Token} :
    tokens ∈ field document * (field document)∗ ↔
      ∃ fields : List Field, fields ≠ [] ∧ (∀ f ∈ fields, f.Accepted document) ∧
        fields.flatMap Field.tokens = tokens := by
  simp only [Language.mem_mul, mem_field_iff, mem_kstar_field_iff]
  constructor
  · rintro ⟨_, ⟨f, accepted, rfl⟩, _, ⟨fields, others, rfl⟩, rfl⟩
    exact ⟨f :: fields, nofun, List.forall_mem_cons.mpr ⟨accepted, others⟩, rfl⟩
  · rintro ⟨fields, declared, accepted, rfl⟩
    cases fields with
    | nil => contradiction
    | cons f fields =>
      rw [List.forall_mem_cons] at accepted
      exact ⟨_, ⟨f, accepted.1, rfl⟩, _, ⟨fields, accepted.2, rfl⟩, rfl⟩

end Grammar
end SearchWire
