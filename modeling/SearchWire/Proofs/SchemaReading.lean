import SearchWire.Proofs.NormalForm
import SearchWire.Proofs.Sections

/-!
# One reading of a list of schema fields

Schema fields are written one after the other without a mark between them, and a field may be named
like an option: behind the kind of a field, `NOINDEX` is its option or the name of the next field.
The two readings part there and never meet again. The one that took a name still owes a kind, so
the other has to take the kind as a name, and now owes one itself: at every later token one of the
two readings stands inside a field. Since a list of fields ends at the end of a field, only one of
the two readings can end.
-/
namespace SearchWire

namespace Field

/-- The options of a field behind its kind, in their one order. -/
def sections (f : Field) : List Section :=
  [.flag "NOSTEM" f.noStem,
    .keyed "WEIGHT" (f.writtenWeight.map .double),
    .keyed "PHONETIC" (f.phonetic.map fun language => .text language.matcher),
    .keyed "SEPARATOR" (f.separator.map fun c => .text c.toString),
    .flag "CASESENSITIVE" f.caseSensitive,
    .flag "WITHSUFFIXTRIE" f.withSuffixTrie,
    .flag "SORTABLE" (f.sorting != .no),
    .flag "UNF" (f.sorting == .unnormalized),
    .flag "NOINDEX" f.noIndex]

/-- The keywords of the options of a field. -/
def optionWords : List String :=
  ["NOSTEM", "WEIGHT", "PHONETIC", "SEPARATOR", "CASESENSITIVE", "WITHSUFFIXTRIE", "SORTABLE",
    "UNF", "NOINDEX"]

/-- Every field has the same options to offer. -/
theorem map_keyword_sections (f : Field) : f.sections.map Section.keyword = optionWords := rfl

/-- The tokens of a field behind its name. -/
def afterName (f : Field) : List Token :=
  Token.keyed "AS" (f.label.map .text) ++
    .text f.kind.keyword :: f.sections.flatMap Section.tokens

/-- The keywords of sorting are two flags. -/
theorem keywords_eq (s : Sorting) :
    s.keywords.map Token.text =
      Token.flag "SORTABLE" (s != .no) ++ Token.flag "UNF" (s == .unnormalized) := by
  cases s <;> rfl

/-- A field is its name and what stands behind it. -/
theorem tokens_eq (f : Field) : f.tokens = .text f.name :: f.afterName := by
  simp only [tokens, afterName, sections, List.flatMap_cons, List.flatMap_nil,
    Section.tokens_flag, Section.tokens_keyed, keywords_eq, List.cons_append, List.append_assoc,
    List.append_nil]

/-! ## Places in a list of fields -/

/-- Whether tokens are a list of fields. -/
def Boundary (tokens : List Token) : Prop :=
  ∃ fields : List Field, tokens = fields.flatMap Field.tokens

/-- Whether tokens are what stands behind the name of a field, and then a list of fields. -/
def Named (tokens : List Token) : Prop :=
  ∃ (f : Field) (fields : List Field), tokens = f.afterName ++ fields.flatMap Field.tokens

/-- Whether a token can stand behind the name of a field. -/
def EndsName (t : Token) : Prop := t = .text "AS" ∨ ∃ kind : FieldKind, t = .text kind.keyword

/-- Behind a name stands `AS` or a kind. -/
theorem Named.endsName {t : Token} {rest : List Token} (named : Named (t :: rest)) :
    EndsName t := by
  obtain ⟨f, fields, same⟩ := named
  cases label : f.label with
  | none =>
    simp only [afterName, label, Option.map_none, Token.keyed, List.nil_append,
      List.cons_append, List.cons.injEq] at same
    exact .inr ⟨f.kind, same.1⟩
  | some name =>
    simp only [afterName, label, Option.map_some, Token.keyed, List.cons_append,
      List.cons.injEq] at same
    exact .inl same.1

/-- What stands behind a name is not empty. -/
theorem not_named_nil : ¬Named [] := by
  rintro ⟨f, fields, same⟩
  simp [afterName] at same

/-- Behind the kind of a field stand its options and then a list of fields. -/
theorem continues_sections (f : Field) (fields : List Field) :
    Section.Continues optionWords Boundary
      (f.sections.flatMap Section.tokens ++ fields.flatMap Field.tokens) := by
  rw [← map_keyword_sections f]
  exact Section.continues_flatMap ⟨fields, rfl⟩

/-- Neither `AS` nor a kind is the keyword of an option. -/
theorem not_endsName_optionWord {word : String} (inside : word ∈ optionWords) :
    ¬EndsName (.text word) := by
  have apart : ∀ word ∈ optionWords, word ≠ "AS" ∧ ∀ kind : FieldKind, word ≠ kind.keyword := by
    intro word inside
    refine ⟨?_, fun kind => ?_⟩
    · rintro rfl
      revert inside
      decide
    · rintro rfl
      revert inside
      cases kind <;> decide
  rintro (same | ⟨kind, same⟩)
  · exact (apart word inside).1 (Token.text.inj same)
  · exact (apart word inside).2 kind (Token.text.inj same)

/-- A reading that stands among the options, while another stands behind a name, is at the end of
its field. -/
theorem Named.boundary {tokens : List Token} (named : Named tokens)
    (continues : Section.Continues optionWords Boundary tokens) : Boundary tokens := by
  rcases continues with ⟨word, inside, later, rfl⟩ | found
  · exact absurd named.endsName (not_endsName_optionWord inside)
  · exact found

/-- Behind a kind as behind a name that has no label. -/
theorem named_kind (f : Field) (fields : List Field) :
    Named (.text f.kind.keyword ::
      (f.sections.flatMap Section.tokens ++ fields.flatMap Field.tokens)) :=
  ⟨{ f with label := none }, fields, rfl⟩

/-- Two readings of the same tokens of which one stands behind a name and the other at the end of
a field cannot both come to an end. -/
theorem Named.not_boundary {tokens : List Token} (named : Named tokens) : ¬Boundary tokens := by
  -- Whatever the next tokens are, two or three of them lead to the same situation, the readings
  -- having changed places at most.
  intro boundary
  obtain ⟨f, fields, named⟩ := named
  obtain ⟨others, boundary⟩ := boundary
  cases others with
  | nil => exact not_named_nil ⟨f, fields, boundary.symm.trans named⟩
  | cons g others =>
    rw [List.flatMap_cons, tokens_eq, List.cons_append] at boundary
    cases label : f.label with
    | none =>
      simp only [afterName, label, Option.map_none, Token.keyed, List.nil_append,
        List.cons_append] at named
      have shifted := (List.cons.inj (named.symm.trans boundary)).2
      have next : Named (f.sections.flatMap Section.tokens ++ fields.flatMap Field.tokens) :=
        ⟨g, others, shifted⟩
      have shorter : (f.sections.flatMap Section.tokens ++
          fields.flatMap Field.tokens).length < tokens.length := by
        rw [named, List.length_cons]
        exact Nat.lt_succ_self _
      exact next.not_boundary (next.boundary (continues_sections f fields))
    | some name =>
      simp only [afterName, label, Option.map_some, Token.keyed, List.cons_append,
        List.nil_append] at named
      have shifted := (List.cons.inj (named.symm.trans boundary)).2
      cases other : g.label with
      | none =>
        simp only [afterName, other, Option.map_none, Token.keyed, List.nil_append,
          List.cons_append] at shifted
        have next := named_kind f fields
        have behind := (List.cons.inj shifted).2
        have shorter : (Token.text f.kind.keyword :: (f.sections.flatMap Section.tokens ++
            fields.flatMap Field.tokens)).length < tokens.length := by
          simp only [named, List.length_cons]
          omega
        exact next.not_boundary (next.boundary (behind ▸ continues_sections g others))
      | some name' =>
        simp only [afterName, other, Option.map_some, Token.keyed, List.cons_append,
          List.nil_append, List.cons.injEq] at shifted
        have next := named_kind g others
        have shorter : (Token.text g.kind.keyword :: (g.sections.flatMap Section.tokens ++
            others.flatMap Field.tokens)).length < tokens.length := by
          simp only [named, ← shifted.2.2, List.length_cons]
          omega
        exact next.not_boundary (next.boundary (shifted.2.2 ▸ continues_sections f fields))
termination_by tokens.length
decreasing_by all_goals exact shorter

/-- A list of fields that begins with a keyword has it as its first name. -/
theorem Boundary.named {word : Token} {rest : List Token} (boundary : Boundary (word :: rest)) :
    Named rest := by
  obtain ⟨fields, same⟩ := boundary
  cases fields with
  | nil => simp at same
  | cons f fields =>
    rw [List.flatMap_cons, tokens_eq, List.cons_append, List.cons.injEq] at same
    exact ⟨f, fields, same.2⟩

/-! ## The options of one field -/

/-- The name of a matcher does not end the name of a field. -/
theorem not_endsName_matcher (language : Phonetic) : ¬EndsName (.text language.matcher) := by
  rintro (same | ⟨kind, same⟩)
  · cases language <;> simp [Phonetic.matcher] at same
  · cases language <;> cases kind <;> simp [Phonetic.matcher, FieldKind.keyword] at same

/-- A single character does not end the name of a field. -/
theorem not_endsName_character (c : Char) : ¬EndsName (.text c.toString) := by
  have single : c.toString.length = 1 := by simp [Char.toString]
  rintro (same | ⟨kind, same⟩)
  · rw [Token.text.inj same] at single
    contradiction
  · rw [Token.text.inj same] at single
    cases kind <;> contradiction

/-- No section of a field has a body that begins like the end of a name. -/
theorem body_sections (f : Field) {s : Section} (inside : s ∈ f.sections) {body : List Token}
    (present : body ∈ s.body) : body = [] ∨ ∃ value, body = [value] ∧ ¬EndsName value := by
  have flagged : ∀ (keyword : String) (on : Bool), body ∈ (Section.flag keyword on).body →
      body = [] := by
    intro keyword on present
    cases on <;> simp_all [Section.flag]
  have valued : ∀ (keyword : String) (value : Option Token),
      (∀ v ∈ value, ¬EndsName v) → body ∈ (Section.keyed keyword value).body →
      ∃ v, body = [v] ∧ ¬EndsName v := by
    intro keyword value apart present
    obtain ⟨v, found, rfl⟩ := Option.map_eq_some_iff.mp present
    exact ⟨v, rfl, apart v found⟩
  simp only [sections, List.mem_cons, List.not_mem_nil, or_false] at inside
  rcases inside with rfl | rfl | rfl | rfl | rfl | rfl | rfl | rfl | rfl
  · exact .inl (flagged _ _ present)
  · refine .inr (valued _ _ ?_ present)
    intro v found
    obtain ⟨w, -, rfl⟩ := Option.map_eq_some_iff.mp found
    simp [EndsName]
  · refine .inr (valued _ _ ?_ present)
    intro v found
    obtain ⟨language, -, rfl⟩ := Option.map_eq_some_iff.mp found
    exact not_endsName_matcher language
  · refine .inr (valued _ _ ?_ present)
    intro v found
    obtain ⟨c, -, rfl⟩ := Option.map_eq_some_iff.mp found
    exact not_endsName_character c
  all_goals exact .inl (flagged _ _ present)

/-- The keyword of an option never opens the name of a field, if the tokens behind the option go on
within the same field or end it. -/
theorem sections_apart (f : Field) {s : Section} (inside : s ∈ f.sections) {body : List Token}
    (present : body ∈ s.body) {later : List Token}
    (continues : Section.Continues optionWords Boundary later) :
    ¬Boundary (.text s.keyword :: (body ++ later)) := by
  intro boundary
  have named : Named (body ++ later) := boundary.named
  rcases f.body_sections inside present with rfl | ⟨value, rfl, apart⟩
  · exact named.not_boundary (named.boundary continues)
  · exact apart named.endsName

/-- The sections of two fields are aligned. -/
theorem aligned_sections (f g : Field) :
    List.Forall₂ Section.Aligned f.sections g.sections := by
  simp only [sections, List.forall₂_cons, List.forall₂_nil_left_iff, Section.aligned_flag,
    Section.aligned_keyed, true_and]

/-- Options written alike in front of lists of fields are the same, and so is what follows. -/
theorem sections_append_inj {f g : Field} {fields others : List Field}
    (same : f.sections.flatMap Section.tokens ++ fields.flatMap Field.tokens =
      g.sections.flatMap Section.tokens ++ others.flatMap Field.tokens) :
    f.sections = g.sections ∧ fields.flatMap Field.tokens = others.flatMap Field.tokens := by
  have known : f.sections.map Section.keyword ⊆ optionWords := List.Subset.refl _
  have ends : Boundary (fields.flatMap Field.tokens) := ⟨fields, rfl⟩
  have ends' : Boundary (others.flatMap Field.tokens) := ⟨others, rfl⟩
  refine Section.flatMap_tokens_append_inj (aligned_sections f g)
    (by rw [map_keyword_sections]; decide) known ?_ ends ends' same
  intro s inside body present later continues
  rcases List.mem_append.mp inside with inside | inside
  · exact f.sections_apart inside present continues
  · exact g.sections_apart inside present continues

/-- The name of a matcher tells its language. -/
theorem matcher_inj {left right : Phonetic} (same : left.matcher = right.matcher) :
    left = right := by
  revert same
  cases left <;> cases right <;> simp [Phonetic.matcher]

/-- Fields with the same name, label, kind and written options have one normal form. -/
theorem normal_eq_of_sections {f g : Field} (name : f.name = g.name) (label : f.label = g.label)
    (kind : f.kind = g.kind) (sections : f.sections = g.sections) : f.normal = g.normal := by
  simp only [Field.sections, List.cons.injEq, Section.flag_inj, Section.keyed_inj, and_true]
    at sections
  obtain ⟨noStem, weight, phonetic, separator, caseSensitive, withSuffixTrie, sortable, unf,
    noIndex⟩ := sections
  have weight : f.normal.weight = g.normal.weight := by
    rw [← writtenWeight_eq, ← writtenWeight_eq]
    exact Option.map_injective (fun _ _ => Token.double.inj) weight
  have phonetic : f.phonetic = g.phonetic :=
    Option.map_injective (fun _ _ same => matcher_inj (Token.text.inj same)) phonetic
  have separator : f.separator = g.separator :=
    Option.map_injective (fun _ _ same => String.singleton_inj.mp (Token.text.inj same)) separator
  have sorting : f.sorting = g.sorting := by
    revert sortable unf
    cases f.sorting <;> cases g.sorting <;> simp
  simp only [normal] at weight ⊢
  rw [name, label, kind, noStem, weight, phonetic, separator, caseSensitive, withSuffixTrie,
    sorting, noIndex]

/-- What stands behind two names, written alike, comes from one normal form. -/
theorem afterName_append_inj {f g : Field} {fields others : List Field}
    (same : f.afterName ++ fields.flatMap Field.tokens =
      g.afterName ++ others.flatMap Field.tokens) (name : f.name = g.name) :
    f.normal = g.normal ∧ fields.flatMap Field.tokens = others.flatMap Field.tokens := by
  have kinds : ∀ left right : FieldKind, left.keyword = right.keyword → left = right := by
    intro left right same
    revert same
    cases left <;> cases right <;> simp [FieldKind.keyword]
  have noKind : ∀ kind : FieldKind, kind.keyword ≠ "AS" := by
    intro kind
    cases kind <;> decide
  simp only [afterName, List.append_assoc, List.cons_append] at same
  cases label : f.label with
  | none =>
    cases label' : g.label with
    | none =>
      simp only [label, label', Option.map_none, Token.keyed, List.nil_append, List.cons.injEq,
        Token.text.injEq] at same
      obtain ⟨sections, rest⟩ := sections_append_inj same.2
      exact ⟨normal_eq_of_sections name (label.trans label'.symm) (kinds _ _ same.1) sections,
        rest⟩
    | some =>
      simp only [label, label', Option.map_none, Option.map_some, Token.keyed, List.nil_append,
        List.cons_append, List.cons.injEq, Token.text.injEq] at same
      exact absurd same.1 (noKind f.kind)
  | some text =>
    cases label' : g.label with
    | none =>
      simp only [label, label', Option.map_none, Option.map_some, Token.keyed, List.nil_append,
        List.cons_append, List.cons.injEq, Token.text.injEq] at same
      exact absurd same.1.symm (noKind g.kind)
    | some text' =>
      simp only [label, label', Option.map_some, Token.keyed, List.nil_append, List.cons_append,
        List.cons.injEq, Token.text.injEq, true_and] at same
      obtain ⟨rfl, kind, same⟩ := same
      obtain ⟨sections, rest⟩ := sections_append_inj same
      exact ⟨normal_eq_of_sections name (label.trans label'.symm) (kinds _ _ kind) sections, rest⟩

/-- Lists of fields are written alike exactly if their normal forms agree. -/
theorem flatMap_tokens_eq_iff {fields others : List Field} :
    fields.flatMap Field.tokens = others.flatMap Field.tokens ↔
      fields.map normal = others.map normal := by
  constructor
  · intro same
    induction fields generalizing others with
    | nil =>
      cases others with
      | nil => rfl
      | cons g others => simp [tokens_eq] at same
    | cons f fields ih =>
      cases others with
      | nil => simp [tokens_eq] at same
      | cons g others =>
        rw [List.flatMap_cons, List.flatMap_cons, tokens_eq, tokens_eq, List.cons_append,
          List.cons_append, List.cons.injEq] at same
        obtain ⟨first, rest⟩ := afterName_append_inj same.2 (Token.text.inj same.1)
        rw [List.map_cons, List.map_cons, first, ih rest]
  · intro same
    have written : ∀ fields : List Field,
        fields.flatMap Field.tokens = (fields.map normal).flatMap Field.tokens := by
      intro fields
      rw [List.flatMap_map]
      simp only [tokens_normal]
    rw [written fields, same, ← written others]

end Field

end SearchWire
