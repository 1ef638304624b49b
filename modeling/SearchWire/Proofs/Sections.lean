import SearchWire.Clause
import Mathlib.Data.List.Forall2

/-!
# Optional sections in a fixed order

The options of a command are sections that may be absent: each has a keyword and a body, and they
are written in one order without any mark between them. A reader knows which section comes next from
the keyword alone, as long as the keywords differ and what stands behind the sections is not taken
for one of them. Stated for two lists of sections written alike: section by section they are the
same, and so is what follows them.
-/
namespace SearchWire

/-- Whether memory can hold a list: its elements take more than one octet each, and no more octets
are in use than the largest signed word counts. -/
def Storable {α : Type} (items : List α) : Prop := 2 * items.length ≤ Word.greatest

instance {α : Type} (items : List α) : Decidable (Storable items) :=
  inferInstanceAs (Decidable (2 * items.length ≤ Word.greatest))

/-- The number of the elements of a list in memory fits a signed word. -/
theorem Storable.length_le {α : Type} {items : List α} (storable : Storable items) :
    items.length ≤ Word.greatest := by
  have twice : 2 * items.length ≤ Word.greatest := storable
  omega

namespace Token

/-- Unsigned words that integer tokens hold are told apart by their tokens. -/
theorem ofNat_toNat_inj {left right : UInt64} (small : left.toNat ≤ Word.greatest)
    (small' : right.toNat ≤ Word.greatest) (same : ofNat left.toNat = ofNat right.toNat) :
    left = right :=
  UInt64.toNat_inj.mp (Word.saturate_inj small small' (integer.inj same))

/-- The same for words that may be absent. -/
theorem map_ofNat_toNat_inj {left right : Option UInt64}
    (small : ∀ n ∈ left, n.toNat ≤ Word.greatest) (small' : ∀ n ∈ right, n.toNat ≤ Word.greatest)
    (same : (left.map fun n => ofNat n.toNat) = right.map fun n => ofNat n.toNat) :
    left = right := by
  cases left with
  | none =>
    cases right with
    | none => rfl
    | some n => cases same
  | some m =>
    cases right with
    | none => cases same
    | some n => rw [ofNat_toNat_inj (small m rfl) (small' n rfl) (Option.some.inj same)]

end Token

/-- An option of a command: its keyword and, if it is present, the tokens behind the keyword. -/
structure Section where
  /-- The keyword that opens the section. -/
  keyword : String
  /-- The tokens behind the keyword of a section that is present. -/
  body : Option (List Token)

namespace Section

/-- The tokens of a section. -/
def tokens (s : Section) : List Token :=
  match s.body with
  | some body => .text s.keyword :: body
  | none => []

/-- A section that is a keyword alone. -/
def flag (keyword : String) (on : Bool) : Section := ⟨keyword, if on then some [] else none⟩

/-- A section that is a keyword and a value. -/
def keyed (keyword : String) (value : Option Token) : Section :=
  ⟨keyword, value.map fun t => [t]⟩

/-- A section that is a keyword and counted items. -/
def counted (keyword : String) (items : Option (List Token)) : Section :=
  ⟨keyword, items.map Token.counted⟩

/-- A keyword alone is written as a flag. -/
@[simp] theorem tokens_flag (keyword : String) (on : Bool) :
    (flag keyword on).tokens = Token.flag keyword on := by
  cases on <;> rfl

/-- A keyword and a value are written one after the other. -/
@[simp] theorem tokens_keyed (keyword : String) (value : Option Token) :
    (keyed keyword value).tokens = Token.keyed keyword value := by
  cases value <;> rfl

/-- Two flags with one keyword are the same exactly if both are on or both are off. -/
@[simp] theorem flag_inj {keyword : String} {left right : Bool} :
    flag keyword left = flag keyword right ↔ left = right := by
  cases left <;> cases right <;> simp [flag]

/-- Two values behind one keyword are the same exactly if the sections are. -/
@[simp] theorem keyed_inj {keyword : String} {left right : Option Token} :
    keyed keyword left = keyed keyword right ↔ left = right := by
  cases left <;> cases right <;> simp [keyed]

/-- Two counted lists behind one keyword are the same exactly if the sections are. -/
@[simp] theorem counted_inj {keyword : String} {left right : Option (List Token)} :
    counted keyword left = counted keyword right ↔ left = right := by
  cases left <;> cases right <;> simp +contextual [counted, Token.counted]

/-- A keyword that is written only if its option is on is written as the section. -/
theorem flatMap_flag (keyword : String) (on : Bool) :
    (if on then [Part.flag keyword] else []).flatMap Part.tokens = (flag keyword on).tokens := by
  cases on <;> rfl

/-- A part that is written only if there is a value is written as the section. -/
theorem flatMap_keyed {α : Type} (keyword : String) (write : α → Token) (value : Option α) :
    (value.map fun a => Part.keyed keyword (write a)).toList.flatMap Part.tokens =
      (keyed keyword (value.map write)).tokens := by
  cases value <;> rfl

/-- A counted part that is written only if there is a list is written as the section. -/
theorem flatMap_counted {α : Type} (keyword : String) (write : α → List Token)
    (value : Option α) :
    (value.map fun a => Part.counted keyword (write a)).toList.flatMap Part.tokens =
      (counted keyword (value.map write)).tokens := by
  cases value with
  | none => rfl
  | some a => exact List.append_nil _

/-- A counted part that is left out if there is nothing to count is written as the section. -/
theorem flatMap_counted_unless (keyword : String) (empty : Bool) (items : List Token) :
    (if empty then [] else [Part.counted keyword items]).flatMap Part.tokens =
      (counted keyword (if empty then none else some items)).tokens := by
  cases empty with
  | true => rfl
  | false => exact List.append_nil _

/-! ## Bodies that end at the same place -/

/-- Two lists of tokens that are the same as soon as one list begins with both. -/
def Level (left right : List Token) : Prop :=
  ∀ rest rest', left ++ rest = right ++ rest' → left = right

/-- Lists of one length are level. -/
theorem level_of_length {left right : List Token} (length : left.length = right.length) :
    Level left right := by
  intro rest rest' same
  exact (List.append_inj same length).1

/-- The count in front tells where counted items end, unless it had to be clamped. -/
theorem level_counted {left right : List Token} (small : left.length ≤ Word.greatest)
    (small' : right.length ≤ Word.greatest) :
    Level (Token.counted left) (Token.counted right) := by
  intro rest rest' same
  simp only [Token.counted, Token.ofNat, List.cons_append, List.cons.injEq,
    Token.integer.injEq] at same
  have length : left.length = right.length := Word.saturate_inj small small' same.1
  rw [(List.append_inj same.2 length).1]

/-- Two sections with one keyword whose bodies, if both are present, are level. -/
structure Aligned (left right : Section) : Prop where
  /-- The keywords agree. -/
  keyword : left.keyword = right.keyword
  /-- The bodies are level. -/
  level : ∀ body ∈ left.body, ∀ body' ∈ right.body, Level body body'

/-- Aligned lists of sections have the same keywords. -/
theorem map_keyword_eq {left right : List Section} (aligned : List.Forall₂ Aligned left right) :
    right.map keyword = left.map keyword := by
  induction aligned with
  | nil => rfl
  | cons first _ ih => rw [List.map_cons, List.map_cons, first.keyword, ih]

/-- Two flags with one keyword are aligned. -/
theorem aligned_flag (keyword : String) (left right : Bool) :
    Aligned (flag keyword left) (flag keyword right) := by
  refine ⟨rfl, ?_⟩
  intro body inside body' inside'
  cases left <;> cases right <;> simp_all [flag, Level]

/-- Two values behind one keyword are aligned. -/
theorem aligned_keyed (keyword : String) (left right : Option Token) :
    Aligned (keyed keyword left) (keyed keyword right) := by
  refine ⟨rfl, ?_⟩
  intro body inside body' inside'
  obtain ⟨value, -, rfl⟩ := Option.map_eq_some_iff.mp inside
  obtain ⟨value', -, rfl⟩ := Option.map_eq_some_iff.mp inside'
  exact level_of_length rfl

/-- Two counted lists behind one keyword are aligned if no count had to be clamped. -/
theorem aligned_counted (keyword : String) {left right : Option (List Token)}
    (small : ∀ items ∈ left, items.length ≤ Word.greatest)
    (small' : ∀ items ∈ right, items.length ≤ Word.greatest) :
    Aligned (counted keyword left) (counted keyword right) := by
  refine ⟨rfl, ?_⟩
  intro body inside body' inside'
  obtain ⟨items, present, rfl⟩ := Option.map_eq_some_iff.mp inside
  obtain ⟨items', present', rfl⟩ := Option.map_eq_some_iff.mp inside'
  exact level_counted (small items present) (small' items' present')

/-! ## What may follow -/

/-- Whether a list of tokens goes on with one of some keywords, or else in another way. -/
def Continues (words : List String) (other : List Token → Prop) (rest : List Token) : Prop :=
  (∃ word ∈ words, ∃ later, rest = .text word :: later) ∨ other rest

/-- More keywords allow more. -/
theorem Continues.mono {words words' : List String} {other : List Token → Prop}
    {rest : List Token} (within : words ⊆ words') (continues : Continues words other rest) :
    Continues words' other rest := by
  rcases continues with ⟨word, inside, found⟩ | found
  · exact .inl ⟨word, within inside, found⟩
  · exact .inr found

/-- Sections in front of a list add their keywords to those it may go on with. -/
theorem continues_flatMap {sections : List Section} {other : List Token → Prop}
    {rest : List Token} (ends : other rest) :
    Continues (sections.map keyword) other (sections.flatMap tokens ++ rest) := by
  induction sections with
  | nil => exact .inr ends
  | cons s later ih =>
    rw [List.flatMap_cons, List.append_assoc, List.map_cons]
    cases present : s.body with
    | none =>
      simp only [tokens, present, List.nil_append]
      exact ih.mono (List.subset_cons_self ..)
    | some body =>
      simp only [tokens, present, List.cons_append]
      exact .inl ⟨s.keyword, List.mem_cons_self, _, rfl⟩

/-- A keyword that is not among those a list may go on with does not open it, if the other way to
go on does not allow it either. -/
theorem not_continues_cons {keyword : String} {words : List String}
    {other : List Token → Prop} {rest : List Token} (fresh : keyword ∉ words)
    (apart : ¬other (.text keyword :: rest)) : ¬Continues words other (.text keyword :: rest) := by
  rintro (⟨word, inside, later, same⟩ | found)
  · simp only [List.cons.injEq, Token.text.injEq] at same
    rw [same.1] at fresh
    exact fresh inside
  · exact apart found

/-- A section and what follows it are told apart, if its keyword opens nothing that may follow. -/
theorem tokens_append_inj {left right : Section} {words : List String}
    {other : List Token → Prop} {rest rest' : List Token} (aligned : Aligned left right)
    (fresh : left.keyword ∉ words)
    (apart : ∀ body ∈ left.body, ¬other (.text left.keyword :: (body ++ rest)))
    (apart' : ∀ body ∈ right.body, ¬other (.text right.keyword :: (body ++ rest')))
    (continues : Continues words other rest) (continues' : Continues words other rest')
    (same : left.tokens ++ rest = right.tokens ++ rest') : left = right ∧ rest = rest' := by
  obtain ⟨keyword, body⟩ := left
  obtain ⟨keyword', body'⟩ := right
  obtain rfl : keyword = keyword' := aligned.keyword
  cases body with
  | none =>
    cases body' with
    | none => exact ⟨rfl, same⟩
    | some body' =>
      simp only [tokens, List.nil_append, List.cons_append] at same
      rw [same] at continues
      exact absurd continues (not_continues_cons fresh (apart' body' rfl))
  | some body =>
    cases body' with
    | none =>
      simp only [tokens, List.nil_append, List.cons_append] at same
      rw [← same] at continues'
      exact absurd continues' (not_continues_cons fresh (apart body rfl))
    | some body' =>
      simp only [tokens, List.cons_append, List.cons.injEq, true_and] at same
      have bodies : body = body' := aligned.level body rfl body' rfl rest rest' same
      rw [bodies] at same ⊢
      exact ⟨rfl, List.append_cancel_left same⟩

/-- Lists of sections written alike are the same section by section, and so is what follows. -/
theorem flatMap_tokens_append_inj {left right : List Section} {words : List String}
    {other : List Token → Prop} {rest rest' : List Token}
    (aligned : List.Forall₂ Aligned left right) (distinct : (left.map keyword).Nodup)
    (known : left.map keyword ⊆ words)
    (apart : ∀ s ∈ left ++ right, ∀ body ∈ s.body, ∀ later, Continues words other later →
      ¬other (.text s.keyword :: (body ++ later)))
    (ends : other rest) (ends' : other rest')
    (same : left.flatMap tokens ++ rest = right.flatMap tokens ++ rest') :
    left = right ∧ rest = rest' := by
  induction aligned with
  | nil => exact ⟨rfl, same⟩
  | @cons s t left right first later ih =>
    have continues : Continues (left.map keyword) other (left.flatMap tokens ++ rest) :=
      continues_flatMap ends
    have continues' : Continues (left.map keyword) other (right.flatMap tokens ++ rest') :=
      map_keyword_eq later ▸ continues_flatMap ends'
    rw [List.map_cons, List.nodup_cons] at distinct
    rw [List.map_cons, List.cons_subset] at known
    rw [List.flatMap_cons, List.flatMap_cons, List.append_assoc, List.append_assoc] at same
    obtain ⟨rfl, remaining⟩ := tokens_append_inj first distinct.1
      (fun body present => apart s (by simp) body present _ (continues.mono known.2))
      (fun body present => apart t (by simp) body present _ (continues'.mono known.2))
      continues continues' same
    obtain ⟨rfl, rest⟩ := ih distinct.2 known.2
      (fun s inside => apart s (by simp at inside ⊢; tauto)) remaining
    exact ⟨rfl, rest⟩

/-- Sections are told apart if none of their keywords opens what may follow all of them. -/
theorem flatMap_tokens_append_inj_of_fresh {left right : List Section}
    {other : List Token → Prop} {rest rest' : List Token}
    (aligned : List.Forall₂ Aligned left right) (distinct : (left.map keyword).Nodup)
    (fresh : ∀ word ∈ left.map keyword, ∀ later, ¬other (.text word :: later))
    (ends : other rest) (ends' : other rest')
    (same : left.flatMap tokens ++ rest = right.flatMap tokens ++ rest') :
    left = right ∧ rest = rest' := by
  refine flatMap_tokens_append_inj aligned distinct (List.Subset.refl _) ?_ ends ends' same
  intro s inside body _ later _
  rcases List.mem_append.mp inside with inside | inside
  · exact fresh s.keyword (List.mem_map_of_mem inside) _
  · exact fresh s.keyword (map_keyword_eq aligned ▸ List.mem_map_of_mem inside) _

/-- Sections with nothing behind them are told by their tokens. -/
theorem flatMap_tokens_inj {left right : List Section} (aligned : List.Forall₂ Aligned left right)
    (distinct : (left.map keyword).Nodup)
    (same : left.flatMap tokens = right.flatMap tokens) : left = right := by
  rw [← List.append_nil (left.flatMap tokens), ← List.append_nil (right.flatMap tokens)] at same
  exact (@flatMap_tokens_append_inj_of_fresh left right (· = []) [] [] aligned distinct
    (fun _ _ _ => List.cons_ne_nil _ _) rfl rfl same).1

/-! ## Repetitions -/

/-- Keywords in two groups are one group of keywords. -/
theorem continues_append {words words' : List String} {other : List Token → Prop}
    {rest : List Token} :
    Continues (words ++ words') other rest ↔ Continues words (Continues words' other) rest := by
  simp only [Continues, List.mem_append, or_and_right, exists_or, or_assoc]

/-- A keyword that is not among those a list may go on with does not open it. -/
theorem not_continues_of_notMem {keyword : String} {words : List String} (fresh : keyword ∉ words)
    (rest : List Token) : ¬Continues words (· = []) (.text keyword :: rest) :=
  not_continues_cons fresh (List.cons_ne_nil _ _)

/-- Items that open with certain keywords add these to those a list may go on with. -/
theorem continues_items {α : Type} {write : α → List Token} {starts : List String}
    {other : List Token → Prop}
    (opens : ∀ a, ∃ word ∈ starts, ∃ later, write a = .text word :: later) (items : List α)
    {rest : List Token} (ends : other rest) :
    Continues starts other (items.flatMap write ++ rest) := by
  cases items with
  | nil => exact .inr ends
  | cons a items =>
    obtain ⟨word, inside, later, first⟩ := opens a
    rw [List.flatMap_cons, first]
    exact .inl ⟨word, inside, _, rfl⟩

/-- Items in a row are told apart if each one is, in front of more of them or of what follows, and
if none of their keywords opens what follows. -/
theorem items_append_inj {α : Type} {write : α → List Token} {starts : List String}
    {other : List Token → Prop} {left right : List α} {rest rest' : List Token}
    (opens : ∀ a, ∃ word ∈ starts, ∃ later, write a = .text word :: later)
    (fresh : ∀ word ∈ starts, ∀ later, ¬other (.text word :: later))
    (single : ∀ a ∈ left, ∀ b ∈ right, ∀ later later', Continues starts other later →
      Continues starts other later' → write a ++ later = write b ++ later' →
      a = b ∧ later = later')
    (ends : other rest) (ends' : other rest')
    (same : left.flatMap write ++ rest = right.flatMap write ++ rest') :
    left = right ∧ rest = rest' := by
  induction left generalizing right with
  | nil =>
    cases right with
    | nil => exact ⟨rfl, same⟩
    | cons b right =>
      obtain ⟨word, inside, later, first⟩ := opens b
      rw [List.flatMap_nil, List.nil_append, List.flatMap_cons, first] at same
      rw [same] at ends
      exact absurd ends (fresh word inside _)
  | cons a left ih =>
    cases right with
    | nil =>
      obtain ⟨word, inside, later, first⟩ := opens a
      rw [List.flatMap_nil, List.nil_append, List.flatMap_cons, first] at same
      rw [← same] at ends'
      exact absurd ends' (fresh word inside _)
    | cons b right =>
      rw [List.flatMap_cons, List.flatMap_cons, List.append_assoc, List.append_assoc] at same
      obtain ⟨rfl, remaining⟩ := single a (by simp) b (by simp) _ _
        (continues_items opens left ends) (continues_items opens right ends') same
      obtain ⟨rfl, rest⟩ := ih
        (fun x inside y inside' => single x (by simp [inside]) y (by simp [inside'])) remaining
      exact ⟨rfl, rest⟩

/-- Items written as two tokens each are told apart if their tokens tell them. -/
theorem flatMap_pair_inj {α : Type} {first second : α → Token} {left right : List α}
    (told : ∀ a b, first a = first b → second a = second b → a = b)
    (same : (left.flatMap fun a => [first a, second a]) =
      right.flatMap fun a => [first a, second a]) : left = right := by
  induction left generalizing right with
  | nil =>
    cases right with
    | nil => rfl
    | cons b right => simp at same
  | cons a left ih =>
    cases right with
    | nil => simp at same
    | cons b right =>
      simp only [List.flatMap_cons, List.cons_append, List.nil_append, List.cons.injEq] at same
      rw [told a b same.1 same.2.1, ih same.2.2]

end Section

end SearchWire
