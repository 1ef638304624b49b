import Mathlib.Computability.Language
import SearchWire.Proofs.Sections

/-!
# Grammars of tokens

A grammar is put together from languages of tokens: a keyword, a value within its range, texts
behind their number, and what may be left out. The optional sections of a command are one after the
other what such a grammar derives: each lemma here says which tokens an optional phrase has, as the
tokens of a section with or without a body.
-/
namespace SearchWire.Grammar

/-- A keyword. -/
def word (keyword : String) : Language Token := {[.text keyword]}

/-- One token, written for a value within its range. -/
def value {α : Type} (write : α → Token) (range : α → Prop) : Language Token :=
  {tokens | ∃ a, range a ∧ tokens = [write a]}

/-- One text, whatever it is. -/
def anyText : Language Token := value .text fun _ => True

/-- Texts behind an integer that is their number. -/
def counted (range : List String → Prop) : Language Token :=
  {tokens | ∃ (n : Int64) (items : List String), n.toInt = items.length ∧ range items ∧
    tokens = .integer n :: items.map .text}

/-- What may be left out. -/
def optional (phrase : Language Token) : Language Token := 1 + phrase

/-- No phrases derive nothing. -/
theorem mem_nil_prod_iff {tokens : List Token} :
    tokens ∈ ([] : List (Language Token)).prod ↔ tokens = [] := by
  rw [List.prod_nil, Language.mem_one]

/-- Phrases in a row derive what the first one derives and then what the others derive. -/
theorem mem_cons_prod_iff {first : Language Token} {rest : List (Language Token)}
    {tokens : List Token} :
    tokens ∈ (first :: rest).prod ↔
      ∃ part ∈ first, ∃ later ∈ rest.prod, part ++ later = tokens := by
  rw [List.prod_cons, Language.mem_mul]

/-- Sections that phrases derive one by one are derived by the phrases in a row. -/
theorem flatMap_tokens_mem_prod {sections : List Section} {phrases : List (Language Token)}
    (each : List.Forall₂ (fun s phrase => s.tokens ∈ phrase) sections phrases) :
    sections.flatMap Section.tokens ∈ phrases.prod := by
  induction each with
  | nil => exact mem_nil_prod_iff.mpr rfl
  | cons first _ ih => exact mem_cons_prod_iff.mpr ⟨_, first, _, ih, rfl⟩

/-- A keyword in front of a phrase is the first token. -/
theorem mem_word_mul_iff {keyword : String} {phrase : Language Token} {tokens : List Token} :
    tokens ∈ word keyword * phrase ↔ ∃ rest ∈ phrase, tokens = .text keyword :: rest := by
  rw [Language.mem_mul]
  constructor
  · rintro ⟨_, rfl, rest, inside, rfl⟩
    exact ⟨rest, inside, rfl⟩
  · rintro ⟨rest, inside, rfl⟩
    exact ⟨[.text keyword], rfl, rest, inside, rfl⟩

/-- An optional phrase derives nothing or what the phrase derives. -/
theorem mem_optional_iff {phrase : Language Token} {tokens : List Token} :
    tokens ∈ optional phrase ↔ tokens = [] ∨ tokens ∈ phrase := by
  rw [optional, Language.mem_add, Language.mem_one]

/-- An optional keyword derives the tokens of a flag. -/
theorem mem_optional_word_iff {keyword : String} {tokens : List Token} :
    tokens ∈ optional (word keyword) ↔ ∃ on, tokens = Token.flag keyword on := by
  rw [mem_optional_iff]
  constructor
  · rintro (rfl | rfl)
    · exact ⟨false, rfl⟩
    · exact ⟨true, rfl⟩
  · rintro ⟨on, rfl⟩
    cases on with
    | false => exact .inl rfl
    | true => exact .inr rfl

/-- An optional keyword and its value derive the tokens of an option whose value, if there is one,
is within its range. -/
theorem mem_optional_value_iff {α : Type} {keyword : String} {write : α → Token}
    {range : α → Prop} {tokens : List Token} :
    tokens ∈ optional (word keyword * value write range) ↔
      ∃ v : Option α, (∀ a ∈ v, range a) ∧ tokens = Token.keyed keyword (v.map write) := by
  rw [mem_optional_iff, mem_word_mul_iff]
  constructor
  · rintro (rfl | ⟨_, ⟨a, within, rfl⟩, rfl⟩)
    · exact ⟨none, nofun, rfl⟩
    · refine ⟨some a, ?_, rfl⟩
      rintro _ ⟨⟩
      exact within
  · rintro ⟨v, within, rfl⟩
    cases v with
    | none => exact .inl rfl
    | some a => exact .inr ⟨_, ⟨a, within a rfl, rfl⟩, rfl⟩

/-- An optional keyword and any text derive the tokens of an option that is a text. -/
theorem mem_optional_text_iff {keyword : String} {tokens : List Token} :
    tokens ∈ optional (word keyword * anyText) ↔
      ∃ v : Option String, tokens = Token.keyed keyword (v.map .text) := by
  simp only [anyText, mem_optional_value_iff, implies_true, true_and]

/-- An optional keyword and counted texts derive the tokens of a counted section whose number is not
clamped. -/
theorem mem_optional_counted_iff {keyword : String} {range : List String → Prop}
    {tokens : List Token} :
    tokens ∈ optional (word keyword * counted range) ↔
      ∃ v : Option (List String), (∀ items ∈ v, range items ∧ items.length ≤ Word.greatest) ∧
        tokens = (Section.counted keyword (v.map fun items => items.map .text)).tokens := by
  rw [mem_optional_iff, mem_word_mul_iff]
  constructor
  · rintro (rfl | ⟨_, ⟨n, items, number, within, rfl⟩, rfl⟩)
    · exact ⟨none, nofun, rfl⟩
    · have small : items.length ≤ Word.greatest := by
        have upper := n.toInt_lt
        unfold Word.greatest
        omega
      have written : Word.saturate items.length = n :=
        Int64.toInt_inj.mp ((Word.toInt_saturate small).trans number.symm)
      refine ⟨some items, ?_, ?_⟩
      · rintro _ ⟨⟩
        exact ⟨within, small⟩
      · simp only [Section.counted, Section.tokens, Option.map_some, Token.counted, Token.ofNat,
          List.length_map, written]
  · rintro ⟨v, within, rfl⟩
    cases v with
    | none => exact .inl rfl
    | some items =>
      obtain ⟨allowed, small⟩ := within items rfl
      refine .inr ⟨_, ⟨Word.saturate items.length, items, Word.toInt_saturate small, allowed, rfl⟩,
        ?_⟩
      simp only [Section.counted, Section.tokens, Option.map_some, Token.counted, Token.ofNat,
        List.length_map]

end SearchWire.Grammar
