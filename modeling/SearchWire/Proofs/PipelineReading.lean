import SearchWire.Proofs.Assembly
import SearchWire.Proofs.Sections

/-!
# One reading of a pipeline

Stages stand one after the other, and behind them the options that end the command. Every stage and
every reducer opens with a keyword of its own, and none of these keywords opens what may follow. So
a reader that has come to the end of a stage knows from one token whether another stage follows,
though names, expressions and arguments may be spelled like keywords.
-/
namespace SearchWire

/-- The keywords that open a stage. -/
def Stage.words : List String := ["GROUPBY", "SORTBY", "APPLY", "FILTER", "LIMIT"]

/-- The keywords of the options behind the stages. -/
def Aggregation.tailWords : List String := ["WITHCURSOR", "COUNT", "MAXIDLE", "PARAMS", "DIALECT"]

/-- Whether tokens may follow the last stage. -/
def Aggregation.AtTail (tokens : List Token) : Prop :=
  Section.Continues tailWords (· = []) tokens

/-- Whether tokens may follow a stage. -/
def Stage.AtEnd (tokens : List Token) : Prop :=
  Section.Continues (words ++ Aggregation.tailWords) (· = []) tokens

/-- Whether tokens may follow a reducer. -/
def Reducer.AtEnd (tokens : List Token) : Prop :=
  Section.Continues (["REDUCE"] ++ (Stage.words ++ Aggregation.tailWords)) (· = []) tokens

/-- Two lists of texts are the same if their tokens are. -/
theorem Token.map_text_inj {left right : List String}
    (same : left.map Token.text = right.map Token.text) : left = right :=
  List.map_injective_iff.mpr (fun _ _ => Token.text.inj) same

/-- Two optional texts are the same if their tokens are. -/
theorem Token.option_map_text_inj {left right : Option String}
    (same : left.map Token.text = right.map Token.text) : left = right :=
  Option.map_injective (fun _ _ => Token.text.inj) same

/-- Counted items in front of other tokens are told apart if no count is clamped. -/
theorem Token.counted_append_inj {left right rest rest' : List Token}
    (small : left.length ≤ Word.greatest) (small' : right.length ≤ Word.greatest)
    (same : counted left ++ rest = counted right ++ rest') : left = right ∧ rest = rest' := by
  have both := Section.level_counted small small' rest rest' same
  rw [both] at same
  exact ⟨(List.cons.inj both).2, List.append_cancel_left same⟩

/-- An option with a value is told apart from what follows if its keyword opens nothing of it. -/
theorem Section.keyed_append_inj {keyword : String} {words : List String}
    {left right : Option Token} {rest rest' : List Token} (fresh : keyword ∉ words)
    (ends : Continues words (· = []) rest) (ends' : Continues words (· = []) rest')
    (same : Token.keyed keyword left ++ rest = Token.keyed keyword right ++ rest') :
    left = right ∧ rest = rest' := by
  rw [← tokens_keyed, ← tokens_keyed] at same
  have apart : ∀ (body later : List Token), ¬(Token.text keyword :: (body ++ later) = []) :=
    fun _ _ => List.cons_ne_nil _ _
  obtain ⟨sections, rest⟩ := tokens_append_inj (aligned_keyed keyword left right) fresh
    (fun body _ => apart body rest) (fun body _ => apart body rest') ends ends' same
  exact ⟨keyed_inj.mp sections, rest⟩

namespace Reducer

/-- A reducer opens with its keyword. -/
theorem opens (r : Reducer) : ∃ word ∈ ["REDUCE"], ∃ later, r.tokens = .text word :: later :=
  ⟨"REDUCE", by simp, _, rfl⟩

/-- A reducer is told apart from what follows it. -/
theorem tokens_append_inj {r s : Reducer} {rest rest' : List Token}
    (small : r.args.length ≤ Word.greatest) (small' : s.args.length ≤ Word.greatest)
    (ends : AtEnd rest) (ends' : AtEnd rest') (same : r.tokens ++ rest = s.tokens ++ rest') :
    r = s ∧ rest = rest' := by
  simp only [tokens, List.cons_append, List.append_assoc, List.cons.injEq, true_and,
    Token.text.injEq] at same
  obtain ⟨function, same⟩ := same
  obtain ⟨args, same⟩ := Token.counted_append_inj small small' same
  obtain ⟨label, rest⟩ := Section.keyed_append_inj (by decide) ends ends' same
  have label := Token.option_map_text_inj label
  obtain ⟨f, _, _⟩ := r
  obtain ⟨g, _, _⟩ := s
  simp only [mk.injEq]
  exact ⟨⟨function, args, label⟩, rest⟩

end Reducer

namespace Stage

/-- Whether no number of a stage is clamped when it is written. -/
def Exact : Stage → Prop
  | groupBy group =>
    group.properties.length ≤ Word.greatest ∧
      ∀ r ∈ group.reducers, r.args.length ≤ Word.greatest
  | sortBy sort =>
    2 * sort.keys.length ≤ Word.greatest ∧ ∀ most ∈ sort.max, most.toNat ≤ Word.greatest
  | apply _ _ | filter _ => True
  | limit offset count => offset.toNat ≤ Word.greatest ∧ count.toNat ≤ Word.greatest

/-- Whether memory can hold the lists of a stage that are written with their number. -/
def Storable : Stage → Prop
  | groupBy group =>
    SearchWire.Storable group.properties ∧ ∀ r ∈ group.reducers, SearchWire.Storable r.args
  | sortBy sort => SearchWire.Storable sort.keys
  | apply _ _ | filter _ | limit _ _ => True

instance (s : Stage) : Decidable s.Storable :=
  match s with
  | groupBy group => inferInstanceAs (Decidable
      (SearchWire.Storable group.properties ∧ ∀ r ∈ group.reducers, SearchWire.Storable r.args))
  | sortBy sort => inferInstanceAs (Decidable (SearchWire.Storable sort.keys))
  | apply _ _ | filter _ | limit _ _ => inferInstanceAs (Decidable True)

/-- No number of a stage that passes its checks is clamped. -/
theorem exact_of_checks {s : Stage} (passed : ∀ check ∈ s.checks, check.applies = false)
    (storable : s.Storable) : s.Exact := by
  cases s with
  | groupBy group =>
    exact ⟨storable.1.length_le, fun r inside => (storable.2 r inside).length_le⟩
  | sortBy sort =>
    refine ⟨storable, fun most present => ?_⟩
    have checked : Check.fits "MAX" most ∈ (sortBy sort).checks :=
      List.mem_cons_of_mem _ (Check.mem_optional present)
    exact Check.applies_fits_eq_false_iff.mp (passed _ checked)
  | apply | filter => trivial
  | limit offset count =>
    have first : Check.fits "LIMIT offset" offset ∈ (limit offset count).checks := by
      simp [checks]
    have second : Check.fits "LIMIT count" count ∈ (limit offset count).checks := by
      simp [checks]
    exact ⟨Check.applies_fits_eq_false_iff.mp (passed _ first),
      Check.applies_fits_eq_false_iff.mp (passed _ second)⟩

/-- A stage opens with one of the keywords of stages. -/
theorem opens (s : Stage) : ∃ word ∈ words, ∃ later, s.tokens = .text word :: later := by
  cases s with
  | groupBy => exact ⟨"GROUPBY", by decide, _, rfl⟩
  | sortBy => exact ⟨"SORTBY", by decide, _, rfl⟩
  | apply => exact ⟨"APPLY", by decide, _, rfl⟩
  | filter => exact ⟨"FILTER", by decide, _, rfl⟩
  | limit => exact ⟨"LIMIT", by decide, _, rfl⟩

/-- A grouping is told apart from what follows it. -/
theorem groupBy_append_inj {left right : GroupBy} {rest rest' : List Token}
    (exact : (groupBy left).Exact) (exact' : (groupBy right).Exact) (ends : AtEnd rest)
    (ends' : AtEnd rest') (same : (groupBy left).tokens ++ rest = (groupBy right).tokens ++ rest') :
    groupBy left = groupBy right ∧ rest = rest' := by
  simp only [tokens, List.cons_append, List.append_assoc, List.cons.injEq, true_and] at same
  obtain ⟨properties, same⟩ := Token.counted_append_inj
    (by rw [List.length_map]; exact exact.1) (by rw [List.length_map]; exact exact'.1) same
  have properties := Token.map_text_inj properties
  have fresh : ∀ word ∈ ["REDUCE"], ∀ later, ¬AtEnd (.text word :: later) := by
    intro word inside later
    obtain rfl := List.mem_singleton.mp inside
    exact Section.not_continues_of_notMem (by decide) later
  obtain ⟨reducers, rest⟩ := Section.items_append_inj Reducer.opens fresh
    (fun r inside s inside' later later' ends ends' same =>
      Reducer.tokens_append_inj (exact.2 r inside) (exact'.2 s inside')
        (Section.continues_append.mpr ends) (Section.continues_append.mpr ends') same)
    ends ends' same
  obtain ⟨_, _⟩ := left
  obtain ⟨_, _⟩ := right
  simp only [groupBy.injEq, GroupBy.mk.injEq]
  exact ⟨⟨properties, reducers⟩, rest⟩

/-- A sort is told apart from what follows it. -/
theorem sortBy_append_inj {left right : SortBy} {rest rest' : List Token}
    (exact : (sortBy left).Exact) (exact' : (sortBy right).Exact) (ends : AtEnd rest)
    (ends' : AtEnd rest') (same : (sortBy left).tokens ++ rest = (sortBy right).tokens ++ rest') :
    sortBy left = sortBy right ∧ rest = rest' := by
  simp only [tokens, List.cons_append, List.append_assoc, List.cons.injEq, true_and] at same
  obtain ⟨count, same⟩ := same
  have count := Word.saturate_inj exact.1 exact'.1 (Token.integer.inj count)
  obtain ⟨keys, same⟩ := List.append_inj same (by
    rw [SortBy.length_keyTokens, SortBy.length_keyTokens, count])
  have keys : left.keys = right.keys := by
    refine Section.flatMap_pair_inj ?_ keys
    rintro ⟨name, direction⟩ ⟨name', direction'⟩ names directions
    have directions := Token.text.inj directions
    obtain rfl := Token.text.inj names
    cases direction <;> cases direction' <;> simp_all [Direction.keyword]
  obtain ⟨max, rest⟩ := Section.keyed_append_inj (by decide) ends ends' same
  have max := Token.map_ofNat_toNat_inj exact.2 exact'.2 max
  obtain ⟨_, _⟩ := left
  obtain ⟨_, _⟩ := right
  simp only [sortBy.injEq, SortBy.mk.injEq]
  exact ⟨⟨keys, max⟩, rest⟩

/-- A stage is told apart from what follows it. -/
theorem tokens_append_inj {s t : Stage} {rest rest' : List Token} (exact : s.Exact)
    (exact' : t.Exact) (ends : AtEnd rest) (ends' : AtEnd rest')
    (same : s.tokens ++ rest = t.tokens ++ rest') : s = t ∧ rest = rest' := by
  cases s with
  | groupBy group =>
    cases t with
    | groupBy group' => exact groupBy_append_inj exact exact' ends ends' same
    | _ => simp [tokens] at same
  | sortBy sort =>
    cases t with
    | sortBy sort' => exact sortBy_append_inj exact exact' ends ends' same
    | _ => simp [tokens] at same
  | apply expression label =>
    cases t with
    | apply expression' label' =>
      simp only [tokens, List.cons_append, List.nil_append, List.cons.injEq, true_and,
        Token.text.injEq] at same
      rw [same.1, same.2.1]
      exact ⟨rfl, same.2.2⟩
    | _ => simp [tokens] at same
  | filter expression =>
    cases t with
    | filter expression' =>
      simp only [tokens, List.cons_append, List.nil_append, List.cons.injEq, true_and,
        Token.text.injEq] at same
      rw [same.1]
      exact ⟨rfl, same.2⟩
    | _ => simp [tokens] at same
  | limit offset count =>
    cases t with
    | limit offset' count' =>
      simp only [tokens, List.cons_append, List.nil_append, List.cons.injEq, true_and] at same
      rw [Token.ofNat_toNat_inj exact.1 exact'.1 same.1,
        Token.ofNat_toNat_inj exact.2 exact'.2 same.2.1]
      exact ⟨rfl, same.2.2⟩
    | _ => simp [tokens] at same

/-- A pipeline is told apart from what follows its last stage. -/
theorem flatMap_tokens_append_inj {left right : List Stage} {rest rest' : List Token}
    (exact : ∀ s ∈ left, s.Exact) (exact' : ∀ s ∈ right, s.Exact)
    (ends : Aggregation.AtTail rest) (ends' : Aggregation.AtTail rest')
    (same : left.flatMap tokens ++ rest = right.flatMap tokens ++ rest') :
    left = right ∧ rest = rest' := by
  have fresh : ∀ word ∈ words, ∀ later, ¬Aggregation.AtTail (.text word :: later) := by
    intro word inside later
    refine Section.not_continues_of_notMem ?_ later
    revert word
    decide
  exact Section.items_append_inj opens fresh
    (fun s inside t inside' later later' ends ends' same =>
      tokens_append_inj (exact s inside) (exact' t inside')
        (Section.continues_append.mpr ends) (Section.continues_append.mpr ends') same)
    ends ends' same

end Stage

end SearchWire
