import SearchWire.Proofs.AggregationUniqueness
import Mathlib.Data.List.Induction

/-!
# The order of steps

An aggregation is described step by step. Stages and parameters are kept in the order of their
steps; of every other option the last step counts, wherever it stands among the steps of other kinds.
What the steps lead to is said here at once, from the steps of each kind alone. One more step changes
this as it changes the description, so by induction it is the description that any steps lead to;
the layout of the body is then one of the steps, and steps that agree kind by kind are compiled
alike.
-/
namespace SearchWire

namespace AggregationStep

/-- The query that a step sets. -/
def query? : AggregationStep → Option String
  | query text => some text
  | _ => none

/-- Whether a step takes the words of the query unstemmed. -/
def isVerbatim : AggregationStep → Bool
  | verbatim => true
  | _ => false

/-- What a step loads: fields by their references, or all of them. -/
def load? : AggregationStep → Option Load
  | load names => some (.fields (names.map property))
  | loadAll => some .all
  | _ => none

/-- The timeout that a step sets. -/
def timeout? : AggregationStep → Option UInt64
  | timeout milliseconds => some milliseconds
  | _ => none

/-- The stage that a step adds. -/
def stage? : AggregationStep → Option Stage
  | stage s => some s
  | _ => none

/-- The cursor options that a step sets. -/
def cursor? : AggregationStep → Option CursorOptions
  | cursor options => some options
  | _ => none

/-- The parameter that a step adds. -/
def param? : AggregationStep → Option (String × String)
  | param name value => some (name, value)
  | _ => none

/-- The dialect that a step sets. -/
def dialect? : AggregationStep → Option UInt32
  | dialect number => some number
  | _ => none

/-- The value that the last step of a kind sets. -/
def last? {α : Type} (value : AggregationStep → Option α) (steps : List AggregationStep) :
    Option α :=
  (steps.filterMap value).getLast?

/-- A further step counts instead of those before it if it is one of the kind. -/
@[simp] theorem last?_concat {α : Type} (value : AggregationStep → Option α)
    (steps : List AggregationStep) (s : AggregationStep) :
    last? value (steps ++ [s]) = (value s).or (last? value steps) := by
  unfold last?
  rw [List.filterMap_append, List.getLast?_append, List.filterMap_cons, List.filterMap_nil]
  cases value s <;> rfl

/-- Whether two lists of steps have the same stages and the same parameters in the same order, and
the same value of every other option from its last step. -/
structure Alike (steps steps' : List AggregationStep) : Prop where
  /-- The stages agree. -/
  stages : steps.filterMap stage? = steps'.filterMap stage?
  /-- The parameters agree. -/
  params : steps.filterMap param? = steps'.filterMap param?
  /-- The last queries agree. -/
  query : last? query? steps = last? query? steps'
  /-- The words are taken unstemmed by both or by none. -/
  verbatim : steps.any isVerbatim = steps'.any isVerbatim
  /-- What is loaded last agrees. -/
  load : last? load? steps = last? load? steps'
  /-- The last timeouts agree. -/
  timeout : last? timeout? steps = last? timeout? steps'
  /-- The last cursor options agree. -/
  cursor : last? cursor? steps = last? cursor? steps'
  /-- The last dialects agree. -/
  dialect : last? dialect? steps = last? dialect? steps'

end AggregationStep

open AggregationStep

namespace Aggregation

/-- The description that the steps of each kind call for. -/
def ofKinds (index : String) (steps : List AggregationStep) : Aggregation where
  index := index
  query := (last? query? steps).getD matchAll
  verbatim := steps.any isVerbatim
  load := last? load? steps
  timeout := last? timeout? steps
  stages := steps.filterMap stage?
  cursor := last? cursor? steps
  params := steps.filterMap param?
  dialect := last? dialect? steps

/-- One more step changes what the steps of its kind call for, and nothing else. -/
theorem ofKinds_concat (index : String) (steps : List AggregationStep) (s : AggregationStep) :
    ofKinds index (steps ++ [s]) = (ofKinds index steps).step s := by
  cases s <;>
    simp [ofKinds, step, query?, isVerbatim, load?, timeout?, stage?, cursor?, param?, dialect?]

/-- Steps lead to the description that the steps of each kind call for. -/
theorem ofSteps_eq_ofKinds (index : String) (steps : List AggregationStep) :
    ofSteps index steps = ofKinds index steps := by
  -- The induction is from the back, because the last step is the one that counts.
  induction steps using List.reverseRecOn with
  | nil => rfl
  | append_singleton steps s ih =>
    rw [ofKinds_concat, ← ih, ofSteps, ofSteps, List.foldl_concat]

/-- Steps that agree kind by kind lead to one description. -/
theorem ofSteps_eq_of_alike {steps steps' : List AggregationStep} (alike : Alike steps steps')
    (index : String) : ofSteps index steps = ofSteps index steps' := by
  rw [ofSteps_eq_ofKinds, ofSteps_eq_ofKinds, ofKinds, ofKinds, alike.stages, alike.params,
    alike.query, alike.verbatim, alike.load, alike.timeout, alike.cursor, alike.dialect]

end Aggregation

/-! ## The layout of the steps -/

/-- The integer token of a number; the largest signed word stands for every number above it. -/
def Token.number (n : Nat) : Token := .integer (Int64.ofNat (min n 0x7fffffffffffffff))

/-- An option that is a number, as it is documented: `[<keyword> n]`. -/
def Token.numbered (keyword : String) : Option Nat → List Token
  | some n => [.text keyword, .number n]
  | none => []

/-- An option that is a number is written as it is documented. -/
theorem Token.keyed_eq_numbered {α : Type} (keyword : String) (size : α → Nat) (value : Option α) :
    keyed keyword (value.map fun a => .ofNat (size a)) = numbered keyword (value.map size) := by
  cases value <;> rfl

/-- A key of a sort as it is documented: `<property> ASC|DESC`. -/
def SortBy.keyShape : String × Direction → List Token
  | (name, .ascending) => [.text name, .text "ASC"]
  | (name, .descending) => [.text name, .text "DESC"]

/-- Whether tokens are a reducer as it is documented. -/
inductive Reducer.Written : Reducer → List Token → Prop where
  /-- Without a name for its output: `REDUCE <function> <argc> <arg>..`. -/
  | plain (function : String) (args : List Token) :
    Written ⟨function, args, none⟩
      (.text "REDUCE" :: .text function :: .number args.length :: args)
  /-- With a name for its output: `REDUCE <function> <argc> <arg>.. AS <alias>`. -/
  | named (function : String) (args : List Token) (label : String) :
    Written ⟨function, args, some label⟩
      (.text "REDUCE" :: .text function :: .number args.length :: args ++
        [.text "AS", .text label])

/-- Whether tokens are a stage as it is documented. -/
inductive Stage.Written : Stage → List Token → Prop where
  /-- Grouping: `GROUPBY n <property>.. <reducer>..`. -/
  | groupBy {properties : List String} {reducers : List Reducer} {parts : List (List Token)}
    (each : List.Forall₂ Reducer.Written reducers parts) :
    Written (.groupBy ⟨properties, reducers⟩)
      (.text "GROUPBY" :: .number properties.length :: properties.map .text ++ parts.flatten)
  /-- Sorting all records: `SORTBY 2k (<property> ASC|DESC)..`. -/
  | sortBy (keys : List (String × Direction)) :
    Written (.sortBy ⟨keys, none⟩)
      (.text "SORTBY" :: .number (2 * keys.length) :: keys.flatMap SortBy.keyShape)
  /-- Sorting and keeping the first: `SORTBY 2k (<property> ASC|DESC).. MAX m`. -/
  | sortByMost (keys : List (String × Direction)) (most : UInt64) :
    Written (.sortBy ⟨keys, some most⟩)
      (.text "SORTBY" :: .number (2 * keys.length) :: keys.flatMap SortBy.keyShape ++
        [.text "MAX", .number most.toNat])
  /-- Computing a property: `APPLY <expression> AS <alias>`. -/
  | apply (expression label : String) :
    Written (.apply expression label)
      [.text "APPLY", .text expression, .text "AS", .text label]
  /-- Keeping records: `FILTER <expression>`. -/
  | filter (expression : String) :
    Written (.filter expression) [.text "FILTER", .text expression]
  /-- Skipping and keeping a number of records: `LIMIT <offset> <count>`. -/
  | limit (offset count : UInt64) :
    Written (.limit offset count) [.text "LIMIT", .number offset.toNat, .number count.toNat]

/-- A reducer whose output has no name is written without one. -/
theorem Reducer.tokens_plain (function : String) (args : List Token) :
    tokens ⟨function, args, none⟩ =
      .text "REDUCE" :: .text function :: .number args.length :: args :=
  List.append_nil _

/-- The tokens of a reducer are the one way in which it is written. -/
theorem Reducer.written_iff {r : Reducer} {t : List Token} : r.Written t ↔ r.tokens = t := by
  constructor
  · intro written
    cases written with
    | plain function args => exact tokens_plain function args
    | named => rfl
  · rintro rfl
    obtain ⟨function, args, _ | label⟩ := r
    · rw [tokens_plain]
      exact .plain function args
    · exact .named function args label

/-- The same of several reducers. -/
theorem Reducer.forall₂_written_iff {reducers : List Reducer} {parts : List (List Token)} :
    List.Forall₂ Written reducers parts ↔ reducers.map tokens = parts := by
  have written : Written = fun r t => r.tokens = t :=
    funext fun _ => funext fun _ => propext written_iff
  rw [written, ← List.forall₂_map_left_iff, List.forall₂_eq_eq_eq]

/-- A grouping is written with the number of its properties. -/
theorem Stage.tokens_groupBy (properties : List String) (reducers : List Reducer) :
    (groupBy ⟨properties, reducers⟩).tokens =
      .text "GROUPBY" :: .number properties.length :: properties.map .text ++
        (reducers.map Reducer.tokens).flatten := by
  simp only [tokens, Token.counted, List.length_map, List.flatMap_def, List.cons_append]
  rfl

/-- A sort is written with the number of the tokens of its keys. -/
theorem Stage.tokens_sortBy (keys : List (String × Direction)) (most : Option UInt64) :
    (sortBy ⟨keys, most⟩).tokens =
      .text "SORTBY" :: .number (2 * keys.length) :: keys.flatMap SortBy.keyShape ++
        Token.numbered "MAX" (most.map UInt64.toNat) := by
  have keyed : (keys.flatMap fun key => [Token.text key.1, .text key.2.keyword]) =
      keys.flatMap SortBy.keyShape := by
    refine List.flatMap_congr fun key _ => ?_
    obtain ⟨name, direction⟩ := key
    cases direction <;> rfl
  change .text "SORTBY" :: .ofNat (2 * keys.length) ::
    (keys.flatMap fun key => [Token.text key.1, .text key.2.keyword]) ++ _ = _
  rw [keyed]
  cases most <;> rfl

/-- The tokens of a stage are the one way in which it is written. -/
theorem Stage.written_iff {s : Stage} {t : List Token} : s.Written t ↔ s.tokens = t := by
  constructor
  · intro written
    cases written with
    | groupBy each =>
      obtain rfl := Reducer.forall₂_written_iff.mp each
      exact tokens_groupBy _ _
    | sortBy keys => rw [tokens_sortBy, Option.map_none, Token.numbered, List.append_nil]
    | sortByMost keys most => exact tokens_sortBy keys (some most)
    | apply | filter | limit => rfl
  · rintro rfl
    cases s with
    | groupBy group =>
      rw [tokens_groupBy]
      exact .groupBy (Reducer.forall₂_written_iff.mpr rfl)
    | sortBy sort =>
      obtain ⟨keys, _ | most⟩ := sort
      · rw [tokens_sortBy, Option.map_none, Token.numbered, List.append_nil]
        exact .sortBy keys
      · rw [tokens_sortBy]
        exact .sortByMost keys most
    | apply expression label => exact .apply expression label
    | filter expression => exact .filter expression
    | limit offset count => exact .limit offset count

namespace Aggregation

/-- What is loaded, as it is documented: `[LOAD n <property>..|LOAD *]`. -/
def loadTokens : Option Load → List Token
  | some .all => [.text "LOAD", .text "*"]
  | some (.fields properties) =>
    .text "LOAD" :: .number properties.length :: properties.map .text
  | none => []

/-- How the result is read, as it is documented: `[WITHCURSOR [COUNT n] [MAXIDLE ms]]`. -/
def cursorTokens : Option CursorOptions → List Token
  | some options => .text "WITHCURSOR" ::
    (Token.numbered "COUNT" (options.count.map UInt64.toNat) ++
      Token.numbered "MAXIDLE" (options.maxIdle.map UInt64.toNat))
  | none => []

/-- The parameters, as they are documented: `[PARAMS 2n (<name> <value>)..]`. -/
def paramsTokens : List (String × String) → List Token
  | [] => []
  | params => .text "PARAMS" :: .number (2 * params.length) ::
    params.flatMap fun (name, value) => [.text name, .text value]

/-- What stands in front of the stages: `<query> [VERBATIM]`, what is loaded, `[TIMEOUT ms]`. -/
def headTokens (steps : List AggregationStep) : List Token :=
  .text ((last? query? steps).getD "*") ::
    ((if steps.any isVerbatim then [.text "VERBATIM"] else []) ++ loadTokens (last? load? steps) ++
      Token.numbered "TIMEOUT" ((last? timeout? steps).map UInt64.toNat))

/-- What stands behind the stages: how the result is read, the parameters, `[DIALECT d]`. -/
def tailTokens (steps : List AggregationStep) : List Token :=
  cursorTokens (last? cursor? steps) ++ paramsTokens (steps.filterMap param?) ++
    Token.numbered "DIALECT" ((last? dialect? steps).map UInt32.toNat)

/-- What is loaded is written as it is documented. -/
theorem tokens_loadSection (load : Option Load) :
    Section.tokens ⟨"LOAD", load.map Load.body⟩ = loadTokens load := by
  rcases load with _ | _ | properties
  · rfl
  · rfl
  · simp only [Section.tokens, Option.map_some, Load.body, Token.counted, loadTokens,
      List.length_map]
    rfl

/-- The cursor options are written as they are documented. -/
theorem tokens_cursorSections (cursor : Option CursorOptions) :
    Token.flag "WITHCURSOR" cursor.isSome ++
      (Token.numbered "COUNT" ((cursor.bind CursorOptions.count).map UInt64.toNat) ++
        Token.numbered "MAXIDLE" ((cursor.bind CursorOptions.maxIdle).map UInt64.toNat)) =
      cursorTokens cursor := by
  cases cursor <;> rfl

/-- The parameters are written as they are documented. -/
theorem tokens_paramsSection (params : List (String × String)) :
    (Section.counted "PARAMS"
      (if params.isEmpty then none else some (paramTokens params))).tokens =
      paramsTokens params := by
  cases params with
  | nil => rfl
  | cons first rest =>
    have length : (paramTokens (first :: rest)).length = 2 * (first :: rest).length :=
      Token.length_flatMap_pair _ _ (first :: rest)
    simp only [Section.tokens, Section.counted, List.isEmpty_cons, Bool.false_eq_true, if_false,
      Option.map_some, Token.counted, length]
    rfl

/-- The body that steps lead to is laid out as they say. -/
theorem bodyTokens_ofKinds (index : String) (steps : List AggregationStep) :
    (ofKinds index steps).bodyTokens =
      headTokens steps ++ (steps.filterMap stage?).flatMap Stage.tokens ++ tailTokens steps := by
  rw [bodyTokens_eq]
  simp only [headSections, tailSections, List.flatMap_cons, List.flatMap_nil, List.append_nil,
    Section.tokens_flag, Section.tokens_keyed, Token.keyed_eq_numbered, tokens_loadSection,
    tokens_paramsSection, headTokens, tailTokens, ← tokens_cursorSections, List.append_assoc,
    List.cons_append]
  rfl

/-- What steps lead to is compiled to the options in front, the stages of the steps in their order,
and the options behind, each stage in the one way in which it is written; and steps that agree kind
by kind are compiled, or refused, alike. -/
theorem compiled_in_order :
    (∀ (index : String) (steps : List AggregationStep) (body : AggregationBody),
      (ofSteps index steps).compile = .ok body →
      body.tokens =
        headTokens steps ++ (steps.filterMap stage?).flatMap Stage.tokens ++ tailTokens steps) ∧
    (∀ (s : Stage) (t : List Token), s.Written t ↔ s.tokens = t) ∧
    ∀ (index : String) (steps steps' : List AggregationStep), Alike steps steps' →
      (ofSteps index steps).compile = (ofSteps index steps').compile := by
  refine ⟨fun index steps body compiled => ?_, fun s t => Stage.written_iff,
    fun index steps steps' alike => ?_⟩
  · obtain ⟨-, rfl⟩ := compile_eq_ok_iff.mp compiled
    dsimp only
    rw [ofSteps_eq_ofKinds, bodyTokens_ofKinds]
  · rw [ofSteps_eq_of_alike alike]

/-- Among stages and parameters, options may be set in any order and more than once. -/
theorem compiled_in_order_among_options :
    ∃ body, (ofSteps "idx" [.dialect 1, .stage (.filter "LIMIT"), .param "a" "x", .load ["n"],
        .stage (.limit 0 7), .query "q", .loadAll, .param "b" "y", .dialect 2]).compile = .ok body ∧
      body.tokens = [.text "q", .text "LOAD", .text "*", .text "FILTER", .text "LIMIT",
        .text "LIMIT", .ofNat 0, .ofNat 7, .text "PARAMS", .ofNat 4, .text "a", .text "x",
        .text "b", .text "y", .text "DIALECT", .ofNat 2] ∧
      (ofSteps "idx" [.param "a" "x", .param "b" "y", .loadAll, .query "AS", .query "q",
        .stage (.filter "LIMIT"), .dialect 2, .stage (.limit 0 7)]).compile = .ok body := by
  have compiled : (ofSteps "idx" [.dialect 1, .stage (.filter "LIMIT"), .param "a" "x",
      .load ["n"], .stage (.limit 0 7), .query "q", .loadAll, .param "b" "y",
      .dialect 2]).compile = .ok _ := compile_eq_ok_iff.mpr ⟨rfl, rfl⟩
  refine ⟨_, compiled, compiled_in_order.1 _ _ _ compiled, ?_⟩
  rw [← compiled]
  exact compiled_in_order.2.2 "idx" _ _ ⟨rfl, rfl, rfl, rfl, rfl, rfl, rfl, rfl⟩

end Aggregation

end SearchWire
