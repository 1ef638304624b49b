import SearchWire.Proofs.AggregationExchange
import SearchWire.Proofs.Assembly

/-!
# References to properties

The names behind `LOAD`, those that a grouping is by and the keys of a sort are references: they
begin with a mark. The functions that make a grouping, a sort or a list of names to load put the
mark in front of a name that lacks it, and nothing else does. A body is therefore described here
with the places of its references told apart from all others. A step keeps the marks if the stage
that it adds has its own, so a description that was made by these functions alone has them all. One
that was read from an exchange has the names that were written, with or without a mark.
-/
namespace SearchWire

/-- Whether a name is marked as a reference to a property, or as a path. -/
def IsReference (name : String) : Prop :=
  name.toList.head? = some '@' ∨ name.toList.head? = some '$'

instance (name : String) : Decidable (IsReference name) := inferInstanceAs (Decidable (_ ∨ _))

/-- The reference to a field is marked. -/
theorem isReference_property (name : String) : IsReference (property name) := by
  unfold property
  split
  · next marked =>
    rw [Bool.or_eq_true, beq_iff_eq, beq_iff_eq] at marked
    exact marked
  · exact .inl (by rw [String.toList_append]; rfl)

/-- What stands at one place of a body. -/
inductive Place where
  /-- A name that refers to a property. -/
  | reference (name : String)
  /-- Anything else. -/
  | other (t : Token)
deriving DecidableEq

namespace Place

/-- The token that is written at a place. -/
def token : Place → Token
  | reference name => .text name
  | other t => t

/-- Places without references. -/
def others (tokens : List Token) : List Place := tokens.map other

/-- At other places their tokens are written. -/
@[simp] theorem map_token_others (tokens : List Token) : (others tokens).map token = tokens := by
  rw [others, List.map_map]
  exact List.map_id tokens

/-- At the places of references their names are written. -/
theorem map_token_references (names : List String) :
    (names.map reference).map token = names.map .text := List.map_map

/-- Whether every reference among places is marked. -/
def Marked (places : List Place) : Prop := ∀ name, reference name ∈ places → IsReference name

variable {places places' : List Place}

/-- Without references none lacks its mark. -/
@[simp] theorem marked_others (tokens : List Token) : Marked (others tokens) := by
  intro name inside
  obtain ⟨_, -, same⟩ := List.mem_map.mp inside
  cases same

/-- Places in a row are marked if those in front and those behind are. -/
@[simp] theorem marked_append : Marked (places ++ places') ↔ Marked places ∧ Marked places' := by
  simp only [Marked, List.mem_append, or_imp, forall_and]

/-- The places of a list are marked if those of its members are. -/
theorem marked_flatMap {α : Type} {items : List α} {layout : α → List Place} :
    Marked (items.flatMap layout) ↔ ∀ a ∈ items, Marked (layout a) := by
  simp only [Marked, List.mem_flatMap, forall_exists_index, and_imp]
  exact ⟨fun marked a inside name found => marked name a inside found,
    fun marked name a inside found => marked a inside name found⟩

/-- References are marked if their names are. -/
@[simp] theorem marked_references {names : List String} :
    Marked (names.map reference) ↔ ∀ name ∈ names, IsReference name := by
  simp [Marked]

end Place

open Place

namespace Stage

/-- The places of a stage: `GROUPBY n <reference>.. <reducer>..`,
`SORTBY 2k (<reference> ASC|DESC).. [MAX m]`, and stages without references. -/
def places : Stage → List Place
  | groupBy group =>
    others [.text "GROUPBY", .ofNat group.properties.length] ++ group.properties.map reference ++
      others (group.reducers.flatMap Reducer.tokens)
  | sortBy sort =>
    others [.text "SORTBY", .ofNat (2 * sort.keys.length)] ++
      (sort.keys.flatMap fun (name, direction) =>
        [reference name, other (.text direction.keyword)]) ++
      others (Token.keyed "MAX" (sort.max.map fun most => .ofNat most.toNat))
  | s => others s.tokens

/-- The tokens of a stage stand at its places. -/
theorem map_token_places (s : Stage) : s.places.map token = s.tokens := by
  cases s with
  | groupBy group =>
    simp only [places, List.map_append, map_token_others, map_token_references, tokens,
      Token.counted, List.length_map]
    rfl
  | sortBy sort =>
    simp only [places, List.map_append, map_token_others, List.map_flatMap, tokens]
    rfl
  | apply | filter | limit => exact map_token_others _

/-- A grouping has its marks if the names it is by have theirs. -/
theorem marked_groupBy_iff {group : GroupBy} :
    Marked (groupBy group).places ↔ ∀ name ∈ group.properties, IsReference name := by
  simp [places]

/-- A sort has its marks if the names of its keys have theirs. -/
theorem marked_sortBy_iff {sort : SortBy} :
    Marked (sortBy sort).places ↔ ∀ key ∈ sort.keys, IsReference key.1 := by
  have key (name : String) (direction : Direction) :
      Marked [reference name, other (.text direction.keyword)] ↔ IsReference name := by
    simp [Marked]
  simp only [places, marked_append, marked_others, marked_flatMap, key, true_and, and_true]

/-- Whether a stage was made by the functions that make stages. -/
inductive Made : Stage → Prop where
  /-- A grouping by named fields. -/
  | groupBy (names : List String) (reducers : List Reducer) : Made (groupBy (.on names reducers))
  /-- A sort by named fields. -/
  | sortBy (keys : List (String × Direction)) (max : Option UInt64) : Made (sortBy (.on keys max))
  /-- A computed property. -/
  | apply (expression label : String) : Made (apply expression label)
  /-- A filter. -/
  | filter (expression : String) : Made (filter expression)
  /-- A limit. -/
  | limit (offset count : UInt64) : Made (limit offset count)

/-- A stage that was made has its marks. -/
theorem Made.marked {s : Stage} (made : s.Made) : Marked s.places := by
  cases made with
  | groupBy names reducers =>
    rw [marked_groupBy_iff]
    intro name inside
    obtain ⟨name', -, rfl⟩ := List.mem_map.mp inside
    exact isReference_property name'
  | sortBy keys max =>
    rw [marked_sortBy_iff]
    intro key inside
    obtain ⟨key', -, rfl⟩ := List.mem_map.mp inside
    exact isReference_property key'.1
  | apply | filter | limit => exact marked_others _

end Stage

namespace Aggregation

open AggregationStep

/-- The places of what is loaded: `[LOAD n <reference>..|LOAD *]`. -/
def loadPlaces : Option Load → List Place
  | some (.fields properties) =>
    others [.text "LOAD", .ofNat properties.length] ++ properties.map reference
  | some .all => others [.text "LOAD", .text "*"]
  | none => []

/-- The places of a body: the query and `[VERBATIM]`, what is loaded, `[TIMEOUT ms]`, the stages,
and the options behind them. -/
def places (a : Aggregation) : List Place :=
  others (.text a.query :: Token.flag "VERBATIM" a.verbatim) ++ loadPlaces a.load ++
    others ((numberPart "TIMEOUT" a.timeout).flatMap Part.tokens) ++
    a.stages.flatMap Stage.places ++ others (a.tailParts.flatMap Part.tokens)

/-- What is loaded stands at its places. -/
theorem map_token_loadPlaces (load : Option Load) :
    (loadPlaces load).map token = (load.map loadPart).toList.flatMap Part.tokens := by
  rcases load with _ | _ | properties
  · rfl
  · rfl
  · simp only [loadPlaces, List.map_append, map_token_others, map_token_references, Option.map_some,
      Option.toList_some, List.flatMap_singleton, loadPart, Part.tokens, Token.counted,
      List.length_map]
    rfl

/-- The tokens of the body stand at its places. -/
theorem map_token_places (a : Aggregation) : a.places.map token = a.bodyTokens := by
  have head : a.headParts.flatMap Part.tokens =
      .text a.query :: Token.flag "VERBATIM" a.verbatim ++
        (a.load.map loadPart).toList.flatMap Part.tokens ++
        (numberPart "TIMEOUT" a.timeout).flatMap Part.tokens := by
    rw [headParts, List.flatMap_append, List.flatMap_append]
    cases a.verbatim <;> rfl
  have stages : (a.stages.map Stage.clause).flatMap Clause.tokens =
      (a.stages.flatMap Stage.places).map token := by
    rw [List.map_flatMap, List.flatMap_map]
    exact List.flatMap_congr fun s _ => s.map_token_places.symm
  rw [bodyTokens, clauses, List.flatMap_append, List.flatMap_append, Part.flatMap_clause,
    Part.flatMap_clause, head, stages]
  simp only [places, List.map_append, map_token_others, map_token_loadPlaces, List.cons_append]

/-- A body has its marks if what is loaded and the stages have theirs. -/
theorem marked_places_iff {a : Aggregation} :
    Marked a.places ↔ Marked (loadPlaces a.load) ∧ ∀ s ∈ a.stages, Marked s.places := by
  simp only [places, marked_append, marked_others, marked_flatMap, true_and, and_true]

/-- What is loaded has its marks if the names that are listed have theirs. -/
theorem marked_loadPlaces_iff {load : Option Load} :
    Marked (loadPlaces load) ↔
      ∀ names, load = some (.fields names) → ∀ name ∈ names, IsReference name := by
  rcases load with _ | _ | names
  · exact iff_of_true (marked_others []) nofun
  · exact iff_of_true (marked_others _) nofun
  · simp only [loadPlaces, marked_append, marked_others, marked_references, true_and,
      Option.some.injEq, Load.fields.injEq, forall_eq']

/-- A body has its marks if the names that it loads, groups by and sorts by have theirs. -/
theorem marked_places_iff_names {a : Aggregation} :
    Marked a.places ↔
      (∀ names, a.load = some (.fields names) → ∀ name ∈ names, IsReference name) ∧
      (∀ group, .groupBy group ∈ a.stages → ∀ name ∈ group.properties, IsReference name) ∧
      ∀ sort, .sortBy sort ∈ a.stages → ∀ key ∈ sort.keys, IsReference key.1 := by
  rw [marked_places_iff]
  refine and_congr marked_loadPlaces_iff
    ⟨fun stages => ⟨?_, ?_⟩, fun ⟨groups, sorts⟩ s inside => ?_⟩
  · exact fun group inside => Stage.marked_groupBy_iff.mp (stages _ inside)
  · exact fun sort inside => Stage.marked_sortBy_iff.mp (stages _ inside)
  · cases s with
    | groupBy group => exact Stage.marked_groupBy_iff.mpr (groups group inside)
    | sortBy sort => exact Stage.marked_sortBy_iff.mpr (sorts sort inside)
    | apply | filter | limit => exact marked_others _

/-- A step keeps the marks if the stage that it adds has its own. -/
theorem marked_step {a : Aggregation} (marked : Marked a.places) {s : AggregationStep}
    (added : ∀ stage, s = .stage stage → Marked stage.places) : Marked (a.step s).places := by
  obtain ⟨load, stages⟩ := marked_places_iff.mp marked
  apply marked_places_iff.mpr
  cases s with
  | load names =>
    refine ⟨marked_loadPlaces_iff.mpr fun listed same name inside => ?_, stages⟩
    cases same
    obtain ⟨name', -, rfl⟩ := List.mem_map.mp inside
    exact isReference_property name'
  | loadAll => exact ⟨marked_others _, stages⟩
  | stage s =>
    refine ⟨load, fun stage inside => ?_⟩
    rcases List.mem_append.mp inside with before | last
    · exact stages stage before
    · exact added stage (congrArg _ (List.mem_singleton.mp last).symm)
  | query | verbatim | timeout | cursor | param | dialect => exact ⟨load, stages⟩

/-- Whether a description was made by the functions of this library, beginning with the one of an
index or with one that was read and had its marks. -/
inductive Made : Aggregation → Prop
  /-- The description of an index. -/
  | ofIndex (index : String) : Made (ofIndex index)
  /-- A description that was read with its marks. -/
  | read {j : Json} {a : Aggregation} (read : ofJson? j = some a) (marked : Marked a.places) :
    Made a
  /-- The description after a step; a stage that it adds was made too. -/
  | step {a : Aggregation} {s : AggregationStep} (before : Made a)
    (added : ∀ stage, s = .stage stage → stage.Made) : Made (a.step s)

/-- What steps lead to was made if the stages that they add were. -/
theorem Made.steps {a : Aggregation} (before : Made a) {steps : List AggregationStep}
    (added : ∀ stage, .stage stage ∈ steps → stage.Made) :
    Made (steps.foldl Aggregation.step a) := by
  induction steps generalizing a with
  | nil => exact before
  | cons s steps ih =>
    have first : Made (a.step s) := before.step fun stage same => added stage (by simp [same])
    exact ih first fun stage inside => added stage (List.mem_cons_of_mem _ inside)

/-- A description that was made has its marks. -/
theorem Made.marked {a : Aggregation} (made : a.Made) : Marked a.places := by
  induction made with
  | ofIndex index => exact marked_places_iff.mpr ⟨marked_others [], List.forall_mem_nil _⟩
  | read read marked => exact marked
  | step before added ih => exact marked_step ih fun stage same => (added stage same).marked

/-- The references in the body of an accepted aggregation are the names it holds, and the body has
its marks exactly if these have theirs. That is so of every description that was made by the
functions of this library. A description that is read from an exchange comes with the names that
were written, and lacks a mark if one of these does. -/
theorem references_marked_unless_read (a : Aggregation) :
    (∀ body, a.compile = .ok body → body.tokens = a.places.map token) ∧
    (Marked a.places ↔
      (∀ names, a.load = some (.fields names) → ∀ name ∈ names, IsReference name) ∧
      (∀ group, .groupBy group ∈ a.stages → ∀ name ∈ group.properties, IsReference name) ∧
      ∀ sort, .sortBy sort ∈ a.stages → ∀ key ∈ sort.keys, IsReference key.1) ∧
    (a.Made → Marked a.places) ∧
    ofJson? a.toJson = if ∀ d ∈ a.doubles, d.isFinite = true then some a else none := by
  refine ⟨fun body compiled => ?_, marked_places_iff_names, Made.marked, a.ofJson?_toJson⟩
  obtain ⟨-, rfl⟩ := compile_eq_ok_iff.mp compiled
  exact a.map_token_places.symm

/-- Names with and without a mark, and a path, are loaded, sorted and grouped by. -/
theorem references_marked_of_three_kinds :
    ∃ a body, a = ofSteps "i" [.load ["a", "@b", "$.c"],
        .stage (.sortBy (.on [("", .ascending)] none)),
        .stage (.groupBy (.on ["g", "$"] [.count]))] ∧
      a.compile = .ok body ∧ body.tokens = a.places.map token ∧ Marked a.places := by
  refine ⟨_, _, rfl, compile_eq_ok_iff.mpr ⟨rfl, rfl⟩,
    (references_marked_unless_read _).1 _ (compile_eq_ok_iff.mpr ⟨rfl, rfl⟩),
    (references_marked_unless_read _).2.2.1 ?_⟩
  refine Made.steps (.ofIndex "i") fun stage added => ?_
  simp only [List.mem_cons, AggregationStep.stage.injEq, reduceCtorEq, List.not_mem_nil, false_or,
    or_false] at added
  rcases added with rfl | rfl
  · exact .sortBy _ _
  · exact .groupBy _ _

/-- Names that were read without a mark are sent without one, at all three places. -/
theorem unmarked_references_sent :
    ∃ a body, ofJson? (.object [("index", .string "i"), ("query", .string "*"),
        ("load", .object [("Fields", .array [.string "name"])]),
        ("stages", .array [
          .object [("GroupBy", .object [("properties", .array [.string "g"]),
            ("reducers", .array [])])],
          .object [("SortBy", .object [("keys", .array [.array [.string "k",
            .string "Asc"]])])]])]) = some a ∧
      a.compile = .ok body ∧
      body.tokens = [.text "*", .text "LOAD", .ofNat 1, .text "name", .text "GROUPBY", .ofNat 1,
        .text "g", .text "SORTBY", .ofNat 2, .text "k", .text "ASC"] ∧
      (∀ name ∈ ["name", "g", "k"], reference name ∈ a.places ∧ ¬IsReference name) := by
  exact ⟨_, _, rfl, compile_eq_ok_iff.mpr ⟨rfl, rfl⟩, rfl, by decide⟩

end Aggregation

end SearchWire
