import SearchWire.Pipeline.Reducer

/-!
# Stages of a pipeline

The engine runs the stages of an aggregation in the order in which they are written:

    GROUPBY n <property>.. <reducer>..
    SORTBY 2k (<property> ASC|DESC).. [MAX m]
    APPLY <expression> AS <alias>
    FILTER <expression>
    LIMIT <offset> <count>
-/
namespace SearchWire

/-- Records grouped by properties, each group reduced by functions. -/
structure GroupBy where
  /-- The properties that the members of a group agree on. -/
  properties : List String
  /-- The functions applied to each group. -/
  reducers : List Reducer
deriving DecidableEq

namespace GroupBy

/-- Groups by the named fields. -/
def on (names : List String) (reducers : List Reducer) : GroupBy :=
  ⟨names.map property, reducers⟩

end GroupBy

/-- Records in the order of their keys. -/
structure SortBy where
  /-- The keys, the first being the most significant. -/
  keys : List (String × Direction)
  /-- How many records are kept, if not all. -/
  max : Option UInt64
deriving DecidableEq

namespace SortBy

/-- The order by the named fields. -/
def on (keys : List (String × Direction)) (max : Option UInt64) : SortBy :=
  ⟨keys.map fun (name, direction) => (property name, direction), max⟩

end SortBy

/-- One step of a pipeline. -/
inductive Stage where
  | groupBy (group : GroupBy)
  | sortBy (sort : SortBy)
  /-- Compute a property of each record. -/
  | apply (expression label : String)
  /-- Keep the records for which an expression holds. -/
  | filter (expression : String)
  /-- Skip records and keep a number of the next ones. -/
  | limit (offset count : UInt64)
deriving DecidableEq

namespace Stage

/-- What is checked of a stage. -/
def checks : Stage → List Check
  | groupBy group => group.reducers.flatMap Reducer.checks
  | sortBy sort =>
    ⟨sort.keys.isEmpty, .noSortKeys⟩ :: Check.optional sort.max (Check.fits "MAX")
  | apply expression label => [⟨expression.isEmpty || label.isEmpty, .incompleteApply⟩]
  | filter expression => [⟨expression.isEmpty, .emptyFilter⟩]
  | limit offset count => [Check.fits "LIMIT offset" offset, Check.fits "LIMIT count" count]

/-- How many tokens a stage takes. -/
def tokenCount : Stage → Nat
  | groupBy group =>
    2 + group.properties.length + Clause.total (group.reducers.map Reducer.clause)
  | sortBy sort => 2 + 2 * sort.keys.length + if sort.max.isSome then 2 else 0
  | apply _ _ => 4
  | filter _ => 2
  | limit _ _ => 3

/-- The tokens of a stage. -/
def tokens : Stage → List Token
  | groupBy group =>
    .text "GROUPBY" :: Token.counted (group.properties.map .text) ++
    group.reducers.flatMap Reducer.tokens
  | sortBy sort =>
    .text "SORTBY" :: .ofNat (2 * sort.keys.length) ::
    (sort.keys.flatMap fun (name, direction) => [.text name, .text direction.keyword]) ++
    Token.keyed "MAX" (sort.max.map fun most => .ofNat most.toNat)
  | apply expression label => [.text "APPLY", .text expression, .text "AS", .text label]
  | filter expression => [.text "FILTER", .text expression]
  | limit offset count => [.text "LIMIT", .ofNat offset.toNat, .ofNat count.toNat]

/-- A stage as a clause. -/
def clause (s : Stage) : Clause := ⟨s.tokenCount, s.tokens⟩

end Stage

end SearchWire
