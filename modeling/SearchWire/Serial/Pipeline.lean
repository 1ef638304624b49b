import SearchWire.Pipeline.Aggregation
import SearchWire.Serial.Core

/-!
# Serialized reducers, stages and aggregations

As with index definitions, nothing is checked or completed on the way: a property that was given
without its mark in a serialized stage stays without it.
-/
namespace SearchWire

namespace Reducer

/-- The serialized form of a reducer. -/
def toJson (r : Reducer) : Json :=
  .object
    ([("function", .string r.function), ("args", .ofList Token.toJson r.args)] ++
      Json.memberIf "alias" .string r.label)

/-- A reducer from its serialized form. -/
def ofJson? (j : Json) : Option Reducer := do
  let members ← j.members? ["function", "args", "alias"] 2
  return {
    function := ← Json.required members "function" Json.text?
    args := ← Json.required members "args" (Json.list? Token.ofJson?)
    label := ← Json.optional members "alias" Json.text? }

end Reducer

namespace GroupBy

/-- The serialized form of a grouping. -/
def toJson (g : GroupBy) : Json :=
  .object
    [("properties", .ofList .string g.properties), ("reducers", .ofList Reducer.toJson g.reducers)]

/-- A grouping from its serialized form. -/
def ofJson? (j : Json) : Option GroupBy := do
  let members ← j.members? ["properties", "reducers"] 2
  return {
    properties := ← Json.required members "properties" (Json.list? Json.text?)
    reducers := ← Json.required members "reducers" (Json.list? Reducer.ofJson?) }

end GroupBy

namespace SortBy

/-- The serialized form of a sort key. -/
def keyToJson (key : String × Direction) : Json := .array [.string key.1, key.2.toJson]

/-- The serialized form of an order. -/
def toJson (s : SortBy) : Json :=
  .object
    ([("keys", .ofList keyToJson s.keys)] ++ Json.memberIf "max" (fun n => .ofNat n.toNat) s.max)

/-- An order from its serialized form. -/
def ofJson? (j : Json) : Option SortBy := do
  let members ← j.members? ["keys", "max"] 1
  return {
    keys := ← Json.required members "keys" (Json.list? (Json.pair? Json.text? Direction.ofJson?))
    max := ← Json.optional members "max" Json.uint64? }

end SortBy

namespace Stage

/-- The serialized form of a stage. -/
def toJson : Stage → Json
  | groupBy group => .variant "GroupBy" group.toJson
  | sortBy sort => .variant "SortBy" sort.toJson
  | apply expression label =>
    .variant "Apply" (.object [("expression", .string expression), ("alias", .string label)])
  | filter expression => .variant "Filter" (.string expression)
  | limit offset count =>
    .variant "Limit" (.object [("offset", .ofNat offset.toNat), ("count", .ofNat count.toNat)])

/-- A stage from its serialized form. -/
def ofJson? (j : Json) : Option Stage := do
  match ← j.variant? with
  | ("GroupBy", content) => (GroupBy.ofJson? content).map groupBy
  | ("SortBy", content) => (SortBy.ofJson? content).map sortBy
  | ("Apply", content) =>
    let members ← content.members? ["expression", "alias"] 2
    return apply (← Json.required members "expression" Json.text?)
      (← Json.required members "alias" Json.text?)
  | ("Filter", content) => content.text?.map filter
  | ("Limit", content) =>
    let members ← content.members? ["offset", "count"] 2
    return limit (← Json.required members "offset" Json.uint64?)
      (← Json.required members "count" Json.uint64?)
  | _ => none

end Stage

namespace Load

/-- The serialized form of the fields that are loaded. -/
def toJson : Load → Json
  | all => .string "All"
  | fields properties => .variant "Fields" (.ofList .string properties)

/-- The fields that are loaded from their serialized form. -/
def ofJson? (j : Json) : Option Load :=
  if j.unit? = some "All" then some all
  else do
    match ← j.variant? with
    | ("Fields", content) => (content.list? Json.text?).map fields
    | _ => none

end Load

namespace CursorOptions

/-- The serialized form of cursor options. -/
def toJson (o : CursorOptions) : Json :=
  .object
    [("count", .ofOption (fun n => .ofNat n.toNat) o.count),
      ("max_idle_ms", .ofOption (fun n => .ofNat n.toNat) o.maxIdle)]

/-- Cursor options from their serialized form. -/
def ofJson? (j : Json) : Option CursorOptions := do
  let members ← j.members? ["count", "max_idle_ms"] 2
  return {
    count := ← Json.optional members "count" Json.uint64?
    maxIdle := ← Json.optional members "max_idle_ms" Json.uint64? }

end CursorOptions

namespace Aggregation

/-- The members of a serialized aggregation in their order. -/
def memberNames : List String :=
  ["index", "query", "verbatim", "load", "timeout_ms", "stages", "cursor", "params", "dialect"]

/-- The serialized form of a parameter. -/
def paramToJson (param : String × String) : Json := .array [.string param.1, .string param.2]

/-- The serialized form of the description of an aggregation. -/
def toJson (a : Aggregation) : Json :=
  .object
    ([("index", .string a.index), ("query", .string a.query), ("verbatim", .boolean a.verbatim)] ++
      Json.memberIf "load" Load.toJson a.load ++
      Json.memberIf "timeout_ms" (fun n => .ofNat n.toNat) a.timeout ++
      [("stages", .ofList Stage.toJson a.stages)] ++
      Json.memberIf "cursor" CursorOptions.toJson a.cursor ++
      [("params", .ofList paramToJson a.params)] ++
      Json.memberIf "dialect" (fun n => .ofNat n.toNat) a.dialect)

/-- The description of an aggregation from its serialized form. -/
def ofJson? (j : Json) : Option Aggregation := do
  let members ← j.members? memberNames 2
  return {
    index := ← Json.required members "index" Json.text?
    query := ← Json.required members "query" Json.text?
    verbatim := ← Json.defaulted members "verbatim" false Json.boolean?
    load := ← Json.optional members "load" Load.ofJson?
    timeout := ← Json.optional members "timeout_ms" Json.uint64?
    stages := ← Json.defaulted members "stages" [] (Json.list? Stage.ofJson?)
    cursor := ← Json.optional members "cursor" CursorOptions.ofJson?
    params := ← Json.defaulted members "params" [] (Json.list? (Json.pair? Json.text? Json.text?))
    dialect := ← Json.optional members "dialect" Json.uint32? }

end Aggregation

namespace AggregationBody

/-- The serialized form of a compiled body. -/
def toJson (b : AggregationBody) : Json :=
  .object
    [("index", .string b.index),
      ("tokens", .ofList Token.toJson b.tokens),
      ("dialect", .ofOption (fun n => .ofNat n.toNat) b.dialect),
      ("cursor", .boolean b.paged)]

/-- A compiled body from its serialized form. -/
def ofJson? (j : Json) : Option AggregationBody := do
  let members ← j.members? ["index", "tokens", "dialect", "cursor"] 4
  return {
    index := ← Json.required members "index" Json.text?
    tokens := ← Json.required members "tokens" (Json.list? Token.ofJson?)
    dialect := ← Json.optional members "dialect" Json.uint32?
    paged := ← Json.required members "cursor" Json.boolean? }

end AggregationBody

end SearchWire
