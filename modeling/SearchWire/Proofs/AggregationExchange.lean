import SearchWire.Proofs.CommandExchange

/-!
# Descriptions of aggregations in an exchange

Only the raw arguments of reducers hold doubles in the description of an aggregation. If all of them
are finite the description is read back as it was, and otherwise it is not read back at all. Nothing
is checked and nothing is completed on the way: the names in it come back as they were written.
-/
namespace SearchWire

open Json

/-- A direction is read back. -/
theorem Direction.ofJson?_toJson (direction : Direction) :
    ofJson? direction.toJson = some direction := by
  cases direction <;> simp [ofJson?, toJson, unit?]

namespace Reducer

/-- The doubles of a reducer. -/
def doubles (r : Reducer) : List Double := r.args.flatMap Token.doubles

/-- A reducer is read back if its doubles are finite. -/
theorem ofJson?_toJson (r : Reducer) : ofJson? r.toJson = kept r.doubles r := by
  obtain ⟨function, args, label⟩ := r
  cases label <;>
    simp [ofJson?, toJson, memberIf, members?_object, required, Json.optional, List.lookup_cons,
      nullable?, text?, Token.list?_ofList_tokens, doubles]

end Reducer

namespace GroupBy

/-- The doubles of a grouping. -/
def doubles (g : GroupBy) : List Double := g.reducers.flatMap Reducer.doubles

/-- A grouping is read back if its doubles are finite. -/
theorem ofJson?_toJson (g : GroupBy) : ofJson? g.toJson = kept g.doubles g := by
  have reducers : (ofList Reducer.toJson g.reducers).list? Reducer.ofJson? =
      kept g.doubles g.reducers := list?_ofList_kept fun r _ => r.ofJson?_toJson
  simp [ofJson?, toJson, members?_object, required, List.lookup_cons, list?_ofList_strings,
    reducers]

end GroupBy

namespace SortBy

/-- An order is read back. -/
theorem ofJson?_toJson (s : SortBy) : ofJson? s.toJson = some s := by
  have keys : (ofList keyToJson s.keys).list? (pair? text? Direction.ofJson?) = some s.keys :=
    list?_ofList_self fun key _ => by
      simp [keyToJson, pair?, text?, Direction.ofJson?_toJson]
  obtain ⟨keys', max⟩ := s
  cases max <;>
    simp [ofJson?, toJson, memberIf, members?_object, required, Json.optional, List.lookup_cons,
      nullable?_of_ne, ofNat_ne_null, keys]

end SortBy

namespace Stage

/-- The doubles of a stage. -/
def doubles : Stage → List Double
  | groupBy group => group.doubles
  | _ => []

/-- A stage is read back if its doubles are finite. -/
theorem ofJson?_toJson (s : Stage) : ofJson? s.toJson = kept s.doubles s := by
  cases s with
  | groupBy group => simp [ofJson?, toJson, variant, variant?, GroupBy.ofJson?_toJson, doubles]
  | sortBy sort => simp [ofJson?, toJson, variant, variant?, SortBy.ofJson?_toJson, doubles]
  | apply expression label =>
    simp [ofJson?, toJson, variant, variant?, members?_object, required, List.lookup_cons, text?,
      doubles]
  | filter expression => simp [ofJson?, toJson, variant, variant?, text?, doubles]
  | limit offset count =>
    simp [ofJson?, toJson, variant, variant?, members?_object, required, List.lookup_cons, doubles]

end Stage

/-- What is loaded is read back. -/
theorem Load.ofJson?_toJson (load : Load) : ofJson? load.toJson = some load := by
  cases load with
  | all => simp [ofJson?, toJson, unit?]
  | fields properties =>
    have named : (variant "Fields" (ofList string properties)).unit? = none := rfl
    rw [ofJson?, toJson, named, if_neg (Option.some_ne_none _).symm]
    simp [variant, variant?, list?_ofList_strings]

/-- Cursor options are read back. -/
theorem CursorOptions.ofJson?_toJson (o : CursorOptions) : ofJson? o.toJson = some o := by
  have number (value : Option UInt64) :
      nullable? uint64? (ofOption (fun n => ofNat n.toNat) value) = some value :=
    nullable?_ofOption (fun _ _ => ofNat_ne_null _) fun n _ => uint64?_ofNat n
  simp [ofJson?, toJson, members?_object, Json.optional, List.lookup_cons, number]

namespace Aggregation

/-- The doubles of an aggregation. -/
def doubles (a : Aggregation) : List Double := a.stages.flatMap Stage.doubles

/-- The members of a serialized aggregation. -/
def members (a : Aggregation) : List (String × Json) :=
  [("index", .string a.index), ("query", .string a.query), ("verbatim", .boolean a.verbatim)] ++
    memberIf "load" Load.toJson a.load ++
    memberIf "timeout_ms" (fun n => .ofNat n.toNat) a.timeout ++
    [("stages", .ofList Stage.toJson a.stages)] ++
    memberIf "cursor" CursorOptions.toJson a.cursor ++
    [("params", .ofList paramToJson a.params)] ++
    memberIf "dialect" (fun n => .ofNat n.toNat) a.dialect

/-- The members of a serialized aggregation have different names. -/
theorem nodup_members (a : Aggregation) : (a.members.map Prod.fst).Nodup := by
  have names : (a.members.map Prod.fst).Sublist memberNames := by
    simp only [members, List.map_append]
    exact ((((((List.Sublist.refl ["index", "query", "verbatim"]).append
      (map_fst_memberIf ..)).append (map_fst_memberIf ..)).append
      (List.Sublist.refl ["stages"])).append (map_fst_memberIf ..)).append
      (List.Sublist.refl ["params"])).append (map_fst_memberIf ..)
  exact names.nodup (by decide)

/-- An aggregation is read back if its doubles are finite. -/
theorem ofJson?_toJson (a : Aggregation) : ofJson? a.toJson = kept a.doubles a := by
  have object : (Json.object a.members).members? memberNames 2 = some a.members :=
    members?_object a.nodup_members 2
  have lookups : a.members.lookup "load" = a.load.map Load.toJson ∧
      (a.members.lookup "timeout_ms" = a.timeout.map fun n => .ofNat n.toNat) ∧
      a.members.lookup "cursor" = a.cursor.map CursorOptions.toJson ∧
      (a.members.lookup "dialect" = a.dialect.map fun n => .ofNat n.toNat) := by
    refine ⟨?_, ?_, ?_, ?_⟩ <;>
      simp [members, List.lookup_append, List.lookup_cons, lookup_memberIf_of_ne]
  obtain ⟨load, timeout, cursor, dialect⟩ := lookups
  have load := optional_of_lookup load (fun load _ => by cases load <;> nofun)
    fun load _ => load.ofJson?_toJson
  have timeout := optional_of_lookup timeout (fun _ _ => ofNat_ne_null _)
    fun n _ => uint64?_ofNat n
  have cursor := optional_of_lookup cursor (fun _ _ => nofun) fun o _ => o.ofJson?_toJson
  have dialect := optional_of_lookup dialect (fun _ _ => ofNat_ne_null _)
    fun n _ => uint32?_ofNat n
  have stages : (ofList Stage.toJson a.stages).list? Stage.ofJson? =
      kept a.doubles a.stages := list?_ofList_kept fun s _ => s.ofJson?_toJson
  have params : (ofList paramToJson a.params).list? (pair? text? text?) = some a.params :=
    list?_ofList_self fun _ _ => rfl
  have shape : a.toJson = .object a.members := rfl
  rw [shape, ofJson?, object, Option.bind_eq_bind, Option.bind_some]
  simp only [Option.bind_eq_bind, Option.bind_some, load, timeout, cursor, dialect]
  simp [members, required, defaulted, List.lookup_append, List.lookup_cons, lookup_memberIf_of_ne,
    stages, params, text?, boolean?]

end Aggregation

end SearchWire
