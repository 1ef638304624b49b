import SearchWire.Pipeline.Stage

/-!
# Aggregations

An aggregation is a query, options, and a pipeline of stages. The stages are kept and written in
the order in which they were added; the options stand around them in one order whatever the order
of the steps that set them:

    <query> [VERBATIM] [LOAD n p..|LOAD *] [TIMEOUT ms]
    <stage>..
    [WITHCURSOR [COUNT n] [MAXIDLE ms]] [PARAMS 2n k v..] [DIALECT d]
-/
namespace SearchWire

/-- The fields that are loaded before the pipeline runs. -/
inductive Load where
  /-- Every field of the document. -/
  | all
  /-- The fields listed. -/
  | fields (properties : List String)
deriving DecidableEq

/-- How a result is read page by page. -/
structure CursorOptions where
  /-- Records on a page. -/
  count : Option UInt64
  /-- Milliseconds after which the engine forgets an idle cursor. -/
  maxIdle : Option UInt64
deriving DecidableEq

/-- The description of an aggregation. -/
structure Aggregation where
  /-- The index searched. -/
  index : String
  /-- The query whose results enter the pipeline. -/
  query : String
  /-- Whether the words of the query are taken unstemmed. -/
  verbatim : Bool
  /-- The fields loaded first. -/
  load : Option Load
  /-- Milliseconds the query may take. -/
  timeout : Option UInt64
  /-- The pipeline. -/
  stages : List Stage
  /-- How the result is read, if page by page. -/
  cursor : Option CursorOptions
  /-- Parameters of the query. -/
  params : List (String × String)
  /-- The dialect of the query. -/
  dialect : Option UInt32
deriving DecidableEq

/-- One step in describing an aggregation. -/
inductive AggregationStep where
  | query (text : String)
  | verbatim
  /-- Load the named fields. -/
  | load (names : List String)
  | loadAll
  | timeout (milliseconds : UInt64)
  | stage (s : Stage)
  | cursor (options : CursorOptions)
  | param (name value : String)
  | dialect (number : UInt32)

/-- The body of an aggregation command: everything after the name of the index, with what its
sender has to know about it. -/
structure AggregationBody where
  /-- The index searched. -/
  index : String
  /-- The tokens of the body. -/
  tokens : List Token
  /-- The dialect that was set, if one was. -/
  dialect : Option UInt32
  /-- Whether the reply is a page. -/
  paged : Bool
deriving DecidableEq

namespace AggregationBody

/-- The body as it is written. -/
def shown (b : AggregationBody) : String := Token.joined b.tokens

end AggregationBody

namespace Aggregation

/-- The query that every document matches. -/
def matchAll : String := "*"

/-- The aggregation of every document of an index, with no option and no stage. -/
def ofIndex (index : String) : Aggregation where
  index := index
  query := matchAll
  verbatim := false
  load := none
  timeout := none
  stages := []
  cursor := none
  params := []
  dialect := none

/-- The description after one step: stages and parameters accumulate, of any other option the last
value counts. -/
def step (a : Aggregation) : AggregationStep → Aggregation
  | .query text => { a with query := text }
  | .verbatim => { a with verbatim := true }
  | .load names => { a with load := some (.fields (names.map property)) }
  | .loadAll => { a with load := some .all }
  | .timeout milliseconds => { a with timeout := some milliseconds }
  | .stage s => { a with stages := a.stages ++ [s] }
  | .cursor options => { a with cursor := some options }
  | .param name value => { a with params := a.params ++ [(name, value)] }
  | .dialect number => { a with dialect := some number }

/-- The description that steps lead to. -/
def ofSteps (index : String) (steps : List AggregationStep) : Aggregation :=
  steps.foldl step (ofIndex index)

/-- What is checked of the options. -/
def optionChecks (a : Aggregation) : List Check :=
  [⟨a.index.isEmpty, .emptyIndexName⟩,
    ⟨a.query.isEmpty, .emptyQuery⟩,
    ⟨a.load == some (.fields []), .emptyLoad⟩,
    ⟨a.params.any fun (name, _) => name.isEmpty, .emptyParameterName⟩,
    ⟨a.dialect == some 0, .zeroDialect⟩] ++
  Check.optional a.timeout (Check.fits "TIMEOUT") ++
  Check.optional (a.cursor.bind CursorOptions.count) (Check.fits "COUNT") ++
  Check.optional (a.cursor.bind CursorOptions.maxIdle) (Check.fits "MAXIDLE")

/-- What is checked of an aggregation, in the order in which faults are reported. -/
def checks (a : Aggregation) : List Check := a.optionChecks ++ a.stages.flatMap Stage.checks

/-- The first fault of an aggregation, if it has any. -/
def validate (a : Aggregation) : Except Refusal Unit := Check.run a.checks

/-- A keyword and a number that are written only if there is a number. -/
def numberPart (keyword : String) (value : Option UInt64) : List Part :=
  (value.map fun n => Part.keyed keyword (.ofNat n.toNat)).toList

/-- The part that says which fields are loaded. -/
def loadPart : Load → Part
  | .all => .keyed "LOAD" (.text "*")
  | .fields properties => .counted "LOAD" (properties.map .text)

/-- The parts in front of the stages. -/
def headParts (a : Aggregation) : List Part :=
  .bare (.text a.query) ::
  (if a.verbatim then [.flag "VERBATIM"] else []) ++
  (a.load.map loadPart).toList ++
  numberPart "TIMEOUT" a.timeout

/-- The parts of the cursor options. -/
def cursorParts (options : CursorOptions) : List Part :=
  .flag "WITHCURSOR" :: numberPart "COUNT" options.count ++ numberPart "MAXIDLE" options.maxIdle

/-- The parts behind the stages. -/
def tailParts (a : Aggregation) : List Part :=
  (match a.cursor with
    | some options => cursorParts options
    | none => []) ++
  (if a.params.isEmpty then []
    else [.counted "PARAMS" (a.params.flatMap fun (name, value) => [.text name, .text value])]) ++
  (a.dialect.map fun number => Part.keyed "DIALECT" (.ofNat number.toNat)).toList

/-- All clauses of the body. -/
def clauses (a : Aggregation) : List Clause :=
  a.headParts.map Part.clause ++ a.stages.map Stage.clause ++ a.tailParts.map Part.clause

/-- Check the description and write its body. -/
def compile (a : Aggregation) : Except (CompileFault Refusal) AggregationBody := do
  a.validate.mapError .refused
  let tokens ← (assemble a.clauses).mapError .broken
  return ⟨a.index, tokens, a.dialect, a.cursor.isSome⟩

end Aggregation

end SearchWire
