import SearchWire.Double.Shortest
import SearchWire.Error
import SearchWire.Schema.Kinds
import SearchWire.Text.Quoted
import SearchWire.Word

/-!
# Why a command is refused

Every cause for which a command is refused before it is sent, with its wording in one place, and
the checks that find the first cause that applies. A list of checks is passed exactly when no
check in it applies.
-/
namespace SearchWire

/-- A cause for refusing a command. -/
inductive Refusal where
  /-- No schema field was given. -/
  | noFields
  /-- A list of stopwords was given and stopwords were switched off. -/
  | stopwordConflict
  /-- A payload field was given for an index over JSON documents. -/
  | payloadOnJson
  /-- The lifespan of a temporary index is zero. -/
  | zeroLifespan
  /-- The value of an option is larger than every integer token. -/
  | beyondInteger (option : String) (value : UInt64)
  /-- The default score lies outside the unit interval. -/
  | scoreOutOfRange (score : Double)
  /-- A key beginning is empty. -/
  | emptyKeyStart
  /-- A field has no name. -/
  | emptyFieldName
  /-- A field is given an empty second name. -/
  | emptyFieldLabel (field : String)
  /-- A field of a JSON document is not named by a path. -/
  | notAPath (field : String)
  /-- A field of a hash is named by a path. -/
  | pathOnHash (field : String)
  /-- An option does not apply to the kind of the field. -/
  | misplacedOption (option : String) (kind : FieldKind) (field : String)
  /-- The separator of a tag field is not a punctuation character of ASCII. -/
  | badSeparator (field : String) (separator : Char)
  /-- The weight of a text field is not a positive finite number. -/
  | badWeight (field : String) (weight : Double)
  /-- A reducer has no function. -/
  | emptyFunction
  /-- A reducer names its output by the empty text. -/
  | emptyReducerLabel (function : String)
  /-- The size of a random sample is not an integer token. -/
  | badSampleSize
  /-- A quantile lies outside the unit interval. -/
  | badQuantile
  /-- A sort has no key. -/
  | noSortKeys
  /-- A computed property lacks its expression or its name. -/
  | incompleteApply
  /-- A filter has no expression. -/
  | emptyFilter
  /-- No index is named. -/
  | emptyIndexName
  /-- No query is given. -/
  | emptyQuery
  /-- A list of fields to load is empty. -/
  | emptyLoad
  /-- A query parameter has no name. -/
  | emptyParameterName
  /-- The dialect is zero. -/
  | zeroDialect
  /-- The cursor to read has no further page. -/
  | exhaustedCursor
  /-- A cursor or the size of its page is larger than every integer token. -/
  | cursorBeyondInteger
deriving DecidableEq

namespace Refusal

/-- The error a caller sees for a cause. -/
def error : Refusal → Error
  | noFields => .missingSchema
  | stopwordConflict =>
    .configConflict "a stopword list and the no-stopwords flag cannot both be set"
  | payloadOnJson => .configConflict "PAYLOAD_FIELD is not supported on JSON indexes"
  | zeroLifespan => .invalidArgument "TEMPORARY lifespan must be greater than zero"
  | beyondInteger option value =>
    .invalidArgument (option ++ " " ++ toString value.toNat ++
      " exceeds the largest integer argument " ++ toString Word.greatest)
  | scoreOutOfRange score => .invalidArgument ("SCORE must be within [0, 1], got " ++ score.text)
  | emptyKeyStart => .invalidArgument "key prefixes must not be empty"
  | emptyFieldName => .invalidArgument "field name must not be empty"
  | emptyFieldLabel field => .invalidArgument ("field '" ++ field ++ "' has an empty alias")
  | notAPath field =>
    .invalidArgument ("JSON field '" ++ field ++ "' must be a JSONPath starting with '$'")
  | pathOnHash field => .invalidArgument ("hash field '" ++ field ++ "' looks like a JSONPath")
  | misplacedOption option kind field =>
    .invalidArgument (option ++ " is not valid on " ++ kind.keyword ++ " field '" ++ field ++ "'")
  | badSeparator field separator =>
    .invalidArgument ("tag field '" ++ field ++
      "' separator must be one ASCII punctuation character, got " ++ Quoted.character separator)
  | badWeight field weight =>
    .invalidArgument ("field '" ++ field ++ "' weight must be positive, got " ++ weight.text)
  | emptyFunction => .invalidArgument "reducer function name must not be empty"
  | emptyReducerLabel function =>
    .invalidArgument ("reducer " ++ function ++ " has an empty alias")
  | badSampleSize =>
    .invalidArgument "RANDOM_SAMPLE needs a sample size within the integer range"
  | badQuantile => .invalidArgument "QUANTILE needs a quantile within [0, 1]"
  | noSortKeys => .invalidArgument "SORTBY needs at least one key"
  | incompleteApply => .invalidArgument "APPLY needs both an expression and an alias"
  | emptyFilter => .invalidArgument "FILTER expression must not be empty"
  | emptyIndexName => .invalidArgument "index name must not be empty"
  | emptyQuery => .invalidArgument "query must not be empty; use \"*\" to match all"
  | emptyLoad => .invalidArgument "LOAD needs at least one field"
  | emptyParameterName => .invalidArgument "parameter names must not be empty"
  | zeroDialect => .invalidArgument "DIALECT starts at 1"
  | exhaustedCursor => .invalidArgument "cursor 0 is exhausted and cannot be read"
  | cursorBeyondInteger =>
    .invalidArgument "cursor id and COUNT must fit an integer argument"

/-- Every cause is reported as an error found before anything is sent. -/
theorem isCompileError_error (refusal : Refusal) : refusal.error.isCompileError = true := by
  cases refusal <;> rfl

end Refusal

/-- A condition under which a command is refused, with the cause it is refused for. -/
structure Check where
  /-- Whether the condition holds. -/
  applies : Bool
  /-- The cause reported then. -/
  refusal : Refusal

namespace Check

/-- The cause of the first check that applies. -/
def run (checks : List Check) : Except Refusal Unit :=
  match checks.find? Check.applies with
  | some check => .error check.refusal
  | none => .ok ()

/-- A list of checks is passed exactly when none of them applies. -/
theorem run_eq_ok_iff {checks : List Check} :
    run checks = .ok () ↔ ∀ check ∈ checks, check.applies = false := by
  unfold run
  cases found : checks.find? Check.applies with
  | none => simpa using found
  | some check =>
    have applies := List.find?_some found
    have inside := List.mem_of_find?_eq_some found
    simp only [reduceCtorEq, false_iff]
    intro none
    exact absurd applies (by simp [none check inside])

/-- The first check is tried before the others. -/
theorem run_cons (check : Check) (rest : List Check) :
    run (check :: rest) = if check.applies then .error check.refusal else run rest := by
  unfold run
  rw [List.find?_cons]
  cases check.applies <;> rfl

/-- Checks in front of others are tried first. -/
theorem run_append (first second : List Check) :
    run (first ++ second) = (run first).bind fun _ => run second := by
  unfold run
  rw [List.find?_append]
  cases first.find? Check.applies <;> rfl

/-- The check that the value of an option fits an integer token. -/
def fits (option : String) (value : UInt64) : Check :=
  ⟨!Word.fits value.toNat, .beyondInteger option value⟩

/-- A value passes the check exactly if an integer token holds it. -/
theorem applies_fits_eq_false_iff {option : String} {value : UInt64} :
    (fits option value).applies = false ↔ value.toNat ≤ Word.greatest := by
  simp [fits, Word.fits]

/-- The check of an option that may be absent. -/
def optional {α : Type} (value : Option α) (check : α → Check) : List Check :=
  (value.map check).toList

/-- An option is checked if it has a value. -/
theorem mem_optional {α : Type} {value : Option α} {check : α → Check} {v : α}
    (present : value = some v) : check v ∈ optional value check := by
  simp [optional, present]

end Check

end SearchWire
