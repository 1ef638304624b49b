import SearchWire.Clause
import SearchWire.Refusal

/-!
# Properties and reducers

A pipeline refers to a field of a record by its name behind `@`; a path into a JSON document begins
with `$` and stands as it is. A reducer is one function applied to each group of records:

    REDUCE <function> <argc> <arg>.. [AS <alias>]
-/
namespace SearchWire

/-- The reference to a field: `@` is put in front unless `@` or `$` already stands there. -/
def property (name : String) : String :=
  if name.toList.head? == some '@' || name.toList.head? == some '$' then name else "@" ++ name

/-- A function applied to each group. -/
structure Reducer where
  /-- The name of the function. -/
  function : String
  /-- Its arguments as they are written. -/
  args : List Token
  /-- The name of the output, if it is named. -/
  label : Option String
deriving DecidableEq

namespace Reducer

/-- A function with arguments and no name for its output. -/
def call (function : String) (args : List Token) : Reducer := ⟨function, args, none⟩

/-- A function of one property. -/
def onProperty (function name : String) : Reducer := call function [.text (property name)]

/-- The number of records in the group. -/
def count : Reducer := call "COUNT" []

/-- The number of distinct values. -/
def countDistinct (name : String) : Reducer := onProperty "COUNT_DISTINCT" name

/-- The approximate number of distinct values. -/
def countDistinctish (name : String) : Reducer := onProperty "COUNT_DISTINCTISH" name

/-- The sum of the values. -/
def sum (name : String) : Reducer := onProperty "SUM" name

/-- The least value. -/
def min (name : String) : Reducer := onProperty "MIN" name

/-- The greatest value. -/
def max (name : String) : Reducer := onProperty "MAX" name

/-- The mean of the values. -/
def average (name : String) : Reducer := onProperty "AVG" name

/-- The standard deviation of the values. -/
def deviation (name : String) : Reducer := onProperty "STDDEV" name

/-- The distinct values as a list. -/
def toList (name : String) : Reducer := onProperty "TOLIST" name

/-- The value at a quantile within the unit interval. -/
def quantile (name : String) (q : Double) : Reducer :=
  call "QUANTILE" [.text (property name), .double q]

/-- The value of the first record. -/
def firstValue (name : String) : Reducer := onProperty "FIRST_VALUE" name

/-- The value of the record that comes first by another property. -/
def firstValueBy (name order : String) (direction : Direction) : Reducer :=
  call "FIRST_VALUE"
    [.text (property name), .text "BY", .text (property order), .text direction.keyword]

/-- Values picked at random. A size that no integer token can hold keeps its digits as a text, and
the reducer is then refused. -/
def randomSample (name : String) (size : UInt64) : Reducer :=
  call "RANDOM_SAMPLE"
    [.text (property name),
      if Word.fits size.toNat then .ofNat size.toNat else .text (toString size.toNat)]

/-- The same function with a name for its output. -/
def named (r : Reducer) (label : String) : Reducer := { r with label := some label }

/-- What is checked of a reducer. -/
def checks (r : Reducer) : List Check :=
  let second := r.args[1]?
  [⟨r.function.isEmpty, .emptyFunction⟩,
    ⟨r.label == some "", .emptyReducerLabel r.function⟩,
    ⟨r.function == "RANDOM_SAMPLE" && (second.bind Token.integer?).isNone, .badSampleSize⟩,
    ⟨r.function == "QUANTILE" && !(second.bind Token.double?).any Double.inUnitInterval,
      .badQuantile⟩]

/-- How many tokens a reducer takes. -/
def tokenCount (r : Reducer) : Nat := 3 + r.args.length + if r.label.isSome then 2 else 0

/-- The tokens of a reducer. -/
def tokens (r : Reducer) : List Token :=
  .text "REDUCE" :: .text r.function :: Token.counted r.args ++
  Token.keyed "AS" (r.label.map .text)

/-- A reducer as a clause. -/
def clause (r : Reducer) : Clause := ⟨r.tokenCount, r.tokens⟩

end Reducer

end SearchWire
