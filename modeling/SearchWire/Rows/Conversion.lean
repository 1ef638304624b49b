import SearchWire.Double.Reading
import SearchWire.Error
import SearchWire.Reply
import SearchWire.Text.Blank
import SearchWire.Word

/-!
# Values read as text, integers, numbers and lists

A value is kept as the reply that delivered it and is converted when it is asked for. A conversion
loses nothing: what would have to be rounded to become an integer is refused, with an error that
names the wanted type and shows the value.
-/
namespace SearchWire.Reply

/-- The refusal to read a value as the named type. -/
def unreadable (r : Reply) (expected : String) : Error := .conversion expected r.describe

/-- The value as a text, if it was delivered as one. -/
def asText (r : Reply) : Except Error String :=
  match r.text? with
  | some text => .ok text
  | none => .error (r.unreadable "string")

/-- The value as a text, numbers included. -/
def toText : Reply → Except Error String
  | integer n => .ok (toString n.toInt)
  | double d => .ok d.text
  | r => r.asText

/-- From here on doubles no longer hold every integer, so one that is an integer may not be the
integer that was sent. -/
def firstInexact : Nat := 0x20000000000000

/-- The integer a double stands for, if no other integer could have become that double. -/
def integerOfDouble? (d : Double) : Option Int64 :=
  (d.integer?.filter fun n => decide (n.natAbs < firstInexact)).bind Word.int64?

/-- The characters before the first point and those after it, if there is a point. -/
def splitAtPoint? (text : List Char) : Option (List Char × List Char) :=
  match text.dropWhile (· != '.') with
  | [] => none
  | _ :: after => some (text.takeWhile (· != '.'), after)

/-- The part before the point of a text whose part after it is made of zeros only. -/
def beforeZeros? (text : List Char) : Option (List Char) :=
  match splitAtPoint? text with
  | some (before, after) =>
    if after ≠ [] ∧ after.all (· == '0') then some before else none
  | none => none

/-- The integer that a signed word holds and a text denotes. -/
def wordOfText? (text : List Char) : Option Int64 := (Decimal.integer? text).bind Word.int64?

/-- The integer a text without blanks at its ends stands for. Digits are read exactly, also in
front of a fraction of zeros; any other number goes through the double nearest to it. -/
def integerOfText? (text : List Char) : Option Int64 :=
  match wordOfText? text with
  | some n => some n
  | none =>
    match beforeZeros? text with
    | some before => wordOfText? before
    | none => (Double.ofChars? text).bind integerOfDouble?

/-- The value as an integer. -/
def asInteger (r : Reply) : Except Error Int64 :=
  let found :=
    match r with
    | integer n => some n
    | double d => integerOfDouble? d
    | other => other.text?.bind fun text => integerOfText? (Blank.trim text.toList)
  match found with
  | some n => .ok n
  | none => .error (r.unreadable "integer")

/-- The value as a double. An integer becomes the double nearest to it. -/
def asDouble (r : Reply) : Except Error Double :=
  let found :=
    match r with
    | double d => some d
    | integer n => some (Double.ofInt n.toInt)
    | other => other.text?.bind fun text => Double.ofChars? (Blank.trim text.toList)
  match found with
  | some d => .ok d
  | none => .error (r.unreadable "float")

/-- The value as a list of values. -/
def asList (r : Reply) : Except Error (List Reply) :=
  match r.items? with
  | some items => .ok items
  | none => .error (r.unreadable "list")

end SearchWire.Reply
