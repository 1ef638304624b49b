import SearchWire.Double.Rounding
import SearchWire.Word

/-!
# Values of a data exchange

The values that commands, replies and descriptions are exchanged as. An object keeps its members in
order and may repeat a name; whether that is allowed is up to the reader. Texts may hold parts that
follow the grammar and yet stand for no value, such as a number beyond every double; they are kept
as one marked value, because a member nobody asks for may well be such a part.

Readers of simple kinds stand here too. A record is written as an object with one member for each
entry, or as a list of the entries in their order; a choice is written as the name of an
alternative, or as an object whose one member names the alternative and holds its content.
-/
namespace SearchWire

/-- A value of a data exchange. -/
inductive Json where
  | null
  | boolean (b : Bool)
  /-- A number without fraction and exponent that fits a signed or an unsigned 64-bit word. -/
  | integer (n : Int)
  /-- Any other number. -/
  | double (d : Double)
  | string (s : String)
  | array (items : List Json)
  | object (members : List (String × Json))
  /-- A part of a text that is well formed and stands for no value. -/
  | valueless
deriving Inhabited

namespace Json

/-- A text. -/
def text? : Json → Option String
  | string s => some s
  | _ => none

/-- A truth value. -/
def boolean? : Json → Option Bool
  | boolean b => some b
  | _ => none

/-- A number without fraction and exponent. -/
def integer? : Json → Option Int
  | integer n => some n
  | _ => none

/-- A number. -/
def double? : Json → Option Double
  | double d => some d
  | integer n => some (Double.ofInt n)
  | _ => none

/-- A text of one character. -/
def character? : Json → Option Char
  | string s =>
    match s.toList with
    | [c] => some c
    | _ => none
  | _ => none

/-- A signed 64-bit word. -/
def int64? (j : Json) : Option Int64 := j.integer?.bind Word.int64?

/-- An unsigned 64-bit word. -/
def uint64? (j : Json) : Option UInt64 := j.integer?.bind Word.uint64?

/-- An unsigned 32-bit word. -/
def uint32? (j : Json) : Option UInt32 := j.integer?.bind Word.uint32?

/-- An octet. -/
def uint8? (j : Json) : Option UInt8 := j.integer?.bind Word.uint8?

/-- A list of values of one kind. -/
def list? {α : Type} (read : Json → Option α) : Json → Option (List α)
  | array items => items.mapM read
  | _ => none

/-- A list of exactly two values. -/
def pair? {α β : Type} (first : Json → Option α) (second : Json → Option β) :
    Json → Option (α × β)
  | array [a, b] => do return (← first a, ← second b)
  | _ => none

/-- A value that may be missing, written as `null`. -/
def nullable? {α : Type} (read : Json → Option α) : Json → Option (Option α)
  | null => some none
  | j => (read j).map some

/-- A finite double; one that is not finite has no written form and becomes `null`. -/
def ofDouble (d : Double) : Json := if d.isFinite then double d else null

/-- A word. -/
def ofInt64 (n : Int64) : Json := integer n.toInt

/-- A natural number. -/
def ofNat (n : Nat) : Json := integer n

/-- A list. -/
def ofList {α : Type} (write : α → Json) (values : List α) : Json := array (values.map write)

/-- A value that may be missing. -/
def ofOption {α : Type} (write : α → Json) : Option α → Json
  | some value => write value
  | none => null

/-- A member that is left out if its value is missing. -/
def memberIf {α : Type} (name : String) (write : α → Json) (value : Option α) :
    List (String × Json) :=
  match value with
  | some value => [(name, write value)]
  | none => []

/-- The named alternative of a choice with its content. -/
def variant (name : String) (content : Json) : Json := object [(name, content)]

/-- The alternative of a choice that has no content: its name, or its name with `null`. -/
def unit? : Json → Option String
  | string name => some name
  | object [(name, null)] => some name
  | _ => none

/-- The alternative of a choice that has content: its name and the content. -/
def variant? : Json → Option (String × Json)
  | object [(name, content)] => some (name, content)
  | _ => none

/-- The members of a record. In an object no known member may stand twice, and unknown ones are
passed over by whoever asks for the known ones. A list gives the known members in order; it may end
after any member behind the required ones, and may not be longer than the record. -/
def members? (known : List String) (required : Nat) : Json → Option (List (String × Json))
  | object members =>
    if known.all fun name => decide ((members.filter (·.1 == name)).length ≤ 1) then some members
    else none
  | array items =>
    if required ≤ items.length ∧ items.length ≤ known.length then some (known.zip items)
    else none
  | _ => none

/-- A member that has to be there. -/
def required {α : Type} (members : List (String × Json)) (name : String)
    (read : Json → Option α) : Option α :=
  (members.lookup name).bind read

/-- A member that may be missing or `null`. -/
def optional {α : Type} (members : List (String × Json)) (name : String)
    (read : Json → Option α) : Option (Option α) :=
  match members.lookup name with
  | some j => nullable? read j
  | none => some none

/-- A member that has a default when it is missing. -/
def defaulted {α : Type} (members : List (String × Json)) (name : String) (default : α)
    (read : Json → Option α) : Option α :=
  match members.lookup name with
  | some j => read j
  | none => some default

end Json

end SearchWire
