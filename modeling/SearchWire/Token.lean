import SearchWire.Double.Shortest
import SearchWire.Text.Octets
import SearchWire.Word

/-!
# Tokens

A compiled command is a flat list of tokens. A token has one of three kinds and no name: its
meaning comes from its place in the list. Tokens of different kinds are never equal, even if they
are written alike.
-/
namespace SearchWire

/-- One positional argument of a command. -/
inductive Token where
  /-- A keyword, a name or an expression. -/
  | text (s : String)
  /-- A count, an offset or a lifespan. -/
  | integer (n : Int64)
  /-- A weight, a score or a quantile. -/
  | double (d : Double)
deriving DecidableEq

namespace Token

/-- The token of a count, the largest integer token for counts above it. -/
def ofNat (n : Nat) : Token := integer (Word.saturate n)

/-- The token as it is written. -/
def shown : Token → String
  | text s => s
  | integer n => toString n.toInt
  | double d => d.text

/-- The octets of the written token. -/
def octets (t : Token) : List UInt8 := Octets.ofText t.shown

/-- The text of a text token. -/
def text? : Token → Option String
  | text s => some s
  | _ => none

/-- The word of an integer token. -/
def integer? : Token → Option Int64
  | integer n => some n
  | _ => none

/-- The number of a double token. -/
def double? : Token → Option Double
  | double d => some d
  | _ => none

/-- Whether the token is the given keyword. -/
def isKeyword (keyword : String) : Token → Bool
  | text s => s == keyword
  | _ => false

/-- Whether two tokens are of one kind and equal, doubles compared as numbers. -/
def numericEq : Token → Token → Bool
  | text a, text b => a == b
  | integer a, integer b => a == b
  | double a, double b => a.numericEq b
  | _, _ => false

/-- The tokens written with one space between neighbours. -/
def joined (tokens : List Token) : String := String.intercalate " " (tokens.map shown)

/-- A keyword that is written only if its option is on. -/
def flag (keyword : String) (on : Bool) : List Token := if on then [text keyword] else []

/-- A flag takes one token if its option is on. -/
@[simp] theorem length_flag (keyword : String) (on : Bool) :
    (flag keyword on).length = on.toNat := by
  cases on <;> rfl

/-- A keyword and a value that are written only if there is a value. -/
def keyed (keyword : String) (value : Option Token) : List Token :=
  match value with
  | some value => [text keyword, value]
  | none => []

/-- A keyword and its value take two tokens if there is a value. -/
@[simp] theorem length_keyed (keyword : String) (value : Option Token) :
    (keyed keyword value).length = if value.isSome then 2 else 0 := by
  cases value <;> rfl

/-- The number of items, then the items. -/
def counted (items : List Token) : List Token := ofNat items.length :: items

/-- The number of the items takes one token more. -/
@[simp] theorem length_counted (items : List Token) :
    (counted items).length = items.length + 1 := rfl

end Token

end SearchWire
