import SearchWire.Double.Shortest
import SearchWire.Text.Octets
import SearchWire.Text.Quoted

/-!
# Replies

What the engine answers, independently of the wire protocol: a tree whose nesting is kept, because
the rows of an aggregation are told apart by it.
-/
namespace SearchWire

/-- The answer to one command. -/
inductive Reply where
  /-- A status line. -/
  | simple (s : String)
  /-- Octets that need not be text. -/
  | bulk (octets : List UInt8)
  /-- No value. -/
  | null
  /-- An integer. -/
  | integer (n : Int64)
  /-- A binary64 number. -/
  | double (d : Double)
  /-- A list of replies. -/
  | array (items : List Reply)
  /-- An error reported by the engine. -/
  | error (message : String)
deriving Inhabited

namespace Reply

/-- The kind of a reply in words. -/
def kindName : Reply → String
  | simple _ => "simple string"
  | bulk _ => "bulk string"
  | null => "null"
  | integer _ => "integer"
  | double _ => "double"
  | array _ => "array"
  | error _ => "error"

/-- The text of a status line or of octets that are valid UTF-8. -/
def text? : Reply → Option String
  | simple s => some s
  | bulk octets => Octets.text? octets
  | _ => none

/-- The elements of a list. -/
def items? : Reply → Option (List Reply)
  | array items => some items
  | _ => none

/-- Whether the reply is the one without a value. -/
def isNull : Reply → Bool
  | null => true
  | _ => false

/-- A reply as messages mention it: its kind, and what it holds if that is short to say. -/
def describe : Reply → String
  | simple s => "simple string " ++ Quoted.text s
  | bulk octets => "bulk string " ++ Quoted.text (Octets.shownText octets)
  | null => "null"
  | integer n => "integer " ++ toString n.toInt
  | double d => "double " ++ d.text
  | array items => "array of " ++ toString items.length ++ " elements"
  | error message => "error " ++ Quoted.text message

end Reply

end SearchWire
