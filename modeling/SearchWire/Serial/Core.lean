import SearchWire.Error
import SearchWire.Json.Basic
import SearchWire.Reply
import SearchWire.Schema.Kinds
import SearchWire.Token

/-!
# Serialized tokens, replies, errors and kinds

Every type here is a choice. An alternative without content is written by its name, one with
content as an object whose one member has that name. A double that is not finite has no written
form and becomes `null`, which is read back as nothing.
-/
namespace SearchWire

namespace Token

/-- The serialized form of a token. -/
def toJson : Token → Json
  | text s => .variant "Str" (.string s)
  | integer n => .variant "Int" (.ofInt64 n)
  | double d => .variant "Double" (.ofDouble d)

/-- A token from its serialized form. -/
def ofJson? (j : Json) : Option Token := do
  match ← j.variant? with
  | ("Str", content) => content.text?.map text
  | ("Int", content) => content.int64?.map integer
  | ("Double", content) => content.double?.map double
  | _ => none

end Token

namespace Reply

mutual

/-- The serialized form of a reply. -/
def toJson : Reply → Json
  | simple s => .variant "SimpleString" (.string s)
  | bulk octets => .variant "BulkString" (.ofList (fun o => Json.ofNat o.toNat) octets)
  | null => .string "Null"
  | integer n => .variant "Integer" (.ofInt64 n)
  | double d => .variant "Double" (.ofDouble d)
  | array items => .variant "Array" (.array (toJsons items))
  | error message => .variant "Error" (.string message)

/-- The serialized forms of replies. -/
def toJsons : List Reply → List Json
  | [] => []
  | first :: rest => first.toJson :: toJsons rest

end

mutual

/-- A reply from its serialized form. -/
def ofJson? : Json → Option Reply
  | .string name => if name = "Null" then some null else none
  | .object [(name, content)] =>
    if name = "Array" then
      match content with
      | .array items => (ofJsons? items).map array
      | _ => none
    else if name = "SimpleString" then content.text?.map simple
    else if name = "BulkString" then (content.list? Json.uint8?).map bulk
    else if name = "Integer" then content.int64?.map integer
    else if name = "Double" then content.double?.map double
    else if name = "Error" then content.text?.map error
    else if name = "Null" then
      match content with
      | .null => some null
      | _ => none
    else none
  | _ => none

/-- Replies from their serialized forms. -/
def ofJsons? : List Json → Option (List Reply)
  | [] => some []
  | first :: rest => do
    let reply ← ofJson? first
    let replies ← ofJsons? rest
    return reply :: replies

end

end Reply

namespace Error

/-- The serialized form of an error. -/
def toJson : Error → Json
  | missingSchema => .string "MissingSchema"
  | configConflict reason => .variant "ConfigConflict" (.object [("reason", .string reason)])
  | invalidArgument reason => .variant "InvalidArgument" (.object [("reason", .string reason)])
  | replyFormat reason => .variant "ReplyFormat" (.object [("reason", .string reason)])
  | fieldNotFound field => .variant "FieldNotFound" (.object [("field", .string field)])
  | conversion expected actual =>
    .variant "Conversion" (.object [("expected", .string expected), ("actual", .string actual)])
  | server message => .variant "Server" (.object [("message", .string message)])
  | transport reason => .variant "Transport" (.object [("reason", .string reason)])
  | config reason => .variant "Config" (.object [("reason", .string reason)])

/-- The one text of a record that has a single member. -/
def soleText? (name : String) (content : Json) : Option String := do
  let members ← content.members? [name] 1
  Json.required members name Json.text?

/-- An error from its serialized form. -/
def ofJson? (j : Json) : Option Error :=
  if j.unit? = some "MissingSchema" then some missingSchema
  else do
    match ← j.variant? with
    | ("ConfigConflict", content) => (soleText? "reason" content).map configConflict
    | ("InvalidArgument", content) => (soleText? "reason" content).map invalidArgument
    | ("ReplyFormat", content) => (soleText? "reason" content).map replyFormat
    | ("FieldNotFound", content) => (soleText? "field" content).map fieldNotFound
    | ("Conversion", content) =>
      let members ← content.members? ["expected", "actual"] 2
      return conversion (← Json.required members "expected" Json.text?)
        (← Json.required members "actual" Json.text?)
    | ("Server", content) => (soleText? "message" content).map server
    | ("Transport", content) => (soleText? "reason" content).map transport
    | ("Config", content) => (soleText? "reason" content).map config
    | _ => none

end Error

namespace DocumentKind

/-- The serialized form of a kind of document. -/
def toJson : DocumentKind → Json
  | hash => .string "Hash"
  | json => .string "Json"

/-- A kind of document from its serialized form. -/
def ofJson? (j : Json) : Option DocumentKind := do
  match ← j.unit? with
  | "Hash" => some hash
  | "Json" => some json
  | _ => none

end DocumentKind

namespace FieldKind

/-- The serialized form of a kind of field. -/
def toJson : FieldKind → Json
  | text => .string "Text"
  | numeric => .string "Numeric"
  | geo => .string "Geo"
  | tag => .string "Tag"

/-- A kind of field from its serialized form. -/
def ofJson? (j : Json) : Option FieldKind := do
  match ← j.unit? with
  | "Text" => some text
  | "Numeric" => some numeric
  | "Geo" => some geo
  | "Tag" => some tag
  | _ => none

end FieldKind

namespace Phonetic

/-- The serialized form of a phonetic matcher. -/
def toJson : Phonetic → Json
  | english => .string "English"
  | french => .string "French"
  | portuguese => .string "Portuguese"
  | spanish => .string "Spanish"

/-- A phonetic matcher from its serialized form. -/
def ofJson? (j : Json) : Option Phonetic := do
  match ← j.unit? with
  | "English" => some english
  | "French" => some french
  | "Portuguese" => some portuguese
  | "Spanish" => some spanish
  | _ => none

end Phonetic

namespace Sorting

/-- The serialized form of how a field can be sorted by. -/
def toJson : Sorting → Json
  | no => .string "No"
  | yes => .string "Yes"
  | unnormalized => .string "Unnormalized"

/-- How a field can be sorted by, from its serialized form. -/
def ofJson? (j : Json) : Option Sorting := do
  match ← j.unit? with
  | "No" => some no
  | "Yes" => some yes
  | "Unnormalized" => some unnormalized
  | _ => none

end Sorting

namespace Direction

/-- The serialized form of a direction. -/
def toJson : Direction → Json
  | ascending => .string "Asc"
  | descending => .string "Desc"

/-- A direction from its serialized form. -/
def ofJson? (j : Json) : Option Direction := do
  match ← j.unit? with
  | "Asc" => some ascending
  | "Desc" => some descending
  | _ => none

end Direction

end SearchWire
