import SearchWire.Exchange.Command
import SearchWire.Serial.Pipeline
import SearchWire.Serial.Schema

/-!
# Serialized records, commands, outputs and configurations

Commands are serialized to be stored or handed to another process before they are sent, outputs to
be handed on. A value of a record is written as the reply that delivered it.
-/
namespace SearchWire

namespace Record

/-- The serialized form of a field of a record. -/
def fieldToJson (field : String × Reply) : Json := .array [.string field.1, field.2.toJson]

/-- The serialized form of a record. -/
def toJson (r : Record) : Json := .object [("fields", .ofList fieldToJson r.fields)]

/-- A record from its serialized form. -/
def ofJson? (j : Json) : Option Record := do
  let members ← j.members? ["fields"] 1
  return ⟨← Json.required members "fields" (Json.list? (Json.pair? Json.text? Reply.ofJson?))⟩

end Record

namespace Page

/-- The serialized form of a page. -/
def toJson (p : Page) : Json :=
  .object
    [("total", .ofNat p.total.toNat),
      ("records", .ofList Record.toJson p.records),
      ("cursor", .ofNat p.cursor.toNat)]

/-- A page from its serialized form. -/
def ofJson? (j : Json) : Option Page := do
  let members ← j.members? ["total", "records", "cursor"] 3
  return {
    total := ← Json.required members "total" Json.uint64?
    records := ← Json.required members "records" (Json.list? Record.ofJson?)
    cursor := ← Json.required members "cursor" Json.uint64? }

end Page

namespace Output

/-- The serialized form of records. -/
def rowsToJson (rows : List Record) : Json := .object [("records", .ofList Record.toJson rows)]

/-- Records from their serialized form. -/
def rowsOfJson? (j : Json) : Option (List Record) := do
  let members ← j.members? ["records"] 1
  Json.required members "records" (Json.list? Record.ofJson?)

/-- The serialized form of an output. -/
def toJson : Output → Json
  | status line => .variant "Status" (.string line)
  | records rows => .variant "Records" (rowsToJson rows)
  | page p => .variant "Page" p.toJson

/-- An output from its serialized form. -/
def ofJson? (j : Json) : Option Output := do
  match ← j.variant? with
  | ("Status", content) => content.text?.map status
  | ("Records", content) => (rowsOfJson? content).map records
  | ("Page", content) => (Page.ofJson? content).map page
  | _ => none

end Output

namespace Frame

/-- The serialized form of a frame. -/
def toJson (f : Frame) : Json :=
  .object [("name", .string f.name), ("args", .ofList Token.toJson f.args)]

/-- A frame from its serialized form. -/
def ofJson? (j : Json) : Option Frame := do
  let members ← j.members? ["name", "args"] 2
  return {
    name := ← Json.required members "name" Json.text?
    args := ← Json.required members "args" (Json.list? Token.ofJson?) }

end Frame

namespace Command

/-- The serialized form of a command. -/
def toJson : Command → Json
  | createIndex index definition =>
    .variant "CreateIndex"
      (.object [("index", .string index), ("definition", definition.toJson)])
  | aggregate body => .variant "Aggregate" body.toJson
  | cursorRead index cursor count =>
    .variant "CursorRead"
      (.object
        ([("index", .string index), ("cursor", .ofNat cursor.toNat)] ++
          Json.memberIf "count" (fun n => .ofNat n.toNat) count))

/-- A command from its serialized form. -/
def ofJson? (j : Json) : Option Command := do
  match ← j.variant? with
  | ("CreateIndex", content) =>
    let members ← content.members? ["index", "definition"] 2
    return createIndex (← Json.required members "index" Json.text?)
      (← Json.required members "definition" IndexBody.ofJson?)
  | ("Aggregate", content) => (AggregationBody.ofJson? content).map aggregate
  | ("CursorRead", content) =>
    let members ← content.members? ["index", "cursor", "count"] 2
    return cursorRead (← Json.required members "index" Json.text?)
      (← Json.required members "cursor" Json.uint64?)
      (← Json.optional members "count" Json.uint64?)
  | _ => none

end Command

namespace Config

/-- The members of a serialized configuration in their order. -/
def memberNames : List String :=
  ["create_command", "aggregate_command", "cursor_command", "default_dialect", "log_commands"]

/-- The serialized form of a configuration. -/
def toJson (c : Config) : Json :=
  .object
    ([("create_command", .string c.createCommand),
      ("aggregate_command", .string c.aggregateCommand),
      ("cursor_command", .string c.cursorCommand)] ++
      Json.memberIf "default_dialect" (fun n => .ofNat n.toNat) c.defaultDialect ++
      [("log_commands", .boolean c.logCommands)])

/-- A configuration from its serialized form; every member has a default. -/
def ofJson? (j : Json) : Option Config := do
  let members ← j.members? memberNames 0
  return {
    createCommand :=
      ← Json.defaulted members "create_command" default.createCommand Json.text?
    aggregateCommand :=
      ← Json.defaulted members "aggregate_command" default.aggregateCommand Json.text?
    cursorCommand :=
      ← Json.defaulted members "cursor_command" default.cursorCommand Json.text?
    defaultDialect := ← Json.optional members "default_dialect" Json.uint32?
    logCommands := ← Json.defaulted members "log_commands" default.logCommands Json.boolean? }

end Config

end SearchWire
