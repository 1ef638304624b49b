import SearchWire.Error
import SearchWire.Text.Blank
import SearchWire.Text.Octets
import SearchWire.Toml.Quoting
import SearchWire.Toml.Reading

/-!
# Configuration

The names under which commands are sent, and the dialect for aggregations that set none. Every
entry has a default, so an empty file gives the usual names. A configuration is written to a file
as it is and checked when it is read, so an unusable one never loads.
-/
namespace SearchWire

/-- How commands are sent. -/
structure Config where
  /-- The command that creates an index. -/
  createCommand : String
  /-- The command that runs an aggregation. -/
  aggregateCommand : String
  /-- The command that reads a cursor. -/
  cursorCommand : String
  /-- The dialect of aggregations that set none. -/
  defaultDialect : Option UInt32
  /-- Whether commands are logged. -/
  logCommands : Bool
deriving DecidableEq

/-- Why a configuration cannot be used. -/
inductive ConfigFault where
  /-- The command under this key is empty or blank. -/
  | emptyCommand (key : String)
  /-- The default dialect is zero. -/
  | zeroDialect
  /-- The text is no document with entries of the right kinds. -/
  | malformed
  /-- There is no such file, or it does not hold text. -/
  | unreadableFile
  /-- The file cannot be made. -/
  | unwritableFile
deriving DecidableEq

namespace ConfigFault

/-- The fault in words. Where a text is no document or a file cannot be read or made, the words of
the parser or of the system and the path of the file follow; these are left out. -/
def reason : ConfigFault → String
  | emptyCommand key => key ++ " must not be empty"
  | zeroDialect => "default_dialect starts at 1"
  | malformed => "failed to parse config"
  | unreadableFile => "failed to read config file"
  | unwritableFile => "failed to write config file"

/-- The error a caller sees. -/
def error (f : ConfigFault) : Error := .config f.reason

end ConfigFault

namespace Config

/-- The name under which a configuration is looked for. -/
def fileName : String := "ftkit.toml"

/-- The usual names. -/
def default : Config where
  createCommand := "FT.CREATE"
  aggregateCommand := "FT.AGGREGATE"
  cursorCommand := "FT.CURSOR"
  defaultDialect := none
  logCommands := false

/-- The first fault of a configuration, if it has any. -/
def validate (c : Config) : Except Error Unit :=
  if Blank.isEmpty c.createCommand then .error (ConfigFault.emptyCommand "create_command").error
  else if Blank.isEmpty c.aggregateCommand then
    .error (ConfigFault.emptyCommand "aggregate_command").error
  else if Blank.isEmpty c.cursorCommand then
    .error (ConfigFault.emptyCommand "cursor_command").error
  else if c.defaultDialect = some 0 then .error ConfigFault.zeroDialect.error
  else .ok ()

/-- The text under a key, or the default if the key is missing. -/
def textEntry (entries : Toml.Entries) (key default : String) : Option String :=
  match entries.lookup key with
  | none => some default
  | some (.text s) => some s
  | some _ => none

/-- The configuration in a document; keys that are not known are passed over. -/
def ofEntries? (entries : Toml.Entries) : Option Config := do
  let create ← textEntry entries "create_command" default.createCommand
  let aggregate ← textEntry entries "aggregate_command" default.aggregateCommand
  let cursor ← textEntry entries "cursor_command" default.cursorCommand
  let dialect ←
    match entries.lookup "default_dialect" with
    | none => some none
    | some (.integer n) => (Word.uint32? n.toInt).map some
    | some _ => none
  let log ←
    match entries.lookup "log_commands" with
    | none => some default.logCommands
    | some (.boolean b) => some b
    | some _ => none
  return ⟨create, aggregate, cursor, dialect, log⟩

/-- Read a configuration from text and check it. -/
def ofText (text : String) : Except Error Config :=
  match (Toml.document? text).bind ofEntries? with
  | none => .error ConfigFault.malformed.error
  | some c => c.validate.map fun _ => c

/-- Read a configuration from the octets of a file, if there is one, and check it. -/
def ofFile (content : Option (List UInt8)) : Except Error Config :=
  match content.bind Octets.text? with
  | none => .error ConfigFault.unreadableFile.error
  | some text => ofText text

/-- One entry on its line. -/
def line (key : String) (value : List Char) : List Char :=
  key.toList ++ [' ', '=', ' '] ++ value ++ ['\n']

/-- The text of a configuration: one line for each entry; a dialect that is not set has none. -/
def text (c : Config) : String :=
  String.ofList (line "create_command" (Toml.quoted c.createCommand.toList) ++
    line "aggregate_command" (Toml.quoted c.aggregateCommand.toList) ++
    line "cursor_command" (Toml.quoted c.cursorCommand.toList) ++
    (match c.defaultDialect with
      | some dialect => line "default_dialect" (Nat.toDigits 10 dialect.toNat)
      | none => []) ++
    line "log_commands" (toString c.logCommands).toList)

/-- The content of the file a configuration is written to. The flag says whether the file can be
made; nothing is checked. -/
def toFile (c : Config) (writable : Bool) : Except Error (List UInt8) :=
  if writable then .ok (Octets.ofText c.text) else .error ConfigFault.unwritableFile.error

end Config

end SearchWire
