import SearchWire.Exchange.Command

/-!
# Sessions

Commands are run over a connection: a frame goes out on one of two channels and an answer comes
back, which is a reply or the failure of the connection. The connection is a value: the answers it
still has to give and the frames sent over it so far. Running a command sends its frame only if
the command passes its checks, and then takes exactly one answer.
-/
namespace SearchWire

/-- The way a frame is sent. -/
inductive Channel where
  /-- For creating indexes. -/
  | create
  /-- For everything that reads. -/
  | aggregate
deriving DecidableEq

/-- A connection: the answers to come and the frames sent, the last one last. -/
structure Connection where
  /-- Answers that are still to come. -/
  answers : List (Except Error Reply)
  /-- Frames sent so far. -/
  sent : List (Channel × Frame)

namespace Connection

/-- The answer of a connection that has none left. -/
def silence : Error := .transport "script exhausted"

/-- Send a frame and take the next answer. -/
def send (channel : Channel) (frame : Frame) : StateM Connection (Except Error Reply) := fun c =>
  let sent := c.sent ++ [(channel, frame)]
  match c.answers with
  | answer :: later => (answer, ⟨later, sent⟩)
  | [] => (.error silence, ⟨[], sent⟩)

end Connection

namespace Command

/-- The channel a command goes out on. -/
def channel : Command → Channel
  | createIndex _ _ => .create
  | _ => .aggregate

/-- Run a command. -/
def execute (config : Config) (c : Command) : StateM Connection (Except Error Output) := do
  match c.frame config with
  | .error cause => return .error cause.error
  | .ok frame =>
    let answer ← Connection.send c.channel frame
    return answer.bind c.decode

/-- Run commands in order. A command that fails does not stop the ones behind it. -/
def executeAll (config : Config) (commands : List Command) :
    StateM Connection (List (Except Error Output)) :=
  commands.mapM (execute config)

end Command

/-- The error for an output of another kind than the operation gives. -/
def Output.unexpected (expected : String) (got : Output) : Error :=
  .replyFormat ("expected " ++ expected ++ " output, got " ++ got.kindName)

namespace Output

/-- The status line of an output that has to be one. -/
def requireStatus : Output → Except Error String
  | status line => .ok line
  | other => .error (unexpected "Status" other)

/-- The records of an output that has to hold all of them. -/
def requireRecords : Output → Except Error (List Record)
  | records rows => .ok rows
  | other => .error (unexpected "Records" other)

/-- The page of an output that has to be one. -/
def requirePage : Output → Except Error Page
  | page p => .ok p
  | other => .error (unexpected "Page" other)

end Output

namespace Session

/-- Create an index and return the status line. -/
def createIndex (config : Config) (index : String) (definition : IndexBody) :
    StateM Connection (Except Error String) := do
  let output ← Command.execute config (.createIndex index definition)
  return output.bind Output.requireStatus

/-- Run an aggregation that is not read page by page. -/
def aggregate (config : Config) (body : AggregationBody) :
    StateM Connection (Except Error (List Record)) := do
  let output ← Command.execute config (.aggregate body)
  return output.bind Output.requireRecords

/-- Run an aggregation that is read page by page and return its first page. -/
def aggregatePaged (config : Config) (body : AggregationBody) :
    StateM Connection (Except Error Page) := do
  let output ← Command.execute config (.aggregate body)
  return output.bind Output.requirePage

/-- Read the next page of a cursor. -/
def readCursor (config : Config) (index : String) (cursor : UInt64) (count : Option UInt64) :
    StateM Connection (Except Error Page) := do
  let output ← Command.execute config (.cursorRead index cursor count)
  return output.bind Output.requirePage

end Session

end SearchWire
