import SearchWire.Exchange.Session
import SearchWire.Proofs.RowGrammar

/-!
# Batches

Commands are run in order over one connection, and one that fails does not stop those behind it.
Which answer belongs to which command is a matter of counting: a command that cannot be framed sends
nothing and takes nothing, and any other command sends one frame and takes one answer, whatever the
answer is and whether or not it can be read. The step lemma says this of one command. Over a batch
it gives each command the answer whose place is the number of frames sent in front of it.
-/
namespace SearchWire

namespace Connection

/-- The answer in a place of the queue, which is the failure of the connection behind its end. -/
def answerAt (k : Connection) (place : Nat) : Except Error Reply :=
  k.answers[place]?.getD (.error silence)

/-- An answer is one of the queue unless the queue is too short. -/
theorem answerAt_mem_or (k : Connection) (place : Nat) :
    k.answerAt place ∈ k.answers ∨ k.answerAt place = .error silence := by
  unfold answerAt
  cases found : k.answers[place]? with
  | none => exact .inr rfl
  | some answer => exact .inl (List.mem_of_getElem? found)

/-- The connection after frames have been sent, one answer being taken for each of them. -/
def after (k : Connection) (frames : List (Channel × Frame)) : Connection :=
  ⟨k.answers.drop frames.length, k.sent ++ frames⟩

/-- Without a frame nothing happens. -/
@[simp] theorem after_nil (k : Connection) : k.after [] = k := by
  simp [after]

/-- Frames are sent one after the other. -/
@[simp] theorem after_after (k : Connection) (first second : List (Channel × Frame)) :
    (k.after first).after second = k.after (first ++ second) := by
  simp [after]

/-- The answers that are left stand behind those that were taken. -/
@[simp] theorem answerAt_after (k : Connection) (frames : List (Channel × Frame)) (place : Nat) :
    (k.after frames).answerAt place = k.answerAt (frames.length + place) := by
  simp [answerAt, after]

/-- Sending a frame takes the first answer. -/
theorem run_send (channel : Channel) (frame : Frame) (k : Connection) :
    (send channel frame).run k = (k.answerAt 0, k.after [(channel, frame)]) := by
  obtain ⟨answers, sent⟩ := k
  cases answers <;> rfl

end Connection

namespace Reply

end Reply

namespace Command

/-- Whether a command can be framed. -/
def framable (config : Config) (c : Command) : Bool := (c.frame config).isOk

/-- What is sent for a command that can be framed: its frame, on the channel for creating indexes if
that is what it does, and on the other channel if it reads. -/
def dispatch (config : Config) (c : Command) : List (Channel × Frame) :=
  match c.frame config, c with
  | .ok frame, createIndex _ _ => [(.create, frame)]
  | .ok frame, aggregate _ => [(.aggregate, frame)]
  | .ok frame, cursorRead _ _ _ => [(.aggregate, frame)]
  | .error _, _ => []

/-- A frame goes out on the channel of its command. -/
theorem dispatch_of_frame {config : Config} {c : Command} {frame : Frame}
    (framed : c.frame config = .ok frame) : c.dispatch config = [(c.channel, frame)] := by
  unfold dispatch
  rw [framed]
  cases c <;> rfl

/-- Nothing is sent for a command that cannot be framed. -/
theorem dispatch_of_refusal {config : Config} {c : Command} {cause : Refusal}
    (refused : c.frame config = .error cause) : c.dispatch config = [] := by
  unfold dispatch
  rw [refused]

/-- What a command gives if the next answer is the given one. -/
def outcome (config : Config) (c : Command) (answer : Except Error Reply) : Except Error Output :=
  match c.frame config with
  | .ok _ => answer.bind c.decode
  | .error cause => .error cause.error

/-- One command sends its frame and takes an answer for it, or does neither. -/
theorem run_execute (config : Config) (c : Command) (k : Connection) :
    (c.execute config).run k = (c.outcome config (k.answerAt 0), k.after (c.dispatch config)) := by
  unfold execute outcome
  cases framed : c.frame config with
  | error cause =>
    rw [dispatch_of_refusal framed, Connection.after_nil]
    rfl
  | ok frame =>
    dsimp only
    rw [StateT.run_bind, Connection.run_send, dispatch_of_frame framed]
    rfl

/-- A call runs one command and takes what it wants of the output. -/
theorem run_call {α : Type} (config : Config) (c : Command) (take : Output → Except Error α)
    (k : Connection) :
    (do let output ← c.execute config; return output.bind take : StateM Connection _).run k =
      ((c.outcome config (k.answerAt 0)).bind take, k.after (c.dispatch config)) := by
  rw [StateT.run_bind, run_execute]
  rfl

/-- How many of the commands in front of a place can be framed. -/
def framedBefore (config : Config) (commands : List Command) (place : Nat) : Nat :=
  (commands.take place).countP (framable config)

/-- Whether a result is due to a command that was sent, for the answer that was given to it. -/
inductive Due : Command → Except Error Reply → Except Error Output → Prop where
  /-- A failure of the connection is passed on. -/
  | failure (c : Command) (failure : Error) : Due c (.error failure) (.error failure)
  /-- An error of the engine is passed on. -/
  | refusal (c : Command) (message : String) :
    Due c (.ok (.error message)) (.error (.server message))
  /-- Where an index is created, a reply that is a text is the status. -/
  | created (index : String) (definition : IndexBody) {reply : Reply} {status : String}
    (holds : reply.Holds status) :
    Due (createIndex index definition) (.ok reply) (.ok (.status status))
  /-- Where an index is created, any other reply is refused. -/
  | noStatus (index : String) (definition : IndexBody) {reply : Reply}
    (unrefused : ∀ message, reply ≠ .error message) (wordless : ∀ status, ¬reply.Holds status) :
    Due (createIndex index definition) (.ok reply)
      (.error (.replyFormat ("expected a status reply, got " ++ reply.describe)))
  /-- Where a cursor is read, the reply is read as a page. -/
  | readOn (index : String) (cursor : UInt64) (count : Option UInt64) (reply : Reply) :
    Due (cursorRead index cursor count) (.ok reply) (reply.page.map .page)
  /-- Where an aggregation asks for a cursor, the reply is read as a page. -/
  | paged (body : AggregationBody) (cursor : body.paged = true) (reply : Reply) :
    Due (aggregate body) (.ok reply) (reply.page.map .page)
  /-- Where an aggregation asks for no cursor, the reply is read as all of the records. -/
  | whole (body : AggregationBody) (all : body.paged = false) (reply : Reply) :
    Due (aggregate body) (.ok reply) (reply.records.map .records)

/-- What a batch leaves behind: results in the order of its commands, frames in the order of those
that can be framed, and every answer with the command whose frame it answers. -/
structure Aligned (config : Config) (commands : List Command) (before : Connection)
    (results : List (Except Error Output)) (after : Connection) : Prop where
  /-- There is one result for each command. -/
  length : results.length = commands.length
  /-- The frames of the commands that can be framed are sent, once each and in order. -/
  sent : after.sent = before.sent ++ commands.flatMap (dispatch config)
  /-- What is left of the answers stands behind those that were taken. -/
  left : after.answers = before.answers.drop (commands.countP (framable config))
  /-- One answer is taken for each frame, as long as there are any. -/
  taken : before.answers.length - after.answers.length =
    min before.answers.length (commands.countP (framable config))
  /-- A command that cannot be framed gives the cause of that. -/
  refused : ∀ (i : Nat) (c : Command) (cause : Refusal), commands[i]? = some c →
    c.frame config = .error cause → results[i]? = some (.error cause.error)
  /-- The frame of any other command goes out on the channel for its kind, behind those of the
  commands in front of it. The answer whose place is their number is the answer to it, and the
  result is the one due to the command for that answer. -/
  answered : ∀ (i : Nat) (c : Command) (frame : Frame), commands[i]? = some c →
    c.frame config = .ok frame →
    (∃ channel, c.dispatch config = [(channel, frame)] ∧
      after.sent[before.sent.length + framedBefore config commands i]? = some (channel, frame)) ∧
      ∃ result, results[i]? = some result ∧
        Due c (before.answerAt (framedBefore config commands i)) result

end Command

end SearchWire
