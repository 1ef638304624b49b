import SearchWire.Proofs.Assembly
import SearchWire.Proofs.Batches
import SearchWire.Proofs.PageReading

/-!
# Errors before and after sending

Whoever is told of a failure has to know whether the engine may have acted on the command. The class
of the error says so: the causes of a refusal are all reported as errors of compilation, and neither
a reply nor an output of another kind is ever reported as one. A call that sends nothing was refused,
so it fails with an error of compilation; a call that sends its frame can only fail later.
-/
namespace SearchWire

/-- Whether a failure is none of compilation. -/
def FailsLate {α : Type} (x : Except Error α) : Prop :=
  ∀ e, x = .error e → e.isCompileError = false

section
variable {α β : Type} {x : Except Error α}

/-- A result does not fail. -/
theorem failsLate_ok (a : α) : FailsLate (.ok a : Except Error α) := nofun

/-- Two steps fail late if both do. -/
theorem FailsLate.bind {f : α → Except Error β} (first : FailsLate x)
    (second : ∀ a, FailsLate (f a)) : FailsLate (x.bind f) :=
  forall_error_bind first second

/-- Changing a result changes no failure. -/
theorem FailsLate.map {f : α → β} (first : FailsLate x) : FailsLate (x.map f) :=
  forall_error_map first

/-- A refusal for the shape of a reply is late. -/
theorem Reply.Misshapen.failsLate (refused : Misshapen x) : FailsLate x := by
  intro e failed
  obtain ⟨shape, rfl⟩ := refused e failed
  rfl

end

/-! ## Replies -/

namespace Reply

/-- An error of the engine that is passed on is late. -/
theorem failsLate_elements (r : Reply) : FailsLate r.elements := by
  rcases r.error_or_misshapen_elements with ⟨message, rfl⟩ | refused
  · rintro _ ⟨⟩
    rfl
  · exact refused.failsLate

/-- No whole result is refused as a command is. -/
theorem failsLate_records (r : Reply) : FailsLate r.records := by
  rcases r.error_or_misshapen with ⟨message, rfl⟩ | refused
  · rintro _ ⟨⟩
    rfl
  · exact refused.failsLate

/-- No page is refused as a command is. -/
theorem failsLate_page (r : Reply) : FailsLate r.page := by
  -- The content of a page may be an error of the engine too, so the shape is not the only fault.
  by_cases paged : r.Paged
  · obtain ⟨content, id, c, rfl, counts⟩ := paged
    rw [page_eq_map counts]
    exact (content.failsLate_elements.bind fun items => (misshapen_rows items).failsLate).map
  · rcases error_or_misshapen_page paged with ⟨message, rfl⟩ | ⟨shape, refused⟩
    · rintro _ ⟨⟩
      rfl
    · rw [refused]
      exact (misshapen_error shape).failsLate

/-- No status is refused as a command is. -/
theorem failsLate_status (r : Reply) : FailsLate r.status := by
  intro e failed
  unfold status at failed
  split at failed
  · cases failed
    rfl
  · split at failed
    · cases failed
    · cases failed
      rfl

end Reply

/-- Whatever is read of a reply, it is not refused as a command is. -/
theorem Command.failsLate_decode (c : Command) (reply : Reply) : FailsLate (c.decode reply) := by
  cases c with
  | createIndex => exact reply.failsLate_status.map
  | cursorRead => exact reply.failsLate_page.map
  | aggregate body =>
    rw [decode]
    split
    · exact reply.failsLate_page.map
    · exact reply.failsLate_records.map

namespace Output

/-- An output of another kind than a status is no refusal of a command. -/
theorem failsLate_requireStatus (output : Output) : FailsLate output.requireStatus := by
  cases output with
  | status line => exact failsLate_ok line
  | records | page =>
    rintro _ ⟨⟩
    rfl

/-- An output of another kind than all records is no refusal of a command. -/
theorem failsLate_requireRecords (output : Output) : FailsLate output.requireRecords := by
  cases output with
  | records rows => exact failsLate_ok rows
  | status | page =>
    rintro _ ⟨⟩
    rfl

/-- An output of another kind than a page is no refusal of a command. -/
theorem failsLate_requirePage (output : Output) : FailsLate output.requirePage := by
  cases output with
  | page p => exact failsLate_ok p
  | status | records =>
    rintro _ ⟨⟩
    rfl

end Output

/-! ## Calls -/

/-- Whether a connection fails in its own ways only: it does not deliver, or reports an error of the
engine. A call takes one answer at most, so it is the first answer that matters, however it was
found. -/
def Connection.Proper (k : Connection) : Prop :=
  ∀ failure, .error failure ∈ k.answers →
    (∃ reason, failure = .transport reason) ∨ ∃ message, failure = .server message

/-- The answers of such a connection fail late, and so does its silence. -/
theorem Connection.Proper.failsLate_answerAt {k : Connection} (proper : k.Proper) (place : Nat) :
    FailsLate (k.answerAt place) := by
  intro e failed
  rcases k.answerAt_mem_or place with inside | silent
  · rw [failed] at inside
    obtain ⟨reason, rfl⟩ | ⟨message, rfl⟩ := proper e inside
    · rfl
    · rfl
  · rw [silent] at failed
    cases failed
    rfl

/-- What a call over a connection tells by its result: it sends at most one frame, it fails with an
error of compilation if it sends none, and it does not if it sends one. -/
structure TellsSent {α : Type} (before : Connection) (run : Except Error α × Connection) :
    Prop where
  /-- At most one frame is sent. -/
  once : run.2.sent = before.sent ∨ ∃ dispatch, run.2.sent = before.sent ++ [dispatch]
  /-- If nothing is sent, the result is an error of compilation. -/
  unsent : run.2.sent = before.sent → ∃ e, run.1 = .error e ∧ e.isCompileError = true
  /-- If something is sent, it is none. -/
  sent : run.2.sent ≠ before.sent → ∀ e, run.1 = .error e → e.isCompileError = false

/-- A call tells whether its command was sent if nothing it does with the output is reported as a
refusal. -/
theorem Command.tellsSent_call {α : Type} {k : Connection} (proper : k.Proper) (config : Config)
    (c : Command) {take : Output → Except Error α} (late : ∀ output, FailsLate (take output)) :
    TellsSent k ((c.outcome config (k.answerAt 0)).bind take, k.after (c.dispatch config)) := by
  unfold outcome
  cases framed : c.frame config with
  | error cause =>
    rw [dispatch_of_refusal framed, Connection.after_nil]
    exact ⟨.inl rfl, fun _ => ⟨_, rfl, cause.isCompileError_error⟩, fun sent => absurd rfl sent⟩
  | ok frame =>
    rw [dispatch_of_frame framed]
    refine ⟨.inr ⟨_, rfl⟩, fun unsent => ?_, fun _ => ?_⟩
    · exact absurd unsent (by simp [Connection.after])
    · exact ((proper.failsLate_answerAt 0).bind c.failsLate_decode).bind late

/-- Over a connection that fails in its own ways only, every call sends at most one frame, and its
result is an error of compilation exactly if it sends none; and whatever is not compiled is refused
with such an error. -/
theorem compile_errors_tell_sent :
    (∀ (config : Config) (k : Connection), k.Proper →
      (∀ c : Command, TellsSent k ((c.execute config).run k)) ∧
      (∀ index definition, TellsSent k ((Session.createIndex config index definition).run k)) ∧
      (∀ body, TellsSent k ((Session.aggregate config body).run k)) ∧
      (∀ body, TellsSent k ((Session.aggregatePaged config body).run k)) ∧
      ∀ index cursor count,
        TellsSent k ((Session.readCursor config index cursor count).run k)) ∧
    (∀ (spec : IndexSpec) (fault : CompileFault Refusal), spec.compile = .error fault →
      ∃ cause, fault = .refused cause ∧ cause.error.isCompileError = true) ∧
    ∀ (a : Aggregation) (fault : CompileFault Refusal), a.compile = .error fault →
      ∃ cause, fault = .refused cause ∧ cause.error.isCompileError = true := by
  refine ⟨fun config k proper => ⟨?_, ?_, ?_, ?_, ?_⟩, ?_, ?_⟩
  · intro c
    have told := c.tellsSent_call proper config failsLate_ok
    have whole (x : Except Error Output) : x.bind .ok = x := by cases x <;> rfl
    rwa [whole, ← Command.run_execute] at told
  · intro index definition
    rw [Session.createIndex, Command.run_call]
    exact Command.tellsSent_call proper config _ Output.failsLate_requireStatus
  · intro body
    rw [Session.aggregate, Command.run_call]
    exact Command.tellsSent_call proper config _ Output.failsLate_requireRecords
  · intro body
    rw [Session.aggregatePaged, Command.run_call]
    exact Command.tellsSent_call proper config _ Output.failsLate_requirePage
  · intro index cursor count
    rw [Session.readCursor, Command.run_call]
    exact Command.tellsSent_call proper config _ Output.failsLate_requirePage
  · intro spec fault failed
    rw [IndexSpec.compile_eq] at failed
    split at failed
    · cases failed
    · cases failed
      exact ⟨_, rfl, Refusal.isCompileError_error _⟩
  · intro a fault failed
    rw [Aggregation.compile_eq] at failed
    split at failed
    · cases failed
    · cases failed
      exact ⟨_, rfl, Refusal.isCompileError_error _⟩

/-- A cursor without a further page is not sent, and one that the engine does not know is. -/
theorem cursor_errors_tell_sent :
    (∃ e, ((Session.readCursor .default "idx" 0 none).run
      ⟨[.error (.server "unknown")], []⟩).1 = .error e ∧ e.isCompileError = true) ∧
    ∀ e, ((Session.readCursor .default "idx" 7 none).run
      ⟨[.error (.server "unknown")], []⟩).1 = .error e → e.isCompileError = false := by
  have proper : Connection.Proper ⟨[.error (.server "unknown")], []⟩ := by
    intro failure inside
    cases List.mem_singleton.mp inside
    exact .inr ⟨_, rfl⟩
  have told := (compile_errors_tell_sent.1 .default _ proper).2.2.2.2
  exact ⟨(told "idx" 0 none).unsent rfl, (told "idx" 7 none).sent (List.cons_ne_nil _ _)⟩

end SearchWire
