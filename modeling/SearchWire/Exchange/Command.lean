import SearchWire.Exchange.Config
import SearchWire.Exchange.Frame
import SearchWire.Pipeline.Aggregation
import SearchWire.Rows.Page
import SearchWire.Schema.Index

/-!
# Commands and their outputs

A command is plain data: a compiled body and what is needed to frame it. The kind of the command
decides the kind of its output: creating an index gives a status, an aggregation gives records,
and whatever involves a cursor gives a page.
-/
namespace SearchWire

/-- One request. -/
inductive Command where
  /-- Create an index. -/
  | createIndex (index : String) (definition : IndexBody)
  /-- Run an aggregation. -/
  | aggregate (body : AggregationBody)
  /-- Read the next page of a cursor. -/
  | cursorRead (index : String) (cursor : UInt64) (count : Option UInt64)
deriving DecidableEq

/-- What a request gives. -/
inductive Output where
  /-- A status line. -/
  | status (line : String)
  /-- All records of a result. -/
  | records (rows : List Record)
  /-- One page of a result. -/
  | page (p : Page)

namespace Output

/-- The records of an output; a status has none. -/
def rows : Output → List Record
  | status _ => []
  | records rows => rows
  | page p => p.records

/-- The kind of an output. -/
def kindName : Output → String
  | status _ => "Status"
  | records _ => "Records"
  | page _ => "Page"

end Output

namespace Command

/-- The index a command is about. -/
def index : Command → String
  | createIndex index _ => index
  | aggregate body => body.index
  | cursorRead index _ _ => index

/-- The kind of a command. -/
def kindName : Command → String
  | createIndex _ _ => "CreateIndex"
  | aggregate _ => "Aggregate"
  | cursorRead _ _ _ => "CursorRead"

/-- What is checked of a command before it is framed. -/
def checks (c : Command) : List Check :=
  ⟨c.index.isEmpty, .emptyIndexName⟩ ::
  match c with
  | cursorRead _ cursor count =>
    [⟨cursor == 0, .exhaustedCursor⟩,
      ⟨!Word.fits cursor.toNat || count.any fun n => !Word.fits n.toNat, .cursorBeyondInteger⟩]
  | _ => []

/-- The dialect clause of an aggregation that sets no dialect, if the configuration has one. -/
def dialectClause (config : Config) (body : AggregationBody) : List Token :=
  match body.dialect, config.defaultDialect with
  | none, some dialect => [.text "DIALECT", .ofNat dialect.toNat]
  | _, _ => []

/-- The frame of a command that passed its checks. -/
def framed (config : Config) : Command → Frame
  | createIndex index definition =>
    ⟨config.createCommand, .text index :: definition.tokens⟩
  | aggregate body =>
    ⟨config.aggregateCommand, .text body.index :: body.tokens ++ dialectClause config body⟩
  | cursorRead index cursor count =>
    ⟨config.cursorCommand,
      [.text "READ", .text index, .ofNat cursor.toNat] ++
        Token.keyed "COUNT" (count.map fun n => .ofNat n.toNat)⟩

/-- Check a command and frame it. -/
def frame (config : Config) (c : Command) : Except Refusal Frame :=
  (Check.run c.checks).map fun _ => c.framed config

/-- A command that passes its checks has its frame, and no other command has one. -/
theorem frame_eq_ok_iff {config : Config} {c : Command} {f : Frame} :
    c.frame config = .ok f ↔ (∀ check ∈ c.checks, check.applies = false) ∧ c.framed config = f := by
  rw [frame, map_eq_ok_iff, ← Check.run_eq_ok_iff]
  constructor
  · rintro ⟨⟨⟩, passed, same⟩
    exact ⟨passed, same⟩
  · rintro ⟨passed, same⟩
    exact ⟨(), passed, same⟩

/-- Read the reply to a command. -/
def decode (c : Command) (reply : Reply) : Except Error Output :=
  match c with
  | createIndex _ _ => reply.status.map .status
  | aggregate body => if body.paged then reply.page.map .page else reply.records.map .records
  | cursorRead _ _ _ => reply.page.map .page

end Command

end SearchWire
