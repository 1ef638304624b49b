import SearchWire.Exchange.Session
import SearchWire.Proofs.DefaultDialect
import SearchWire.Proofs.IndexReading

/-!
# Frames determine their commands

The names under which commands are sent are configured and may coincide, so a command is told by its
arguments. Behind the name of an index and the next argument, the body of an index has its kind of
document, the body of an aggregation a keyword of its own or nothing, and a cursor an integer; none
of these is one of the others. Within a kind the arguments determine the command, apart from the
question who asked for the dialect of an aggregation.
-/
namespace SearchWire

/-- A list that goes on with a keyword or not at all begins with that keyword. -/
theorem Section.Continues.keyword {words : List String} {t : Token} {rest : List Token}
    (continues : Continues words (· = []) (t :: rest)) : ∃ word ∈ words, t = .text word := by
  rcases continues with ⟨word, inside, later, same⟩ | same
  · exact ⟨word, inside, (List.cons.inj same).1⟩
  · exact absurd same (List.cons_ne_nil _ _)

namespace Aggregation

/-- The keywords that may follow a query. -/
def bodyWords : List String := headWords ++ (Stage.words ++ tailWords)

/-- A query is followed by a keyword or by nothing. -/
theorem exists_bodyTokens (a : Aggregation) :
    ∃ rest, a.bodyTokens = .text a.query :: rest ∧ Section.Continues bodyWords (· = []) rest := by
  refine ⟨_, a.bodyTokens_eq, Section.continues_append.mpr ?_⟩
  rw [← map_keyword_headSections a]
  exact Section.continues_flatMap a.atEnd_stages

/-- No number is clamped because of the dialect. -/
theorem Exact.resolved {a : Aggregation} (exact : a.Exact) (config : Config) :
    (a.resolved config).Exact :=
  ⟨⟨exact.storable.load, exact.storable.params, exact.storable.stages⟩, exact.timeout, exact.count,
    exact.maxIdle, exact.stages⟩

end Aggregation

/-- A value behind a keyword is told by its tokens, and so is whether there is one. -/
theorem Token.keyed_inj {keyword : String} {left right : Option Token} :
    keyed keyword left = keyed keyword right ↔ left = right := by
  cases left <;> cases right <;> simp [keyed]

namespace Command

/-- Whether a command was built: the body of an index or of an aggregation was compiled, and memory
can hold the lists of the aggregation. -/
inductive Built : Command → Prop where
  /-- An index that was compiled. -/
  | createIndex {spec : IndexSpec} {body : IndexBody} (index : String)
    (compiled : spec.compile = .ok body) : Built (.createIndex index body)
  /-- An aggregation that was compiled. -/
  | aggregate {a : Aggregation} {body : AggregationBody} (storable : a.Storable)
    (compiled : a.compile = .ok body) : Built (.aggregate body)
  /-- The next page of a cursor. -/
  | cursorRead (index : String) (cursor : UInt64) (count : Option UInt64) :
    Built (.cursorRead index cursor count)

/-- Whether the second of two commands is the first one with this dialect, which the first one does
not set. -/
def SetsDialect (d : UInt32) : Command → Command → Prop
  | aggregate body, aggregate body' =>
    body.dialect = none ∧
      body' = { body with
        tokens := body.tokens ++ [.text "DIALECT", .ofNat d.toNat]
        dialect := some d }
  | _, _ => False

/-- Whether two commands are the same, except that one of two aggregations may set the dialect that
is the default for the other. -/
def SameUnder (config : Config) (c c' : Command) : Prop :=
  c = c' ∨ ∃ d, config.defaultDialect = some d ∧ (SetsDialect d c c' ∨ SetsDialect d c' c)

/-- Commands with one frame are framed alike. -/
theorem framed_eq_of_frame {config : Config} {c c' : Command} {f : Frame}
    (framed : c.frame config = .ok f) (framed' : c'.frame config = .ok f) :
    c.framed config = c'.framed config :=
  (frame_eq_ok_iff.mp framed).2.trans (frame_eq_ok_iff.mp framed').2.symm

/-- A cursor and the size of its page are integer tokens if a frame was made of them. -/
theorem cursor_le_of_frame {config : Config} {index : String} {cursor : UInt64}
    {count : Option UInt64} {f : Frame}
    (framed : (cursorRead index cursor count).frame config = .ok f) :
    cursor.toNat ≤ Word.greatest ∧ ∀ n ∈ count, n.toNat ≤ Word.greatest := by
  obtain ⟨passed, -⟩ := frame_eq_ok_iff.mp framed
  have fits := passed ⟨!Word.fits cursor.toNat || count.any fun n => !Word.fits n.toNat,
    .cursorBeyondInteger⟩ (by simp [checks])
  simp only [Bool.or_eq_false_iff, Bool.not_eq_false'] at fits
  refine ⟨of_decide_eq_true fits.1, ?_⟩
  rintro n rfl
  have small : (!Word.fits n.toNat) = false := fits.2
  rw [Bool.not_eq_false'] at small
  exact of_decide_eq_true small

/-! ## The kind of a command -/

/-- The kind of the command with these arguments, by the third one: the kind of document of an index
is none of the keywords of an aggregation, and a cursor is a number. -/
def kindOfArgs : List Token → String
  | _ :: _ :: .integer _ :: _ => "CursorRead"
  | _ :: _ :: .text word :: _ =>
    if word = DocumentKind.hash.keyword ∨ word = DocumentKind.json.keyword then "CreateIndex"
    else "Aggregate"
  | _ => "Aggregate"

/-- The kind of a command that was built is told by its arguments, whatever its name is. -/
theorem kindOfArgs_eq {config : Config} {c : Command} {f : Frame} (built : c.Built)
    (framed : c.frame config = .ok f) : kindOfArgs f.args = c.kindName := by
  cases built with
  | @createIndex spec body index compiled =>
    obtain ⟨-, rfl⟩ := IndexSpec.compile_eq_ok_iff.mp compiled
    obtain ⟨-, rfl⟩ := frame_eq_ok_iff.mp framed
    simp only [Command.framed, IndexSpec.bodyTokens_eq, kindOfArgs]
    cases spec.document <;> rfl
  | @aggregate a body storable compiled =>
    have sent := Aggregation.frame_compiled compiled config
    obtain rfl := Except.ok.inj (framed.symm.trans sent)
    have apart : ∀ word ∈ Aggregation.bodyWords,
        ¬(word = DocumentKind.hash.keyword ∨ word = DocumentKind.json.keyword) := by decide
    obtain ⟨rest, tokens, continues⟩ := (a.resolved config).exists_bodyTokens
    rw [tokens]
    cases rest with
    | nil => rfl
    | cons t rest =>
      obtain ⟨word, inside, rfl⟩ := continues.keyword
      simp only [kindOfArgs, if_neg (apart word inside)]
      rfl
  | cursorRead index cursor count =>
    obtain ⟨-, rfl⟩ := frame_eq_ok_iff.mp framed
    rfl

/-! ## Commands of one kind -/

/-- Reads of a cursor are told by their frames. -/
theorem cursorRead_eq_of_frame {config : Config} {index index' : String} {cursor cursor' : UInt64}
    {count count' : Option UInt64} {f : Frame}
    (framed : (cursorRead index cursor count).frame config = .ok f)
    (framed' : (cursorRead index' cursor' count').frame config = .ok f) :
    cursorRead index cursor count = cursorRead index' cursor' count' := by
  have bounds := cursor_le_of_frame framed
  have bounds' := cursor_le_of_frame framed'
  have args := congrArg Frame.args (framed_eq_of_frame framed framed')
  simp only [Command.framed, List.cons_append, List.nil_append, List.cons.injEq, Token.text.injEq,
    true_and, Token.keyed_inj] at args
  obtain ⟨names, cursors, counts⟩ := args
  have cursors : cursor = cursor' := Token.ofNat_toNat_inj bounds.1 bounds'.1 cursors
  have counts : count = count' := Token.map_ofNat_toNat_inj bounds.2 bounds'.2 counts
  rw [names, cursors, counts]

/-- Indexes are told by their frames. -/
theorem createIndex_eq_of_frame {config : Config} {index index' : String} {spec spec' : IndexSpec}
    {body body' : IndexBody} {f : Frame} (compiled : spec.compile = .ok body)
    (compiled' : spec'.compile = .ok body')
    (framed : (createIndex index body).frame config = .ok f)
    (framed' : (createIndex index' body').frame config = .ok f) :
    createIndex index body = createIndex index' body' := by
  obtain ⟨-, rfl⟩ := IndexSpec.compile_eq_ok_iff.mp compiled
  obtain ⟨-, rfl⟩ := IndexSpec.compile_eq_ok_iff.mp compiled'
  have args := congrArg Frame.args (framed_eq_of_frame framed framed')
  simp only [Command.framed, List.cons.injEq, Token.text.injEq] at args
  obtain ⟨rfl, tokens⟩ := args
  have document : spec.document = spec'.document := by
    rw [IndexSpec.bodyTokens_eq, IndexSpec.bodyTokens_eq] at tokens
    simp only [List.cons.injEq, Token.text.injEq, true_and] at tokens
    exact DocumentKind.keyword_inj tokens.1
  rw [document, tokens]

/-- Aggregations with one frame are sent as one description. -/
theorem resolved_eq_of_frame {config : Config} {a a' : Aggregation} {body body' : AggregationBody}
    {f : Frame} (compiled : a.compile = .ok body) (compiled' : a'.compile = .ok body')
    (storable : a.Storable) (storable' : a'.Storable)
    (framed : (aggregate body).frame config = .ok f)
    (framed' : (aggregate body').frame config = .ok f) :
    a.resolved config = a'.resolved config := by
  have accepted := (Aggregation.compile_eq_ok_iff.mp compiled).1
  have accepted' := (Aggregation.compile_eq_ok_iff.mp compiled').1
  have same := framed.trans framed'.symm
  rw [Aggregation.frame_compiled compiled, Aggregation.frame_compiled compiled'] at same
  simp only [Except.ok.injEq, Frame.mk.injEq, List.cons.injEq, Token.text.injEq, true_and] at same
  exact Aggregation.eq_of_bodyTokens_eq
    ((Aggregation.exact_of_validate accepted storable).resolved config)
    ((Aggregation.exact_of_validate accepted' storable').resolved config) same.1 same.2

/-- A compiled aggregation with a dialect sets what the same one without it leaves open. -/
theorem setsDialect_of_compile {a a' : Aggregation} {body body' : AggregationBody} {d : UInt32}
    (compiled : a.compile = .ok body) (compiled' : a'.compile = .ok body')
    (unset : a.dialect = none) (given : a'.dialect = some d)
    (rest : a.withoutDialect = a'.withoutDialect) :
    SetsDialect d (aggregate body) (aggregate body') := by
  obtain ⟨-, rfl⟩ := Aggregation.compile_eq_ok_iff.mp compiled
  obtain ⟨-, rfl⟩ := Aggregation.compile_eq_ok_iff.mp compiled'
  have index : a'.index = a.index := (congrArg Aggregation.index rest).symm
  have cursor : a'.cursor = a.cursor := (congrArg Aggregation.cursor rest).symm
  have tokens : a'.bodyTokens = a.bodyTokens ++ [.text "DIALECT", .ofNat d.toNat] := by
    rw [a'.bodyTokens_eq_append, a.bodyTokens_eq_append, rest, unset, given, List.append_assoc]
    rfl
  refine ⟨unset, ?_⟩
  dsimp only
  rw [index, cursor, tokens, given]

/-- Aggregations that are sent as one description are the same, up to who set the dialect. -/
theorem sameUnder_of_resolved {config : Config} {a a' : Aggregation}
    {body body' : AggregationBody} (compiled : a.compile = .ok body)
    (compiled' : a'.compile = .ok body') (same : a.resolved config = a'.resolved config) :
    SameUnder config (aggregate body) (aggregate body') := by
  have rest : a.withoutDialect = a'.withoutDialect := by
    have stripped := congrArg Aggregation.withoutDialect same
    exact stripped
  have dialects : a.dialect.or config.defaultDialect = a'.dialect.or config.defaultDialect :=
    congrArg Aggregation.dialect same
  have whole (dialect : a.dialect = a'.dialect) : body = body' := by
    have equal : a = a' :=
      calc a = { a.withoutDialect with dialect := a.dialect } := rfl
        _ = { a'.withoutDialect with dialect := a'.dialect } := by rw [rest, dialect]
        _ = a' := rfl
    exact Except.ok.inj (compiled.symm.trans ((congrArg Aggregation.compile equal).trans compiled'))
  cases set : a.dialect with
  | none =>
    cases set' : a'.dialect with
    | none => exact .inl (congrArg aggregate (whole (set.trans set'.symm)))
    | some d =>
      rw [set, set'] at dialects
      exact .inr ⟨d, dialects, .inl (setsDialect_of_compile compiled compiled' set set' rest)⟩
  | some d =>
    cases set' : a'.dialect with
    | none =>
      rw [set, set'] at dialects
      exact .inr ⟨d, dialects.symm,
        .inr (setsDialect_of_compile compiled' compiled set' set rest.symm)⟩
    | some d' =>
      rw [set, set'] at dialects
      exact .inl (congrArg aggregate (whole (set.trans (dialects.trans set'.symm))))

/-- Commands with one frame are the same, up to who set the dialect of an aggregation. -/
theorem sameUnder_of_frame {config : Config} {c c' : Command} {f : Frame} (built : c.Built)
    (built' : c'.Built) (framed : c.frame config = .ok f) (framed' : c'.frame config = .ok f) :
    SameUnder config c c' := by
  have kind : c.kindName = c'.kindName :=
    (kindOfArgs_eq built framed).symm.trans (kindOfArgs_eq built' framed')
  cases built with
  | createIndex index compiled =>
    cases built' with
    | createIndex index' compiled' =>
      exact .inl (createIndex_eq_of_frame compiled compiled' framed framed')
    | aggregate | cursorRead => simp [kindName] at kind
  | aggregate storable compiled =>
    cases built' with
    | aggregate storable' compiled' =>
      exact sameUnder_of_resolved compiled compiled'
        (resolved_eq_of_frame compiled compiled' storable storable' framed framed')
    | createIndex | cursorRead => simp [kindName] at kind
  | cursorRead =>
    cases built' with
    | cursorRead => exact .inl (cursorRead_eq_of_frame framed framed')
    | createIndex | aggregate => simp [kindName] at kind

/-- Who set the dialect makes no difference to how a command is sent and how its reply is read. -/
theorem SameUnder.exchange_eq {config : Config} {c c' : Command} (same : SameUnder config c c') :
    c.channel = c'.channel ∧ c.decode = c'.decode := by
  have sets {d : UInt32} : ∀ {c c' : Command}, SetsDialect d c c' →
      c.channel = c'.channel ∧ c.decode = c'.decode := by
    intro c c' sets
    cases c with
    | aggregate body =>
      cases c' with
      | aggregate body' =>
        obtain ⟨-, rfl⟩ := sets
        exact ⟨rfl, rfl⟩
      | createIndex | cursorRead => exact sets.elim
    | createIndex | cursorRead => exact sets.elim
  rcases same with rfl | ⟨d, -, first | second⟩
  · exact ⟨rfl, rfl⟩
  · exact sets first
  · exact ⟨(sets second).1.symm, (sets second).2.symm⟩

/-- Whether the reply to a command is read as a page. -/
def ReadsPage (c : Command) : Prop := ∀ reply, c.decode reply = reply.page.map .page

/-- The reply to an aggregation is read as a page exactly if its body is marked so. -/
theorem readsPage_aggregate_iff {body : AggregationBody} :
    ReadsPage (aggregate body) ↔ body.paged = true := by
  constructor
  · intro reads
    -- A list of no rows holds all rows of an empty result, and is no page.
    have empty := reads (.array [.integer 0])
    rw [decode] at empty
    split at empty
    · assumption
    · cases empty
  · intro paged reply
    rw [decode, if_pos paged]

/-- A cursor is asked for by its keyword among the options behind the pipeline. -/
theorem withCursor_mem_tailParts_iff (a : Aggregation) :
    Part.flag "WITHCURSOR" ∈ a.tailParts ↔ a.cursor.isSome = true := by
  cases given : a.cursor with
  | none => simp [Aggregation.tailParts, given]
  | some options => simp [Aggregation.tailParts, Aggregation.cursorParts, given]

/-- The frame of a command that was built determines the command, up to who set the dialect of an
aggregation, and with it the channel it goes out on and the way its reply is read: as a page exactly
if the frame asks for a cursor or reads one. -/
theorem determined_by_frame {config : Config} {c c' : Command} {f : Frame} (built : c.Built)
    (built' : c'.Built) (framed : c.frame config = .ok f) (framed' : c'.frame config = .ok f) :
    c.kindName = c'.kindName ∧ SameUnder config c c' ∧ c.channel = c'.channel ∧
      c.decode = c'.decode ∧
      ∀ (a : Aggregation) (body : AggregationBody), a.compile = .ok body → c = aggregate body →
        (c.ReadsPage ↔ Part.flag "WITHCURSOR" ∈ a.tailParts) := by
  have same := sameUnder_of_frame built built' framed framed'
  have exchange := same.exchange_eq
  refine ⟨(kindOfArgs_eq built framed).symm.trans (kindOfArgs_eq built' framed'), same,
    exchange.1, exchange.2, ?_⟩
  rintro a body compiled rfl
  obtain ⟨-, rfl⟩ := Aggregation.compile_eq_ok_iff.mp compiled
  rw [readsPage_aggregate_iff, withCursor_mem_tailParts_iff]

/-- Under one name for all commands, an aggregation that sets a dialect is taken for the one that
leaves it to the default, and for nothing else. -/
theorem determined_by_frame_one_name :
    ∃ body body' : AggregationBody,
      (Aggregation.ofSteps "READ" [.query "ON"]).compile = .ok body ∧
      (Aggregation.ofSteps "READ" [.query "ON", .dialect 2]).compile = .ok body' ∧
      (aggregate body).frame ⟨"FT", "FT", "FT", some 2, false⟩ =
        (aggregate body').frame ⟨"FT", "FT", "FT", some 2, false⟩ ∧
      SameUnder ⟨"FT", "FT", "FT", some 2, false⟩ (aggregate body) (aggregate body') := by
  have compiled : (Aggregation.ofSteps "READ" [.query "ON"]).compile = .ok _ :=
    Aggregation.compile_eq_ok_iff.mpr ⟨rfl, rfl⟩
  have compiled' : (Aggregation.ofSteps "READ" [.query "ON", .dialect 2]).compile = .ok _ :=
    Aggregation.compile_eq_ok_iff.mpr ⟨rfl, rfl⟩
  have storable : (Aggregation.ofSteps "READ" [.query "ON"]).Storable :=
    ⟨by rintro _ ⟨⟩, by decide, by decide⟩
  have storable' : (Aggregation.ofSteps "READ" [.query "ON", .dialect 2]).Storable :=
    ⟨by rintro _ ⟨⟩, by decide, by decide⟩
  refine ⟨_, _, compiled, compiled', rfl, ?_⟩
  exact (determined_by_frame (.aggregate storable compiled) (.aggregate storable' compiled') rfl
    rfl).2.1

end Command

end SearchWire
