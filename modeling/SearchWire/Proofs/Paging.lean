import SearchWire.Proofs.Batches
import SearchWire.Proofs.PageReading

/-!
# Reading on

A result is read page by page: each page comes with the cursor of the next one, and the command that
reads on has that cursor as an argument. A reply may name a cursor by any unsigned word, an argument
holds the signed ones, so a cursor is read on exactly if it is one of these. It always is if the
engine sends it as an integer; only a cursor sent as text may be too large, and it is then refused
and never clamped. The step lemma says where the page of a call comes from; over a loop of calls it
follows that no read is refused as long as the engine names no cursor beyond the range.
-/
namespace SearchWire

/-- A number that a reply counts with as an integer is one of the signed words. -/
theorem Reply.toNat_le_of_counts {n : Int64} {c : UInt64} (counts : (integer n).Counts c) :
    c.toNat ≤ Word.greatest := by
  have same : n.toInt = c.toNat := counts
  have upper := Int64.toInt_lt n
  unfold Word.greatest
  omega

namespace Command

variable {config : Config} {index : String} {cursor : UInt64} {count : Option UInt64}

/-- A cursor is framed to be read on if an index is named, there is a further page, and both numbers
are integer tokens. -/
theorem frame_cursorRead_eq_ok (named : index ≠ "") (more : cursor ≠ 0)
    (small : cursor.toNat ≤ Word.greatest) (counted : ∀ n ∈ count, n.toNat ≤ Word.greatest) :
    (cursorRead index cursor count).frame config =
      .ok ((cursorRead index cursor count).framed config) := by
  have fits : count.any (fun n => !Word.fits n.toNat) = false := by
    cases count with
    | none => rfl
    | some n => simpa [Word.fits] using counted n rfl
  refine frame_eq_ok_iff.mpr ⟨?_, rfl⟩
  simp only [checks, List.forall_mem_cons, List.not_mem_nil, false_implies, implies_true, and_true]
  refine ⟨String.isEmpty_eq_false_iff.mpr named, beq_eq_false_iff_ne.mpr more, ?_⟩
  rw [fits, Bool.or_false, Word.fits, decide_eq_true small]
  rfl

/-- A cursor that is no integer token is refused for that, whatever the size of the page. -/
theorem frame_cursorRead_of_lt (named : index ≠ "") (large : Word.greatest < cursor.toNat) :
    (cursorRead index cursor count).frame config = .error .cursorBeyondInteger := by
  have present : index.isEmpty = false := String.isEmpty_eq_false_iff.mpr named
  have more : (cursor == 0) = false := by
    rw [beq_eq_false_iff_ne]
    rintro rfl
    exact absurd large (by decide)
  have beyond : Word.fits cursor.toNat = false := decide_eq_false (Nat.not_le.mpr large)
  simp only [frame, checks, Command.index, Check.run_cons, present, more, beyond,
    Bool.false_eq_true, if_false, Bool.not_false, Bool.true_or, if_true]
  rfl

/-- What is read as a page is the page of the reply. -/
theorem page_of_decode {c : Command} {reply : Reply} {p : Page}
    (read : c.decode reply = .ok (.page p)) : reply.page = .ok p := by
  have paged (read : reply.page.map Output.page = .ok (.page p)) : reply.page = .ok p := by
    obtain ⟨_, found, ⟨⟩⟩ := map_eq_ok_iff.mp read
    exact found
  cases c with
  | createIndex =>
    obtain ⟨_, -, ⟨⟩⟩ := map_eq_ok_iff.mp read
  | cursorRead => exact paged read
  | aggregate body =>
    rw [decode] at read
    split at read
    · exact paged read
    · obtain ⟨_, -, ⟨⟩⟩ := map_eq_ok_iff.mp read

/-- The page of a call is that of a reply that its connection had to give, and its command was
sent. -/
theorem exists_reply_of_outcome {config : Config} {c : Command} {k : Connection} {p : Page}
    (read : (c.outcome config (k.answerAt 0)).bind Output.requirePage = .ok p) :
    (∃ f, c.frame config = .ok f) ∧ ∃ reply, .ok reply ∈ k.answers ∧ reply.page = .ok p := by
  obtain ⟨output, given, required⟩ := bind_eq_ok_iff.mp read
  obtain rfl : output = .page p := by
    cases output with
    | page q => exact congrArg Output.page (Except.ok.inj required)
    | status | records => cases required
  unfold outcome at given
  split at given
  · next f framed =>
    obtain ⟨reply, answered, decoded⟩ := bind_eq_ok_iff.mp given
    refine ⟨⟨f, framed⟩, reply, ?_, page_of_decode decoded⟩
    rcases k.answerAt_mem_or 0 with inside | silent
    · exact answered ▸ inside
    · rw [silent] at answered
      cases answered
  · cases given

end Command

/-! ## Loops of reads -/

/-- Whether no reply that a connection has to give names a cursor beyond the range of integer
tokens. -/
def Connection.CursorsFit (k : Connection) : Prop :=
  ∀ reply p, .ok reply ∈ k.answers → reply.page = .ok p → p.cursor.toNat ≤ Word.greatest

/-- Taking answers leaves no others. -/
theorem Connection.CursorsFit.after {k : Connection} (fit : k.CursorsFit)
    (frames : List (Channel × Frame)) : (k.after frames).CursorsFit :=
  fun reply p inside => fit reply p (List.mem_of_mem_drop inside)

namespace Session

/-- The pages that are reached by running an aggregation and reading on, each time with the cursor
of the page before and with any size for the page, as long as there is a further one; with each
page the connection behind it. -/
inductive Reached (config : Config) (body : AggregationBody) (k : Connection) :
    Page → Connection → Prop where
  /-- The first page is that of the aggregation. -/
  | first {p : Page} {k' : Connection} (run : (aggregatePaged config body).run k = (.ok p, k')) :
    Reached config body k p k'
  /-- The next one is read with the cursor of the last. -/
  | next {p q : Page} {k' k'' : Connection} (reached : Reached config body k p k')
    (more : p.exhausted = false) (count : Option UInt64)
    (run : (readCursor config body.index p.cursor count).run k' = (.ok q, k'')) :
    Reached config body k q k''

variable {config : Config} {body : AggregationBody} {k k' : Connection} {p : Page}

/-- A call that gives a page leaves only cursors within the range, in the page and to come. -/
theorem fit_of_run {c : Command} (fit : k.CursorsFit)
    (run : ((c.outcome config (k.answerAt 0)).bind Output.requirePage,
      k.after (c.dispatch config)) = (.ok p, k')) :
    (∃ f, c.frame config = .ok f) ∧ p.cursor.toNat ≤ Word.greatest ∧ k'.CursorsFit := by
  obtain ⟨read, rfl⟩ := Prod.mk.inj run
  obtain ⟨framed, reply, inside, found⟩ := Command.exists_reply_of_outcome read
  exact ⟨framed, fit reply p inside found, fit.after _⟩

/-- A page that is reached is one of an index with a name, and no cursor behind it is beyond the
range if none was to come. -/
theorem Reached.fit (reached : Reached config body k p k') (fit : k.CursorsFit) :
    body.index ≠ "" ∧ p.cursor.toNat ≤ Word.greatest ∧ k'.CursorsFit := by
  -- The name of the index is known since the first call, which would have been refused without one.
  induction reached with
  | first run =>
    rw [aggregatePaged, Command.run_call] at run
    obtain ⟨⟨f, framed⟩, page, left⟩ := fit_of_run fit run
    have named := (Command.frame_eq_ok_iff.mp framed).1 ⟨body.index.isEmpty, .emptyIndexName⟩
      List.mem_cons_self
    exact ⟨String.isEmpty_eq_false_iff.mp named, page, left⟩
  | next _ _ _ run ih =>
    rw [readCursor, Command.run_call] at run
    obtain ⟨named, -, left⟩ := ih
    exact ⟨named, (fit_of_run left run).2⟩

/-- A cursor of a page is the number that its reply was sent with. It is read on with exactly that
number if an integer token holds it, as one does if it was sent as an integer, and is refused
otherwise. No read of a loop is refused if no reply to come names a cursor beyond the range,
whatever size within the range each read asks for. -/
theorem cursors_read_on :
    (∀ (r : Reply) (p : Page), r.page = .ok p → p.exhausted = false →
      ∃ content id, r = .array [content, id] ∧ id.Counts p.cursor ∧
        ((∃ n, id = .integer n) → p.cursor.toNat ≤ Word.greatest) ∧
        ∀ (config : Config) (index : String) (count : Option UInt64), index ≠ "" →
          (∀ n ∈ count, n.toNat ≤ Word.greatest) →
          (p.cursor.toNat ≤ Word.greatest →
            ∃ f w, (Command.cursorRead index p.cursor count).frame config = .ok f ∧
              f.args = [.text "READ", .text index, .integer w] ++
                Token.keyed "COUNT" (count.map fun n => .ofNat n.toNat) ∧
              w.toInt = (p.cursor.toNat : Int)) ∧
          (Word.greatest < p.cursor.toNat →
            (Command.cursorRead index p.cursor count).frame config =
              .error .cursorBeyondInteger)) ∧
    ∀ (config : Config) (body : AggregationBody) (k : Connection), k.CursorsFit →
      ∀ p k', Reached config body k p k' → p.exhausted = false →
      ∀ count : Option UInt64, (∀ n ∈ count, n.toNat ≤ Word.greatest) →
        ∃ f, (Command.cursorRead body.index p.cursor count).frame config = .ok f ∧
          ((readCursor config body.index p.cursor count).run k').2 =
            k'.after [(.aggregate, f)] := by
  refine ⟨fun r p read more => ?_, fun config body k fit p k' reached more count counted => ?_⟩
  · obtain ⟨content, id, c, rfl, counts⟩ := Reply.paged_of_page_eq_ok read
    obtain ⟨-, rfl⟩ := (Reply.page_eq_ok_iff_listed counts).mp read
    have nonzero : p.cursor ≠ 0 := beq_eq_false_iff_ne.mp more
    refine ⟨content, id, rfl, counts, ?_, fun config index count named counted => ⟨?_, ?_⟩⟩
    · rintro ⟨n, rfl⟩
      exact Reply.toNat_le_of_counts counts
    · intro small
      exact ⟨_, Word.saturate p.cursor.toNat,
        Command.frame_cursorRead_eq_ok named nonzero small counted, rfl, Word.toInt_saturate small⟩
    · exact Command.frame_cursorRead_of_lt named
  · obtain ⟨named, small, -⟩ := reached.fit fit
    have framed : (Command.cursorRead body.index p.cursor count).frame config = .ok _ :=
      Command.frame_cursorRead_eq_ok named (beq_eq_false_iff_ne.mp more) small counted
    refine ⟨_, framed, ?_⟩
    rw [readCursor, Command.run_call, Command.dispatch_of_frame framed]
    rfl

/-- The greatest signed word is read on, though it was sent as text and with a sign, and so is the
cursor of a first page. -/
theorem greatest_cursor_read_on :
    (∃ f w, (Command.cursorRead "idx" 0x7fffffffffffffff none).frame .default = .ok f ∧
      f.args = [.text "READ", .text "idx", .integer w] ++ Token.keyed "COUNT" none ∧
      w.toInt = (0x7fffffffffffffff : Int)) ∧
    ∃ k, Reached .default ⟨"idx", [.text "*", .text "WITHCURSOR"], none, true⟩
        ⟨[.ok (.array [.array [.integer 3], .integer 5])], []⟩ ⟨3, [], 5⟩ k ∧
      ∃ f, (Command.cursorRead "idx" 5 (some 2)).frame .default = .ok f ∧
        ((readCursor .default "idx" 5 (some 2)).run k).2 = k.after [(.aggregate, f)] := by
  constructor
  · have read : (Reply.array [.array [.integer 0], .simple "+9223372036854775807"]).page =
        .ok ⟨0, [], 0x7fffffffffffffff⟩ := rfl
    obtain ⟨-, -, -, -, -, reads⟩ := cursors_read_on.1 _ _ read rfl
    exact (reads .default "idx" none (by decide) nofun).1 (by decide)
  · have fit : Connection.CursorsFit ⟨[.ok (.array [.array [.integer 3], .integer 5])], []⟩ := by
      intro reply p inside read
      obtain rfl := Except.ok.inj (List.mem_singleton.mp inside)
      cases read
      decide
    have reached : Reached .default ⟨"idx", [.text "*", .text "WITHCURSOR"], none, true⟩
        ⟨[.ok (.array [.array [.integer 3], .integer 5])], []⟩ ⟨3, [], 5⟩ _ := .first rfl
    have counted : ∀ n ∈ some (2 : UInt64), n.toNat ≤ Word.greatest := by
      rintro _ ⟨⟩
      decide
    exact ⟨_, reached, cursors_read_on.2 _ _ _ fit _ _ reached rfl _ counted⟩

/-- The word above it is the cursor of a page that has a next one, and cannot be read on. -/
theorem cursor_not_read_on :
    (Reply.array [.array [.integer 0], .simple "9223372036854775808"]).page =
      .ok ⟨0, [], 9223372036854775808⟩ ∧
    (⟨0, [], 9223372036854775808⟩ : Page).exhausted = false ∧
    ¬∃ f, (Command.cursorRead "idx" 9223372036854775808 none).frame .default = .ok f := by
  refine ⟨rfl, rfl, ?_⟩
  rw [Command.frame_cursorRead_of_lt (by decide) (by decide)]
  exact nofun

end Session

end SearchWire
