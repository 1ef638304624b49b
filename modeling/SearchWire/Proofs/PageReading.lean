import SearchWire.Proofs.RowReading

/-!
# Pages and whole results

Rows are read in two ways: as a whole result, whose leading number has to be the number of its rows,
and as one page of a result, beside the cursor that leads to the next page. Both ways look at the
same things in the content, so they find the same rows and the same fault. They differ in one
comparison alone, which only a whole result is subject to.
-/
namespace SearchWire.Reply

/-- The leading number and the rows of a reply, whether it is a whole result or the content of a
page. -/
def listed (r : Reply) : Except Error (UInt64 × List Record) := r.elements >>= rows

/-- A whole result is what is listed in it, with a number that is compared with the rows. -/
theorem records_eq (r : Reply) :
    r.records = r.listed >>= fun found =>
      if found.2.length = found.1.toNat then .ok found.2
      else .error (Misshape.miscount found.1 found.2.length).error := by
  unfold records listed
  cases r.elements with
  | error e => rfl
  | ok items => cases rows items <;> rfl

/-- The rows of a whole result are those listed, and as many as declared. -/
theorem records_eq_ok_iff_listed {r : Reply} {found : List Record} :
    r.records = .ok found ↔ ∃ total, r.listed = .ok (total, found) ∧ total.toNat = found.length := by
  rw [records_eq, bind_eq_ok_iff]
  constructor
  · rintro ⟨⟨total, rows⟩, listed, compared⟩
    dsimp only at compared
    split at compared
    · next declared =>
      cases compared
      exact ⟨total, listed, declared.symm⟩
    · cases compared
  · rintro ⟨total, listed, declared⟩
    exact ⟨(total, found), listed, if_pos declared.symm⟩

/-- What cannot be listed is no whole result, for the same fault. -/
theorem records_eq_error_of_listed {r : Reply} {e : Error} (refused : r.listed = .error e) :
    r.records = .error e := by
  rw [records_eq, refused]
  rfl

/-- What can be listed is refused as a whole result only if it declares another number of rows. -/
theorem error_eq_of_listed {r : Reply} {total : UInt64} {rows : List Record} {e : Error}
    (listed : r.listed = .ok (total, rows)) (refused : r.records = .error e) :
    e = (Misshape.miscount total rows.length).error ∧ total.toNat ≠ rows.length := by
  have compared : (if rows.length = total.toNat then .ok rows
      else .error (Misshape.miscount total rows.length).error) = Except.error e := by
    rw [← refused, records_eq, listed]
    rfl
  split at compared
  · cases compared
  · next miscounted =>
    cases compared
    exact ⟨rfl, Ne.symm miscounted⟩

/-! ## Pages -/

/-- Whether a reply is a list of some content and a cursor. -/
def Paged (r : Reply) : Prop := ∃ content id c, r = array [content, id] ∧ id.Counts c

/-- The cursor of a page is looked at first, and then what is listed in its content. -/
theorem page_pair (content id : Reply) :
    (array [content, id]).page =
      id.count >>= fun c => content.listed.map fun found => ⟨found.1, found.2, c⟩ := by
  unfold page listed
  change (id.count >>= fun c => content.elements >>= fun items => rows items >>= fun found =>
    Except.ok (Page.mk found.1 found.2 c)) = _
  cases id.count with
  | error e => rfl
  | ok c =>
    cases content.elements with
    | error e => rfl
    | ok items => cases rows items <;> rfl

/-- Beside a cursor, a page is what is listed in its content. -/
theorem page_eq_map {content id : Reply} {c : UInt64} (counts : id.Counts c) :
    (array [content, id]).page = content.listed.map fun found => ⟨found.1, found.2, c⟩ := by
  rw [page_pair, count_eq_ok_iff.mpr counts]
  rfl

/-- A page beside a cursor has that cursor, and what is listed in its content. -/
theorem page_eq_ok_iff_listed {content id : Reply} {c : UInt64} (counts : id.Counts c) {p : Page} :
    (array [content, id]).page = .ok p ↔
      content.listed = .ok (p.total, p.records) ∧ p.cursor = c := by
  rw [page_eq_map counts, map_eq_ok_iff]
  constructor
  · rintro ⟨_, listed, rfl⟩
    exact ⟨listed, rfl⟩
  · rintro ⟨listed, rfl⟩
    exact ⟨_, listed, rfl⟩

/-- A reply without a content and a cursor is refused for its shape, unless it is an error of the
engine. -/
theorem error_or_misshapen_page {r : Reply} (unpaged : ¬r.Paged) :
    (∃ message, r = error message) ∨ ∃ shape : Misshape, r.page = .error shape.error := by
  cases r with
  | error message => exact .inl ⟨message, rfl⟩
  | simple | bulk | null | integer | double => exact .inr ⟨_, rfl⟩
  | array items =>
    right
    match items with
    | [] | [_] | _ :: _ :: _ :: _ => exact ⟨_, rfl⟩
    | [content, id] =>
      rw [page_pair]
      cases counted : id.count with
      | ok c => exact absurd ⟨content, id, c, rfl, count_eq_ok_iff.mp counted⟩ unpaged
      | error e =>
        obtain ⟨shape, rfl⟩ := misshapen_count id e counted
        exact ⟨shape, rfl⟩

/-- Only a content beside a cursor is read as a page. -/
theorem paged_of_page_eq_ok {r : Reply} {p : Page} (read : r.page = .ok p) : r.Paged := by
  by_contra unpaged
  rcases error_or_misshapen_page unpaged with ⟨message, rfl⟩ | ⟨shape, refused⟩
  · cases read
  · rw [refused] at read
    cases read

/-- A content beside a cursor is read as a page with that cursor, and as a whole result exactly if
the total of the page is the number of its rows. What cannot be read as a page is no whole result
either, for the same fault; what can, but is no whole result, declares another number of rows. Any
other reply is refused, and of those an error of the engine alone is passed on. -/
theorem page_agrees_with_records :
    (∀ (content id : Reply) (c : UInt64), id.Counts c →
      (∀ p, (array [content, id]).page = .ok p →
        p.cursor = c ∧ (p.exhausted = true ↔ c = 0)) ∧
      (∀ found, content.records = .ok found ↔
        ∃ p, (array [content, id]).page = .ok p ∧ p.records = found ∧
          p.total.toNat = found.length) ∧
      (∀ e, (array [content, id]).page = .error e → content.records = .error e) ∧
      ∀ p e, (array [content, id]).page = .ok p → content.records = .error e →
        e = .replyFormat (Misshape.miscount p.total p.records.length).reason ∧
          p.total.toNat ≠ p.records.length) ∧
    ∀ r : Reply, (¬∃ content id c, r = array [content, id] ∧ id.Counts c) →
      (∃ e, r.page = .error e) ∧
      ∀ message, r.page = .error (.server message) ↔ r = error message := by
  refine ⟨fun content id c counts => ⟨?_, fun found => ?_, ?_, ?_⟩, fun r unpaged => ?_⟩
  · intro p read
    obtain ⟨-, rfl⟩ := (page_eq_ok_iff_listed counts).mp read
    exact ⟨rfl, beq_iff_eq⟩
  · simp only [records_eq_ok_iff_listed, page_eq_ok_iff_listed counts]
    constructor
    · rintro ⟨total, listed, declared⟩
      exact ⟨⟨total, found, c⟩, ⟨listed, rfl⟩, rfl, declared⟩
    · rintro ⟨p, ⟨listed, -⟩, rfl, declared⟩
      exact ⟨p.total, listed, declared⟩
  · intro e refused
    rw [page_eq_map counts, map_eq_error_iff] at refused
    exact records_eq_error_of_listed refused
  · intro p e read refused
    exact error_eq_of_listed ((page_eq_ok_iff_listed counts).mp read).1 refused
  · rcases error_or_misshapen_page unpaged with ⟨message, rfl⟩ | ⟨shape, refused⟩
    · refine ⟨⟨_, rfl⟩, fun other => ⟨?_, ?_⟩⟩
      · rintro ⟨⟩
        rfl
      · rintro ⟨⟩
        rfl
    · rw [refused]
      refine ⟨⟨_, rfl⟩, fun message => iff_of_false nofun ?_⟩
      rintro rfl
      cases refused

/-- Beside a cursor in text stands a page without rows that declares five of them, and is not the
whole result; beside a negative number stands none. -/
theorem page_beside_text_agrees :
    (∃ p e, (array [array [integer 5], simple " 7\n"]).page = .ok p ∧
      (array [integer 5]).records = .error e ∧ p.cursor = 7 ∧
      e = .replyFormat "reply declares 5 records but carries 0") ∧
    ∃ e, (array [array [integer 5], integer (-1)]).page = .error e := by
  have counts : (simple " 7\n").Counts 7 := count_eq_ok_iff.mp rfl
  obtain ⟨cursor, -, -, miscounted⟩ := page_agrees_with_records.1 (array [integer 5]) _ 7 counts
  have read : (array [array [integer 5], simple " 7\n"]).page = .ok ⟨5, [], 7⟩ := rfl
  refine ⟨⟨_, _, read, rfl, (cursor _ read).1, (miscounted _ _ read rfl).1⟩, ?_⟩
  refine (page_agrees_with_records.2 _ ?_).1
  rintro ⟨content, id, c, ⟨⟩, counts⟩
  have negative : (-1 : Int) = c.toNat := counts
  omega

end SearchWire.Reply
