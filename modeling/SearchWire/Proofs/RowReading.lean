import SearchWire.Proofs.RowGrammar

/-!
# Replies that are read, and replies that are refused

A reply with rows is read if and only if it is well formed. Otherwise it is either an error of the
engine, which is passed on, or it has not the expected shape, and the refusal says where. Records
that are written as a reply are read back.
-/
namespace SearchWire.Reply

/-! ## Refusals -/

/-- Whether nothing can go wrong but the shape of a reply. -/
def Misshapen {α : Type} (x : Except Error α) : Prop :=
  ∀ e, x = .error e → ∃ shape : Misshape, e = .replyFormat shape.reason

section
variable {α β : Type} {x : Except Error α}

/-- A result does not go wrong. -/
theorem misshapen_ok (a : α) : Misshapen (.ok a : Except Error α) := nofun

/-- A refusal of a shape says which shape. -/
theorem misshapen_error (shape : Misshape) : Misshapen (.error shape.error : Except Error α) := by
  rintro _ ⟨⟩
  exact ⟨shape, rfl⟩

/-- Of two steps either may refuse a shape. -/
theorem Misshapen.bind {f : α → Except Error β} (first : Misshapen x)
    (second : ∀ a, Misshapen (f a)) : Misshapen (x >>= f) :=
  forall_error_bind first second

/-- Changing a result refuses nothing else. -/
theorem Misshapen.map {f : α → β} (first : Misshapen x) : Misshapen (x.map f) :=
  forall_error_map first

end

/-- A count is refused for its shape only. -/
theorem misshapen_count (r : Reply) : Misshapen r.count := by
  rw [count]
  cases r.count? with
  | none => exact misshapen_error _
  | some n => exact misshapen_ok n

/-- Names and values are refused for their shape only. -/
theorem misshapen_pairs {place : Nat} : ∀ items : List Reply, Misshapen (pairs place items)
  | [] => misshapen_ok []
  | [_] => misshapen_ok []
  | name :: value :: rest => by
    rw [pairs]
    cases name.text? with
    | none => exact misshapen_error _
    | some text => exact (misshapen_pairs rest).map

/-- A row is refused for its shape only. -/
theorem misshapen_row (place : Nat) (r : Reply) : Misshapen (row place r) := by
  cases r with
  | array items =>
    rw [row]
    split
    · exact (misshapen_pairs items).map
    · exact misshapen_error _
  | simple | bulk | null | integer | double | error => exact misshapen_error _

/-- Rows are refused for their shape only. -/
theorem misshapen_rowsFrom (place : Nat) (items : List Reply) :
    Misshapen (rowsFrom place items) := by
  induction items generalizing place with
  | nil => exact misshapen_ok []
  | cons first rest ih =>
    exact (misshapen_row place first).bind fun record =>
      (ih (place + 1)).bind fun records => misshapen_ok (record :: records)

/-- A count and rows are refused for their shape only. -/
theorem misshapen_rows (items : List Reply) : Misshapen (rows items) := by
  cases items with
  | nil => exact misshapen_error _
  | cons first rest =>
    exact (misshapen_count first).bind fun declared =>
      (misshapen_rowsFrom 0 rest).bind fun records => misshapen_ok (declared, records)

/-- A reply that is no list is refused for its shape unless it is an error of the engine. -/
theorem error_or_misshapen_elements (r : Reply) :
    (∃ message, r = error message) ∨ Misshapen r.elements := by
  cases r with
  | error message => exact .inl ⟨message, rfl⟩
  | array items => exact .inr (misshapen_ok items)
  | simple | bulk | null | integer | double => exact .inr (misshapen_error _)

/-- Records are refused for the shape of their reply only, once it has elements. -/
theorem Misshapen.records {r : Reply} (first : Misshapen r.elements) : Misshapen r.records := by
  unfold Reply.records
  refine first.bind fun items => (misshapen_rows items).bind fun listed => ?_
  obtain ⟨declared, found⟩ := listed
  dsimp only
  split
  · exact misshapen_ok found
  · exact misshapen_error _

/-- A reply is refused for its shape unless it is an error of the engine. -/
theorem error_or_misshapen (r : Reply) :
    (∃ message, r = error message) ∨ Misshapen r.records :=
  r.error_or_misshapen_elements.imp_right Misshapen.records

/-! ## Acceptance -/

/-- Whether texts stand in the even places of a list of even length. -/
def Paired (items : List Reply) : Prop :=
  items.length % 2 = 0 ∧
    ∀ place name, items[2 * place]? = some name → ∃ text, name.Holds text

/-- Whether a reply is a list that begins with a count and goes on with as many lists of names and
values. -/
def WellFormed (r : Reply) : Prop :=
  ∃ first rest c, r = array (first :: rest) ∧ first.Counts c ∧ rest.length = c.toNat ∧
    ∀ row ∈ rest, ∃ items, row = array items ∧ Paired items

/-- Names and values stand in turn in a list of even length with texts in its even places. -/
theorem exists_alternate_iff : ∀ {items : List Reply},
    (∃ fields, Alternate items fields) ↔ Paired items
  | [] => ⟨fun _ => ⟨rfl, nofun⟩, fun _ => ⟨[], rfl, nofun, nofun⟩⟩
  | [_] => by
    refine iff_of_false ?_ fun paired => nomatch paired.1
    rintro ⟨fields, turn⟩
    have count : 1 = 2 * fields.length := turn.length
    omega
  | name :: value :: rest => by
    have later : (∃ fields, Alternate rest fields) ↔ Paired rest := exists_alternate_iff
    constructor
    · rintro ⟨fields, turn⟩
      cases fields with
      | nil => exact absurd turn.length (Nat.succ_ne_zero _)
      | cons field fields =>
        obtain ⟨holds, -, turn⟩ := alternate_cons.mp turn
        obtain ⟨even, texts⟩ := later.mp ⟨fields, turn⟩
        refine ⟨by simp only [List.length_cons]; omega, fun place => ?_⟩
        cases place with
        | zero =>
          rintro _ ⟨⟩
          exact ⟨_, holds⟩
        | succ place => exact texts place
    · rintro ⟨even, texts⟩
      obtain ⟨text, holds⟩ := texts 0 name rfl
      obtain ⟨fields, turn⟩ := later.mpr
        ⟨by simp only [List.length_cons] at even; omega, fun place => texts (place + 1)⟩
      exact ⟨(text, value) :: fields, alternate_cons.mpr ⟨holds, rfl, turn⟩⟩

/-- A reply is the row of some record if it is a list of names and values. -/
theorem exists_row_iff {r : Reply} :
    (∃ record, r.Row record) ↔ ∃ items, r = array items ∧ Paired items := by
  constructor
  · rintro ⟨record, items, same, turn⟩
    exact ⟨items, same, exists_alternate_iff.mp ⟨record.fields, turn⟩⟩
  · rintro ⟨items, same, paired⟩
    obtain ⟨fields, turn⟩ := exists_alternate_iff.mpr paired
    exact ⟨⟨fields⟩, items, same, turn⟩

/-- There are records for several rows if there is one for each of them. -/
theorem exists_rows_iff {rest : List Reply} :
    (∃ records, List.Forall₂ Row rest records) ↔
      ∀ row ∈ rest, ∃ items, row = array items ∧ Paired items := by
  induction rest with
  | nil => exact ⟨fun _ => List.forall_mem_nil _, fun _ => ⟨[], .nil⟩⟩
  | cons first rest ih =>
    rw [List.forall_mem_cons, ← exists_row_iff, ← ih]
    constructor
    · rintro ⟨_, _ | ⟨here, later⟩⟩
      exact ⟨⟨_, here⟩, ⟨_, later⟩⟩
    · rintro ⟨⟨record, here⟩, ⟨records, later⟩⟩
      exact ⟨record :: records, .cons here later⟩

/-- A reply presents records exactly if it is well formed. -/
theorem exists_presents_iff {r : Reply} : (∃ records, r.Presents records) ↔ r.WellFormed := by
  constructor
  · rintro ⟨records, first, rest, c, rfl, counts, declared, each⟩
    rw [← each.length_eq] at declared
    exact ⟨first, rest, c, rfl, counts, declared, exists_rows_iff.mp ⟨records, each⟩⟩
  · rintro ⟨first, rest, c, rfl, counts, declared, each⟩
    obtain ⟨records, each⟩ := exists_rows_iff.mpr each
    rw [each.length_eq] at declared
    exact ⟨records, first, rest, c, rfl, counts, declared, each⟩

/-! ## Writing -/

/-- A record as a row: each name as octets, followed by its value. -/
def ofRecord (record : Record) : Reply :=
  array (record.fields.flatMap fun (name, value) => [bulk (Octets.ofText name), value])

/-- Records as a reply: their number, followed by their rows. -/
def ofRecords (records : List Record) : Reply :=
  array (integer (Word.saturate records.length) :: records.map ofRecord)

/-- Names and values that are written in turn stand in turn. -/
theorem alternate_ofRecord (fields : List (String × Reply)) :
    Alternate (fields.flatMap fun (name, value) => [bulk (Octets.ofText name), value]) fields := by
  induction fields with
  | nil => exact ⟨rfl, nofun, nofun⟩
  | cons field rest ih => exact alternate_cons.mpr ⟨rfl, rfl, ih⟩

/-- A reply that is written from records presents them. -/
theorem presents_ofRecords {records : List Record} (small : records.length ≤ Word.greatest) :
    (ofRecords records).Presents records := by
  have length : (UInt64.ofNat records.length).toNat = records.length := by
    rw [UInt64.toNat_ofNat']
    unfold Word.greatest at small
    omega
  refine ⟨_, _, .ofNat records.length, rfl, ?_, length.symm, ?_⟩
  · rw [Counts, length]
    exact Word.toInt_saturate small
  · rw [List.forall₂_map_left_iff]
    exact List.forall₂_same.mpr fun record _ => ⟨_, rfl, alternate_ofRecord record.fields⟩

/-- Exactly the well-formed replies are read, as the records they present; errors of the engine are
passed on, every other reply is refused for its shape, and records that are written are read. -/
theorem records_exact :
    (∀ r : Reply, (∃ found, r.records = .ok found) ↔ r.WellFormed) ∧
    (∀ (r : Reply) (found : List Record), r.records = .ok found ↔ r.Presents found) ∧
    (∀ (r : Reply) (message : String),
      r.records = .error (.server message) ↔ r = error message) ∧
    (∀ r : Reply, r.WellFormed ∨ (∃ message, r = error message) ∨
      ∃ shape : Misshape, r.records = .error (.replyFormat shape.reason)) ∧
    ∀ found : List Record, found.length ≤ Word.greatest →
      (ofRecords found).records = .ok found := by
  refine ⟨fun r => ?_, fun r found => records_eq_ok_iff, fun r message => ?_, fun r => ?_,
    fun found small => records_eq_ok_iff.mpr (presents_ofRecords small)⟩
  · simp only [records_eq_ok_iff, exists_presents_iff]
  · constructor
    · intro passed
      rcases r.error_or_misshapen with ⟨other, rfl⟩ | refused
      · cases passed
        rfl
      · obtain ⟨_, ⟨⟩⟩ := refused _ passed
    · rintro rfl
      rfl
  · rcases r.error_or_misshapen with failed | refused
    · exact .inr (.inl failed)
    · cases outcome : r.records with
      | ok found => exact .inl (exists_presents_iff.mp ⟨found, records_eq_ok_iff.mp outcome⟩)
      | error e =>
        obtain ⟨shape, rfl⟩ := refused e outcome
        exact .inr (.inr ⟨shape, rfl⟩)

/-- Two records of different width, one with an error of the engine as a value, are read back. -/
theorem records_ofRecords_two :
    (ofRecords [⟨[("name", .array [.null]), ("name", .error "busy")]⟩, ⟨[]⟩]).records =
      .ok [⟨[("name", .array [.null]), ("name", .error "busy")]⟩, ⟨[]⟩] :=
  records_exact.2.2.2.2 _ (by decide)

end SearchWire.Reply
