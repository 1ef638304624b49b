import SearchWire.Proofs.NumberViews
import SearchWire.Rows.Record

/-!
# Look-ups and the order of fields

What a look-up gives is decided by the values that the row delivered under exactly the name that is
looked up: it is what the first of them is read as, and without any of them the field is missing.
Where the other pairs of the row stand, what they hold and how their names are written does not
matter, so rows that differ in the order of their fields alone give the same answers.
-/
namespace SearchWire

namespace Reply

/-- The values behind a name in a list of names and values in turn. -/
def valuesBehind (name : String) : List Reply → List Reply
  | key :: value :: rest =>
    if key.text? = some name then value :: valuesBehind name rest else valuesBehind name rest
  | _ => []

/-- The values that a row delivers under a name, in their order. -/
def delivered (name : String) (row : Reply) : List Reply := valuesBehind name (row.items?.getD [])

/-- The row at a place of a reply; in front of the first one stands their number. -/
def rowAt? (r : Reply) (place : Nat) : Option Reply :=
  r.items?.bind fun items => items[place + 1]?

end Reply

/-- What the look-ups of one name give. -/
structure LookUps where
  /-- Whether the field is there. -/
  contained : Bool
  /-- Its value. -/
  value : Option Reply
  /-- Its text. -/
  text : Except Error String
  /-- Its integer. -/
  integer : Except Error Int64
  /-- Its double. -/
  double : Except Error Double

namespace LookUps

/-- What is due when these values were delivered under the name: what the first one is read as. -/
def due (name : String) : List Reply → LookUps
  | [] =>
    ⟨false, none, .error (.fieldNotFound name), .error (.fieldNotFound name),
      .error (.fieldNotFound name)⟩
  | first :: _ => ⟨true, some first, first.asText, first.asInteger, first.asDouble⟩

/-- All look-ups of one name in a record. -/
def ofRecord (record : Record) (name : String) : LookUps :=
  ⟨record.contains name, record.get? name, record.getText name, record.getInteger name,
    record.getDouble name⟩

end LookUps

namespace Record

/-- The value of a field is the first one of its name. -/
theorem get?_eq_head? (record : Record) (name : String) :
    record.get? name =
      (record.fields.filterMap fun field => if name == field.1 then some field.2 else none).head? := by
  rw [get?, List.lookup_eq_findSome?, List.head?_filterMap]

variable {record : Record} {name : String} {values : List Reply}

/-- All look-ups of a name are decided by the value of the field. -/
theorem lookUps_eq_due (first : record.get? name = values.head?) :
    LookUps.ofRecord record name = LookUps.due name values := by
  cases values with
  | nil =>
    have missing : record.get? name = none := first
    have required : record.require name = .error (.fieldNotFound name) := by rw [require, missing]
    simp only [LookUps.ofRecord, contains, getText, getInteger, getDouble, missing, required]
    rfl
  | cons value rest =>
    have found : record.get? name = some value := first
    have required : record.require name = .ok value := by rw [require, found]
    simp only [LookUps.ofRecord, contains, getText, getInteger, getDouble, found, required]
    rfl

/-- A field is missing if no value was delivered under its name, and is then missed under this name;
nothing else is said of a value that cannot be converted. -/
theorem missing_iff {α : Type} {read : Reply → Except Error α} {other : String}
    (first : record.get? name = values.head?)
    (converts : ∀ value e, read value = .error e → ∃ expected shown, e = .conversion expected shown) :
    record.require name >>= read = .error (.fieldNotFound other) ↔ values = [] ∧ other = name := by
  rw [require, first]
  cases values with
  | nil =>
    change Except.error (Error.fieldNotFound name) = _ ↔ _
    simp only [Except.error.injEq, Error.fieldNotFound.injEq, true_and]
    exact eq_comm
  | cons value rest =>
    refine iff_of_false (fun refused => ?_) (fun none => List.cons_ne_nil _ _ none.1)
    obtain ⟨_, _, ⟨⟩⟩ := converts value _ refused

end Record

namespace Reply

/-- A text is refused as a conversion. -/
theorem conversion_of_asText {value : Reply} {e : Error} (refused : value.asText = .error e) :
    ∃ expected shown, e = .conversion expected shown := by
  unfold asText at refused
  split at refused
  · contradiction
  · exact ⟨_, _, (Except.error.inj refused).symm⟩

/-- A double is refused as a conversion. -/
theorem conversion_of_asDouble {value : Reply} {e : Error} (refused : value.asDouble = .error e) :
    ∃ expected shown, e = .conversion expected shown := by
  unfold asDouble at refused
  dsimp only at refused
  split at refused
  · contradiction
  · exact ⟨_, _, (Except.error.inj refused).symm⟩

/-- In a list where names and values stand in turn, the values behind a name are those of the fields
with this name. -/
theorem valuesBehind_eq (name : String) : ∀ {items : List Reply} {fields : List (String × Reply)},
    Alternate items fields →
    valuesBehind name items =
      fields.filterMap fun field => if name == field.1 then some field.2 else none
  | [], fields, turn => by
    have length : 0 = 2 * fields.length := turn.length
    obtain rfl : fields = [] := List.length_eq_zero_iff.mp (by omega)
    rfl
  | [_], fields, turn => by
    have length : 1 = 2 * fields.length := turn.length
    omega
  | key :: value :: rest, [], turn => absurd turn.length (by simp)
  | key :: value :: rest, (text, value') :: fields, turn => by
    obtain ⟨holds, rfl, later⟩ := alternate_cons.mp turn
    rw [valuesBehind, text?_eq_some_iff.mpr holds, valuesBehind_eq name later, List.filterMap_cons]
    by_cases same : text = name
    · subst same
      simp
    · have differs : (name == text) = false := beq_false_of_ne (Ne.symm same)
      simp [same, differs]

/-- The value of a field is the first one that the row delivers under its name. -/
theorem Row.get?_eq {row : Reply} {record : Record} (presents : row.Row record) (name : String) :
    record.get? name = (row.delivered name).head? := by
  obtain ⟨items, rfl, turn⟩ := presents
  rw [Record.get?_eq_head?, ← valuesBehind_eq name turn]
  rfl

/-- Each record of a reply is the one of the row at its place. -/
theorem Presents.exists_row {r : Reply} {found : List Record} (presents : r.Presents found)
    {place : Nat} {record : Record} (here : found[place]? = some record) :
    ∃ row, r.rowAt? place = some row ∧ row.Row record := by
  obtain ⟨first, rest, c, rfl, -, -, each⟩ := presents
  obtain ⟨inside, rfl⟩ := List.getElem?_eq_some_iff.mp here
  have inside' : place < rest.length := each.length_eq ▸ inside
  exact ⟨rest[place], List.getElem?_eq_getElem inside', each.get inside' inside⟩

/-- What the look-ups of a record give is due to the values that its row delivers under the name alone:
the first of them is read, and the field is missing exactly if there is none. So two replies that
deliver the same values under a name in the same place answer alike to it, whatever the order and
the names of the other pairs. -/
theorem looked_up_in_any_order :
    (∀ (r : Reply) (found : List Record), r.records = .ok found →
      ∀ (place : Nat) (record : Record), found[place]? = some record →
        ∃ row, r.rowAt? place = some row ∧ ∀ name : String,
          LookUps.ofRecord record name = LookUps.due name (row.delivered name) ∧
          ∀ other : String,
            (record.getText name = .error (.fieldNotFound other) ↔
              row.delivered name = [] ∧ other = name) ∧
            (record.getInteger name = .error (.fieldNotFound other) ↔
              row.delivered name = [] ∧ other = name) ∧
            (record.getDouble name = .error (.fieldNotFound other) ↔
              row.delivered name = [] ∧ other = name)) ∧
    ∀ (r s : Reply) (found found' : List Record), r.records = .ok found → s.records = .ok found' →
      found.length = found'.length → ∀ (place : Nat) (name : String),
        (∀ row row', r.rowAt? place = some row → s.rowAt? place = some row' →
          row.delivered name = row'.delivered name) →
        found[place]?.map (LookUps.ofRecord · name) =
          found'[place]?.map (LookUps.ofRecord · name) := by
  constructor
  · intro r found read place record here
    obtain ⟨row, there, presents⟩ := (records_eq_ok_iff.mp read).exists_row here
    refine ⟨row, there, fun name => ?_⟩
    have first := presents.get?_eq name
    exact ⟨Record.lookUps_eq_due first, fun other =>
      ⟨Record.missing_iff first fun _ _ => conversion_of_asText,
        Record.missing_iff first fun _ _ refused => ⟨_, _, eq_of_asInteger_eq_error refused⟩,
        Record.missing_iff first fun _ _ => conversion_of_asDouble⟩⟩
  · intro r s found found' read read' length place name alike
    rcases Nat.lt_or_ge place found.length with inside | beyond
    · have inside' : place < found'.length := length ▸ inside
      have here := List.getElem?_eq_getElem inside
      have here' := List.getElem?_eq_getElem inside'
      obtain ⟨row, there, presents⟩ := (records_eq_ok_iff.mp read).exists_row here
      obtain ⟨row', there', presents'⟩ := (records_eq_ok_iff.mp read').exists_row here'
      rw [here, here', Option.map_some, Option.map_some,
        Record.lookUps_eq_due (presents.get?_eq name),
        Record.lookUps_eq_due (presents'.get?_eq name), alike row row' there there']
    · rw [List.getElem?_eq_none beyond, List.getElem?_eq_none (length ▸ beyond)]

/-- Two rows with the values of two names that differ in case alone, in another order, answer alike to
both names and to one that is not there. -/
theorem looked_up_in_two_orders :
    (array [integer 1, array [simple "n", integer 1, bulk (Octets.ofText "N"), null,
      simple "n", simple "x"]]).records =
        .ok [⟨[("n", integer 1), ("N", null), ("n", simple "x")]⟩] ∧
    (array [simple "1", array [bulk (Octets.ofText "N"), null, bulk (Octets.ofText "n"),
      integer 1, simple "n", simple "x"]]).records =
        .ok [⟨[("N", null), ("n", integer 1), ("n", simple "x")]⟩] ∧
    ∀ name ∈ ["n", "N", "m"],
      LookUps.ofRecord ⟨[("n", integer 1), ("N", null), ("n", simple "x")]⟩ name =
        LookUps.ofRecord ⟨[("N", null), ("n", integer 1), ("n", simple "x")]⟩ name := by
  have read : (array [integer 1, array [simple "n", integer 1, bulk (Octets.ofText "N"), null,
      simple "n", simple "x"]]).records =
        .ok [⟨[("n", integer 1), ("N", null), ("n", simple "x")]⟩] := rfl
  have read' : (array [simple "1", array [bulk (Octets.ofText "N"), null, bulk (Octets.ofText "n"),
      integer 1, simple "n", simple "x"]]).records =
        .ok [⟨[("N", null), ("n", integer 1), ("n", simple "x")]⟩] := rfl
  refine ⟨read, read', fun name inside => ?_⟩
  refine Option.some.inj (looked_up_in_any_order.2 _ _ _ _ read read' rfl 0 name ?_)
  rintro _ _ ⟨⟩ ⟨⟩
  simp only [List.mem_cons, List.not_mem_nil, or_false] at inside
  rcases inside with rfl | rfl | rfl <;> rfl

end Reply

end SearchWire
