import SearchWire.Proofs.BlankEnds
import SearchWire.Rows.Page
import Mathlib.Data.List.Forall2

/-!
# The grammar of replies with rows

Which replies hold all rows of a result is said without reading them: a list that begins with a
count and goes on with as many lists, in each of which texts and values stand in turn. Reading
accepts exactly these, the records that are read are the ones the reply presents, and every other
reply is refused with an error that says whether the engine or the shape of the reply is at fault.
-/
namespace SearchWire

namespace Decimal

/-- Whether a text denotes a number as counts do: with digits alone, apart from a plus sign in front
of them and blanks around them. -/
def Denotes (text : List Char) (n : Nat) : Prop :=
  ∃ left sign digits right, text = left ++ (sign ++ digits ++ right) ∧ Blank.Blanks left ∧
    Blank.Blanks right ∧ (sign = [] ∨ sign = ['+']) ∧ digits ≠ [] ∧
    (∀ c ∈ digits, c.isDigit = true) ∧ value digits = n

/-- A sign and digits stay when blanks are trimmed. -/
theorem tight_digits {sign digits : List Char} (plus : sign = [] ∨ sign = ['+'])
    (numeric : ∀ c ∈ digits, c.isDigit = true) : Blank.Tight (sign ++ digits) := by
  apply Blank.tight_of_forall
  intro c inside
  rcases List.mem_append.mp inside with inside | inside
  · rcases plus with rfl | rfl
    · contradiction
    · obtain rfl := List.mem_singleton.mp inside
      decide
  · exact Blank.isBlank_of_isDigit (numeric c inside)

/-- A text denotes what the digits between its blanks, behind a plus sign if there is one, are read
as. -/
theorem denotes_iff {text : List Char} {n : Nat} :
    Denotes text n ↔
      natural? (match Blank.trim text with
        | '+' :: rest => rest
        | digits => digits) = some n := by
  constructor
  · rintro ⟨left, sign, digits, right, rfl, before, after, plus, present, numeric, rfl⟩
    have trimmed : Blank.trim (left ++ (sign ++ digits ++ right)) = sign ++ digits :=
      Blank.trim_eq_iff.mpr ⟨left, right, rfl, before, after, tight_digits plus numeric⟩
    rw [trimmed]
    rcases plus with rfl | rfl
    · rw [List.nil_append]
      split
      · have first : ('+').isDigit = true := numeric _ List.mem_cons_self
        contradiction
      · exact natural?_eq_some_iff.mpr ⟨present, numeric, rfl⟩
    · exact natural?_eq_some_iff.mpr ⟨present, numeric, rfl⟩
  · intro read
    split at read
    · next rest trimmed =>
      obtain ⟨left, right, same, before, after, -⟩ := Blank.trim_eq_iff.mp trimmed
      exact ⟨left, ['+'], rest, right, same, before, after, .inr rfl,
        natural?_eq_some_iff.mp read⟩
    · obtain ⟨left, right, same, before, after, -⟩ := Blank.trim_eq_iff.mp rfl
      exact ⟨left, [], Blank.trim text, right, same, before, after, .inl rfl,
        natural?_eq_some_iff.mp read⟩

end Decimal

namespace Reply

/-- Whether a reply is a text: a status line, or octets that are the text's UTF-8 encoding. -/
def Holds : Reply → String → Prop
  | simple s, text => s = text
  | bulk octets, text => octets = Octets.ofText text
  | _, _ => False

/-- The text of a reply is the one it holds. -/
theorem text?_eq_some_iff {r : Reply} {text : String} : r.text? = some text ↔ r.Holds text := by
  cases r with
  | simple s => exact Option.some_inj
  | bulk octets => exact Octets.text?_eq_some_iff
  | null | integer | double | array | error => simp only [text?, Holds, reduceCtorEq]

/-- Whether a reply counts with a number: as an integer, or as a text that denotes it. -/
def Counts : Reply → UInt64 → Prop
  | integer n, c => n.toInt = c.toNat
  | r, c => ∃ text, r.Holds text ∧ Decimal.Denotes text.toList c.toNat

/-- The number that is read from a text is the one the text denotes. -/
theorem spelled_eq_some_iff (r : Reply) (c : UInt64) :
    (r.text?.bind fun text =>
      (Decimal.natural? (match Blank.trim text.toList with
        | '+' :: rest => rest
        | digits => digits)).bind fun n => Word.uint64? n) = some c ↔
      ∃ text, r.Holds text ∧ Decimal.Denotes text.toList c.toNat := by
  rw [Option.bind_eq_some_iff]
  refine exists_congr fun text => and_congr text?_eq_some_iff ?_
  rw [Decimal.denotes_iff, Option.bind_eq_some_iff]
  constructor
  · rintro ⟨n, read, word⟩
    rw [Word.uint64?_eq_some_iff, Int.ofNat_inj] at word
    rw [word]
    exact read
  · intro read
    exact ⟨c.toNat, read, Word.uint64?_eq_some_iff.mpr rfl⟩

/-- The count that is read is the one a reply counts with. -/
theorem count?_eq_some_iff {r : Reply} {c : UInt64} : r.count? = some c ↔ r.Counts c := by
  cases r with
  | integer n =>
    rw [count?, Word.uint64?_eq_some_iff]
    exact eq_comm
  | simple s => exact spelled_eq_some_iff (simple s) c
  | bulk octets => exact spelled_eq_some_iff (bulk octets) c
  | null => exact spelled_eq_some_iff null c
  | double d => exact spelled_eq_some_iff (double d) c
  | array items => exact spelled_eq_some_iff (array items) c
  | error message => exact spelled_eq_some_iff (error message) c

/-- A count is accepted if the reply counts with it. -/
theorem count_eq_ok_iff {r : Reply} {c : UInt64} : r.count = .ok c ↔ r.Counts c := by
  rw [count, ← count?_eq_some_iff]
  cases r.count? with
  | none => simp only [reduceCtorEq]
  | some n => simp only [Except.ok.injEq, Option.some.injEq]

/-! ## Rows -/

/-- Whether names and values stand in turn in a list. -/
structure Alternate (items : List Reply) (fields : List (String × Reply)) : Prop where
  /-- There are two elements for each field. -/
  length : items.length = 2 * fields.length
  /-- In each even place stands a name. -/
  name : ∀ place text value, fields[place]? = some (text, value) →
    ∃ name, items[2 * place]? = some name ∧ name.Holds text
  /-- Behind each name stands its value. -/
  value : ∀ place text value, fields[place]? = some (text, value) →
    items[2 * place + 1]? = some value

/-- The first name and the first value stand in front of the others. -/
theorem alternate_cons {name value value' : Reply} {rest : List Reply} {text : String}
    {fields : List (String × Reply)} :
    Alternate (name :: value :: rest) ((text, value') :: fields) ↔
      name.Holds text ∧ value = value' ∧ Alternate rest fields := by
  constructor
  · rintro ⟨length, names, values⟩
    obtain ⟨first, found, holds⟩ := names 0 text value' rfl
    cases found
    have second : some value = some value' := values 0 text value' rfl
    refine ⟨holds, Option.some.inj second, ?_, fun place => names (place + 1),
      fun place => values (place + 1)⟩
    simp only [List.length_cons] at length
    omega
  · rintro ⟨holds, rfl, length, names, values⟩
    refine ⟨by simp only [List.length_cons]; omega, fun place => ?_, fun place => ?_⟩
    · cases place with
      | zero =>
        rintro _ _ ⟨⟩
        exact ⟨name, rfl, holds⟩
      | succ place => exact names place
    · cases place with
      | zero =>
        rintro _ _ ⟨⟩
        rfl
      | succ place => exact values place

/-- The fields of a row are read exactly if its names and values stand in turn. -/
theorem pairs_eq_ok_iff {place : Nat} : ∀ {items : List Reply} {fields : List (String × Reply)},
    items.length % 2 = 0 → (pairs place items = .ok fields ↔ Alternate items fields)
  | [], fields, _ => by
    constructor
    · rintro ⟨⟩
      exact ⟨rfl, nofun, nofun⟩
    · intro turn
      have count : 0 = 2 * fields.length := turn.length
      obtain rfl : fields = [] := List.length_eq_zero_iff.mp (by omega)
      rfl
  | [_], _, even => by contradiction
  | name :: value :: rest, fields, even => by
    have later : ∀ {fields}, pairs place rest = .ok fields ↔ Alternate rest fields :=
      pairs_eq_ok_iff (by simp only [List.length_cons] at even; omega)
    cases fields with
    | nil =>
      refine iff_of_false (fun done => ?_) fun turn => Nat.succ_ne_zero _ turn.length
      rw [pairs] at done
      split at done
      · obtain ⟨_, -, ⟨⟩⟩ := map_eq_ok_iff.mp done
      · contradiction
    | cons field fields =>
      obtain ⟨text, value'⟩ := field
      rw [alternate_cons, ← later, ← text?_eq_some_iff, pairs]
      cases name.text? with
      | none => simp only [Misshape.error, reduceCtorEq, false_and]
      | some found =>
        rw [map_eq_ok_iff]
        simp only [List.cons.injEq, Prod.mk.injEq, Option.some.injEq]
        constructor
        · rintro ⟨_, done, ⟨rfl, rfl⟩, rfl⟩
          exact ⟨rfl, rfl, done⟩
        · rintro ⟨rfl, rfl, done⟩
          exact ⟨fields, done, ⟨rfl, rfl⟩, rfl⟩

/-- Whether a reply is the row of a record. -/
def Row (r : Reply) (record : Record) : Prop :=
  ∃ items, r = array items ∧ Alternate items record.fields

/-- A record is read exactly from its rows. -/
theorem row_eq_ok_iff {place : Nat} {r : Reply} {record : Record} :
    row place r = .ok record ↔ r.Row record := by
  cases r with
  | array items =>
    rw [row]
    split
    · next even =>
      rw [map_eq_ok_iff]
      constructor
      · rintro ⟨fields, done, rfl⟩
        exact ⟨items, rfl, (pairs_eq_ok_iff even).mp done⟩
      · rintro ⟨_, ⟨⟩, turn⟩
        exact ⟨record.fields, (pairs_eq_ok_iff even).mpr turn, rfl⟩
    · next odd =>
      refine iff_of_false nofun ?_
      rintro ⟨_, ⟨⟩, turn⟩
      have length := turn.length
      omega
  | simple | bulk | null | integer | double | error =>
    exact iff_of_false nofun fun ⟨_, same, _⟩ => nomatch same

/-- Records are read exactly from their rows, one after the other. -/
theorem rowsFrom_eq_ok_iff {place : Nat} {items : List Reply} {records : List Record} :
    rowsFrom place items = .ok records ↔ List.Forall₂ Row items records := by
  induction items generalizing place records with
  | nil =>
    rw [List.forall₂_nil_left_iff]
    constructor
    · rintro ⟨⟩
      rfl
    · rintro rfl
      rfl
  | cons first rest ih =>
    rw [rowsFrom, bind_eq_ok_iff, List.forall₂_cons_left_iff]
    constructor
    · rintro ⟨record, done, later⟩
      obtain ⟨others, done', same⟩ := bind_eq_ok_iff.mp later
      cases same
      exact ⟨record, others, row_eq_ok_iff.mp done, ih.mp done', rfl⟩
    · rintro ⟨record, others, here, later, rfl⟩
      exact ⟨record, row_eq_ok_iff.mpr here,
        bind_eq_ok_iff.mpr ⟨others, ih.mpr later, rfl⟩⟩

/-- Whether a list holds a count and the rows of records. -/
theorem rows_eq_ok_iff {items : List Reply} {c : UInt64} {records : List Record} :
    rows items = .ok (c, records) ↔
      ∃ first rest, items = first :: rest ∧ first.Counts c ∧ List.Forall₂ Row rest records := by
  cases items with
  | nil => exact iff_of_false nofun fun ⟨_, _, same, _⟩ => nomatch same
  | cons first rest =>
    rw [rows, bind_eq_ok_iff]
    constructor
    · rintro ⟨declared, counted, later⟩
      obtain ⟨found, done, same⟩ := bind_eq_ok_iff.mp later
      cases same
      exact ⟨first, rest, rfl, count_eq_ok_iff.mp counted, rowsFrom_eq_ok_iff.mp done⟩
    · rintro ⟨_, _, ⟨⟩, counts, later⟩
      exact ⟨c, count_eq_ok_iff.mpr counts,
        bind_eq_ok_iff.mpr ⟨records, rowsFrom_eq_ok_iff.mpr later, rfl⟩⟩

/-! ## Whole replies -/

/-- Whether a reply presents records: it begins with their number and goes on with their rows. -/
def Presents (r : Reply) (records : List Record) : Prop :=
  ∃ first rest c, r = array (first :: rest) ∧ first.Counts c ∧ records.length = c.toNat ∧
    List.Forall₂ Row rest records

/-- The elements of a reply are those of a list. -/
theorem elements_eq_ok_iff {r : Reply} {items : List Reply} :
    r.elements = .ok items ↔ r = array items := by
  cases r with
  | array items' => simp only [elements, Except.ok.injEq, array.injEq]
  | simple | bulk | null | integer | double | error =>
    simp only [elements, Misshape.error, reduceCtorEq]

/-- The records that are read from a reply are those it presents. -/
theorem records_eq_ok_iff {r : Reply} {found : List Record} :
    r.records = .ok found ↔ r.Presents found := by
  rw [records, bind_eq_ok_iff]
  constructor
  · rintro ⟨items, list, later⟩
    obtain ⟨⟨c, listed⟩, done, last⟩ := bind_eq_ok_iff.mp later
    obtain ⟨first, rest, rfl, counts, each⟩ := rows_eq_ok_iff.mp done
    dsimp only at last
    split at last
    · next declared =>
      cases last
      exact ⟨first, rest, c, elements_eq_ok_iff.mp list, counts, declared, each⟩
    · contradiction
  · rintro ⟨first, rest, c, rfl, counts, declared, each⟩
    refine ⟨first :: rest, rfl, bind_eq_ok_iff.mpr ⟨(c, found), ?_, ?_⟩⟩
    · exact rows_eq_ok_iff.mpr ⟨first, rest, rfl, counts, each⟩
    · dsimp only
      rw [if_pos declared]
      rfl

end Reply

end SearchWire
