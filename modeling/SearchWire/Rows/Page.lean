import SearchWire.Rows.Record

/-!
# Rows of a reply

The reply to an aggregation is a list that begins with the number of rows and then holds each row as
a list of its own, names and values in turn:

    [count, [name, value, ..], ..]

Rows are told apart by their nesting and may differ in length. A reply that is read page by page
wraps one such list together with the number of the cursor:

    [[total, [name, value, ..], ..], cursor]

There the leading number is a total of the engine and not compared with the rows of the page.
-/
namespace SearchWire

/-- How a reply differs from the expected shape. -/
inductive Misshape where
  /-- It is not a list. -/
  | notAList (got : Reply)
  /-- It is a list without a leading number. -/
  | noCount
  /-- Its leading number or its cursor is no count. -/
  | notACount (got : Reply)
  /-- The row at this place is not a list. -/
  | flatRow (place : Nat) (got : Reply)
  /-- The row at this place has a name without a value. -/
  | oddRow (place size : Nat)
  /-- The row at this place has a name that is not text. -/
  | badName (place : Nat) (got : Reply)
  /-- Its leading number is not the number of its rows. -/
  | miscount (declared : UInt64) (carried : Nat)
  /-- It is not a page and a cursor. -/
  | notAPage (size : Nat)
  /-- It is not a status. -/
  | notAStatus (got : Reply)

namespace Misshape

/-- The difference in words. -/
def reason : Misshape → String
  | notAList got => "expected an array reply, got " ++ got.describe
  | noCount => "reply is empty, expected a record count"
  | notACount got => "expected a non-negative count, got " ++ got.describe
  | flatRow place got =>
    "record " ++ toString place ++ " is " ++ got.describe ++
      ", expected a nested name/value array"
  | oddRow place size =>
    "record " ++ toString place ++ " has an odd number of elements (" ++ toString size ++ ")"
  | badName place got =>
    "record " ++ toString place ++ " has a non-text field name: " ++ got.describe
  | miscount declared carried =>
    "reply declares " ++ toString declared.toNat ++ " records but carries " ++ toString carried
  | notAPage size =>
    "cursor reply has " ++ toString size ++ " elements, expected [page, cursor]"
  | notAStatus got => "expected a status reply, got " ++ got.describe

/-- The error a caller sees. -/
def error (m : Misshape) : Error := .replyFormat m.reason

end Misshape

/-- One page of a result. -/
structure Page where
  /-- The total reported by the engine. -/
  total : UInt64
  /-- The rows of the page. -/
  records : List Record
  /-- The cursor of the next page, zero behind the last one. -/
  cursor : UInt64
deriving Inhabited

namespace Page

/-- Whether there is no further page. -/
def exhausted (p : Page) : Bool := p.cursor == 0

end Page

namespace Reply

/-- The elements of a list; an error of the engine is passed on. -/
def elements : Reply → Except Error (List Reply)
  | array items => .ok items
  | error message => .error (.server message)
  | other => .error (Misshape.notAList other).error

/-- The number that a reply counts with: an integer that is not negative, or the same as text. -/
def count? : Reply → Option UInt64
  | integer n => Word.uint64? n.toInt
  | other =>
    other.text?.bind fun text =>
      let digits :=
        match Blank.trim text.toList with
        | '+' :: rest => rest
        | digits => digits
      (Decimal.natural? digits).bind fun n => Word.uint64? n

/-- The number that a reply has to count with. -/
def count (r : Reply) : Except Error UInt64 :=
  match r.count? with
  | some n => .ok n
  | none => .error (Misshape.notACount r).error

/-- The names and values of a row, taken two at a time. -/
def pairs (place : Nat) : List Reply → Except Error (List (String × Reply))
  | name :: value :: rest =>
    match name.text? with
    | some text => (pairs place rest).map ((text, value) :: ·)
    | none => .error (Misshape.badName place name).error
  | _ => .ok []

/-- The row at a place. -/
def row (place : Nat) : Reply → Except Error Record
  | array items =>
    if items.length % 2 = 0 then (pairs place items).map Record.mk
    else .error (Misshape.oddRow place items.length).error
  | other => .error (Misshape.flatRow place other).error

/-- The rows from a place on; the first fault is reported. -/
def rowsFrom (place : Nat) : List Reply → Except Error (List Record)
  | [] => .ok []
  | first :: rest => do
    let record ← row place first
    let records ← rowsFrom (place + 1) rest
    return record :: records

/-- The leading number and the rows of a list. -/
def rows : List Reply → Except Error (UInt64 × List Record)
  | [] => .error Misshape.noCount.error
  | first :: rest => do
    let declared ← first.count
    let records ← rowsFrom 0 rest
    return (declared, records)

/-- The records of a reply that holds all rows. -/
def records (r : Reply) : Except Error (List Record) := do
  let (declared, records) ← rows (← r.elements)
  if records.length = declared.toNat then return records
  else throw (Misshape.miscount declared records.length).error

/-- The page of a reply that is read page by page. The cursor is looked at before the page. -/
def page (r : Reply) : Except Error Page := do
  match ← r.elements with
  | [content, cursor] =>
    let cursor ← cursor.count
    let (total, records) ← rows (← content.elements)
    return ⟨total, records, cursor⟩
  | items => throw (Misshape.notAPage items.length).error

/-- The status line of a reply. -/
def status : Reply → Except Error String
  | error message => .error (.server message)
  | other =>
    match other.text? with
    | some text => .ok text
    | none => .error (Misshape.notAStatus other).error

end Reply

end SearchWire
