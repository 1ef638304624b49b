import SearchWire.Rows.Conversion

/-!
# Records

One row of a result: names and values in the order in which they were delivered. A value is looked
up by its exact name; of several fields with one name the first counts.
-/
namespace SearchWire

/-- One row of a result. -/
structure Record where
  /-- Names and values in the order of delivery. -/
  fields : List (String × Reply)
deriving Inhabited

namespace Record

/-- The names in the order of delivery. -/
def names (r : Record) : List String := r.fields.map Prod.fst

/-- The value of the first field with the given name. -/
def get? (r : Record) (name : String) : Option Reply := r.fields.lookup name

/-- Whether a field has the given name. -/
def contains (r : Record) (name : String) : Bool := (r.get? name).isSome

/-- The value of a field that has to be there. -/
def require (r : Record) (name : String) : Except Error Reply :=
  match r.get? name with
  | some value => .ok value
  | none => .error (.fieldNotFound name)

/-- The text of a field. -/
def getText (r : Record) (name : String) : Except Error String := r.require name >>= Reply.asText

/-- The integer of a field. -/
def getInteger (r : Record) (name : String) : Except Error Int64 :=
  r.require name >>= Reply.asInteger

/-- The double of a field. -/
def getDouble (r : Record) (name : String) : Except Error Double :=
  r.require name >>= Reply.asDouble

end Record

end SearchWire
