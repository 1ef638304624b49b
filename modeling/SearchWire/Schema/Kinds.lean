/-!
# Kinds of documents, fields and options

The closed lists of choices in an index schema, each with the keyword the engine expects.
-/
namespace SearchWire

/-- The kind of document an index covers. Fields of a hash have plain names, fields of a JSON
document are paths. -/
inductive DocumentKind where
  | hash
  | json
deriving DecidableEq, Inhabited

namespace DocumentKind

/-- The keyword after `ON`. -/
def keyword : DocumentKind → String
  | hash => "HASH"
  | json => "JSON"

/-- Whether field names are paths. -/
def usesPaths : DocumentKind → Bool
  | hash => false
  | json => true

end DocumentKind

/-- The declared type of a field. -/
inductive FieldKind where
  | text
  | numeric
  | geo
  | tag
deriving DecidableEq

namespace FieldKind

/-- The keyword after the name of a field. -/
def keyword : FieldKind → String
  | text => "TEXT"
  | numeric => "NUMERIC"
  | geo => "GEO"
  | tag => "TAG"

end FieldKind

/-- The language of the phonetic matcher of a text field. -/
inductive Phonetic where
  | english
  | french
  | portuguese
  | spanish
deriving DecidableEq

namespace Phonetic

/-- The name of the matcher. -/
def matcher : Phonetic → String
  | english => "dm:en"
  | french => "dm:fr"
  | portuguese => "dm:pt"
  | spanish => "dm:es"

end Phonetic

/-- Whether and how a field can be sorted by. -/
inductive Sorting where
  /-- Not at all. -/
  | no
  /-- By its normalized value. -/
  | yes
  /-- By its value as stored. -/
  | unnormalized
deriving DecidableEq

namespace Sorting

/-- The keywords of a choice. -/
def keywords : Sorting → List String
  | no => []
  | yes => ["SORTABLE"]
  | unnormalized => ["SORTABLE", "UNF"]

end Sorting

/-- The direction of a sort key. -/
inductive Direction where
  | ascending
  | descending
deriving DecidableEq, Inhabited

namespace Direction

/-- The keyword after a sort key. -/
def keyword : Direction → String
  | ascending => "ASC"
  | descending => "DESC"

end Direction

end SearchWire
