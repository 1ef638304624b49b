import SearchWire.Proofs.JsonReading
import SearchWire.Serial.Exchange

/-!
# Commands and outputs survive an exchange

A command or an output that was serialized is read back as it was exactly if every double in it is
finite. A double that is not has no written form, and no reader takes the gap it leaves for a
missing value: then nothing is read back.
-/
namespace SearchWire

open Json

namespace Token

/-- The doubles of a token. -/
def doubles : Token → List Double
  | text _ | integer _ => []
  | double d => [d]

/-- A token is read back if its double is finite. -/
theorem ofJson?_toJson (t : Token) : ofJson? t.toJson = kept t.doubles t := by
  cases t with
  | text s => simp [toJson, ofJson?, variant, variant?, doubles, Json.text?]
  | integer n => simp [toJson, ofJson?, variant, variant?, doubles]
  | double d => simp [toJson, ofJson?, variant, variant?, doubles, double?_ofDouble]

end Token

namespace Reply

mutual

/-- The doubles of a reply. -/
def doubles : Reply → List Double
  | simple _ | bulk _ | null | integer _ | error _ => []
  | double d => [d]
  | array items => doublesOf items

/-- The doubles of replies. -/
def doublesOf : List Reply → List Double
  | [] => []
  | first :: rest => first.doubles ++ doublesOf rest

end

mutual

/-- A reply is read back if its doubles are finite. -/
theorem ofJson?_toJson : ∀ r : Reply, ofJson? r.toJson = kept r.doubles r
  | simple s => by simp [toJson, ofJson?, variant, doubles, Json.text?]
  | bulk octets => by
    have back : (ofList (fun o => Json.ofNat o.toNat) octets).list? Json.uint8? = some octets :=
      list?_ofList_self fun o _ => uint8?_ofNat o
    simp [toJson, ofJson?, variant, doubles, back]
  | null => by simp [toJson, ofJson?, doubles]
  | integer n => by simp [toJson, ofJson?, variant, doubles]
  | double d => by simp [toJson, ofJson?, variant, doubles, double?_ofDouble]
  | array items => by simp [toJson, ofJson?, variant, doubles, ofJsons?_toJsons items]
  | error message => by simp [toJson, ofJson?, variant, doubles, Json.text?]

/-- Replies are read back if their doubles are finite. -/
theorem ofJsons?_toJsons : ∀ items : List Reply,
    ofJsons? (toJsons items) = kept (doublesOf items) items
  | [] => by simp [toJsons, ofJsons?, doublesOf]
  | first :: rest => by
    simp [toJsons, ofJsons?, doublesOf, ofJson?_toJson first, ofJsons?_toJsons rest]

end

end Reply

namespace Record

/-- The doubles of a record. -/
def doubles (r : Record) : List Double := r.fields.flatMap fun field => field.2.doubles

/-- A record is read back if its doubles are finite. -/
theorem ofJson?_toJson (r : Record) : ofJson? r.toJson = kept r.doubles r := by
  have fields : (ofList fieldToJson r.fields).list? (pair? text? Reply.ofJson?) =
      kept r.doubles r.fields := list?_ofList_kept fun field _ => by
    simp [fieldToJson, pair?, text?, Reply.ofJson?_toJson]
  simp [ofJson?, toJson, members?_object, required, fields]

end Record

namespace Page

/-- The doubles of a page. -/
def doubles (p : Page) : List Double := p.records.flatMap Record.doubles

/-- A page is read back if its doubles are finite. -/
theorem ofJson?_toJson (p : Page) : ofJson? p.toJson = kept p.doubles p := by
  have records : (ofList Record.toJson p.records).list? Record.ofJson? =
      kept p.doubles p.records := list?_ofList_kept fun r _ => r.ofJson?_toJson
  simp [ofJson?, toJson, members?_object, required, List.lookup_cons, records]

end Page

namespace Output

/-- The doubles of an output. -/
def doubles : Output → List Double
  | status _ => []
  | records rows => rows.flatMap Record.doubles
  | page p => p.doubles

/-- An output is read back if its doubles are finite. -/
theorem ofJson?_toJson (o : Output) : ofJson? o.toJson = kept o.doubles o := by
  cases o with
  | status line => simp [ofJson?, toJson, variant, variant?, text?, doubles]
  | records rows =>
    have records : (ofList Record.toJson rows).list? Record.ofJson? =
        kept (rows.flatMap Record.doubles) rows := list?_ofList_kept fun r _ => r.ofJson?_toJson
    simp [ofJson?, toJson, variant, variant?, rowsToJson, rowsOfJson?, members?_object, required,
      records, doubles]
  | page p => simp [ofJson?, toJson, variant, variant?, Page.ofJson?_toJson, doubles]

end Output

/-- A kind of document is read back. -/
theorem DocumentKind.ofJson?_toJson (kind : DocumentKind) : ofJson? kind.toJson = some kind := by
  cases kind <;> simp [ofJson?, toJson, unit?]

/-- Tokens are read back if their doubles are finite. -/
theorem Token.list?_ofList_tokens (tokens : List Token) :
    (ofList toJson tokens).list? ofJson? = kept (tokens.flatMap doubles) tokens :=
  list?_ofList_kept fun t _ => t.ofJson?_toJson

namespace IndexBody

/-- The doubles of the body of an index. -/
def doubles (b : IndexBody) : List Double := b.tokens.flatMap Token.doubles

/-- The body of an index is read back if its doubles are finite. -/
theorem ofJson?_toJson (b : IndexBody) : ofJson? b.toJson = kept b.doubles b := by
  simp [ofJson?, toJson, members?_object, required, List.lookup_cons, DocumentKind.ofJson?_toJson,
    Token.list?_ofList_tokens, doubles]

end IndexBody

namespace AggregationBody

/-- The doubles of the body of an aggregation. -/
def doubles (b : AggregationBody) : List Double := b.tokens.flatMap Token.doubles

/-- The body of an aggregation is read back if its doubles are finite. -/
theorem ofJson?_toJson (b : AggregationBody) : ofJson? b.toJson = kept b.doubles b := by
  have dialect : nullable? uint32? (ofOption (fun n => ofNat n.toNat) b.dialect) =
      some b.dialect :=
    nullable?_ofOption (fun _ _ => ofNat_ne_null _) fun n _ => uint32?_ofNat n
  simp [ofJson?, toJson, members?_object, required, Json.optional, List.lookup_cons, text?,
    boolean?, Token.list?_ofList_tokens, dialect, doubles]

end AggregationBody

namespace Command

/-- The doubles of a command. -/
def doubles : Command → List Double
  | createIndex _ definition => definition.doubles
  | aggregate body => body.doubles
  | cursorRead _ _ _ => []

/-- A command is read back if its doubles are finite. -/
theorem ofJson?_toJson (c : Command) : ofJson? c.toJson = kept c.doubles c := by
  cases c with
  | createIndex index definition =>
    simp [ofJson?, toJson, variant, variant?, members?_object, required, List.lookup_cons, text?,
      IndexBody.ofJson?_toJson, doubles]
  | aggregate body =>
    simp [ofJson?, toJson, variant, variant?, AggregationBody.ofJson?_toJson, doubles]
  | cursorRead index cursor count =>
    have page (n : UInt64) : nullable? uint64? (ofNat n.toNat) = some (some n) := by
      rw [nullable?_of_ne (ofNat_ne_null _), uint64?_ofNat, Option.map_some]
    cases count <;>
      simp [ofJson?, toJson, variant, variant?, memberIf, members?_object, required, Json.optional,
        List.lookup_cons, text?, page, doubles]

end Command

/-- Commands and outputs that are handed on in serialized form are read back as they were if all
their doubles are finite, and are not read back at all if one is not. -/
theorem read_back_if_finite :
    (∀ c : Command, Command.ofJson? c.toJson =
      if ∀ d ∈ c.doubles, d.isFinite = true then some c else none) ∧
    ∀ o : Output, Output.ofJson? o.toJson =
      if ∀ d ∈ o.doubles, d.isFinite = true then some o else none :=
  ⟨Command.ofJson?_toJson, Output.ofJson?_toJson⟩

end SearchWire
