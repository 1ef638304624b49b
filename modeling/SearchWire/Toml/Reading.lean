import SearchWire.Toml.Lexical

/-!
# Reading a configuration file

A document is read line by line: a header opens a table, any other line that is not blank puts a
value under a key of the open table. Lists and tables in braces nest to a fixed depth.
-/
namespace SearchWire.Toml

/-- Lists and tables may not be nested this deep, and keys may not have this many names. -/
def depthLimit : Nat := 80

/-- The path and the last name of a key. -/
def splitKey? (names : List String) : Option (List String × String) :=
  names.getLast?.map (names.dropLast, ·)

mutual

/-- A value. The first number bounds the steps, the second is the depth that remains. -/
def value? : Nat → Nat → List Char → Option (Item × List Char)
  | 0, _, _ => none
  | steps + 1, depth, text =>
    match text with
    | '"' :: _ | '\'' :: _ => (quoted? text).map fun (s, rest) => (.text s, rest)
    | '[' :: rest =>
      match depth with
      | 0 => none
      | depth + 1 => listItems? steps depth [] rest
    | '\x7b' :: rest =>
      match depth with
      | 0 => none
      | depth + 1 =>
        match skipSpace rest with
        | '\x7d' :: rest => some (.table .inline [], rest)
        | rest => inlineEntries? steps depth [] rest
    | 't' :: 'r' :: 'u' :: 'e' :: rest => some (.boolean true, rest)
    | 'f' :: 'a' :: 'l' :: 's' :: 'e' :: rest => some (.boolean false, rest)
    | _ => (moment? text).orElse fun _ => number? text

/-- The items of a list from one item on; a comma may follow the last one. -/
def listItems? : Nat → Nat → List Item → List Char → Option (Item × List Char)
  | 0, _, _, _ => none
  | steps + 1, depth, before, text => do
    match ← skipLines? false text with
    | ']' :: rest => return (.list before.reverse, rest)
    | text =>
      let (item, rest) ← value? steps depth text
      match ← skipLines? false rest with
      | ',' :: rest => listItems? steps depth (item :: before) rest
      | ']' :: rest => return (.list (item :: before).reverse, rest)
      | _ => none

/-- The entries of a table in braces from one entry on. -/
def inlineEntries? : Nat → Nat → Entries → List Char → Option (Item × List Char)
  | 0, _, _, _ => none
  | steps + 1, depth, before, text => do
    let (names, rest) ← key? (depthLimit - 1) text
    let (path, name) ← splitKey? names
    let (item, rest) ← value? steps depth (skipSpace (← skip? '=' rest))
    let entries ← put? name item path before
    match skipSpace rest with
    | ',' :: rest => inlineEntries? steps depth entries rest
    | '\x7d' :: rest => return (.table .inline entries, rest)
    | _ => none

end

/-- Read the lines of a document into a draft. The number bounds the lines. -/
def lines? : Nat → Draft → List Char → Option Draft
  | 0, _, _ => none
  | bound + 1, draft, text =>
    match skipSpace text with
    | [] => some draft
    | '#' :: comment => do lines? bound draft (← restOfLine? ('#' :: comment))
    | '[' :: '[' :: rest => do
      let (names, rest) ← key? (depthLimit - 1) rest
      let (path, name) ← splitKey? names
      let rest ← restOfLine? (← skip? ']' (← skip? ']' rest))
      lines? bound (← draft.openElement? path name) rest
    | '[' :: rest => do
      let (names, rest) ← key? (depthLimit - 1) rest
      let (path, name) ← splitKey? names
      let rest ← restOfLine? (← skip? ']' rest)
      lines? bound (← draft.openTable? path name) rest
    | text =>
      match newline? text with
      | some rest => lines? bound draft rest
      | none => do
        let (names, rest) ← key? (depthLimit - 1) text
        let (path, name) ← splitKey? names
        let afterMark := skipSpace (← skip? '=' rest)
        let (item, rest) ← value? (2 * text.length + 2) (depthLimit - 1) afterMark
        lines? bound (← draft.put? path name item) (← restOfLine? rest)

/-- The entries of a document, if the text is one. A byte order mark in front is skipped. -/
def document? (text : String) : Option Entries :=
  let body :=
    match text.toList with
    | '\uFEFF' :: rest => rest
    | chars => chars
  (lines? (body.length + 1) .empty body).bind Draft.close?

end SearchWire.Toml
