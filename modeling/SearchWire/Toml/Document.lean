import SearchWire.Double.Basic

/-!
# Documents of a configuration file

A TOML document is a table of named items. How a table came about decides who may add to it: a
table opened by a header is complete, one implied by a longer header may still be opened once, one
made by a dotted key takes further dotted keys, and one written between braces takes nothing. The
two functions on paths follow these rules, and no name is ever given twice.
-/
namespace SearchWire.Toml

/-- How a table came about. -/
inductive Origin where
  /-- It was opened by its own header. -/
  | header
  /-- A header named a table inside it. -/
  | implied
  /-- A dotted key named an item inside it. -/
  | dotted
  /-- It was written between braces. -/
  | inline
deriving DecidableEq

/-- A value, a table, or the tables of a list opened by repeated headers. -/
inductive Item where
  | text (s : String)
  | integer (n : Int64)
  | float (d : Double)
  | boolean (b : Bool)
  /-- A date or a time or both. -/
  | moment
  | list (items : List Item)
  | table (origin : Origin) (entries : List (String × Item))
  | tables (elements : List (List (String × Item)))

/-- Named items in the order of their appearance. -/
abbrev Entries := List (String × Item)

/-- The entries with another item under a name that is there. -/
def replace (entries : Entries) (name : String) (item : Item) : Entries :=
  entries.map fun entry => if entry.1 = name then (name, item) else entry

/-- The entries with a further item under a new name. -/
def add? (entries : Entries) (name : String) (item : Item) : Option Entries :=
  if (entries.lookup name).isSome then none else some (entries ++ [(name, item)])

/-- Put an item under a dotted key: a path of tables and a name. Tables made by dotted keys are
entered, tables implied by headers and lists of tables are passed through but take no item of
their own. -/
def put? (name : String) (item : Item) : List String → Entries → Option Entries
  | [], entries => add? entries name item
  | first :: rest, entries =>
    match entries.lookup first with
    | none => do
      let inner ← put? name item rest []
      return entries ++ [(first, .table .dotted inner)]
    | some (.table .dotted inner) => do
      let inner ← put? name item rest inner
      return replace entries first (.table .dotted inner)
    | some (.table .implied inner) =>
      if rest = [] then none
      else do
        let inner ← put? name item rest inner
        return replace entries first (.table .implied inner)
    | some (.tables elements) =>
      if rest = [] then none
      else do
        let inner ← put? name item rest (← elements.getLast?)
        return replace entries first (.tables (elements.dropLast ++ [inner]))
    | some _ => none

/-- Change the table at the path of a header, opening the tables on the way that are missing, and
hand on what the change gives. Of a list of tables the last one is entered. -/
def within? {α : Type} (change : Entries → Option (α × Entries)) :
    List String → Entries → Option (α × Entries)
  | [], entries => change entries
  | first :: rest, entries =>
    match entries.lookup first with
    | none => do
      let (result, inner) ← within? change rest []
      return (result, entries ++ [(first, .table .implied inner)])
    | some (.table .inline _) => none
    | some (.table origin inner) => do
      let (result, inner) ← within? change rest inner
      return (result, replace entries first (.table origin inner))
    | some (.tables elements) => do
      let (result, inner) ← within? change rest (← elements.getLast?)
      return (result, replace entries first (.tables (elements.dropLast ++ [inner])))
    | some _ => none

/-- What the lines below a header go into. -/
inductive Target where
  /-- The document itself. -/
  | root
  /-- The table of a header. -/
  | table (path : List String) (name : String)
  /-- A new table at the end of a list. -/
  | element (path : List String) (name : String)

/-- A document while it is read: the finished part, the open table and its place. -/
structure Draft where
  /-- The finished part. -/
  finished : Entries
  /-- The entries of the open table. -/
  current : Entries
  /-- The place of the open table. -/
  target : Target

namespace Draft

/-- The draft before the first line. -/
def empty : Draft := ⟨[], [], .root⟩

/-- Put the open table into its place. -/
def close? (d : Draft) : Option Entries :=
  match d.target with
  | .root => some d.current
  | .table path name =>
    (within? (fun entries => (add? entries name (.table .header d.current)).map (((), ·)))
      path d.finished).map Prod.snd
  | .element path name =>
    (within? (fun entries =>
        match entries.lookup name with
        | some (.tables elements) =>
          some ((), replace entries name (.tables (elements ++ [d.current])))
        | some _ => none
        | none => some ((), entries ++ [(name, .tables [d.current])]))
      path d.finished).map Prod.snd

/-- Open the table of a header: a new one, or one that was only implied so far. -/
def openTable? (d : Draft) (path : List String) (name : String) : Option Draft := do
  let (current, finished) ← within? (fun entries =>
      match entries.lookup name with
      | none => some (([] : Entries), entries)
      | some (.table .implied inner) => some (inner, entries.filter (·.1 != name))
      | some _ => none)
    path (← d.close?)
  return ⟨finished, current, .table path name⟩

/-- Open a new table at the end of a list. -/
def openElement? (d : Draft) (path : List String) (name : String) : Option Draft := do
  let (_, finished) ← within? (fun entries =>
      match entries.lookup name with
      | none => some ((), entries ++ [(name, .tables [])])
      | some (.tables _) => some ((), entries)
      | some _ => none)
    path (← d.close?)
  return ⟨finished, [], .element path name⟩

/-- Put an item under a dotted key of the open table. -/
def put? (d : Draft) (path : List String) (name : String) (item : Item) : Option Draft := do
  let current ← Toml.put? name item path d.current
  return { d with current := current }

end Draft

end SearchWire.Toml
