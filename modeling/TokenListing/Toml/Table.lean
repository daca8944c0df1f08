import TokenListing.Binary64

/-! # Tables of a TOML document

A table maps keys to values in the order in which they were defined. It remembers how each of its
inner tables came about, because a table may be opened by one header only, and dotted keys may
add only to tables that dotted keys have made. Every definition that goes against these rules is
refused.
-/
namespace TokenListing.Toml

inductive Origin where
  /-- A header names the table. -/
  | header
  /-- The table lies on the way to one that a header names. -/
  | implied
  /-- The table lies on the way to a value that a dotted key names. -/
  | dotted
  deriving DecidableEq, Repr

/-- A value of a document. An inline table is complete as it stands; the other tables may grow. -/
inductive Value where
  | string (text : String)
  | integer (value : Int)
  | float (value : Binary64)
  | boolean (value : Bool)
  | dateTime (spelling : String)
  | array (elements : List Value)
  | inlineTable (entries : List (String × Value))
  | table (origin : Origin) (entries : List (String × Value))
  /-- A list of tables, each opened by a header of its own. -/
  | rows (tables : List (List (String × Value)))
  deriving Inhabited

abbrev Table := List (String × Value)

namespace Table

def replace (key : String) (value : Value) (table : Table) : Table :=
  table.map fun entry => if entry.1 = key then (key, value) else entry

/-- Changes the last table of a list. -/
def onLastRow (change : Table → Option Table) (tables : List Table) : Option (List Table) := do
  let last ← tables.getLast?
  let changed ← change last
  return tables.dropLast ++ [changed]

def define : List String → Value → Table → Option Table
  | [], _, _ => none
  | [key], value, table =>
    if (table.lookup key).isSome then none else some (table ++ [(key, value)])
  | key :: next :: path, value, table =>
    match table.lookup key with
    | none => do
      let inner ← define (next :: path) value []
      return table ++ [(key, .table .dotted inner)]
    | some (.table origin inner) =>
      if origin = .header ∨ (path.isEmpty ∧ origin ≠ .dotted) then none
      else do
        let inner ← define (next :: path) value inner
        return table.replace key (.table origin inner)
    | some (.rows tables) =>
      if path.isEmpty then none
      else do
        let tables ← onLastRow (define (next :: path) value) tables
        return table.replace key (.rows tables)
    | some _ => none

def openTable : List String → Table → Option Table
  | [], _ => none
  | [key], table =>
    match table.lookup key with
    | none => some (table ++ [(key, .table .header [])])
    | some (.table .implied inner) => some (table.replace key (.table .header inner))
    | some _ => none
  | key :: next :: path, table =>
    match table.lookup key with
    | none => do
      let inner ← openTable (next :: path) []
      return table ++ [(key, .table .implied inner)]
    | some (.table origin inner) => do
      let inner ← openTable (next :: path) inner
      return table.replace key (.table origin inner)
    | some (.rows tables) => do
      let tables ← onLastRow (openTable (next :: path)) tables
      return table.replace key (.rows tables)
    | some _ => none

def openRow : List String → Table → Option Table
  | [], _ => none
  | [key], table =>
    match table.lookup key with
    | none => some (table ++ [(key, .rows [[]])])
    | some (.rows tables) => some (table.replace key (.rows (tables ++ [[]])))
    | some _ => none
  | key :: next :: path, table =>
    match table.lookup key with
    | none => do
      let inner ← openRow (next :: path) []
      return table ++ [(key, .table .implied inner)]
    | some (.table origin inner) => do
      let inner ← openRow (next :: path) inner
      return table.replace key (.table origin inner)
    | some (.rows tables) => do
      let tables ← onLastRow (openRow (next :: path)) tables
      return table.replace key (.rows tables)
    | some _ => none

/-- Changes the table that an earlier header has opened. -/
def within : List String → (Table → Option Table) → Table → Option Table
  | [], change, table => change table
  | key :: path, change, table =>
    match table.lookup key with
    | some (.table origin inner) => do
      let inner ← within path change inner
      return table.replace key (.table origin inner)
    | some (.rows tables) => do
      let tables ← onLastRow (within path change) tables
      return table.replace key (.rows tables)
    | _ => none

end Table

inductive Statement where
  | define (path : List String) (value : Value)
  | openTable (path : List String)
  | openRow (path : List String)

/-- The root table as far as it is defined, and the path of the table that was opened last. -/
structure Definitions where
  root : Table := []
  opened : List String := []

def Definitions.step (definitions : Definitions) : Statement → Option Definitions
  | .define path value => do
    let root ← definitions.root.within definitions.opened (Table.define path value)
    return { definitions with root }
  | .openTable path => do
    let root ← definitions.root.openTable path
    return { root, opened := path }
  | .openRow path => do
    let root ← definitions.root.openRow path
    return { root, opened := path }

def Table.ofStatements (statements : List Statement) : Option Table := do
  let definitions ← statements.foldlM Definitions.step {}
  return definitions.root

end TokenListing.Toml
