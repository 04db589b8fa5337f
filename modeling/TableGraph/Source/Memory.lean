/-
Tables held in memory, and the source they make up. Rows keep the order in which they are stored, which stands in for
every other order; a row may be shorter than the list of columns, and the cells it lacks are null.
-/
import TableGraph.Source.Basic

namespace TableGraph

/-- a table with its rows -/
structure StoredTable where
  name : TableName
  columns : List DeclaredColumn
  primaryKey : List String
  references : List DeclaredReference
  rows : List Row
  deriving Repr

namespace StoredTable

/-- the place of a column, the first one of its name -/
def columnIndex? (table : StoredTable) (column : String) : Option Nat :=
  table.columns.findIdx? fun declared => declared.name == column

/-- the places of the columns of a query -/
def columnIndices (table : StoredTable) (query : TableQuery) (range : Option RowRange) :
    Except SourceError (List Nat) :=
  query.columns.mapM fun column =>
    match table.columnIndex? column with
    | some index => .ok index
    | none => .error (.query (query.sql range) ("column \x60" ++ column ++ "\x60 does not exist"))

/-- the cells of a row at these places -/
def cellsAt (row : Row) (indices : List Nat) : Row := indices.map fun index => (row[index]?).getD .null

end StoredTable

/-- the part of a list that a range selects -/
def RowRange.select {α : Type} (range : RowRange) (rows : List α) : List α :=
  match range.limit with
  | some limit => (rows.drop range.offset).take limit
  | none => rows.drop range.offset

/-- tables held in memory -/
structure MemorySource where
  dialect : Dialect
  tables : List StoredTable
  deriving Repr

namespace MemorySource

/-- no tables, in the default dialect -/
def empty : MemorySource := ⟨.postgresql, []⟩

/-- adds a table at the end -/
def add (store : MemorySource) (table : StoredTable) : MemorySource :=
  { store with tables := store.tables ++ [table] }

/-- the first table of a qualified name -/
def find (store : MemorySource) (name : TableName) : Except SourceError StoredTable :=
  match store.tables.find? fun table => table.name.qualified == name.qualified with
  | some table => .ok table
  | none => .error (.unknownTable name.qualified)

/-- runs a query on the stored rows -/
def run (store : MemorySource) (query : TableQuery) (range : Option RowRange) : Except SourceError (List Row) := do
  let table ← store.find query.source
  let indices ← table.columnIndices query range
  let rows := match range with
    | some range => range.select table.rows
    | none => table.rows
  return rows.map fun row => StoredTable.cellsAt row indices

/-- the tables as a source that never fails for a table it holds -/
def toSource (store : MemorySource) : Source where
  dialect := store.dialect
  tables := .ok (store.tables.map (·.name))
  primaryKeys := fun name => (store.find name).map (·.primaryKey)
  references := fun name => (store.find name).map (·.references)
  columns := fun name => (store.find name).map (·.columns)
  rowCount := fun name => (store.find name).map (·.rows.length)
  rows := store.run

end MemorySource

end TableGraph
