/-
Fixtures: YAML documents that hold whole tables.

A document has a list `tables` and may name a `dialect`. A table has a `name`, its `columns` with name and type, and
perhaps a `schema`, a `primary_key`, `foreign_keys` and `rows`; every row has one value for each column. A foreign key
refers to a table of its own schema unless it names another one.
-/
import TableGraph.Source.Memory
import TableGraph.Yaml.Decoder
import TableGraph.Yaml.Printer

namespace TableGraph

/-- a value of a document as a cell; a nested value is kept as its text -/
def Cell.ofYaml : Yaml → Cell
  | .null => .null
  | .bool b => .bool b
  | .integer n => if n < Int.pow 2 63 then .int (Int64.ofInt n) else .float (.ofInt n)
  | .float x => .float x
  | .string s => .text s
  | nested => .text nested.text

/-- a table as a document describes it; rows are still to be checked -/
structure FixtureTable where
  schema : Option String
  name : String
  columns : List DeclaredColumn
  primaryKey : List String
  references : List DeclaredReference
  rows : List (List Yaml)

/-- a document; without a dialect the default one is meant -/
structure Fixture where
  dialect : Option Dialect
  tables : List FixtureTable

namespace Fixture

open Yaml

/-- the dialects by the names that documents use -/
def dialectNames : List (String × Dialect) := [
  ("postgresql", .postgresql), ("mysql", .mysql), ("sqlite", .sqlite), ("h2", .h2), ("sqlserver", .sqlServer),
  ("oracle", .oracle), ("derby", .derby)]

/-- reads the name of a dialect -/
def dialectDecoder : Decoder Dialect := fun depth node => do
  match dialectNames.lookup (← Decoder.caseName depth node) with
  | some dialect => return dialect
  | none => failure

/-- reads a column -/
def columnDecoder : Decoder DeclaredColumn := fun depth node => do
  let fields ← Fields.decoder ["name", "type"] depth node
  return ⟨← fields.get "name" .text, ← fields.get "type" .text⟩

/-- reads a foreign key; `schema` is that of its own table -/
def referenceDecoder (schema : Option String) : Decoder DeclaredReference := fun depth node => do
  let fields ← Fields.decoder ["column", "references_schema", "references_table", "references_column"] depth node
  let column ← fields.get "column" .text
  let targetSchema ← fields.getD "references_schema" (.optional .text) none
  let targetTable ← fields.get "references_table" .text
  let targetColumn ← fields.get "references_column" .text
  return ⟨column, targetSchema <|> schema, targetTable, targetColumn⟩

/-- reads a table -/
def tableDecoder : Decoder FixtureTable := fun depth node => do
  let fields ← Fields.decoder ["schema", "name", "columns", "primary_key", "foreign_keys", "rows"] depth node
  let schema ← fields.getD "schema" (.optional .text) none
  let name ← fields.get "name" .text
  let columns ← fields.get "columns" (.list columnDecoder)
  let primaryKey ← fields.getD "primary_key" (.list .text) []
  let references ← fields.getD "foreign_keys" (.list (referenceDecoder schema)) []
  let rows ← fields.getD "rows" (.list (.list .any)) []
  return ⟨schema, name, columns, primaryKey, references, rows⟩

/-- reads a document -/
def decoder : Decoder Fixture := fun depth node => do
  let fields ← Fields.decoder ["dialect", "tables"] depth node
  let dialect ← fields.getD "dialect" (.optional dialectDecoder) none
  return ⟨dialect, ← fields.get "tables" (.list tableDecoder)⟩

end Fixture

namespace FixtureTable

/-- the name of the table -/
def tableName (table : FixtureTable) : TableName := ⟨table.schema, table.name⟩

/-- a row with as many values as there are columns -/
def row (table : FixtureTable) (values : List Yaml) (index : Nat) : Except FixtureError Row :=
  if values.length = table.columns.length then .ok (values.map Cell.ofYaml)
  else .error (.rowWidth table.tableName.qualified index values.length table.columns.length)

/-- the table with its rows, if each of them has the right width -/
def toStored (table : FixtureTable) : Except FixtureError StoredTable := do
  let rows ← table.rows.zipIdx.mapM fun (values, index) => table.row values index
  return ⟨table.tableName, table.columns, table.primaryKey, table.references, rows⟩

end FixtureTable

namespace Fixture

/-- the tables of a document as a source -/
def toMemory (fixture : Fixture) : Except FixtureError MemorySource := do
  return ⟨fixture.dialect.getD .postgresql, ← fixture.tables.mapM (·.toStored)⟩

end Fixture

/-- the tables of a fixture -/
def MemorySource.ofFixture (text : String) : Except FixtureError MemorySource :=
  match Yaml.decode? Fixture.decoder text with
  | some fixture => fixture.toMemory
  | none => .error .malformed

end TableGraph
