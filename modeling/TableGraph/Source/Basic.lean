/-
Sources of tables. A source answers questions about its tables and runs queries for their rows; each answer may be a
failure instead.
-/
import TableGraph.Source.Cell
import TableGraph.Sql.Query

namespace TableGraph

/-- why a fixture cannot be used -/
inductive FixtureError where
  | unreadable (path : String)
  /-- the text does not have the form of a fixture -/
  | malformed
  | rowWidth (table : String) (row cells columns : Nat)
  deriving DecidableEq, Repr

/-- the wording of an error, without its details where the text has not the form of a fixture -/
def FixtureError.message : FixtureError → String
  | .unreadable path => "cannot read " ++ path
  | .malformed => "not a fixture document"
  | .rowWidth table row cells columns =>
    table ++ " row " ++ numeral row ++ " has " ++ numeral cells ++ " values, expected " ++ numeral columns

/-- why a source does not answer -/
inductive SourceError where
  | connection (reason : String)
  | metadata (table reason : String)
  | query (sql reason : String)
  | unknownTable (table : String)
  | fixture (cause : FixtureError)
  deriving DecidableEq, Repr

/-- the wording of a failure -/
def SourceError.message : SourceError → String
  | .connection reason => "Failed to connect to source database: " ++ reason
  | .metadata table reason => "Metadata query failed for " ++ table ++ ": " ++ reason
  | .query sql reason => "Query failed: " ++ sql ++ ": " ++ reason
  | .unknownTable table => "Unknown table \x60" ++ table ++ "\x60"
  | .fixture cause => "Failed to load fixture: " ++ cause.message

/-- a column as the source declares it, with the type name it uses -/
structure DeclaredColumn where
  name : String
  typeName : String
  deriving DecidableEq, Repr

/-- a foreign key as the source declares it -/
structure DeclaredReference where
  column : String
  targetSchema : Option String
  targetTable : String
  targetColumn : String
  deriving DecidableEq, Repr

/-- the qualified name of the table a foreign key refers to -/
def DeclaredReference.target (reference : DeclaredReference) : String :=
  TableName.qualified ⟨reference.targetSchema, reference.targetTable⟩

/-- a source of tables -/
structure Source where
  dialect : Dialect
  /-- the tables there are -/
  tables : Except SourceError (List TableName)
  /-- the names of the primary-key columns of a table, in key order -/
  primaryKeys : TableName → Except SourceError (List String)
  references : TableName → Except SourceError (List DeclaredReference)
  /-- the columns of a table, in order -/
  columns : TableName → Except SourceError (List DeclaredColumn)
  /-- about how many rows a table has -/
  rowCount : TableName → Except SourceError Nat
  /-- the rows that a query asks for, all of them or a range -/
  rows : TableQuery → Option RowRange → Except SourceError (List Row)

end TableGraph
