/-
Introspection: reading the metadata of every table of a source and describing each table by its key columns, its
references and its attributes.

An attribute is a column of a supported type that no key names. A key column that the source does not list keeps an
unknown type and place. A failing call ends introspection, except that a failing row count only leaves the count at zero.
-/
import TableGraph.Catalog.Notice
import TableGraph.Schema.Description

namespace TableGraph

/-- what a source says about a table -/
structure Metadata where
  primaryKeys : List String
  references : List DeclaredReference
  columns : List DeclaredColumn
  deriving DecidableEq, Repr

namespace Metadata

/-- asks a source about a table: primary key, then references, then columns -/
def read (source : Source) (table : TableName) : Except ConversionError Metadata := do
  let label := table.qualified
  let primaryKeys ← (source.primaryKeys table).mapError (.introspection (.primaryKeys label))
  let references ← (source.references table).mapError (.introspection (.references label))
  let columns ← (source.columns table).mapError (.introspection (.columns label))
  return ⟨primaryKeys, references, columns⟩

/-- the place and type name of a column, of the last one of its name -/
def find? (m : Metadata) (name : String) : Option (Nat × String) :=
  ((m.columns.zipIdx.filter fun entry => entry.1.name == name).getLast?).map fun entry =>
    (entry.2, entry.1.typeName)

/-- the place and type of a key column -/
def keyColumn (m : Metadata) (name : String) : Nat × ColumnType :=
  match m.find? name with
  | some (position, typeName) => (position, .ofName typeName)
  | none => (unknownPosition, .other "unknown")

/-- whether a primary key or a reference names a column -/
def isKey (m : Metadata) (name : String) : Bool :=
  m.primaryKeys.contains name || m.references.any fun reference => reference.column == name

/-- the columns that are no keys, with their places -/
def otherColumns (m : Metadata) : List (DeclaredColumn × Nat) :=
  m.columns.zipIdx.filter fun entry => !m.isKey entry.1.name

/-- the attributes: the columns of supported types that are no keys -/
def attributes (m : Metadata) : List Column :=
  m.otherColumns.filterMap fun (column, position) =>
    let type := ColumnType.ofName column.typeName
    if type.isSupported then some ⟨column.name, type, .attribute, position⟩ else none

/-- the table that the metadata describes -/
def describe (m : Metadata) (table : TableName) (rowCount : Nat) : TableDescription where
  source := table
  label := table.qualified
  primaryKeys := m.primaryKeys.map fun name => ⟨name, (m.keyColumn name).2, .primaryKey, (m.keyColumn name).1⟩
  references := m.references.map fun reference =>
    ⟨reference.column, (m.keyColumn reference.column).2, reference.targetColumn, reference.target⟩
  attributes := m.attributes
  rowCount := rowCount

/-- a notice for each key that names no column, and for each column whose type is not supported -/
def notices (m : Metadata) (label : String) : List Notice :=
  let missing := (m.primaryKeys ++ m.references.map (·.column)).filter fun name => (m.find? name).isNone
  let unsupported := m.otherColumns.filter fun entry => !(ColumnType.ofName entry.1.typeName).isSupported
  missing.map (Notice.keyColumnMissing label ·) ++
    unsupported.map fun entry => Notice.unsupportedColumn label entry.1.name entry.1.typeName

end Metadata

namespace Source

/-- about how many rows a table has; zero, with a notice, if the source cannot tell -/
def estimatedRows (source : Source) (table : TableName) : Noted Nat :=
  match source.rowCount table with
  | .ok count => pure count
  | .error cause => ⟨[.rowCountUnknown table.qualified cause], 0⟩

/-- describes a table -/
def describe (source : Source) (table : TableName) : Noted (Except ConversionError TableDescription) :=
  match Metadata.read source table with
  | .error cause => pure (.error cause)
  | .ok metadata => do
    Noted.tell (metadata.notices table.qualified)
    let rowCount ← source.estimatedRows table
    return .ok (metadata.describe table rowCount)

/-- describes tables in order, up to the first failure -/
def describeAll (source : Source) : List TableName → Noted (Except ConversionError (List TableDescription))
  | [] => pure (.ok [])
  | table :: rest => do
    match ← source.describe table with
    | .error cause => return .error cause
    | .ok description => return (← source.describeAll rest).map (description :: ·)

/-- describes every table of a source -/
def introspect (source : Source) : Noted (Except ConversionError (List TableDescription)) :=
  match source.tables with
  | .error cause => pure (.error (.introspection .tables cause))
  | .ok tables => source.describeAll tables

end Source

end TableGraph
