/-
What is known about a table before its rows are read: its key columns, its references to other tables and its
attributes, each with a type.
-/
import TableGraph.Schema.ColumnType
import TableGraph.Schema.TableName

namespace TableGraph

/-- what a column means for the graph -/
inductive ColumnRole where
  | primaryKey
  | foreignKey
  | attribute
  deriving DecidableEq, Repr

/-- a column with its meaning and its place in the table -/
structure Column where
  name : String
  type : ColumnType
  role : ColumnRole
  position : Nat
  deriving DecidableEq, Repr

/-- the place given to a key column that the table does not list: the largest word of 64 bits -/
def unknownPosition : Nat := Nat.pow 2 64 - 1

/-- a column whose values are looked up in a column of another table, named by its qualified name -/
structure Reference where
  column : String
  type : ColumnType
  targetColumn : String
  targetTable : String
  deriving DecidableEq, Repr

/-- a table as introspection finds it; `rowCount` is an estimate -/
structure TableDescription where
  source : TableName
  label : String
  primaryKeys : List Column
  references : List Reference
  attributes : List Column
  rowCount : Nat
  deriving DecidableEq, Repr

namespace TableDescription

/-- the names of the primary-key columns, in key order -/
def primaryKeyNames (table : TableDescription) : List String := table.primaryKeys.map (·.name)

/-- the names of the referencing columns, one per reference -/
def referenceNames (table : TableDescription) : List String := table.references.map (·.column)

/-- whether a column is part of the primary key -/
def isPrimaryKey (table : TableDescription) (column : String) : Bool := table.primaryKeyNames.contains column

/-- whether a column refers to another table -/
def isReference (table : TableDescription) (column : String) : Bool := table.referenceNames.contains column

/-- whether the rows of the table only link rows of two others: two references and a primary key of two columns -/
def isJunction (table : TableDescription) : Bool :=
  table.references.length == 2 && table.primaryKeys.length == 2

end TableDescription

end TableGraph
