/-
Names of tables. Two tables are the same when their qualified names are; an empty schema counts as none.
-/

namespace TableGraph

/-- the name of a table, possibly within a schema -/
structure TableName where
  schema : Option String
  name : String
  deriving DecidableEq, Repr

namespace TableName

/-- the schema, unless it is empty -/
def schema? (table : TableName) : Option String := table.schema.filter (· ≠ "")

/-- schema and name joined by a point, or the name alone; the label of what comes from the table -/
def qualified (table : TableName) : String :=
  match table.schema? with
  | some schema => schema ++ "." ++ table.name
  | none => table.name

end TableName

end TableGraph
