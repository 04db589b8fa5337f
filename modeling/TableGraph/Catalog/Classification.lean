/-
Which tables become vertices and which become edges. The rows of a junction table link the rows of two tables, in both
directions; the rows of any other table become vertices, and each of its references links them to the rows they refer to.
-/
import TableGraph.Schema.Description

namespace TableGraph

/-- links from the rows of a table to the rows that one of its columns refers to -/
structure DirectRule where
  startTable : String
  endTable : String
  column : String
  targetColumn : String
  deriving DecidableEq, Repr

/-- one side of a junction: the table and column that a column of the junction refers to -/
structure Endpoint where
  table : String
  column : String
  type : ColumnType
  targetColumn : String
  deriving DecidableEq, Repr

/-- links between the rows that the two sides of a junction row refer to, in both directions -/
structure JunctionRule where
  source : TableName
  label : String
  one : Endpoint
  two : Endpoint
  attributes : List Column
  rowCount : Nat
  deriving DecidableEq, Repr

/-- where links come from -/
inductive EdgeRule where
  | direct (rule : DirectRule)
  | junction (rule : JunctionRule)
  deriving DecidableEq, Repr

namespace EdgeRule

/-- the label of the links: the table whose rows give rise to them -/
def label : EdgeRule → String
  | .direct rule => rule.startTable
  | .junction rule => rule.label

/-- whether links have a direction of their own -/
def isDirected : EdgeRule → Bool
  | .direct _ => true
  | .junction _ => false

/-- the name of the join that a direct rule needs -/
def joinLabel? : EdgeRule → Option String
  | .direct rule => some (rule.startTable ++ "#" ++ rule.column)
  | .junction _ => none

/-- the junction of a rule, if it is one -/
def junction? : EdgeRule → Option JunctionRule
  | .direct _ => none
  | .junction rule => some rule

end EdgeRule

namespace TableDescription

/-- a reference as a side of a junction -/
def endpoint (reference : Reference) : Endpoint :=
  ⟨reference.targetTable, reference.column, reference.type, reference.targetColumn⟩

/-- a reference as a rule of its own -/
def directRule (table : TableDescription) (reference : Reference) : EdgeRule :=
  .direct ⟨table.label, reference.targetTable, reference.column, reference.targetColumn⟩

/-- the rules that a table gives rise to -/
def edgeRules (table : TableDescription) : List EdgeRule :=
  match table.isJunction, table.references with
  | true, [one, two] =>
    [.junction ⟨table.source, table.label, endpoint one, endpoint two, table.attributes, table.rowCount⟩]
  | _, references => references.map table.directRule

end TableDescription

/-- the tables whose rows become vertices, and the rules for edges -/
structure Classification where
  vertexTables : List TableDescription
  edgeRules : List EdgeRule
  deriving DecidableEq, Repr

/-- sorts tables into vertices and edges, in their order -/
def classify (tables : List TableDescription) : Classification where
  vertexTables := tables.filter fun table => !table.isJunction
  edgeRules := tables.flatMap (·.edgeRules)

namespace Classification

/-- the junctions, in order -/
def junctions (c : Classification) : List JunctionRule := c.edgeRules.filterMap (·.junction?)

/-- the vertex table of a label, the last one if there are several -/
def vertexTable? (tables : List TableDescription) (label : String) : Option TableDescription :=
  tables.reverse.find? fun table => table.label == label

end Classification

end TableGraph
