/-
Retrieval plans: for every table which columns are fetched, what they are, how the rows are ordered and in which ranges
they are fetched.

Of a vertex table the key columns come first, then the other referencing columns, then the attributes; of a junction
table the columns of its two sides, then the attributes. Ranges need an order: by the primary key, or for a vertex table
without one by every column that can be ordered.
-/
import TableGraph.Catalog.Classification
import TableGraph.Retrieval.Header
import TableGraph.Retrieval.Partition

namespace TableGraph

/-- what the rows of a table become -/
inductive TableKind where
  | vertex
  | junction
  deriving DecidableEq, Repr

/-- how the rows of a table are fetched; without ranges, all at once -/
structure RetrievalPlan where
  label : String
  kind : TableKind
  header : Header
  query : TableQuery
  ranges : List RowRange
  deriving DecidableEq, Repr

/-- how many fetches run side by side, and how many rows one fetch handles before a table is divided -/
structure RetrievalOptions where
  parallelism : Nat := 4
  fetchSize : Nat := 10000
  deriving DecidableEq, Repr

namespace RetrievalPlan

/-- the texts of all queries of a plan -/
def statements (plan : RetrievalPlan) : List String :=
  if plan.ranges.isEmpty then [plan.query.sql none] else plan.ranges.map fun range => plan.query.sql (some range)

end RetrievalPlan

namespace RetrievalOptions

/-- the ranges for a table of this size -/
def rangesFor (options : RetrievalOptions) (rowCount : Nat) : List RowRange :=
  partitionRanges rowCount options.parallelism options.fetchSize

end RetrievalOptions

/-- the cells fetched from a vertex table -/
def TableDescription.header (table : TableDescription) : Header :=
  let keys := Header.empty.pushColumns .primaryKey table.primaryKeys
  (table.references.foldl Header.pushReference keys).pushColumns .attribute table.attributes

/-- the columns that order the rows of a vertex table -/
def TableDescription.ordering (table : TableDescription) : List String :=
  if table.primaryKeys.isEmpty then table.header.orderableNames else table.primaryKeyNames

/-- how the rows of a vertex table are fetched -/
def TableDescription.plan (table : TableDescription) (dialect : Dialect) (options : RetrievalOptions) :
    RetrievalPlan where
  label := table.label
  kind := .vertex
  header := table.header
  query := ⟨table.source, table.header.names, table.ordering, dialect⟩
  ranges := if table.ordering.isEmpty then [] else options.rangesFor table.rowCount

/-- the cells fetched from a junction table -/
def JunctionRule.header (rule : JunctionRule) : Header :=
  let sides := (Header.empty.push rule.one.column .foreignKey rule.one.type).push rule.two.column .foreignKey rule.two.type
  sides.pushColumns .attribute rule.attributes

/-- how the rows of a junction table are fetched -/
def JunctionRule.plan (rule : JunctionRule) (dialect : Dialect) (options : RetrievalOptions) : RetrievalPlan where
  label := rule.label
  kind := .junction
  header := rule.header
  query := ⟨rule.source, rule.header.names, [rule.one.column, rule.two.column], dialect⟩
  ranges := options.rangesFor rule.rowCount

/-- the plans of all tables: vertex tables in order, then junction tables in order -/
def Classification.plans (c : Classification) (dialect : Dialect) (options : RetrievalOptions) : List RetrievalPlan :=
  c.vertexTables.map (·.plan dialect options) ++ c.junctions.map (·.plan dialect options)

end TableGraph
