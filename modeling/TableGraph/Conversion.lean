/-
Conversion of a source into a graph, with a report of what was done.

Introspection comes first and ends the run if it fails. Then every table is loaded; a table that cannot be loaded is left
out, with a notice. Edges are joined when all tables are loaded.
-/
import TableGraph.Catalog.Introspection
import TableGraph.Graph.Cleanup
import TableGraph.Graph.Edges

namespace TableGraph

/-- what a conversion has done -/
structure Report where
  tablesIntrospected : Nat
  vertexTables : Nat
  junctionTables : Nat
  /-- the tables that could not be loaded -/
  failedTables : List String
  vertices : Nat
  directEdges : Nat
  junctionEdges : Nat
  danglingReferences : Nat
  skippedFields : Nat
  deriving DecidableEq, Repr

namespace Report

/-- the report in JSON -/
def toJson (report : Report) : Json :=
  .object [("tables_introspected", .whole report.tablesIntrospected), ("vertex_tables", .whole report.vertexTables),
    ("junction_tables", .whole report.junctionTables),
    ("failed_tables", .array (report.failedTables.map .string)), ("vertices", .whole report.vertices),
    ("direct_edges", .whole report.directEdges), ("junction_edges", .whole report.junctionEdges),
    ("dangling_references", .whole report.danglingReferences), ("skipped_fields", .whole report.skippedFields)]

end Report

/-- the tables that were loaded, and those that were not, with the reason -/
structure LoadedTables where
  loaded : List LoadedTable
  failed : List (String × SourceError)
  deriving DecidableEq, Repr

namespace LoadedTables

/-- the result of one plan before those of the others -/
def add (plan : RetrievalPlan) (result : Except SourceError LoadedTable) (rest : LoadedTables) : LoadedTables :=
  match result with
  | .ok table => { rest with loaded := table :: rest.loaded }
  | .error cause => { rest with failed := (plan.label, cause) :: rest.failed }

/-- the names of the tables that could not be loaded -/
def failedNames (tables : LoadedTables) : List String := tables.failed.map (·.1)

/-- how many fields of the loaded tables were left out -/
def skippedFields (tables : LoadedTables) : Nat :=
  tables.loaded.foldr (fun table count => table.skippedFields + count) 0

/-- a notice for every table that could not be loaded -/
def skipNotices (tables : LoadedTables) : List Notice :=
  tables.failed.map fun (name, cause) => .tableSkipped name cause

/-- a notice that names all tables that could not be loaded, if there are any -/
def summaryNotices (tables : LoadedTables) : List Notice :=
  if tables.failed.isEmpty then [] else [.tablesLeftOut tables.failedNames]

end LoadedTables

/-- runs plans in order, whether or not they succeed -/
def loadPlans (source : Source) : List RetrievalPlan → Noted LoadedTables
  | [] => pure ⟨[], []⟩
  | plan :: rest => do
    let result ← plan.load source
    return (← loadPlans source rest).add plan result

/-- the graph of what was loaded, and the report -/
def assemble {ι : Type} (ids : Nat → ι) (tables : List TableDescription) (results : LoadedTables) : Graph ι × Report :=
  let classes := classify tables
  let vertices := buildVertices ids classes.vertexTables results.loaded
  let edges := buildEdges ids vertices.length vertices classes.edgeRules (loadedOf .junction results.loaded)
  (⟨vertices.map (·.withoutKeys classes.vertexTables), edges.edges⟩,
    { tablesIntrospected := tables.length
      vertexTables := classes.vertexTables.length
      junctionTables := classes.junctions.length
      failedTables := results.failedNames
      vertices := vertices.length
      directEdges := edges.directEdges
      junctionEdges := edges.junctionEdges
      danglingReferences := edges.danglingReferences
      skippedFields := results.skippedFields })

/-- converts the tables of a source into a graph; identifiers are drawn from a stream -/
def convert {ι : Type} (source : Source) (options : RetrievalOptions) (ids : Nat → ι) :
    Noted (Except ConversionError (Graph ι × Report)) := do
  match ← source.introspect with
  | .error cause => return .error cause
  | .ok tables =>
    let results ← loadPlans source ((classify tables).plans source.dialect options)
    Noted.tell (results.skipNotices ++ results.summaryNotices)
    return .ok (assemble ids tables results)

end TableGraph
