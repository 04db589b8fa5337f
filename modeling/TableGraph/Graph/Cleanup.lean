/-
Removing keys: once edges are joined they say what the key columns said, so vertices keep neither the columns of the
primary key and of references nor the reserved identifier.
-/
import TableGraph.Graph.Vertices

namespace TableGraph

/-- the names of all key columns of a table -/
def TableDescription.keyNames (table : TableDescription) : List String := table.primaryKeyNames ++ table.referenceNames

/-- whether a property of a vertex stays, given the key columns of its table -/
def isKept (keyNames : List String) (name : String) : Bool := name != keyIdentifier && !keyNames.contains name

/-- the key columns of the vertex table of a label; none if there is no such table -/
def keyNamesOf (tables : List TableDescription) (label : String) : List String :=
  ((Classification.vertexTable? tables label).map (·.keyNames)).getD []

/-- the vertex without its keys -/
def Vertex.withoutKeys {ι : Type} (vertex : Vertex ι) (tables : List TableDescription) : Vertex ι :=
  { vertex with properties := vertex.properties.filterNames (isKept (keyNamesOf tables vertex.label)) }

end TableGraph
