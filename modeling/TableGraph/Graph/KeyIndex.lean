/-
Looking up vertices by the key of one of their properties. The index is a hash table over table, column and key; it holds
the pairs of table and column that were asked for when it was made, and nothing of any other pair.
-/
import Std.Data.HashMap
import TableGraph.Graph.Basic

namespace TableGraph

/-- the identifiers of vertices by label, by the name of a property and by the key of its value -/
structure KeyIndex (ι : Type) where
  buckets : Std.HashMap (String × String × String) (List ι)

namespace KeyIndex

variable {ι : Type}

/-- no vertices -/
def empty : KeyIndex ι := ⟨∅⟩

/-- the identifiers of the vertices of a table whose column has a key, in the order of the vertices -/
def lookup (index : KeyIndex ι) (table column key : String) : List ι := index.buckets.getD (table, column, key) []

/-- puts a vertex in front of those with the same key in a column, if it has a value there -/
def addColumn (vertex : Vertex ι) (column : String) (index : KeyIndex ι) : KeyIndex ι :=
  match vertex.properties.get? column with
  | none => index
  | some value =>
    ⟨index.buckets.insert (vertex.label, column, value.key)
      (vertex.id :: index.lookup vertex.label column value.key)⟩

/-- the columns asked for of a table, each one once -/
def columnsOf (wanted : List (String × String)) (table : String) : List String :=
  ((wanted.filter fun pair => pair.1 == table).map (·.2)).eraseDups

/-- puts a vertex in front of those with the same keys -/
def addVertex (wanted : List (String × String)) (vertex : Vertex ι) (index : KeyIndex ι) : KeyIndex ι :=
  (columnsOf wanted vertex.label).foldr (addColumn vertex) index

/-- the index of vertices on pairs of table and column -/
def ofVertices (vertices : List (Vertex ι)) (wanted : List (String × String)) : KeyIndex ι :=
  vertices.foldr (addVertex wanted) empty

end KeyIndex

end TableGraph
