/-
Property graphs. Vertices and edges have a label and properties, and identifiers of any type: what a graph says does not
depend on how its parts are identified.
-/
import TableGraph.Value.Bag

namespace TableGraph

/-- a vertex; its label is the qualified name of the table that its row comes from -/
structure Vertex (ι : Type) where
  id : ι
  label : String
  properties : PropertyBag
  deriving DecidableEq, Repr

/-- an edge between two vertices, given by their identifiers -/
structure Edge (ι : Type) where
  id : ι
  label : String
  source : ι
  target : ι
  properties : PropertyBag
  deriving DecidableEq, Repr

/-- vertices and edges, in order -/
structure Graph (ι : Type) where
  vertices : List (Vertex ι)
  edges : List (Edge ι)
  deriving DecidableEq, Repr

namespace Graph

variable {ι : Type}

/-- the vertex with an identifier, the first one if there are several -/
def vertex? [BEq ι] (graph : Graph ι) (id : ι) : Option (Vertex ι) := graph.vertices.find? fun vertex => vertex.id == id

/-- the vertices of a label -/
def verticesOf (graph : Graph ι) (label : String) : List (Vertex ι) :=
  graph.vertices.filter fun vertex => vertex.label == label

/-- the edges of a label -/
def edgesOf (graph : Graph ι) (label : String) : List (Edge ι) := graph.edges.filter fun edge => edge.label == label

end Graph

end TableGraph
