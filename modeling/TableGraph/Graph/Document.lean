/-
Graphs as JSON documents.

An object has the fields `vertices` and `edges`, both lists. A vertex has an identifier, a label and properties; an edge
also has a source and a target.
-/
import TableGraph.Graph.Basic
import TableGraph.Json.Printer

namespace TableGraph

variable {ι : Type}

/-- a vertex in JSON; `name` gives the text of an identifier -/
def Vertex.toJson (name : ι → String) (vertex : Vertex ι) : Json :=
  .object [("id", .string (name vertex.id)), ("label", .string vertex.label), ("properties", vertex.properties.toJson)]

/-- an edge in JSON -/
def Edge.toJson (name : ι → String) (edge : Edge ι) : Json :=
  .object [("id", .string (name edge.id)), ("label", .string edge.label), ("source", .string (name edge.source)),
    ("target", .string (name edge.target)), ("properties", edge.properties.toJson)]

namespace Graph

/-- a graph in JSON -/
def toJson (name : ι → String) (graph : Graph ι) : Json :=
  .object [("vertices", .array (graph.vertices.map (·.toJson name))), ("edges", .array (graph.edges.map (·.toJson name)))]

/-- the text of a graph, compact or over several lines, with a line end -/
def text (name : ι → String) (pretty : Bool) (graph : Graph ι) : List Char :=
  let document := graph.toJson name
  (if pretty then document.pretty 0 else document.compact) ++ ['\n']

end Graph

end TableGraph
