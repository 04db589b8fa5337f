/-
Vertices from rows: every row of a loaded vertex table becomes one vertex, with all values of the row and, if the row has
a complete primary key, with the key under a reserved name.

Identifiers are drawn from a stream, vertices first, one for each in order.
-/
import TableGraph.Graph.Basic
import TableGraph.Retrieval.Load

namespace TableGraph

/-- the reserved name under which a vertex holds its primary key until edges are joined -/
def keyIdentifier : String := "*#primary_key_identifier#*"

/-- the properties of the vertex of a row -/
def vertexProperties (keys : List String) (row : PropertyBag) : PropertyBag :=
  match row.compositeKey? keys with
  | some key => row.insert keyIdentifier (.string key)
  | none => row

/-- properties with a label: a vertex that has no identifier yet -/
structure Labelled where
  label : String
  properties : PropertyBag
  deriving DecidableEq, Repr

/-- what becomes the vertices of a table -/
def LoadedTable.labelled (table : LoadedTable) (keys : List String) : List Labelled :=
  table.rows.map fun row => ⟨table.label, vertexProperties keys row⟩

/-- gives identifiers to vertices, from a place in a stream on -/
def identify {ι : Type} (ids : Nat → ι) (start : Nat) (items : List Labelled) : List (Vertex ι) :=
  items.mapIdx fun k item => ⟨ids (start + k), item.label, item.properties⟩

/-- the primary key of the vertex table of a label -/
def keysOf (tables : List TableDescription) (label : String) : List String :=
  ((Classification.vertexTable? tables label).map (·.primaryKeyNames)).getD []

/-- the loaded tables of a kind -/
def loadedOf (kind : TableKind) (loaded : List LoadedTable) : List LoadedTable :=
  loaded.filter fun table => table.kind = kind

/-- the vertices of all loaded vertex tables, in order -/
def buildVertices {ι : Type} (ids : Nat → ι) (tables : List TableDescription) (loaded : List LoadedTable) :
    List (Vertex ι) :=
  identify ids 0 ((loadedOf .vertex loaded).flatMap fun table => table.labelled (keysOf tables table.label))

end TableGraph
