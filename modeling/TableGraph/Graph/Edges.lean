/-
Edges from references: a value in a referencing column is joined with the vertices whose referenced column has the same
key. Several matches give several edges; a reference that matches nothing is counted as dangling.

A junction row is joined on both of its sides. Every match of the one side with every match of the other gives two edges,
one in each direction, with the remaining values of the row.
-/
import TableGraph.Graph.KeyIndex
import TableGraph.Graph.Vertices

namespace TableGraph

/-- an edge that has no identifier yet -/
structure Link (ι : Type) where
  label : String
  source : ι
  target : ι
  properties : PropertyBag
  deriving DecidableEq, Repr

/-- what a row with complete references leads to -/
inductive JoinOutcome (ι : Type) where
  | links (found : List (Link ι))
  | dangling
  deriving DecidableEq, Repr

namespace JoinOutcome

variable {ι : Type}

/-- the links of an outcome -/
def toLinks : JoinOutcome ι → List (Link ι)
  | .links found => found
  | .dangling => []

/-- whether a reference matched nothing -/
def isDangling : JoinOutcome ι → Bool
  | .links _ => false
  | .dangling => true

end JoinOutcome

variable {ι : Type}

namespace DirectRule

/-- the links from a vertex to the matches of its reference -/
def linksFrom (rule : DirectRule) (source : ι) (targets : List ι) : List (Link ι) :=
  targets.map fun target => ⟨rule.startTable, source, target, .empty⟩

/-- joins a vertex with the vertices that it refers to, if it has a reference -/
def joinVertex (rule : DirectRule) (index : KeyIndex ι) (vertex : Vertex ι) : Option (JoinOutcome ι) :=
  (vertex.properties.get? rule.column).map fun value =>
    match index.lookup rule.endTable rule.targetColumn value.key with
    | [] => .dangling
    | targets => .links (rule.linksFrom vertex.id targets)

/-- joins every vertex of the start table -/
def join (rule : DirectRule) (index : KeyIndex ι) (vertices : List (Vertex ι)) : List (JoinOutcome ι) :=
  (vertices.filter fun vertex => vertex.label == rule.startTable).filterMap (rule.joinVertex index)

end DirectRule

/-- the vertices that a key of one side of a junction refers to -/
def Endpoint.matches (endpoint : Endpoint) (index : KeyIndex ι) (key : Value) : List ι :=
  index.lookup endpoint.table endpoint.targetColumn key.key

namespace JunctionRule

/-- the values of a row that are not part of its references -/
def extraProperties (rule : JunctionRule) (row : PropertyBag) : PropertyBag :=
  row.filterNames fun name => name != rule.one.column && name != rule.two.column

/-- a link in each direction -/
def linkPair (label : String) (properties : PropertyBag) (one two : ι) : List (Link ι) :=
  [⟨label, one, two, properties⟩, ⟨label, two, one, properties⟩]

/-- the links between all of `ones` and all of `twos` -/
def linksBetween (rule : JunctionRule) (row : PropertyBag) (ones twos : List ι) : List (Link ι) :=
  ones.flatMap fun one => twos.flatMap fun two => linkPair rule.label (rule.extraProperties row) one two

/-- joins a row on both sides, if it has both references -/
def joinRow (rule : JunctionRule) (index : KeyIndex ι) (row : PropertyBag) : Option (JoinOutcome ι) :=
  match row.get? rule.one.column, row.get? rule.two.column with
  | some one, some two =>
    match rule.one.matches index one, rule.two.matches index two with
    | [], _ => some .dangling
    | _, [] => some .dangling
    | ones, twos => some (.links (rule.linksBetween row ones twos))
  | _, _ => none

/-- joins every row of the junction table, of the first one of its label; a table that was not loaded has no rows -/
def join (rule : JunctionRule) (index : KeyIndex ι) (junctions : List LoadedTable) : List (JoinOutcome ι) :=
  match junctions.find? fun table => table.label == rule.label with
  | some table => table.rows.filterMap (rule.joinRow index)
  | none => []

end JunctionRule

namespace EdgeRule

/-- the pairs of table and column in which a rule looks up vertices -/
def lookups : EdgeRule → List (String × String)
  | .direct rule => [(rule.endTable, rule.targetColumn)]
  | .junction rule => [(rule.one.table, rule.one.targetColumn), (rule.two.table, rule.two.targetColumn)]

/-- the joins that a rule asks for -/
def join (rule : EdgeRule) (index : KeyIndex ι) (vertices : List (Vertex ι)) (junctions : List LoadedTable) :
    List (JoinOutcome ι) :=
  match rule with
  | .direct rule => rule.join index vertices
  | .junction rule => rule.join index junctions

end EdgeRule

/-- edges, and how they came about -/
structure EdgeSet (ι : Type) where
  edges : List (Edge ι)
  directEdges : Nat
  junctionEdges : Nat
  /-- how many references matched no vertex -/
  danglingReferences : Nat
  deriving DecidableEq, Repr

/-- gives identifiers to links, from a place in a stream on -/
def identifyLinks (ids : Nat → ι) (start : Nat) (links : List (Link ι)) : List (Edge ι) :=
  links.mapIdx fun k link => ⟨ids (start + k), link.label, link.source, link.target, link.properties⟩

/-- the joins of all rules, in order, each with its rule -/
def joinAll (vertices : List (Vertex ι)) (rules : List EdgeRule) (junctions : List LoadedTable) :
    List (EdgeRule × List (JoinOutcome ι)) :=
  let index := KeyIndex.ofVertices vertices (rules.flatMap (·.lookups))
  rules.map fun rule => (rule, rule.join index vertices junctions)

/-- the links in the joins of some rules -/
def linksOf (joins : List (EdgeRule × List (JoinOutcome ι))) : List (Link ι) :=
  joins.flatMap fun entry => entry.2.flatMap (·.toLinks)

/-- the edges that the rules ask for; identifiers are drawn from `start` on -/
def buildEdges (ids : Nat → ι) (start : Nat) (vertices : List (Vertex ι)) (rules : List EdgeRule)
    (junctions : List LoadedTable) : EdgeSet ι :=
  let joins := joinAll vertices rules junctions
  { edges := identifyLinks ids start (linksOf joins)
    directEdges := (linksOf (joins.filter fun entry => entry.1.isDirected)).length
    junctionEdges := (linksOf (joins.filter fun entry => !entry.1.isDirected)).length
    danglingReferences := (joins.flatMap (·.2)).countP (·.isDangling) }

end TableGraph
