/-
Renaming identifiers. No stage of a conversion looks at an identifier: with identifiers from another stream the same
vertices and edges come out at the same places, under the other identifiers, and the report is the same.

Results:
- `partners_rename`: the partners of a value among renamed vertices.
- `buildEdges_rename`: the edges between renamed vertices, and their counts.
- `convert_rename`: a conversion with renamed identifiers.
-/
import TableGraph.Proofs.MemoryRuns
import TableGraph.Proofs.NestedLoops

namespace TableGraph

variable {ι κ μ : Type}

/-! ## Renaming what has identifiers -/

/-- the vertex under another identifier -/
def Vertex.rename (f : ι → κ) (vertex : Vertex ι) : Vertex κ := ⟨f vertex.id, vertex.label, vertex.properties⟩

/-- the link between other identifiers -/
def Link.rename (f : ι → κ) (link : Link ι) : Link κ := ⟨link.label, f link.source, f link.target, link.properties⟩

/-- the edge under another identifier and between other identifiers -/
def Edge.rename (f : ι → κ) (edge : Edge ι) : Edge κ :=
  ⟨f edge.id, edge.label, f edge.source, f edge.target, edge.properties⟩

namespace Graph

/-- the graph with every identifier replaced -/
def rename (f : ι → κ) (graph : Graph ι) : Graph κ :=
  ⟨graph.vertices.map (·.rename f), graph.edges.map (·.rename f)⟩

/-- the identifiers of the vertices, then those of the edges -/
def identifiers (graph : Graph ι) : List ι := graph.vertices.map (·.id) ++ graph.edges.map (·.id)

theorem rename_rename (f : ι → κ) (g : κ → μ) (graph : Graph ι) : (graph.rename f).rename g = graph.rename (g ∘ f) := by
  simp only [rename, List.map_map]
  rfl

@[simp] theorem identifiers_rename (f : ι → κ) (graph : Graph ι) :
    (graph.rename f).identifiers = graph.identifiers.map f := by
  simp only [identifiers, rename, List.map_append, List.map_map]
  rfl

end Graph

/-! ## Vertices -/

theorem identify_rename (f : ι → κ) (ids : Nat → ι) (start : Nat) (items : List Labelled) :
    identify (f ∘ ids) start items = (identify ids start items).map (·.rename f) := by
  refine List.ext_getElem? fun k => ?_
  simp only [identify, List.getElem?_mapIdx, List.getElem?_map, Option.map_map]
  rfl

theorem buildVertices_rename (f : ι → κ) (ids : Nat → ι) (tables : List TableDescription) (loaded : List LoadedTable) :
    buildVertices (f ∘ ids) tables loaded = (buildVertices ids tables loaded).map (·.rename f) :=
  identify_rename f ids 0 _

/-! ## Nested loops -/

section NestedLoops

variable (f : ι → κ) (vertices : List (Vertex ι))

/-- **The partners of a value among renamed vertices** are its partners, renamed -/
theorem partners_rename (table column : String) (value : Option Value) :
    partners (vertices.map (·.rename f)) table column value = (partners vertices table column value).map f := by
  rw [partners, partners, List.filter_map, List.map_map, List.map_map]
  rfl

theorem Endpoint.partners_rename (endpoint : Endpoint) (row : PropertyBag) :
    endpoint.partners (vertices.map (·.rename f)) row = (endpoint.partners vertices row).map f :=
  TableGraph.partners_rename f vertices _ _ _

theorem linksBetween_rename (rule : JunctionRule) (row : PropertyBag) (ones twos : List ι) :
    rule.linksBetween row (ones.map f) (twos.map f) = (rule.linksBetween row ones twos).map (·.rename f) := by
  unfold JunctionRule.linksBetween
  simp only [List.flatMap_map, List.map_flatMap]
  rfl

theorem nestedLoops_rename (rule : EdgeRule) (junctions : List LoadedTable) :
    rule.nestedLoops (vertices.map (·.rename f)) junctions = (rule.nestedLoops vertices junctions).map (·.rename f) := by
  cases rule with
  | direct rule =>
    simp only [EdgeRule.nestedLoops, DirectRule.nestedLoops, List.filter_map, List.flatMap_map, List.map_flatMap,
      partners_rename, DirectRule.linksFrom, List.map_map]
    rfl
  | junction rule =>
    simp only [EdgeRule.nestedLoops, JunctionRule.nestedLoops, Endpoint.partners_rename, linksBetween_rename,
      List.map_flatMap]

theorem danglingCount_rename (rule : EdgeRule) (junctions : List LoadedTable) :
    rule.danglingCount (vertices.map (·.rename f)) junctions = rule.danglingCount vertices junctions := by
  cases rule with
  | direct rule =>
    simp only [EdgeRule.danglingCount, DirectRule.danglingCount, List.filter_map, List.countP_map, partners_rename,
      Function.comp_def, List.isEmpty_map]
    rfl
  | junction rule =>
    simp only [EdgeRule.danglingCount, JunctionRule.danglingCount, Endpoint.partners_rename, List.isEmpty_map]

end NestedLoops

/-! ## Edges and graphs -/

theorem identifyLinks_rename (f : ι → κ) (ids : Nat → ι) (start : Nat) (links : List (Link ι)) :
    identifyLinks (f ∘ ids) start (links.map (·.rename f)) = (identifyLinks ids start links).map (·.rename f) := by
  refine List.ext_getElem? fun k => ?_
  simp only [identifyLinks, List.getElem?_mapIdx, List.getElem?_map, Option.map_map]
  rfl

/-- **Edges between renamed vertices** are the renamed edges, and all counts stay -/
theorem buildEdges_rename (f : ι → κ) (ids : Nat → ι) (start : Nat) (vertices : List (Vertex ι)) (rules : List EdgeRule)
    (junctions : List LoadedTable) :
    let set := buildEdges ids start vertices rules junctions
    buildEdges (f ∘ ids) start (vertices.map (·.rename f)) rules junctions =
      ⟨set.edges.map (·.rename f), set.directEdges, set.junctionEdges, set.danglingReferences⟩ := by
  simp only [buildEdges_eq, nestedLoops_rename, danglingCount_rename, ← List.map_flatMap, identifyLinks_rename,
    List.length_map]

theorem assemble_rename (f : ι → κ) (ids : Nat → ι) (tables : List TableDescription) (results : LoadedTables) :
    assemble (f ∘ ids) tables results =
      ((assemble ids tables results).1.rename f, (assemble ids tables results).2) := by
  simp only [assemble, buildVertices_rename, List.length_map, buildEdges_rename, Graph.rename, List.map_map]
  rfl

/-- **A conversion with renamed identifiers** gives the renamed graph and the same report, or fails in the same way -/
theorem convert_rename (f : ι → κ) (source : Source) (options : RetrievalOptions) (ids : Nat → ι) :
    (convert source options (f ∘ ids)).value =
      (convert source options ids).value.map fun result => (result.1.rename f, result.2) := by
  rw [convert_value, convert_value]
  cases source.introspect.value with
  | error cause => rfl
  | ok tables => exact congrArg Except.ok (assemble_rename f ids tables _)

end TableGraph
