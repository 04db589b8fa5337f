/-
Graphs hold together. A conversion draws one identifier for each vertex and then one for each edge, and whatever the source
answers, edges run between vertices of the graph; those of references run from vertices with the label of the edge.

Links take the identifiers of vertices from the key index, and the vertices that are indexed become the vertices of the
graph: what is removed from them in the end are properties only.

Results:
- `identifiers_assemble`: the identifiers of a graph are those that are drawn, each once and in order.
- `EdgeRule.between_vertices`: the links of a rule run between vertices.
- `wellFormed_assemble`: a graph whose identifiers are distinct is well-formed.
- `DirectRule.from_own_table`: the links of a reference start in a vertex of their label.
- `convert_graph_wellFormed`: the graph of a conversion is well-formed.
Witness:
- `wellFormed_of_twins`: two tables of one name, which refer to it and of which all rows have the same key.
-/
import TableGraph.Proofs.Renaming

namespace TableGraph

variable {ι : Type}

/-- whether identifiers are distinct and edges run between vertices, each of which is the only one of its identifier -/
structure Graph.WellFormed (graph : Graph ι) : Prop where
  identifiers : graph.identifiers.Nodup
  source : ∀ edge ∈ graph.edges, ∃! vertex, vertex ∈ graph.vertices ∧ vertex.id = edge.source
  target : ∀ edge ∈ graph.edges, ∃! vertex, vertex ∈ graph.vertices ∧ vertex.id = edge.target

/-! ## Which identifiers are drawn -/

theorem ids_identify (ids : Nat → ι) (start : Nat) (items : List Labelled) :
    (identify ids start items).map (·.id) = (List.range items.length).map fun k => ids (start + k) := by
  refine List.ext_getElem (by simp [identify]) fun k _ _ => ?_
  simp [identify]

theorem ids_identifyLinks (ids : Nat → ι) (start : Nat) (links : List (Link ι)) :
    (identifyLinks ids start links).map (·.id) = (List.range links.length).map fun k => ids (start + k) := by
  refine List.ext_getElem (by simp [identifyLinks]) fun k _ _ => ?_
  simp [identifyLinks]

/-- **The identifiers of a graph are those that are drawn**, each once and in order: first for the vertices, then for the
edges -/
theorem identifiers_assemble (ids : Nat → ι) (tables : List TableDescription) (results : LoadedTables) :
    let graph := (assemble ids tables results).1
    graph.identifiers = (List.range graph.identifiers.length).map ids := by
  intro graph
  set vertices := buildVertices ids (classify tables).vertexTables results.loaded with hbuilt
  set edges := (buildEdges ids vertices.length vertices (classify tables).edgeRules
    (loadedOf .junction results.loaded)).edges with hjoined
  have hvertices : graph.vertices.map (·.id) = (List.range vertices.length).map ids := by
    have hkept : graph.vertices.map (·.id) = vertices.map (·.id) := List.map_map
    have hlength : vertices.length = ((loadedOf .vertex results.loaded).flatMap fun table =>
        table.labelled (keysOf (classify tables).vertexTables table.label)).length := List.length_mapIdx
    rw [hkept, hlength, hbuilt, buildVertices, ids_identify]
    simp only [Nat.zero_add]
  have hedges : graph.edges.map (·.id) = (List.range edges.length).map fun k => ids (vertices.length + k) := by
    have hlength : edges.length = (linksOf (joinAll vertices (classify tables).edgeRules
        (loadedOf .junction results.loaded))).length := List.length_mapIdx
    rw [hlength]
    exact ids_identifyLinks ids vertices.length _
  have hcount : graph.identifiers.length = vertices.length + edges.length := by
    have hvertexCount := congrArg List.length hvertices
    have hedgeCount := congrArg List.length hedges
    simp only [List.length_map, List.length_range] at hvertexCount hedgeCount
    simp [Graph.identifiers, hvertexCount, hedgeCount]
  rw [hcount, List.range_add, List.map_append, List.map_map, Graph.identifiers, hvertices, hedges]
  rfl

theorem nodup_map_range {ids : Nat → ι} {count : Nat} :
    ((List.range count).map ids).Nodup ↔ Set.InjOn ids (Set.Iio count) := by
  constructor
  · intro h a ha b hb heq
    exact List.inj_on_of_nodup_map h (List.mem_range.mpr ha) (List.mem_range.mpr hb) heq
  · intro h
    exact List.nodup_range.map_on fun a ha b hb heq => h (List.mem_range.mp ha) (List.mem_range.mp hb) heq

/-- whether no identifier of a stream is drawn twice in a conversion, which draws one for each vertex and then one for each
edge; a stream stands for the answers of a generator, in the order in which it is asked -/
def Source.DrawsDistinct (source : Source) (options : RetrievalOptions) (ids : Nat → ι) : Prop :=
  ∀ graph report, (convert source options ids).value = .ok (graph, report) →
    Set.InjOn ids (Set.Iio graph.identifiers.length)

/-- a stream that never repeats an identifier does not do so in any conversion -/
theorem Source.drawsDistinct_of_injective (source : Source) (options : RetrievalOptions) {ids : Nat → ι}
    (h : ids.Injective) : source.DrawsDistinct options ids :=
  fun _ _ _ => h.injOn

/-! ## What a conversion assembles -/

/-- a graph that is converted is assembled from descriptions of tables and from what is loaded of them -/
theorem exists_assemble_of_convert {source : Source} {options : RetrievalOptions} {ids : Nat → ι} {graph : Graph ι}
    {report : Report} (h : (convert source options ids).value = .ok (graph, report)) :
    ∃ tables, source.introspect.value = .ok tables ∧
      assemble ids tables (loadPlans source (source.plans options)).value = (graph, report) := by
  rw [convert_value] at h
  cases htables : source.introspect.value with
  | error cause => simp [htables, Except.map] at h
  | ok tables =>
    rw [htables] at h
    exact ⟨tables, rfl, Except.ok.inj h⟩

theorem Graph.nodup_identifiers {source : Source} {options : RetrievalOptions} {ids : Nat → ι}
    (hids : source.DrawsDistinct options ids) {graph : Graph ι} {report : Report}
    (h : (convert source options ids).value = .ok (graph, report)) : graph.identifiers.Nodup := by
  obtain ⟨tables, -, hgraph⟩ := exists_assemble_of_convert h
  have hdrawn := identifiers_assemble ids tables (loadPlans source (source.plans options)).value
  rw [hgraph] at hdrawn
  rw [hdrawn, nodup_map_range]
  exact hids graph report h

/-- the vertices of a graph are those between which edges are joined, without their keys -/
theorem vertices_of_assemble (ids : Nat → ι) (tables : List TableDescription) (results : LoadedTables) :
    (assemble ids tables results).1.vertices = (buildVertices ids (classify tables).vertexTables results.loaded).map
      (·.withoutKeys (classify tables).vertexTables) := rfl

/-- the edges of a graph, without their identifiers, are the nested loops of the rules -/
theorem links_assemble (ids : Nat → ι) (tables : List TableDescription) (results : LoadedTables) :
    (assemble ids tables results).1.edges.map (·.link) = (classify tables).edgeRules.flatMap fun rule =>
      rule.nestedLoops (buildVertices ids (classify tables).vertexTables results.loaded)
        (loadedOf .junction results.loaded) := by
  rw [← linksOf_joinAll]
  exact links_identifyLinks ids _ _

/-- the ends of the edges of a graph, by nested loops -/
theorem ends_assemble (ids : Nat → ι) (tables : List TableDescription) (results : LoadedTables) :
    (assemble ids tables results).1.edges.map (fun edge => (edge.source, edge.target)) =
      ((classify tables).edgeRules.flatMap fun rule =>
        rule.nestedLoops (buildVertices ids (classify tables).vertexTables results.loaded)
          (loadedOf .junction results.loaded)).map fun link => (link.source, link.target) := by
  rw [← links_assemble, List.map_map]
  rfl

/-! ## Where links run -/

/-- whether a link runs between two of some vertices -/
def Link.Between (link : Link ι) (vertices : List (Vertex ι)) : Prop :=
  link.source ∈ vertices.map (·.id) ∧ link.target ∈ vertices.map (·.id)

theorem partners_subset (vertices : List (Vertex ι)) (table column : String) (value : Option Value) :
    partners vertices table column value ⊆ vertices.map (·.id) := by
  intro id hid
  obtain ⟨vertex, hvertex, rfl⟩ := List.mem_map.mp hid
  exact List.mem_map_of_mem (List.mem_of_mem_filter hvertex)

/-- a link of a direct rule starts in a vertex that has the label of the link, and ends in a partner of this vertex -/
theorem DirectRule.mem_nestedLoops {rule : DirectRule} {vertices : List (Vertex ι)} {link : Link ι} :
    link ∈ rule.nestedLoops vertices ↔ ∃ vertex ∈ vertices, vertex.label = rule.startTable ∧
      ∃ target ∈ partners vertices rule.endTable rule.targetColumn (vertex.properties.get? rule.column),
        ⟨rule.startTable, vertex.id, target, .empty⟩ = link := by
  simp only [nestedLoops, linksFrom, List.mem_flatMap, List.mem_filter, List.mem_map, beq_iff_eq, and_assoc]

/-- a link of a junction runs between a partner of one side of a row and a partner of the other, in either direction -/
theorem JunctionRule.mem_nestedLoops {rule : JunctionRule} {vertices : List (Vertex ι)} {rows : List PropertyBag}
    {link : Link ι} :
    link ∈ rule.nestedLoops vertices rows ↔ ∃ row ∈ rows, ∃ one ∈ rule.one.partners vertices row,
      ∃ two ∈ rule.two.partners vertices row, link ∈ linkPair rule.label (rule.extraProperties row) one two := by
  simp only [nestedLoops, linksBetween, List.mem_flatMap]

/-- **The links of a rule run between vertices** -/
theorem EdgeRule.between_vertices {rule : EdgeRule} {vertices : List (Vertex ι)} {junctions : List LoadedTable}
    {link : Link ι} (h : link ∈ rule.nestedLoops vertices junctions) : link.Between vertices := by
  cases rule with
  | direct rule =>
    obtain ⟨vertex, hvertex, -, target, htarget, rfl⟩ := DirectRule.mem_nestedLoops.mp h
    exact ⟨List.mem_map_of_mem hvertex, partners_subset _ _ _ _ htarget⟩
  | junction rule =>
    obtain ⟨row, -, one, hone, two, htwo, hlink⟩ := JunctionRule.mem_nestedLoops.mp h
    have hone := partners_subset _ _ _ _ hone
    have htwo := partners_subset _ _ _ _ htwo
    rcases List.mem_pair.mp hlink with rfl | rfl
    · exact ⟨hone, htwo⟩
    · exact ⟨htwo, hone⟩

/-- **The links of a reference start in a vertex of their label** -/
theorem DirectRule.from_own_table {rule : DirectRule} {vertices : List (Vertex ι)} {link : Link ι}
    (h : link ∈ rule.nestedLoops vertices) : ∃ vertex ∈ vertices, vertex.id = link.source ∧ vertex.label = link.label := by
  obtain ⟨vertex, hvertex, hlabel, target, -, rfl⟩ := mem_nestedLoops.mp h
  exact ⟨vertex, hvertex, rfl, hlabel⟩

/-- **A graph of distinct identifiers is well-formed**: its edges run between its vertices -/
theorem wellFormed_assemble {ids : Nat → ι} {tables : List TableDescription} {results : LoadedTables}
    (hnodup : (assemble ids tables results).1.identifiers.Nodup) : (assemble ids tables results).1.WellFormed := by
  set graph := (assemble ids tables results).1
  set vertices := buildVertices ids (classify tables).vertexTables results.loaded
  -- cleanup changes no identifiers
  have hkept : graph.vertices.map (·.id) = vertices.map (·.id) := List.map_map
  have hunique : ∀ id ∈ vertices.map (·.id), ∃! vertex, vertex ∈ graph.vertices ∧ vertex.id = id := by
    intro id hid
    rw [← hkept] at hid
    obtain ⟨vertex, hvertex, rfl⟩ := List.mem_map.mp hid
    refine ⟨vertex, ⟨hvertex, rfl⟩, fun other hother => ?_⟩
    exact List.inj_on_of_nodup_map (List.nodup_append.mp hnodup).1 hother.1 hvertex hother.2
  have hbetween : ∀ edge ∈ graph.edges, edge.link.Between vertices := by
    intro edge hedge
    have hlink := List.mem_map_of_mem hedge (f := (·.link))
    rw [links_assemble] at hlink
    obtain ⟨rule, -, hlink⟩ := List.mem_flatMap.mp hlink
    exact EdgeRule.between_vertices hlink
  refine ⟨hnodup, fun edge hedge => ?_, fun edge hedge => ?_⟩
  · exact hunique _ (hbetween edge hedge).1
  · exact hunique _ (hbetween edge hedge).2

theorem Graph.wellFormed_of_convert {source : Source} {options : RetrievalOptions} {ids : Nat → ι}
    (hids : source.DrawsDistinct options ids) {graph : Graph ι} {report : Report}
    (h : (convert source options ids).value = .ok (graph, report)) : graph.WellFormed := by
  have hnodup := Graph.nodup_identifiers hids h
  obtain ⟨tables, -, hgraph⟩ := exists_assemble_of_convert h
  obtain rfl : (assemble ids tables (loadPlans source (source.plans options)).value).1 = graph := congrArg (·.1) hgraph
  exact wellFormed_assemble hnodup

/-! ## Links with their rules -/

/-- the links in some joins, each with the rule that it comes from -/
def ruledLinks (joins : List (EdgeRule × List (JoinOutcome ι))) : List (EdgeRule × Link ι) :=
  joins.flatMap fun entry => (entry.2.flatMap (·.toLinks)).map fun link => (entry.1, link)

theorem map_snd_ruledLinks (joins : List (EdgeRule × List (JoinOutcome ι))) :
    (ruledLinks joins).map (·.2) = linksOf joins := by
  simp [ruledLinks, linksOf, List.map_flatMap, Function.comp_def]

/-- the links of some joins that come from rules of a kind, counted -/
theorem countP_ruledLinks (keep : EdgeRule → Bool) (joins : List (EdgeRule × List (JoinOutcome ι))) :
    (ruledLinks joins).countP (fun entry => keep entry.1) = (linksOf (joins.filter fun entry => keep entry.1)).length := by
  induction joins with
  | nil => rfl
  | cons entry rest ih =>
    simp only [ruledLinks, linksOf, List.flatMap_cons, List.countP_append, List.countP_map] at ih ⊢
    rw [ih]
    cases hkeep : keep entry.1 with
    | true => simp [hkeep, Function.comp_def]
    | false => simp [hkeep, Function.comp_def]

/-- a link with its rule is one of the nested loops of this rule -/
theorem mem_ruledLinks_joinAll {vertices : List (Vertex ι)} {rules : List EdgeRule} {junctions : List LoadedTable}
    {entry : EdgeRule × Link ι} (h : entry ∈ ruledLinks (joinAll vertices rules junctions)) :
    entry.2 ∈ entry.1.nestedLoops vertices junctions := by
  obtain ⟨join, hjoin, hentry⟩ := List.mem_flatMap.mp h
  obtain ⟨rule, hrule, rfl⟩ := List.mem_map.mp hjoin
  obtain ⟨link, hlink, rfl⟩ := List.mem_map.mp hentry
  have hlookups : ∀ pair ∈ rule.lookups, pair ∈ rules.flatMap (·.lookups) :=
    fun pair hpair => List.mem_flatMap.mpr ⟨rule, hrule, hpair⟩
  rwa [EdgeRule.toLinks_join hlookups] at hlink

/-- the joins that a conversion carries out, each with its rule; none if introspection fails -/
def Source.joins (source : Source) (options : RetrievalOptions) (ids : Nat → ι) :
    List (EdgeRule × List (JoinOutcome ι)) :=
  match source.introspect.value with
  | .error _ => []
  | .ok tables =>
    let loaded := (loadPlans source (source.plans options)).value.loaded
    joinAll (buildVertices ids (classify tables).vertexTables loaded) (classify tables).edgeRules
      (loadedOf .junction loaded)

/-- **The graph of a conversion is well-formed.** Whatever a source answers, a conversion that draws no identifier twice
and does not fail gives a graph with distinct identifiers, whose edges run between vertices of the graph. The edges are the
links of its joins, in order, and each link of a direct rule starts in a vertex that has the label of the link; these are
the links that the report counts as direct. -/
theorem convert_graph_wellFormed (source : Source) (options : RetrievalOptions) (ids : Nat → ι)
    (hids : source.DrawsDistinct options ids) (graph : Graph ι) (report : Report)
    (h : (convert source options ids).value = .ok (graph, report)) :
    graph.WellFormed ∧
      graph.edges.map (·.link) = (ruledLinks (source.joins options ids)).map (·.2) ∧
      report.directEdges = (ruledLinks (source.joins options ids)).countP (·.1.isDirected) ∧
      ∀ entry ∈ ruledLinks (source.joins options ids), entry.1.isDirected = true →
        ∃ vertex ∈ graph.vertices, vertex.id = entry.2.source ∧ vertex.label = entry.2.label := by
  obtain ⟨tables, htables, hgraph⟩ := exists_assemble_of_convert h
  set loaded := (loadPlans source (source.plans options)).value.loaded
  set vertices := buildVertices ids (classify tables).vertexTables loaded
  have hjoins : source.joins options ids =
      joinAll vertices (classify tables).edgeRules (loadedOf .junction loaded) := by
    rw [Source.joins, htables]
  have hvertices : graph.vertices = vertices.map (·.withoutKeys (classify tables).vertexTables) :=
    congrArg (·.1.vertices) hgraph.symm
  refine ⟨Graph.wellFormed_of_convert hids h, ?_, ?_, ?_⟩
  · rw [map_snd_ruledLinks, hjoins]
    refine Eq.trans ?_ (links_identifyLinks ids vertices.length _)
    exact congrArg (·.1.edges.map (·.link)) hgraph.symm
  · rw [hjoins, countP_ruledLinks]
    exact congrArg (·.2.directEdges) hgraph.symm
  · rintro ⟨rule, link⟩ hentry hdirected
    rw [hjoins] at hentry
    cases rule with
    | junction rule => cases hdirected
    | direct rule =>
      -- the vertex is still there without its keys
      obtain ⟨vertex, hvertex, hid, hlabel⟩ := DirectRule.from_own_table (mem_ruledLinks_joinAll hentry)
      exact ⟨vertex.withoutKeys _, hvertices ▸ List.mem_map_of_mem hvertex, hid, hlabel⟩

/-- two tables that have one qualified name, so that both are described and loaded as the first of them; its row refers to
the row itself -/
def twins : MemorySource := ⟨.postgresql, [
  ⟨⟨some "staff", "old.person"⟩, [⟨"id", "integer"⟩, ⟨"boss", "integer"⟩], ["id"],
    [⟨"boss", some "staff", "old.person", "id"⟩], [[.int 1, .int 1]]⟩,
  ⟨⟨some "staff.old", "person"⟩, [⟨"name", "text"⟩], [], [], [[.text "Ada"], [.text "Bob"]]⟩]⟩

/-- **Twins give a well-formed graph**: both vertices have the same key, and each of them refers to both, once for each of
the two descriptions -/
theorem wellFormed_of_twins :
    twins.toSource.DrawsDistinct {} (id : Nat → Nat) ∧ ∃ (graph : Graph Nat) (report : Report),
      (convert twins.toSource {} id).value = .ok (graph, report) ∧ graph.WellFormed ∧
      graph.edges.map (fun edge => (edge.source, edge.target)) =
        [(0, 0), (0, 1), (1, 0), (1, 1), (0, 0), (0, 1), (1, 0), (1, 1)] := by
  have hids : twins.toSource.DrawsDistinct {} (id : Nat → Nat) :=
    twins.toSource.drawsDistinct_of_injective {} Function.injective_id
  have hrun := twins.convert_memory twins.dialect twins.toSource.rowCount twins.run {} (id : Nat → Nat)
  obtain ⟨hgraph, -⟩ := convert_graph_wellFormed _ _ _ hids _ _ hrun
  refine ⟨hids, _, _, hrun, hgraph, ?_⟩
  have hends := ends_assemble (id : Nat → Nat) (twins.descriptions fun _ => 0)
    (loadPlans twins.toSource (twins.toSource.plans {})).value
  refine hends.trans ?_
  decide +kernel

end TableGraph
