/-
The vertices of a conversion are exactly the rows of the vertex tables, with exactly their attributes: no row is lost or
made up, no value of an attribute is lost, and nothing remains of keys.

Until edges are joined, a vertex holds more than that: the values of the key columns, and the primary key under the
reserved name. `VertexRow.held` is what it holds then, `VertexRow.vertex` what is left in the end.

Results:
- `MemorySource.buildVertices_loadedTables`: the vertices before edges are joined, row by row.
- `MemorySource.withoutKeys_heldVertex`: what is left of a vertex without its keys.
- `convert_vertices_exact`: the vertices of the graph.
Witness:
- `vertices_of_travellers`: tables with a column of an unsupported type, a row that is too short, a primary key that is a
  reference, and a junction.
-/
import TableGraph.Proofs.StoredTables

namespace TableGraph

variable {ι : Type}

/-- a row of a vertex table, with the identifier of its vertex -/
structure VertexRow (ι : Type) where
  id : ι
  table : StoredTable
  cells : Row

namespace VertexRow

variable (row : VertexRow ι)

/-- the vertex of a row -/
def vertex : Vertex ι := ⟨row.id, row.table.label, row.table.attributes row.cells⟩

/-- what the vertex of a row holds until edges are joined -/
def held : PropertyBag :=
  vertexProperties row.table.primaryKey (row.table.valuesIn row.cells row.table.plan.header.names)

/-- the vertex of a row, with its keys -/
def heldVertex : Vertex ι := ⟨row.id, row.table.label, row.held⟩

end VertexRow

namespace MemorySource

variable (store : MemorySource)

/-- the rows of the vertex tables, in the order of the tables and of their rows; the identifiers are those of a stream, one
for each row -/
def vertexRows (ids : Nat → ι) : List (VertexRow ι) :=
  (store.vertexTables.flatMap fun table => table.rows.map fun cells => (table, cells)).mapIdx fun k (table, cells) =>
    ⟨ids k, table, cells⟩

variable {store}

theorem table_of_mem_vertexRows {ids : Nat → ι} {row : VertexRow ι} (h : row ∈ store.vertexRows ids) :
    row.table ∈ store.vertexTables := by
  obtain ⟨k, hk, rfl⟩ := List.mem_mapIdx.mp h
  obtain ⟨table, htable, hrow⟩ := List.mem_flatMap.mp (List.getElem_mem hk)
  obtain ⟨cells, -, heq⟩ := List.mem_map.mp hrow
  simpa [← heq] using htable

/-- a vertex row belongs to a well-formed table that is no junction -/
theorem wellFormed_of_mem_vertexRows (h : store.WellFormed) {ids : Nat → ι} {row : VertexRow ι}
    (hrow : row ∈ store.vertexRows ids) :
    row.table.WellFormed ∧ row.table.isJunction = false := by
  obtain ⟨hmem, hvertex⟩ := mem_vertexTables.mp (table_of_mem_vertexRows hrow)
  exact ⟨h.tables row.table hmem, hvertex⟩

/-! ## Vertices with their keys -/

/-- of what is loaded of the tables, each in the kind that its plan says, the tables of a kind are those of this kind -/
theorem loadedOf_planned (store : MemorySource) (load : StoredTable → Option LoadedTable)
    (hkind : ∀ table loaded, load table = some loaded → loaded.kind = table.plan.kind) :
    loadedOf .vertex (store.plannedTables.filterMap load) = store.vertexTables.filterMap load ∧
      loadedOf .junction (store.plannedTables.filterMap load) = store.junctionTables.filterMap load := by
  have hall {kind : TableKind} {tables : List StoredTable} (h : ∀ table ∈ tables, table.plan.kind = kind) :
      loadedOf kind (tables.filterMap load) = tables.filterMap load := by
    refine List.filter_eq_self.mpr fun loaded hloaded => ?_
    obtain ⟨table, htable, hload⟩ := List.mem_filterMap.mp hloaded
    simp [hkind table loaded hload, h table htable]
  have hnone {kind : TableKind} {tables : List StoredTable} (h : ∀ table ∈ tables, table.plan.kind ≠ kind) :
      loadedOf kind (tables.filterMap load) = [] := by
    refine List.filter_eq_nil_iff.mpr fun loaded hloaded => ?_
    obtain ⟨table, htable, hload⟩ := List.mem_filterMap.mp hloaded
    simp [hkind table loaded hload, h table htable]
  have hvertices : ∀ table ∈ store.vertexTables, table.plan.kind = .vertex := by
    intro table htable
    rw [StoredTable.plan_kind, (mem_vertexTables.mp htable).2]
    rfl
  have hjunctions : ∀ table ∈ store.junctionTables, table.plan.kind = .junction := by
    intro table htable
    rw [StoredTable.plan_kind, (mem_junctionTables.mp htable).2]
    rfl
  have hsplit (kind : TableKind) : loadedOf kind (store.plannedTables.filterMap load) =
      loadedOf kind (store.vertexTables.filterMap load) ++ loadedOf kind (store.junctionTables.filterMap load) := by
    rw [plannedTables, List.filterMap_append, loadedOf, List.filter_append]
    rfl
  constructor
  · rw [hsplit, hall hvertices, hnone fun table htable => by simp [hjunctions table htable], List.append_nil]
  · rw [hsplit, hall hjunctions, hnone fun table htable => by simp [hvertices table htable], List.nil_append]

/-- of the loaded tables, those of a kind are the tables that are of this kind -/
theorem loadedOf_loadedTables (store : MemorySource) :
    loadedOf .vertex store.loadedTables = store.vertexTables.map (fun table => table.loadedAs table.plan) ∧
      loadedOf .junction store.loadedTables = store.junctionTables.map fun table => table.loadedAs table.plan := by
  have hsorted := store.loadedOf_planned (fun table => some (table.loadedAs table.plan)) fun table loaded hload =>
    Option.some.inj hload ▸ rfl
  simp only [List.filterMap_eq_map'] at hsorted
  exact hsorted

/-- with distinct names, a label finds the description of its own vertex table -/
theorem vertexTable?_described (hnames : (store.tables.map (·.label)).Nodup) {table : StoredTable}
    (htable : table ∈ store.vertexTables) :
    Classification.vertexTable? (store.vertexTables.map (·.described)) table.label = some table.described := by
  have hlabels : ((store.vertexTables.map (·.described)).reverse.map (·.label)).Nodup := by
    rw [List.map_reverse, List.nodup_reverse, List.map_map]
    exact hnames.sublist (List.filter_sublist.map _)
  exact find?_of_nodup hlabels (List.mem_reverse.mpr (List.mem_map_of_mem htable))

/-- **The vertices before edges are joined**, row by row -/
theorem buildVertices_loadedTables (hnames : (store.tables.map (·.label)).Nodup) (ids : Nat → ι) :
    buildVertices ids (store.vertexTables.map (·.described)) store.loadedTables =
      (store.vertexRows ids).map (·.heldVertex) := by
  have hlabelled : ((loadedOf .vertex store.loadedTables).flatMap fun table =>
      table.labelled (keysOf (store.vertexTables.map (·.described)) table.label)) =
        (store.vertexTables.flatMap fun table => table.rows.map fun cells => (table, cells)).map fun (table, cells) =>
          ⟨table.label, vertexProperties table.primaryKey (table.valuesIn cells table.plan.header.names)⟩ := by
    rw [(loadedOf_loadedTables store).1, List.flatMap_map, List.map_flatMap]
    refine List.flatMap_congr fun table htable => ?_
    rw [LoadedTable.labelled, StoredTable.loadedAs, StoredTable.plan_label, keysOf, vertexTable?_described hnames htable]
    simp
  rw [buildVertices, hlabelled, identify, vertexRows]
  refine List.ext_getElem? fun k => ?_
  simp only [List.getElem?_mapIdx, List.getElem?_map, Option.map_map, Nat.zero_add]
  rfl

/-! ## Vertices without their keys -/

theorem keyNamesOf_described (hnames : (store.tables.map (·.label)).Nodup) {table : StoredTable}
    (htable : table ∈ store.vertexTables) : keyNamesOf (store.vertexTables.map (·.described)) table.label =
      table.primaryKey ++ table.references.map (·.column) := by
  rw [keyNamesOf, vertexTable?_described hnames htable]
  simp [TableDescription.keyNames]

theorem isKept_iff {table : StoredTable} {name : String} :
    isKept (table.primaryKey ++ table.references.map (·.column)) name = true ↔
      name ≠ keyIdentifier ∧ table.metadata.isKey name = false := by
  rw [← Bool.not_eq_true, StoredTable.isKey_metadata]
  simp [isKept]

end MemorySource

theorem get?_vertexProperties (keys : List String) (row : PropertyBag) (name : String) :
    (vertexProperties keys row).get? name =
      if name = keyIdentifier then ((row.compositeKey? keys).map Value.string).or (row.get? name) else row.get? name := by
  unfold vertexProperties
  cases row.compositeKey? keys with
  | none => simp
  | some key =>
    rw [PropertyBag.get?_insert]
    by_cases hname : name = keyIdentifier
    · simp [hname]
    · simp [hname, Ne.symm hname]

/-- besides the reserved name a vertex holds the values of the key columns and of the attributes -/
theorem VertexRow.get?_held {row : VertexRow ι} (hvertex : row.table.isJunction = false) {name : String}
    (hname : name ≠ keyIdentifier) : row.held.get? name =
      if row.table.metadata.isKey name = true ∨ name ∈ row.table.attributeNames then
        row.table.value? row.cells name
      else none := by
  rw [VertexRow.held, get?_vertexProperties, if_neg hname, StoredTable.get?_valuesIn,
    StoredTable.plan_of_not_isJunction hvertex]
  exact if_congr StoredTable.mem_described_header_names rfl rfl

namespace MemorySource

variable {store : MemorySource}

/-- **What is left of a vertex without its keys** are the attributes of its row -/
theorem withoutKeys_heldVertex (h : store.WellFormed) {ids : Nat → ι} {row : VertexRow ι}
    (hrow : row ∈ store.vertexRows ids) :
    row.heldVertex.withoutKeys (store.vertexTables.map (·.described)) = row.vertex := by
  obtain ⟨hwell, hvertex⟩ := wellFormed_of_mem_vertexRows h hrow
  have hproperties : row.held.filterNames (isKept (row.table.primaryKey ++ row.table.references.map (·.column))) =
      row.table.attributes row.cells := by
    refine PropertyBag.ext fun name => ?_
    rw [PropertyBag.get?_filterNames]
    -- of the names that are kept, those are fetched that are attributes
    by_cases hkept : name ≠ keyIdentifier ∧ row.table.metadata.isKey name = false
    · rw [if_pos (isKept_iff.mpr hkept), VertexRow.get?_held hvertex hkept.1, StoredTable.attributes,
        StoredTable.get?_valuesIn]
      simp [hkept.2]
    · rw [if_neg (mt isKept_iff.mp hkept), StoredTable.attributes_of_key]
      rcases not_and_or.mp hkept with hname | hkey
      · exact .inr (not_not.mp hname ▸ hwell.unreserved)
      · exact .inl (by simpa using hkey)
  rw [Vertex.withoutKeys, VertexRow.heldVertex, keyNamesOf_described h.names (table_of_mem_vertexRows hrow), hproperties]
  rfl

/-- the graph of well-formed tables, vertex by vertex -/
theorem vertices_assemble (h : store.WellFormed) (ids : Nat → ι) :
    (assemble ids (store.tables.map (·.described)) ⟨store.loadedTables, []⟩).1.vertices =
      (store.vertexRows ids).map (·.vertex) := by
  simp only [assemble, vertexTables_classify, buildVertices_loadedTables h.names ids, List.map_map]
  exact List.map_congr_left fun row hrow => withoutKeys_heldVertex h hrow

end MemorySource

/-- **The vertices of a conversion are exactly the rows of the vertex tables.** For well-formed tables the conversion gives
a graph with one vertex for each row of each vertex table, in the order of the tables and of their rows, labelled with the
name of the table and identified by the next identifier. Its properties are exactly the attributes of the row; none has
the name of a key column or the reserved name. -/
theorem convert_vertices_exact {store : MemorySource} (h : store.WellFormed) (options : RetrievalOptions)
    (ids : Nat → ι) :
    ∃ (graph : Graph ι) (report : Report), (convert store.toSource options ids).value = .ok (graph, report) ∧
      graph.vertices = (store.vertexRows ids).map (·.vertex) ∧
      ∀ row ∈ store.vertexRows ids,
        (∀ name value, row.vertex.properties.get? name = some value ↔ row.table.HasAttribute row.cells name value) ∧
        ∀ name, name ∈ row.table.primaryKey ∨ name ∈ row.table.references.map (·.column) ∨ name = keyIdentifier →
          row.vertex.properties.get? name = none := by
  refine ⟨_, _, store.convert_wellFormed h options ids, store.vertices_assemble h ids, fun row hrow => ?_⟩
  have hwell := (MemorySource.wellFormed_of_mem_vertexRows h hrow).1
  constructor
  · intro name value
    exact StoredTable.get?_attributes_eq_some hwell.columns row.cells name value
  · intro name hname
    refine StoredTable.attributes_of_key ?_ row.cells
    rcases hname with hprimary | hreference | rfl
    · exact .inl (StoredTable.isKey_metadata.mpr (.inl hprimary))
    · exact .inl (StoredTable.isKey_metadata.mpr (.inr hreference))
    · exact .inr hwell.unreserved

/-- persons with pictures, the second one stored without name and picture; a passport, whose primary key is its reference
to the holder; and a junction of persons and passports -/
def travellers : MemorySource := ⟨.postgresql, [
  ⟨⟨none, "person"⟩, [⟨"id", "integer"⟩, ⟨"name", "varchar(40)"⟩, ⟨"picture", "bytea"⟩], ["id"], [],
    [[.int 1, .text "Ada", .bytes [7]], [.int 2]]⟩,
  ⟨⟨none, "visa"⟩, [⟨"person", "integer"⟩, ⟨"passport", "integer"⟩, ⟨"until", "text"⟩], ["person", "passport"],
    [⟨"person", none, "person", "id"⟩, ⟨"passport", none, "passport", "holder"⟩], [[.int 2, .int 1, .text "May"]]⟩,
  ⟨⟨none, "passport"⟩, [⟨"holder", "integer"⟩, ⟨"number", "text"⟩], ["holder"], [⟨"holder", none, "person", "id"⟩],
    [[.int 1, .text "P7"]]⟩]⟩

/-- **Three vertices for four rows**: the junction gives none, and of the others only names and numbers remain -/
theorem vertices_of_travellers :
    travellers.WellFormed ∧ ∃ (graph : Graph Nat) (report : Report),
      (convert travellers.toSource {} id).value = .ok (graph, report) ∧
      graph.vertices = [⟨0, "person", .ofList [("name", .string "Ada")]⟩, ⟨1, "person", .empty⟩,
        ⟨2, "passport", .ofList [("number", .string "P7")]⟩] := by
  have hwell : travellers.WellFormed := by decide
  obtain ⟨graph, report, hrun, hvertices, -⟩ := convert_vertices_exact hwell {} (id : Nat → Nat)
  refine ⟨hwell, graph, report, hrun, hvertices.trans ?_⟩
  decide +kernel

end TableGraph
