/-
The edges of a conversion are exactly the references of the rows. Every row of a vertex table has an edge to each row that
one of its references finds, and every row of a junction table gives edges, one in each direction, between each row found
by its first reference and each row found by its second; there are no other edges.

A reference finds the rows whose value in the column that it refers to has the same key. Since vertices hold their primary
key under the reserved name until edges are joined, a reference to this name, which no column has, finds rows by their
primary key; a reference to any other name that is no column finds nothing.

Results:
- `VertexRow.get?_held_eq_fetched?`: what the vertex of a row is found by.
- `MemorySource.links_perm`: the edges before they get identifiers, as references of rows.
- `MemorySource.links_of_referencesFetched`, `MemorySource.links_unreserved`: when rows are found by all their values, and
  when by values in columns only.
- `convert_edges_exact`: the edges of the graph.
Witnesses:
- `edges_of_visits`: a reference of a table to itself, equal values in a column that is referred to, a row that is too
  short, and a junction.
- `reserved_target_links`: a reference to the reserved name has an edge, although no column is called so.
-/
import TableGraph.Proofs.NestedLoops
import TableGraph.Proofs.VertexExactness

namespace TableGraph

variable {ι : Type}

/-! ## References of rows -/

/-- the keys of the primary-key columns of a row joined by bars, if there are such columns and each has a value -/
def StoredTable.compositeKey? (table : StoredTable) (row : Row) : Option String :=
  if table.primaryKey.isEmpty then none
  else (table.primaryKey.mapM fun name => (table.value? row name).map Value.key).map fun keys => "|".intercalate keys

namespace VertexRow

variable (row : VertexRow ι)

/-- the value of a row in a column -/
def value? (name : String) : Option Value := row.table.value? row.cells name

/-- what a row is found by under a name: by its primary key under the reserved name, else by its value in the column -/
def target? (name : String) : Option Value :=
  if name = keyIdentifier then (row.table.compositeKey? row.cells).map .string else row.value? name

end VertexRow

/-- whether a column is a key of its table or has a supported type -/
def StoredTable.KeyOrSupported (table : StoredTable) (name : String) : Prop :=
  table.metadata.isKey name = true ∨
    ∃ column ∈ table.columns, column.name = name ∧ (ColumnType.ofName column.typeName).isSupported = true

instance (table : StoredTable) (name : String) : Decidable (table.KeyOrSupported name) := by
  unfold StoredTable.KeyOrSupported
  infer_instance

/-- what a row is found by under a name in the graph: by its value in a column only if this is a key or has a supported
type -/
def VertexRow.fetched? (row : VertexRow ι) (name : String) : Option Value :=
  if name = keyIdentifier ∨ row.table.KeyOrSupported name then row.target? name else none

/-- the rows that a reference finds with a value, where `found` says what rows are found by -/
def DeclaredReference.matches (reference : DeclaredReference) (found : VertexRow ι → String → Option Value)
    (rows : List (VertexRow ι)) (value : Option Value) : List ι :=
  (rows.filter fun row =>
    row.table.label == reference.target && sameKey value (found row reference.targetColumn)).map (·.id)

namespace StoredTable

variable (table : StoredTable) (found : VertexRow ι → String → Option Value) (rows : List (VertexRow ι))

/-- the links of a vertex table: for each of its references, from each of its rows to each row that the reference finds -/
def directLinks : List (Link ι) :=
  table.references.flatMap fun reference =>
    (rows.filter fun row => row.table.label == table.label).flatMap fun row =>
      (reference.matches found rows (row.value? reference.column)).map fun target => ⟨table.label, row.id, target, .empty⟩

/-- the links of a junction table: for each of its rows, in both directions between each row that its first reference finds
and each row that its second reference finds, with the attributes of the junction row -/
def junctionLinks : List (Link ι) :=
  match table.references with
  | [one, two] => table.rows.flatMap fun cells =>
    (one.matches found rows (table.value? cells one.column)).flatMap fun first =>
      (two.matches found rows (table.value? cells two.column)).flatMap fun second =>
        [⟨table.label, first, second, table.attributes cells⟩, ⟨table.label, second, first, table.attributes cells⟩]
  | _ => []

end StoredTable

namespace MemorySource

variable (store : MemorySource)

/-- the links of all tables -/
def links (found : VertexRow ι → String → Option Value) (ids : Nat → ι) : List (Link ι) :=
  (store.vertexTables.flatMap fun table => table.directLinks found (store.vertexRows ids)) ++
    store.junctionTables.flatMap fun table => table.junctionLinks found (store.vertexRows ids)

/-- whether the columns of vertex tables that references refer to are keys or have supported types -/
def ReferencesFetched : Prop :=
  ∀ table ∈ store.tables, ∀ reference ∈ table.references, ∀ target ∈ store.vertexTables, target.label = reference.target →
    ∀ column ∈ target.columns, column.name = reference.targetColumn →
      target.metadata.isKey column.name = true ∨ (ColumnType.ofName column.typeName).isSupported = true

instance : Decidable store.ReferencesFetched := by
  unfold ReferencesFetched
  infer_instance

end MemorySource

/-! ## What vertices are found by -/

theorem StoredTable.compositeKey?_valuesIn {table : StoredTable} {names : List String}
    (h : ∀ name ∈ table.primaryKey, name ∈ names) (row : Row) :
    (table.valuesIn row names).compositeKey? table.primaryKey = table.compositeKey? row := by
  unfold PropertyBag.compositeKey? StoredTable.compositeKey?
  split_ifs
  · rfl
  · congr 1
    refine mapM_congr fun name hname => ?_
    rw [StoredTable.get?_valuesIn, if_pos (h name hname)]

theorem VertexRow.get?_held_keyIdentifier {row : VertexRow ι} (hwell : row.table.WellFormed)
    (hvertex : row.table.isJunction = false) :
    row.held.get? keyIdentifier = (row.table.compositeKey? row.cells).map Value.string := by
  have hfetched : ∀ name ∈ row.table.primaryKey, name ∈ row.table.plan.header.names := by
    intro name hname
    rw [StoredTable.plan_of_not_isJunction hvertex]
    exact StoredTable.mem_described_header_names.mpr (.inl (StoredTable.isKey_metadata.mpr (.inl hname)))
  have hreserved : (row.table.valuesIn row.cells row.table.plan.header.names).get? keyIdentifier = none := by
    rw [StoredTable.get?_valuesIn, StoredTable.value?_of_not_mem row.cells hwell.unreserved, ite_self]
  rw [VertexRow.held, get?_vertexProperties, if_pos rfl, StoredTable.compositeKey?_valuesIn hfetched, hreserved,
    Option.or_none]

theorem StoredTable.keyOrSupported_iff {table : StoredTable} {name : String} :
    table.KeyOrSupported name ↔ table.metadata.isKey name = true ∨ name ∈ table.attributeNames := by
  rw [KeyOrSupported, StoredTable.mem_attributeNames]
  cases table.metadata.isKey name <;> simp

/-- **What the vertex of a row is found by** -/
theorem VertexRow.get?_held_eq_fetched? {row : VertexRow ι} (hwell : row.table.WellFormed)
    (hvertex : row.table.isJunction = false) (name : String) : row.held.get? name = row.fetched? name := by
  unfold VertexRow.fetched? VertexRow.target?
  by_cases hreserved : name = keyIdentifier
  · rw [if_pos (.inl hreserved), if_pos hreserved, hreserved, VertexRow.get?_held_keyIdentifier hwell hvertex]
  · rw [VertexRow.get?_held hvertex hreserved, if_neg hreserved]
    refine if_congr ?_ rfl rfl
    rw [← StoredTable.keyOrSupported_iff]
    exact (or_iff_right hreserved).symm

/-- where the columns that are referred to are fetched, rows are found by their values -/
theorem VertexRow.fetched?_eq_target? {row : VertexRow ι} {name : String}
    (hfetched : ∀ column ∈ row.table.columns, column.name = name →
      row.table.metadata.isKey column.name = true ∨ (ColumnType.ofName column.typeName).isSupported = true) :
    row.fetched? name = row.target? name := by
  unfold VertexRow.fetched?
  split_ifs with hlisted
  · rfl
  · obtain ⟨hreserved, hother⟩ := not_or.mp hlisted
    rw [VertexRow.target?, if_neg hreserved, VertexRow.value?, StoredTable.value?_of_not_mem]
    intro hname
    obtain ⟨column, hcolumn, rfl⟩ := List.mem_map.mp hname
    exact hother ((hfetched column hcolumn rfl).imp_right fun hsupported => ⟨column, hcolumn, rfl, hsupported⟩)

/-! ## Links of one table -/

namespace MemorySource

variable {store : MemorySource} {ids : Nat → ι}

/-- the partners of a value among the vertices are the rows that a reference finds -/
theorem partners_heldVertex (h : store.WellFormed) (ids : Nat → ι) (reference : DeclaredReference) (value : Option Value) :
    partners ((store.vertexRows ids).map (·.heldVertex)) reference.target reference.targetColumn value =
      reference.matches VertexRow.fetched? (store.vertexRows ids) value := by
  rw [partners, List.filter_map, List.map_map, DeclaredReference.matches]
  congr 1
  refine List.filter_congr fun row hrow => ?_
  obtain ⟨hwell, hvertex⟩ := wellFormed_of_mem_vertexRows h hrow
  rw [Function.comp_apply, VertexRow.heldVertex, VertexRow.get?_held_eq_fetched? hwell hvertex]

/-- with distinct names, a vertex row is one of the table whose label it has -/
theorem table_of_label (h : store.WellFormed) {row : VertexRow ι} (hrow : row ∈ store.vertexRows ids)
    {table : StoredTable} (htable : table ∈ store.tables) (hlabel : row.table.label = table.label) : row.table = table :=
  List.inj_on_of_nodup_map h.names (mem_vertexTables.mp (table_of_mem_vertexRows hrow)).1 htable hlabel

/-- the links that the rules of a table give -/
def tableLinks (store : MemorySource) (ids : Nat → ι) (table : StoredTable) : List (Link ι) :=
  table.described.edgeRules.flatMap fun rule =>
    rule.nestedLoops ((store.vertexRows ids).map (·.heldVertex)) (loadedOf .junction store.loadedTables)

/-- a referencing column is a key, so the vertex of a row holds its value until edges are joined -/
theorem get?_held_of_reference (h : store.WellFormed) {table : StoredTable} (htable : table ∈ store.vertexTables)
    {reference : DeclaredReference} (hreference : reference ∈ table.references) {row : VertexRow ι}
    (hrow : row ∈ store.vertexRows ids) (hlabel : row.table.label = table.label) :
    row.held.get? reference.column = row.value? reference.column := by
  obtain ⟨hmem, hvertex⟩ := mem_vertexTables.mp htable
  have hsame := table_of_label h hrow hmem hlabel
  have hcolumn := (h.tables table hmem).references reference hreference
  have hname : reference.column ≠ keyIdentifier := fun heq => (h.tables table hmem).unreserved (heq ▸ hcolumn)
  have hkey : row.table.metadata.isKey reference.column = true :=
    StoredTable.isKey_metadata.mpr (.inr (hsame ▸ List.mem_map_of_mem hreference))
  rw [VertexRow.get?_held (hsame ▸ hvertex) hname, if_pos (.inl hkey)]
  rfl

/-- the rules of a vertex table are its references -/
theorem edgeRules_of_vertexTable {table : StoredTable} (htable : table ∈ store.vertexTables) :
    table.described.edgeRules = table.references.map fun reference =>
      .direct ⟨table.label, reference.target, reference.column, reference.targetColumn⟩ := by
  have hvertex := (mem_vertexTables.mp htable).2
  rw [TableDescription.edgeRules_of_not_isJunction (table.described_isJunction.trans hvertex),
    StoredTable.described_references, List.map_map]
  rfl

/-- **The links of a vertex table** are those of the references of its rows -/
theorem tableLinks_of_vertexTable (h : store.WellFormed) {table : StoredTable} (htable : table ∈ store.vertexTables) :
    store.tableLinks ids table = table.directLinks VertexRow.fetched? (store.vertexRows ids) := by
  rw [tableLinks, edgeRules_of_vertexTable htable, List.flatMap_map, StoredTable.directLinks]
  refine List.flatMap_congr fun reference hreference => ?_
  rw [EdgeRule.nestedLoops, DirectRule.nestedLoops, List.filter_map, List.flatMap_map]
  refine List.flatMap_congr fun row hrow => ?_
  obtain ⟨hrow, hlabel⟩ := List.mem_filter.mp hrow
  have hheld := get?_held_of_reference h htable hreference hrow (beq_iff_eq.mp hlabel)
  rw [← hheld, ← partners_heldVertex h]
  rfl

/-- the loaded rows of a junction table are found by its label -/
theorem rowsIn_loadedTables (h : store.WellFormed) {table : StoredTable} (htable : table ∈ store.junctionTables)
    {rule : JunctionRule} (hlabel : rule.label = table.label) :
    rule.rowsIn (loadedOf .junction store.loadedTables) =
      table.rows.map fun row => table.valuesIn row table.plan.header.names := by
  -- loaded tables keep the names of their tables, and these are distinct
  have hlabels : ((store.junctionTables.map fun table => table.loadedAs table.plan).map (·.label)).Nodup := by
    have hnames : (store.junctionTables.map (·.label)).Nodup := h.names.sublist (List.filter_sublist.map _)
    simpa [Function.comp_def, StoredTable.loadedAs] using hnames
  have hfound := find?_of_nodup hlabels (List.mem_map_of_mem htable)
  have hown : (table.loadedAs table.plan).label = rule.label := by
    rw [StoredTable.loadedAs, StoredTable.plan_label, hlabel]
  rw [JunctionRule.rowsIn, (loadedOf_loadedTables store).2, ← hown, hfound]
  rfl

/-- the values of a junction row besides its references are its attributes -/
theorem extraProperties_valuesIn {table : StoredTable} {one two : DeclaredReference}
    (hreferences : table.references = [one, two]) (row : Row) :
    (table.junction one two).extraProperties (table.valuesIn row (one.column :: two.column :: table.attributeNames)) =
      table.attributes row := by
  refine PropertyBag.ext fun name => ?_
  rw [JunctionRule.extraProperties, PropertyBag.get?_filterNames, StoredTable.get?_valuesIn]
  change (if (name != one.column && name != two.column) = true then _ else _) = _
  -- both referencing columns are keys, and whatever else is fetched of a junction is an attribute
  by_cases hkey : name = one.column ∨ name = two.column
  · have hattributes : table.metadata.isKey name = true := StoredTable.isKey_metadata.mpr (.inr (by simpa [hreferences]))
    rw [StoredTable.attributes_of_key (.inl hattributes)]
    rcases hkey with rfl | rfl <;> simp
  · obtain ⟨hone, htwo⟩ := not_or.mp hkey
    simp [hone, htwo, StoredTable.attributes]

/-- what is fetched of a junction table: its references and its attributes -/
theorem junction_fetches {table : StoredTable} (htable : table ∈ store.junctionTables) :
    ∃ one two, table.references = [one, two] ∧
      table.described.edgeRules = [.junction (table.junction one two)] ∧
      table.plan.header.names = one.column :: two.column :: table.attributeNames := by
  obtain ⟨one, two, hreferences, hrule, hrules⟩ := StoredTable.junction?_of_isJunction (mem_junctionTables.mp htable).2
  refine ⟨one, two, hreferences, hrules, ?_⟩
  rw [StoredTable.plan_of_junction? hrule, ← StoredTable.described_attributes]
  exact JunctionRule.header_names _

/-- the partners of a junction row on one side are the rows that its reference finds -/
theorem partners_valuesIn (h : store.WellFormed) (ids : Nat → ι) {table : StoredTable} {names : List String}
    {reference : DeclaredReference} (hlisted : reference.column ∈ names) (row : Row) :
    partners ((store.vertexRows ids).map (·.heldVertex)) reference.target reference.targetColumn
        ((table.valuesIn row names).get? reference.column) =
      reference.matches VertexRow.fetched? (store.vertexRows ids) (table.value? row reference.column) := by
  rw [partners_heldVertex h, StoredTable.get?_valuesIn, if_pos hlisted]

/-- **The links of a junction table** are those of its rows -/
theorem tableLinks_of_junctionTable (h : store.WellFormed) {table : StoredTable} (htable : table ∈ store.junctionTables) :
    store.tableLinks ids table = table.junctionLinks VertexRow.fetched? (store.vertexRows ids) := by
  obtain ⟨one, two, hreferences, hrules, hnames⟩ := junction_fetches htable
  have hone : one.column ∈ one.column :: two.column :: table.attributeNames := by simp
  have htwo : two.column ∈ one.column :: two.column :: table.attributeNames := by simp
  rw [tableLinks, hrules, List.flatMap_singleton, EdgeRule.nestedLoops, rowsIn_loadedTables h htable rfl, hnames,
    JunctionRule.nestedLoops, List.flatMap_map, StoredTable.junctionLinks, hreferences]
  refine List.flatMap_congr fun row _ => ?_
  rw [JunctionRule.linksBetween, extraProperties_valuesIn hreferences, ← partners_valuesIn h ids hone,
    ← partners_valuesIn h ids htwo]
  rfl

end MemorySource

/-! ## Links of all tables -/

namespace MemorySource

variable {store : MemorySource}

theorem edges_assemble (h : store.WellFormed) (ids : Nat → ι) :
    (assemble ids (store.tables.map (·.described)) ⟨store.loadedTables, []⟩).1.edges.map (·.link) =
      store.tables.flatMap (store.tableLinks ids) := by
  simp only [assemble, buildEdges, links_identifyLinks, linksOf_joinAll, vertexTables_classify,
    buildVertices_loadedTables h.names ids]
  rw [classify, List.flatMap_map, List.flatMap_assoc]
  rfl

/-- **The edges before they get identifiers** are the links of all tables, each as often -/
theorem links_perm (h : store.WellFormed) (ids : Nat → ι) :
    ((assemble ids (store.tables.map (·.described)) ⟨store.loadedTables, []⟩).1.edges.map (·.link)).Perm
      (store.links VertexRow.fetched? ids) := by
  have htables : store.tables.Perm (store.vertexTables ++ store.junctionTables) := store.plannedTables_perm.symm
  have hvertices : store.vertexTables.flatMap (store.tableLinks ids) =
      store.vertexTables.flatMap fun table => table.directLinks VertexRow.fetched? (store.vertexRows ids) :=
    List.flatMap_congr fun table htable => tableLinks_of_vertexTable h htable
  have hjunctions : store.junctionTables.flatMap (store.tableLinks ids) =
      store.junctionTables.flatMap fun table => table.junctionLinks VertexRow.fetched? (store.vertexRows ids) :=
    List.flatMap_congr fun table htable => tableLinks_of_junctionTable h htable
  calc (assemble ids (store.tables.map (·.described)) ⟨store.loadedTables, []⟩).1.edges.map (·.link)
      = store.tables.flatMap (store.tableLinks ids) := edges_assemble h ids
    List.Perm _ ((store.vertexTables ++ store.junctionTables).flatMap (store.tableLinks ids)) := htables.flatMap_right _
    _ = store.vertexTables.flatMap (store.tableLinks ids) ++ store.junctionTables.flatMap (store.tableLinks ids) :=
      List.flatMap_append
    _ = store.links VertexRow.fetched? ids := by rw [hvertices, hjunctions, links]

end MemorySource

/-! ## Other ways to find rows -/

/-- a reference finds the same rows by what is the same in all rows of its target -/
theorem DeclaredReference.matches_congr {reference : DeclaredReference} {found other : VertexRow ι → String → Option Value}
    {rows : List (VertexRow ι)} (h : ∀ row ∈ rows, row.table.label = reference.target →
      found row reference.targetColumn = other row reference.targetColumn) (value : Option Value) :
    reference.matches found rows value = reference.matches other rows value := by
  unfold DeclaredReference.matches
  congr 1
  refine List.filter_congr fun row hrow => ?_
  by_cases hlabel : row.table.label = reference.target
  · rw [h row hrow hlabel]
  · have hother : (row.table.label == reference.target) = false := beq_eq_false_iff_ne.mpr hlabel
    rw [hother, Bool.false_and, Bool.false_and]

namespace MemorySource

variable {store : MemorySource} {ids : Nat → ι}

/-- the links are the same by what is the same in all rows that are referred to -/
theorem links_congr {found other : VertexRow ι → String → Option Value}
    (h : ∀ table ∈ store.tables, ∀ reference ∈ table.references, ∀ row ∈ store.vertexRows ids,
      row.table.label = reference.target → found row reference.targetColumn = other row reference.targetColumn) :
    store.links found ids = store.links other ids := by
  unfold links
  congr 1
  · refine List.flatMap_congr fun table htable => List.flatMap_congr fun reference hreference => ?_
    have hsame := h table (mem_vertexTables.mp htable).1 reference hreference
    simp only [DeclaredReference.matches_congr hsame]
  · refine List.flatMap_congr fun table htable => ?_
    have hsame := h table (mem_junctionTables.mp htable).1
    unfold StoredTable.junctionLinks
    split
    · next one two hreferences =>
      have hone := hsame one (by simp [hreferences])
      have htwo := hsame two (by simp [hreferences])
      simp only [DeclaredReference.matches_congr hone, DeclaredReference.matches_congr htwo]
    · rfl

/-- if what is referred to is fetched, rows are found by their values -/
theorem links_of_referencesFetched (hfetched : store.ReferencesFetched) :
    store.links VertexRow.fetched? ids = store.links VertexRow.target? ids :=
  links_congr fun table htable reference hreference row hrow hlabel =>
    VertexRow.fetched?_eq_target? fun column hcolumn hname =>
      hfetched table htable reference hreference row.table (table_of_mem_vertexRows hrow) hlabel column hcolumn hname

/-- without references to the reserved name, rows are found by their values in columns only -/
theorem links_unreserved
    (h : ∀ table ∈ store.tables, ∀ reference ∈ table.references, reference.targetColumn ≠ keyIdentifier) :
    store.links VertexRow.target? ids = store.links VertexRow.value? ids :=
  links_congr fun table htable reference hreference _ _ _ => if_neg (h table htable reference hreference)

end MemorySource

/-- **The edges of a conversion are exactly the references of the rows.** For well-formed tables whose references to
columns of vertex tables refer to keys or to columns of supported types, the conversion gives a graph whose vertices are
the rows of the vertex tables and whose edges are, each as often, the links of all tables. A reference finds a row by its
value in the column that is referred to, and under the reserved name by its primary key; so if no reference is to the
reserved name, rows are found by their values in columns only. -/
theorem convert_edges_exact {store : MemorySource} (h : store.WellFormed) (hfetched : store.ReferencesFetched)
    (options : RetrievalOptions) (ids : Nat → ι) :
    ∃ (graph : Graph ι) (report : Report), (convert store.toSource options ids).value = .ok (graph, report) ∧
      graph.vertices = (store.vertexRows ids).map (·.vertex) ∧
      (graph.edges.map (·.link)).Perm (store.links VertexRow.target? ids) ∧
      ((∀ table ∈ store.tables, ∀ reference ∈ table.references, reference.targetColumn ≠ keyIdentifier) →
        (graph.edges.map (·.link)).Perm (store.links VertexRow.value? ids)) := by
  have hedges := store.links_perm h ids
  rw [MemorySource.links_of_referencesFetched hfetched] at hedges
  exact ⟨_, _, store.convert_wellFormed h options ids, store.vertices_assemble h ids, hedges,
    fun hunreserved => MemorySource.links_unreserved hunreserved ▸ hedges⟩

/-- persons, some of them with a boss; two cities of one name; and visits of persons to cities, which are referred to by
name -/
def visits : MemorySource := ⟨.postgresql, [
  ⟨⟨none, "person"⟩, [⟨"id", "integer"⟩, ⟨"boss", "bigint"⟩], ["id"], [⟨"boss", none, "person", "id"⟩],
    [[.int 1], [.int 2, .text "1"]]⟩,
  ⟨⟨none, "visit"⟩, [⟨"person", "integer"⟩, ⟨"city", "text"⟩, ⟨"year", "integer"⟩], ["person", "city"],
    [⟨"person", none, "person", "id"⟩, ⟨"city", none, "city", "name"⟩], [[.int 2, .text "Rome", .int 1999], [.int 1]]⟩,
  ⟨⟨none, "city"⟩, [⟨"id", "integer"⟩, ⟨"name", "text"⟩], ["id"], [], [[.int 1, .text "Rome"], [.int 2, .text "Rome"]]⟩]⟩

/-- **One boss and one visit to two cities**: the visit gives two edges for each city, with the year -/
theorem edges_of_visits :
    visits.WellFormed ∧ visits.ReferencesFetched ∧ ∃ (graph : Graph Nat) (report : Report),
      (convert visits.toSource {} id).value = .ok (graph, report) ∧
      (graph.edges.map (·.link)).Perm [⟨"person", 1, 0, .empty⟩,
        ⟨"visit", 1, 2, .ofList [("year", .integer 1999)]⟩, ⟨"visit", 2, 1, .ofList [("year", .integer 1999)]⟩,
        ⟨"visit", 1, 3, .ofList [("year", .integer 1999)]⟩, ⟨"visit", 3, 1, .ofList [("year", .integer 1999)]⟩] := by
  have hwell : visits.WellFormed := by decide
  have hfetched : visits.ReferencesFetched := by decide +kernel
  obtain ⟨graph, report, hrun, -, -, hedges⟩ := convert_edges_exact hwell hfetched {} (id : Nat → Nat)
  refine ⟨hwell, hfetched, graph, report, hrun, (hedges (by decide)).trans (List.Perm.of_eq ?_)⟩
  decide +kernel

/-- a table that refers to another one by the reserved name, which is no column of it -/
def reservedTarget : MemorySource := ⟨.postgresql, [
  ⟨⟨none, "a"⟩, [⟨"id", "integer"⟩], ["id"], [], [[.int 1]]⟩,
  ⟨⟨none, "b"⟩, [⟨"id", "integer"⟩, ⟨"a_id", "integer"⟩], ["id"], [⟨"a_id", none, "a", keyIdentifier⟩],
    [[.int 10, .int 1]]⟩]⟩

/-- **The reserved name finds rows by their primary key**: there is an edge, although the column that is referred to does
not exist and so no row has a value in it -/
theorem reserved_target_links :
    reservedTarget.WellFormed ∧ reservedTarget.ReferencesFetched ∧ ∃ (graph : Graph Nat) (report : Report),
      (convert reservedTarget.toSource {} id).value = .ok (graph, report) ∧
      graph.edges.map (·.link) = [⟨"b", 1, 0, .empty⟩] ∧
      ¬(graph.edges.map (·.link)).Perm (reservedTarget.links VertexRow.value? id) := by
  have hwell : reservedTarget.WellFormed := by decide
  have hfetched : reservedTarget.ReferencesFetched := by decide +kernel
  have hfound : reservedTarget.links VertexRow.target? (id : Nat → Nat) = [⟨"b", 1, 0, .empty⟩] := by decide +kernel
  have hnone : reservedTarget.links VertexRow.value? (id : Nat → Nat) = [] := by decide +kernel
  have hperm := reservedTarget.links_perm hwell (id : Nat → Nat)
  rw [MemorySource.links_of_referencesFetched hfetched, hfound] at hperm
  have hedges := List.perm_singleton.mp hperm
  refine ⟨hwell, hfetched, _, _, reservedTarget.convert_wellFormed hwell {} id, hedges, fun hperm => ?_⟩
  rw [hnone] at hperm
  have hempty := hedges.symm.trans (List.perm_nil.mp hperm)
  simp at hempty

end TableGraph
