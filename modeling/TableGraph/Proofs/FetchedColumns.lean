/-
Which columns references can refer to. A plan fetches the key columns of its table and the columns of supported types. A
reference finds rows by a column that is fetched of them, and nothing by a column that is not: introspection looks at the
keys of one table at a time, and so a column that only other tables refer to is no key.

Results:
- `StoredTable.mem_plan_columns`: what is fetched of a vertex table.
- `MemorySource.dangling_assemble`: the references that find nothing among what is fetched.
- `convert_links_fetched`: the edges and the dangling references of well-formed tables, whatever their references refer to;
  a reference to a key or to a column of a supported type gives an edge to each row with an equal value.
Witness:
- `linked_by_text`: a reference to a text that is no key.
Counterexample:
- `unlinked_by_type`: the same reference, where both columns have a type that is not supported. The value of the reference
  is kept, and that of the column is not.
-/
import TableGraph.Proofs.EdgeExactness
import TableGraph.Proofs.GraphIntegrity

namespace TableGraph

variable {ι : Type}

/-! ## What references find -/

namespace StoredTable

variable {table : StoredTable}

/-- **What is fetched of a vertex table**: its key columns, and its columns of supported types -/
theorem mem_plan_columns (h : table.isJunction = false) {name : String} :
    name ∈ table.plan.query.columns ↔ table.KeyOrSupported name := by
  rw [plan_of_not_isJunction h, keyOrSupported_iff]
  exact mem_described_header_names

/-- what is a key or supported is a column of the table -/
theorem WellFormed.mem_of_keyOrSupported (h : table.WellFormed) {name : String} (hname : table.KeyOrSupported name) :
    name ∈ table.columnNames := by
  rcases hname with hkey | ⟨column, hcolumn, rfl, -⟩
  · exact h.mem_of_isKey hkey
  · exact List.mem_map_of_mem hcolumn

end StoredTable

/-- a reference finds a row with a value: it refers to a key or to a column of a supported type in the table of the row,
where the row has an equal value -/
structure DeclaredReference.Finds (reference : DeclaredReference) (value : Option Value) (row : VertexRow ι) : Prop where
  label : row.table.label = reference.target
  column : row.table.KeyOrSupported reference.targetColumn
  same : sameKey value (row.value? reference.targetColumn) = true

theorem DeclaredReference.Finds.mem_matches {reference : DeclaredReference} {value : Option Value} {row : VertexRow ι}
    (h : reference.Finds value row) (hwell : row.table.WellFormed) {rows : List (VertexRow ι)} (hrow : row ∈ rows) :
    row.id ∈ reference.matches VertexRow.fetched? rows value := by
  have hname : reference.targetColumn ≠ keyIdentifier :=
    fun heq => hwell.unreserved (heq ▸ hwell.mem_of_keyOrSupported h.column)
  have hfetched : row.fetched? reference.targetColumn = row.value? reference.targetColumn := by
    rw [VertexRow.fetched?, if_pos (.inr h.column), VertexRow.target?, if_neg hname]
  refine List.mem_map.mpr ⟨row, List.mem_filter.mpr ⟨hrow, ?_⟩, rfl⟩
  rw [Bool.and_eq_true_iff, beq_iff_eq, hfetched]
  exact ⟨h.label, h.same⟩

/-! ## Dangling references -/

namespace StoredTable

variable (table : StoredTable) (found : VertexRow ι → String → Option Value) (rows : List (VertexRow ι))

/-- for each reference of a vertex table, the rows that have a value there with which it finds nothing -/
def directDangling : Nat :=
  (table.references.map fun reference => (rows.filter fun row => row.table.label == table.label).countP fun row =>
    (row.value? reference.column).isSome && (reference.matches found rows (row.value? reference.column)).isEmpty).sum

/-- the rows of a junction table that have values for both references, one of which finds nothing -/
def junctionDangling : Nat :=
  match table.references with
  | [one, two] => table.rows.countP fun cells =>
    (table.value? cells one.column).isSome && (table.value? cells two.column).isSome &&
      ((one.matches found rows (table.value? cells one.column)).isEmpty ||
        (two.matches found rows (table.value? cells two.column)).isEmpty)
  | _ => 0

end StoredTable

namespace MemorySource

/-- the references of all tables that find nothing -/
def danglingReferences (store : MemorySource) (found : VertexRow ι → String → Option Value) (ids : Nat → ι) : Nat :=
  (store.vertexTables.map fun table => table.directDangling found (store.vertexRows ids)).sum +
    (store.junctionTables.map fun table => table.junctionDangling found (store.vertexRows ids)).sum

variable {store : MemorySource} (h : store.WellFormed) {ids : Nat → ι}
include h

/-- the references of a table that dangle, by its rules -/
def tableDangling (store : MemorySource) (ids : Nat → ι) (table : StoredTable) : Nat :=
  (table.described.edgeRules.map fun rule =>
    rule.danglingCount ((store.vertexRows ids).map (·.heldVertex)) (loadedOf .junction store.loadedTables)).sum

theorem tableDangling_of_vertexTable {table : StoredTable} (htable : table ∈ store.vertexTables) :
    store.tableDangling ids table = table.directDangling VertexRow.fetched? (store.vertexRows ids) := by
  rw [tableDangling, edgeRules_of_vertexTable htable, List.map_map, StoredTable.directDangling]
  congr 1
  refine List.map_congr_left fun reference hreference => ?_
  rw [Function.comp_apply, EdgeRule.danglingCount, DirectRule.danglingCount, List.filter_map, List.countP_map]
  refine List.countP_congr fun row hrow => ?_
  obtain ⟨hrow, hlabel⟩ := List.mem_filter.mp hrow
  have hheld := get?_held_of_reference h htable hreference hrow (beq_iff_eq.mp hlabel)
  rw [← hheld, ← partners_heldVertex h]
  rfl

theorem tableDangling_of_junctionTable {table : StoredTable} (htable : table ∈ store.junctionTables) :
    store.tableDangling ids table = table.junctionDangling VertexRow.fetched? (store.vertexRows ids) := by
  obtain ⟨one, two, hreferences, hrules, hnames⟩ := junction_fetches htable
  have hone : one.column ∈ one.column :: two.column :: table.attributeNames := by simp
  have htwo : two.column ∈ one.column :: two.column :: table.attributeNames := by simp
  rw [tableDangling, hrules, List.map_singleton, List.sum_singleton, EdgeRule.danglingCount,
    rowsIn_loadedTables h htable rfl, hnames, JunctionRule.danglingCount, List.countP_map, StoredTable.junctionDangling,
    hreferences]
  refine List.countP_congr fun row _ => ?_
  have hvalues (reference : DeclaredReference) (hlisted : reference.column ∈ one.column :: two.column :: table.attributeNames) :
      (table.valuesIn row (one.column :: two.column :: table.attributeNames)).get? reference.column =
        table.value? row reference.column := by
    rw [StoredTable.get?_valuesIn, if_pos hlisted]
  rw [← partners_valuesIn h ids hone, ← partners_valuesIn h ids htwo, ← hvalues one hone, ← hvalues two htwo]
  rfl

/-- **The dangling references** are those that find nothing among what is fetched -/
theorem dangling_assemble (ids : Nat → ι) :
    (assemble ids (store.tables.map (·.described)) ⟨store.loadedTables, []⟩).2.danglingReferences =
      store.danglingReferences VertexRow.fetched? ids := by
  have htables : store.tables.Perm (store.vertexTables ++ store.junctionTables) := store.plannedTables_perm.symm
  have hvertices : store.vertexTables.map (store.tableDangling ids) =
      store.vertexTables.map fun table => table.directDangling VertexRow.fetched? (store.vertexRows ids) :=
    List.map_congr_left fun table htable => tableDangling_of_vertexTable h htable
  have hjunctions : store.junctionTables.map (store.tableDangling ids) =
      store.junctionTables.map fun table => table.junctionDangling VertexRow.fetched? (store.vertexRows ids) :=
    List.map_congr_left fun table htable => tableDangling_of_junctionTable h htable
  have hrules : (assemble ids (store.tables.map (·.described)) ⟨store.loadedTables, []⟩).2.danglingReferences =
      (store.tables.map (store.tableDangling ids)).sum := by
    simp only [assemble, buildEdges_eq, vertexTables_classify, buildVertices_loadedTables h.names ids]
    rw [classify, List.flatMap_map, List.map_flatMap, List.flatMap_def, List.sum_flatten, List.map_map]
    rfl
  rw [hrules, (htables.map _).sum_eq, List.map_append, List.sum_append, hvertices, hjunctions, danglingReferences]

/-! ## Links between equal values -/

/-- a row of a vertex table has an edge to each row that one of its references finds -/
theorem mem_links_of_reference {start target : VertexRow ι} (hstart : start ∈ store.vertexRows ids)
    (htarget : target ∈ store.vertexRows ids) {reference : DeclaredReference}
    (hreference : reference ∈ start.table.references)
    (hfinds : reference.Finds (start.value? reference.column) target) :
    ⟨start.table.label, start.id, target.id, .empty⟩ ∈ store.links VertexRow.fetched? ids := by
  obtain ⟨hwell, -⟩ := wellFormed_of_mem_vertexRows h htarget
  have hfound := hfinds.mem_matches hwell htarget
  apply List.mem_append_left
  refine List.mem_flatMap.mpr ⟨start.table, table_of_mem_vertexRows hstart, ?_⟩
  refine List.mem_flatMap.mpr ⟨reference, hreference, List.mem_flatMap.mpr ⟨start, ?_, ?_⟩⟩
  · exact List.mem_filter.mpr ⟨hstart, beq_self_eq_true _⟩
  · exact List.mem_map.mpr ⟨target.id, hfound, rfl⟩

/-- a row of a junction table gives two edges between each row that its first reference finds and each row that its second
one finds -/
theorem mem_links_of_references {table : StoredTable} (htable : table ∈ store.junctionTables) {cells : Row}
    (hcells : cells ∈ table.rows) {one two : DeclaredReference} (hreferences : table.references = [one, two])
    {first second : VertexRow ι} (hfirst : first ∈ store.vertexRows ids) (hsecond : second ∈ store.vertexRows ids)
    (hone : one.Finds (table.value? cells one.column) first) (htwo : two.Finds (table.value? cells two.column) second) :
    ∀ link ∈ [⟨table.label, first.id, second.id, table.attributes cells⟩,
        ⟨table.label, second.id, first.id, table.attributes cells⟩], link ∈ store.links VertexRow.fetched? ids := by
  intro link hlink
  have hfoundFirst := hone.mem_matches (wellFormed_of_mem_vertexRows h hfirst).1 hfirst
  have hfoundSecond := htwo.mem_matches (wellFormed_of_mem_vertexRows h hsecond).1 hsecond
  apply List.mem_append_right
  refine List.mem_flatMap.mpr ⟨table, htable, ?_⟩
  rw [StoredTable.junctionLinks, hreferences]
  refine List.mem_flatMap.mpr ⟨cells, hcells, ?_⟩
  exact List.mem_flatMap.mpr ⟨first.id, hfoundFirst, List.mem_flatMap.mpr ⟨second.id, hfoundSecond, hlink⟩⟩

end MemorySource

/-- **Columns that are keys or of supported types are fetched, and found by**: the edges and the dangling references are
those of the rows by what is fetched of them; so a reference gives an edge from each row with a value there to each row
that has an equal value in the column referred to, and a junction row gives an edge in each direction between any two rows
that have values equal to its own -/
theorem convert_links_fetched {store : MemorySource} (h : store.WellFormed) (options : RetrievalOptions)
    (ids : Nat → ι) :
    (∀ table ∈ store.vertexTables, ∀ name, name ∈ table.plan.query.columns ↔ table.KeyOrSupported name) ∧
    ∃ (graph : Graph ι) (report : Report), (convert store.toSource options ids).value = .ok (graph, report) ∧
      (graph.edges.map (·.link)).Perm (store.links VertexRow.fetched? ids) ∧
      report.danglingReferences = store.danglingReferences VertexRow.fetched? ids ∧
      (∀ start ∈ store.vertexRows ids, ∀ target ∈ store.vertexRows ids, ∀ reference ∈ start.table.references,
        reference.Finds (start.value? reference.column) target →
          ⟨start.table.label, start.id, target.id, .empty⟩ ∈ graph.edges.map (·.link)) ∧
      (∀ table ∈ store.junctionTables, ∀ cells ∈ table.rows, ∀ one two, table.references = [one, two] →
        ∀ first ∈ store.vertexRows ids, ∀ second ∈ store.vertexRows ids,
        one.Finds (table.value? cells one.column) first → two.Finds (table.value? cells two.column) second →
          ∀ link ∈ [⟨table.label, first.id, second.id, table.attributes cells⟩,
            ⟨table.label, second.id, first.id, table.attributes cells⟩], link ∈ graph.edges.map (·.link)) := by
  have hcolumns : ∀ table ∈ store.vertexTables, ∀ name, name ∈ table.plan.query.columns ↔ table.KeyOrSupported name :=
    fun table htable _ => StoredTable.mem_plan_columns (MemorySource.mem_vertexTables.mp htable).2
  have hedges := store.links_perm h ids
  refine ⟨hcolumns, _, _, store.convert_wellFormed h options ids, hedges, store.dangling_assemble h ids, ?_, ?_⟩
  · intro start hstart target htarget reference hreference hfinds
    exact hedges.mem_iff.mpr (MemorySource.mem_links_of_reference h hstart htarget hreference hfinds)
  · intro table htable cells hcells one two hreferences first hfirst second hsecond hone htwo link hlink
    exact hedges.mem_iff.mpr
      (MemorySource.mem_links_of_references h htable hcells hreferences hfirst hsecond hone htwo link hlink)

/-- a person with a mood, and a diary that refers to the persons of a mood; moods have some type -/
def moods (type : String) : MemorySource := ⟨.postgresql, [
  ⟨⟨none, "person"⟩, [⟨"id", "integer"⟩, ⟨"mood", type⟩], ["id"], [], [[.int 1, .text "happy"]]⟩,
  ⟨⟨none, "diary"⟩, [⟨"id", "integer"⟩, ⟨"mood", type⟩], ["id"], [⟨"mood", none, "person", "mood"⟩],
    [[.int 10, .text "happy"]]⟩]⟩

/-- **Moods as texts**: the diary is linked with the person, and no reference dangles -/
theorem linked_by_text :
    (moods "text").WellFormed ∧ ∃ (start target : VertexRow Nat) (reference : DeclaredReference),
      start ∈ (moods "text").vertexRows id ∧ target ∈ (moods "text").vertexRows id ∧
      reference ∈ start.table.references ∧ reference.Finds (start.value? reference.column) target ∧
      reference.targetColumn ∈ target.table.plan.query.columns ∧
      ∃ (graph : Graph Nat) (report : Report), (convert (moods "text").toSource {} id).value = .ok (graph, report) ∧
        ⟨"diary", 1, 0, .empty⟩ ∈ graph.edges.map (·.link) ∧ report.danglingReferences = 0 := by
  have hwell : (moods "text").WellFormed := by decide
  have hstart : (⟨1, (moods "text").tables[1], [.int 10, .text "happy"]⟩ : VertexRow Nat) ∈ (moods "text").vertexRows id :=
    List.mem_iff_getElem?.mpr ⟨1, rfl⟩
  have htarget : (⟨0, (moods "text").tables[0], [.int 1, .text "happy"]⟩ : VertexRow Nat) ∈ (moods "text").vertexRows id :=
    List.mem_iff_getElem?.mpr ⟨0, rfl⟩
  have hreference : (⟨"mood", none, "person", "mood"⟩ : DeclaredReference) ∈ (moods "text").tables[1].references :=
    List.mem_singleton.mpr rfl
  have hfinds : (⟨"mood", none, "person", "mood"⟩ : DeclaredReference).Finds
      ((moods "text").tables[1].value? [.int 10, .text "happy"] "mood")
      (⟨0, (moods "text").tables[0], [.int 1, .text "happy"]⟩ : VertexRow Nat) :=
    ⟨by decide, by decide +kernel, by decide +kernel⟩
  obtain ⟨hcolumns, graph, report, hrun, -, hdangling, hlinks, -⟩ := convert_links_fetched hwell {} (id : Nat → Nat)
  refine ⟨hwell, _, _, _, hstart, htarget, hreference, hfinds, ?_, graph, report, hrun, ?_, hdangling.trans ?_⟩
  · exact (hcolumns _ (MemorySource.table_of_mem_vertexRows htarget) _).mpr hfinds.column
  · exact hlinks _ hstart _ htarget _ hreference hfinds
  · decide +kernel

/-- **Moods of their own type**: the rule looks up the moods of persons, and both cells have the same value; but the plan of
the persons does not fetch their moods, so that there is no edge and the reference counts as dangling -/
theorem unlinked_by_type :
    (moods "mood").WellFormed ∧
    .direct ⟨"diary", "person", "mood", "mood"⟩ ∈ (classify ((moods "mood").tables.map (·.described))).edgeRules ∧
    (∀ row ∈ (moods "mood").vertexRows (id : Nat → Nat), row.value? "mood" = some (.string "happy")) ∧
    ((moods "mood").vertexTables.map fun table => (table.label, table.columnNames, table.plan.query.columns)) =
      [("person", ["id", "mood"], ["id"]), ("diary", ["id", "mood"], ["id", "mood"])] ∧
    ∃ (graph : Graph Nat) (report : Report), (convert (moods "mood").toSource {} id).value = .ok (graph, report) ∧
      graph.edges = [] ∧ report.danglingReferences = 1 := by
  have hwell : (moods "mood").WellFormed := by decide
  refine ⟨hwell, by decide +kernel, by decide +kernel, by decide +kernel, _, _,
    (moods "mood").convert_wellFormed hwell {} id, ?_, ?_⟩
  · rw [buildEdges_eq]
    decide +kernel
  · rw [buildEdges_eq]
    decide +kernel

end TableGraph
