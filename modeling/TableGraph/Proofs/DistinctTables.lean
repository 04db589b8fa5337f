/-
Tables by themselves. Everything that is known of a table is found by its qualified name: its metadata, its rows, the keys
of its vertices, the rows of a junction, and what cleanup takes away. So long as the qualified names differ, each of these
is the table's own, whatever else is stored, and the graph is put together from parts that know nothing of each other.

Tables need not be well-formed for this: keys may be missing among the columns, and columns may have equal or reserved
names. A table that lacks a column which is asked for gives no rows.

Results:
- `StoredTable.loaded?_eq_ite`: what is loaded of a table.
- `MemorySource.introspect_distinct`, `buildVertices_distinct`, `withoutKeys_distinct`, `nestedLoops_distinct`: every table
  is described, fetched, cleaned and joined by itself.
- `convert_tables_apart`: tables whose qualified names are not the same text cut at two points.
Witness:
- `offices_apart`: equal names in two schemas, and a table that lacks its key column.
Counterexample:
- `merged_tables_mix`: different tables, two of which are cut from the same text and one of which lacks its key column.
-/
import TableGraph.Proofs.NestedLoops
import TableGraph.Proofs.QualifiedNames
import TableGraph.Proofs.Reordering
import TableGraph.Proofs.VertexExactness

namespace TableGraph

variable {ι : Type}

/-! ## One table by itself -/

namespace StoredTable

variable (table : StoredTable)

/-- the names of all key columns -/
def keyNames : List String := table.primaryKey ++ table.references.map (·.column)

/-- the key columns that are asked for: of a junction table those of its references, else all of them -/
def fetchedKeys : List String := if table.isJunction then table.references.map (·.column) else table.keyNames

/-- whether the table has the key columns that are asked for -/
def Complete : Prop := ∀ name ∈ table.fetchedKeys, name ∈ table.columnNames

instance : Decidable table.Complete := inferInstanceAs (Decidable (∀ name ∈ table.fetchedKeys, name ∈ table.columnNames))

/-- the rows that are fetched: none if the table lacks a column that is asked for -/
def fetchedRows : List Row := if table.Complete then table.rows else []

/-- the values of a row in the columns that are asked for, each in the first column of its name -/
def fetchedValues (row : Row) : PropertyBag := table.plan.header.values (table.plan.query.columns.map (table.cell row))

/-- the values of a row, with its primary key under the reserved name -/
def keyedValues (row : Row) : PropertyBag := vertexProperties table.primaryKey (table.fetchedValues row)

/-- the values of a row, without those of key columns -/
def cleanedValues (row : Row) : PropertyBag := (table.keyedValues row).filterNames (isKept table.keyNames)

/-- the rows of a vertex table as vertices that have their keys and no identifiers yet -/
def keyedRows : List Labelled := table.fetchedRows.map fun row => ⟨table.label, table.keyedValues row⟩

/-- the rows of a vertex table as vertices that have no identifiers yet -/
def cleanedRows : List Labelled := table.fetchedRows.map fun row => ⟨table.label, table.cleanedValues row⟩

/-- the links of a table: those of its references, or those of its rows if it is a junction -/
def linksAmong (vertices : List (Vertex ι)) : List (Link ι) :=
  match table.isJunction, table.references with
  | true, [one, two] => (table.junction one two).nestedLoops vertices (table.fetchedRows.map table.fetchedValues)
  | _, references => references.flatMap fun reference =>
    DirectRule.nestedLoops ⟨table.label, reference.target, reference.column, reference.targetColumn⟩ vertices

variable {table}

theorem mem_query_columns {name : String} :
    name ∈ table.plan.query.columns ↔ name ∈ table.fetchedKeys ∨ name ∈ table.attributeNames := by
  rcases table.plan_cases with ⟨hvertex, hplan⟩ | ⟨one, two, hjunction, hreferences, hplan⟩
  · rw [hplan, fetchedKeys, hvertex, keyNames, if_neg Bool.false_ne_true, List.mem_append, ← isKey_metadata]
    exact mem_described_header_names
  · rw [hplan, fetchedKeys, hjunction, if_pos rfl, hreferences]
    change name ∈ (table.junction one two).header.names ↔ _
    rw [JunctionRule.header_names]
    simp [junction, TableDescription.endpoint, referenceOf, described_attributes, or_assoc]

/-- a table has the key columns that are asked for if it has all columns that are asked for -/
theorem complete_iff : table.Complete ↔ ∀ name ∈ table.plan.query.columns, name ∈ table.columnNames := by
  simp only [mem_query_columns, or_imp, forall_and]
  exact (and_iff_left fun name => mem_columnNames_of_attribute).symm

/-- **What is loaded of a table**: its rows, if it has the columns that are asked for -/
theorem loaded?_eq_ite : table.loaded? =
    if table.Complete then
      some (table.plan.tableOf (table.rows.map fun row => table.plan.query.columns.map (table.cell row)))
    else none := by
  split_ifs with hcomplete
  · exact loaded?_of_listed (complete_iff.mp hcomplete)
  · rw [loaded?, mapM_columnIndex?_of_missing fun hlisted => hcomplete (complete_iff.mpr hlisted), Option.map_none]

theorem isNone_loaded? : table.loaded?.isNone = !decide table.Complete := by
  rw [loaded?_eq_ite]
  by_cases hcomplete : table.Complete <;> simp [hcomplete]

theorem rows_of_loaded? : (table.loaded?.map (·.rows)).getD [] = table.fetchedRows.map table.fetchedValues := by
  rw [loaded?_eq_ite, fetchedRows]
  split_ifs
  · rw [Option.map_some, Option.getD_some, RetrievalPlan.tableOf, List.map_map]
    rfl
  · rfl

end StoredTable

/-! ## Distinct tables -/

/-- what all elements but one give nothing of is given by that one -/
theorem flatMap_eq_of_nodup {α β : Type} {key : α → String} {xs : List α} (hkeys : (xs.map key).Nodup) {x : α}
    (hx : x ∈ xs) {f : α → List β} (hothers : ∀ y ∈ xs, key y ≠ key x → f y = []) : xs.flatMap f = f x := by
  obtain ⟨before, after, rfl⟩ := List.append_of_mem hx
  rw [List.map_append, List.map_cons, List.nodup_middle, List.nodup_cons, ← List.map_append] at hkeys
  have hnone (y : α) (hy : y ∈ before ++ after) : f y = [] := by
    have hmem : y ∈ before ++ x :: after := by
      simp only [List.mem_append, List.mem_cons] at hy ⊢
      tauto
    exact hothers y hmem fun hkey => hkeys.1 (hkey ▸ List.mem_map_of_mem hy)
  have hbefore : before.flatMap f = [] :=
    List.flatMap_eq_nil_iff.mpr fun y hy => hnone y (List.mem_append_left _ hy)
  have hafter : after.flatMap f = [] :=
    List.flatMap_eq_nil_iff.mpr fun y hy => hnone y (List.mem_append_right _ hy)
  rw [List.flatMap_append, List.flatMap_cons, hbefore, hafter, List.nil_append, List.append_nil]

namespace MemorySource

variable {store : MemorySource}

/-- tables that are apart have distinct labels -/
theorem nodup_of_apart (h : store.tables.Pairwise fun a b => a.name.Apart b.name) :
    (store.tables.map (·.label)).Nodup :=
  List.pairwise_map.mpr (h.imp fun hapart => TableName.qualified_ne_iff_apart.mpr hapart)

section Distinct

variable (hnames : (store.tables.map (·.label)).Nodup)
include hnames

/-- **Every table is described by itself** -/
theorem introspect_distinct : store.toSource.introspect.value =
    .ok (store.tables.map fun table => table.metadata.describe table.name table.rows.length) := by
  refine (store.introspect_memory store.dialect store.toSource.rowCount store.run).trans (congrArg Except.ok ?_)
  refine List.map_congr_left fun table htable => ?_
  have hfound := find_of_nodup hnames htable
  rw [metadataOf, hfound]
  simp only [toSource, hfound]
  rfl

/-- **The vertices before edges are joined** are the rows of the vertex tables, each with the key of its own table -/
theorem buildVertices_distinct (ids : Nat → ι) :
    buildVertices ids (store.vertexTables.map (·.described)) (store.plannedTables.filterMap (·.loaded?)) =
      identify ids 0 (store.vertexTables.flatMap (·.keyedRows)) := by
  rw [buildVertices, (store.loadedOf_planned (·.loaded?) fun _ _ h => (StoredTable.names_of_loaded? h).2).1,
    flatMap_filterMap]
  congr 1
  refine List.flatMap_congr fun table htable => ?_
  have hkeys : keysOf (store.vertexTables.map (·.described)) table.label = table.primaryKey := by
    rw [keysOf, vertexTable?_described hnames htable]
    simp
  have hkeyed : table.keyedRows = ((table.loaded?.map (·.rows)).getD []).map fun values =>
      ⟨table.label, vertexProperties table.primaryKey values⟩ := by
    rw [StoredTable.rows_of_loaded?, List.map_map]
    rfl
  rw [hkeyed]
  cases hloaded : table.loaded? with
  | none => rfl
  | some loaded =>
    have hlabel := (StoredTable.names_of_loaded? hloaded).1
    simp [LoadedTable.labelled, hlabel, hkeys]

/-- **Every vertex is cleaned of the keys of its own table** -/
theorem withoutKeys_distinct (ids : Nat → ι) :
    (identify ids 0 (store.vertexTables.flatMap (·.keyedRows))).map
        (·.withoutKeys (store.vertexTables.map (·.described))) =
      identify ids 0 (store.vertexTables.flatMap (·.cleanedRows)) := by
  have hcleaned : store.vertexTables.flatMap (·.cleanedRows) =
      (store.vertexTables.flatMap (·.keyedRows)).map fun row => ⟨row.label, row.properties.filterNames
        (isKept (keyNamesOf (store.vertexTables.map (·.described)) row.label))⟩ := by
    rw [List.map_flatMap]
    refine List.flatMap_congr fun table htable => ?_
    rw [StoredTable.keyedRows, StoredTable.cleanedRows, List.map_map]
    simp only [Function.comp_def, keyNamesOf_described hnames htable]
    rfl
  refine List.ext_getElem? fun k => ?_
  rw [hcleaned, identify, identify, List.getElem?_map, List.getElem?_mapIdx, List.getElem?_mapIdx, List.getElem?_map]
  cases (store.vertexTables.flatMap (·.keyedRows))[k]? <;> rfl

/-- the loaded rows of a junction table are found by its label -/
theorem rowsIn_distinct {table : StoredTable} (htable : table ∈ store.junctionTables) {rule : JunctionRule}
    (hlabel : rule.label = table.label) :
    rule.rowsIn (loadedOf .junction (store.plannedTables.filterMap (·.loaded?))) =
      table.fetchedRows.map table.fetchedValues := by
  have hlabels : ((loadedOf .junction (store.plannedTables.filterMap (·.loaded?))).map (·.label)).Nodup :=
    (nodup_loaded hnames).sublist (List.filter_sublist.map _)
  rw [(store.loadedOf_planned (·.loaded?) fun _ _ h => (StoredTable.names_of_loaded? h).2).2] at hlabels ⊢
  rw [JunctionRule.rowsIn, hlabel, ← StoredTable.rows_of_loaded?]
  congr 2
  cases hloaded : table.loaded? with
  | some loaded =>
    rw [← (StoredTable.names_of_loaded? hloaded).1]
    exact find?_of_nodup hlabels (List.mem_filterMap.mpr ⟨table, htable, hloaded⟩)
  | none =>
    -- what has the label of the table is loaded of this table, of which nothing is loaded
    refine List.find?_eq_none.mpr fun loaded hmem hsame => ?_
    obtain ⟨other, hother, hload⟩ := List.mem_filterMap.mp hmem
    have hlabel : other.label = table.label := (StoredTable.names_of_loaded? hload).1 ▸ beq_iff_eq.mp hsame
    have heq := List.inj_on_of_nodup_map hnames (mem_junctionTables.mp hother).1 (mem_junctionTables.mp htable).1 hlabel
    rw [heq, hloaded] at hload
    cases hload

/-- **Every table is joined by its own references**, and a junction by its own rows -/
theorem nestedLoops_distinct (vertices : List (Vertex ι)) {table : StoredTable} (htable : table ∈ store.tables) :
    (table.described.edgeRules.flatMap fun rule =>
      rule.nestedLoops vertices (loadedOf .junction (store.plannedTables.filterMap (·.loaded?)))) =
        table.linksAmong vertices := by
  cases hjunction : table.isJunction with
  | true =>
    obtain ⟨one, two, hreferences, -, hrules⟩ := StoredTable.junction?_of_isJunction hjunction
    have hrows : (table.junction one two).rowsIn (loadedOf .junction (store.plannedTables.filterMap (·.loaded?))) =
        table.fetchedRows.map table.fetchedValues :=
      rowsIn_distinct hnames (mem_junctionTables.mpr ⟨htable, hjunction⟩) rfl
    rw [hrules, List.flatMap_singleton, EdgeRule.nestedLoops, hrows, StoredTable.linksAmong, hjunction, hreferences]
  | false =>
    have hrules := TableDescription.edgeRules_of_not_isJunction (table.described_isJunction.trans hjunction)
    rw [hrules, StoredTable.described_references, List.map_map, List.flatMap_map, StoredTable.linksAmong, hjunction]
    rfl

/-- **The vertices of a label** are the rows of the one vertex table of this label -/
theorem vertices_of_label (ids : Nat → ι) {table : StoredTable} (htable : table ∈ store.vertexTables) :
    ((identify ids 0 (store.vertexTables.flatMap (·.cleanedRows))).filter fun vertex =>
        vertex.label == table.label).map (·.properties) = table.fetchedRows.map table.cleanedValues := by
  have hlabels : (store.vertexTables.map (·.label)).Nodup := hnames.sublist (List.filter_sublist.map _)
  have hown : store.vertexTables.flatMap (fun other => other.cleanedRows.filter fun row => row.label == table.label) =
      table.cleanedRows := by
    refine (flatMap_eq_of_nodup hlabels htable fun other hother hne => ?_).trans ?_
    · refine List.filter_eq_nil_iff.mpr fun row hrow hsame => hne ?_
      obtain ⟨cells, -, rfl⟩ := List.mem_map.mp hrow
      exact beq_iff_eq.mp hsame
    · refine List.filter_eq_self.mpr fun row hrow => ?_
      obtain ⟨cells, -, rfl⟩ := List.mem_map.mp hrow
      exact beq_self_eq_true _
  have hfilter : ((identify ids 0 (store.vertexTables.flatMap (·.cleanedRows))).map Vertex.labelled).filter
      (fun row => row.label == table.label) = table.cleanedRows := by
    rw [labelled_identify, List.filter_flatMap, hown]
  rw [List.filter_map] at hfilter
  have hproperties := congrArg (List.map Labelled.properties) hfilter
  rw [List.map_map, StoredTable.cleanedRows, List.map_map] at hproperties
  exact hproperties

/-- the vertices of a graph of distinct tables -/
theorem vertices_assemble_distinct (ids : Nat → ι) {results : LoadedTables}
    (hloaded : results.loaded = store.plannedTables.filterMap (·.loaded?)) :
    (assemble ids (store.tables.map (·.described)) results).1.vertices =
      identify ids 0 (store.vertexTables.flatMap (·.cleanedRows)) := by
  simp only [assemble, vertexTables_classify, hloaded, buildVertices_distinct hnames, withoutKeys_distinct hnames]

/-- the links of a graph of distinct tables -/
theorem links_assemble_distinct (ids : Nat → ι) {results : LoadedTables}
    (hloaded : results.loaded = store.plannedTables.filterMap (·.loaded?)) :
    (assemble ids (store.tables.map (·.described)) results).1.edges.map (·.link) = store.tables.flatMap fun table =>
      table.linksAmong (identify ids 0 (store.vertexTables.flatMap (·.keyedRows))) := by
  have hrules : (classify (store.tables.map (·.described))).edgeRules =
      store.tables.flatMap fun table => table.described.edgeRules := List.flatMap_map ..
  simp only [assemble, vertexTables_classify, hloaded, buildVertices_distinct hnames, buildEdges_eq, links_identifyLinks,
    hrules, List.flatMap_assoc]
  exact List.flatMap_congr fun table htable => nestedLoops_distinct hnames _ htable

end Distinct

end MemorySource

/-- **Tables apart do not mix.** Tables that are different, and whose qualified names are not the same text cut at two
points, have different qualified names. In a source of tables no two of which are the same or cut from the same text, every
table is described by its own metadata and number of rows. The vertices are the rows of the vertex tables that have the key
columns asked for, each row once, without the values of the keys of its own table; the others are reported as failed. The
links are those that every table gives by its own references and rows, among vertices that have the keys of their own
tables. -/
theorem convert_tables_apart {store : MemorySource} (h : store.tables.Pairwise fun a b => a.name.Apart b.name)
    (options : RetrievalOptions) (ids : Nat → ι) :
    (∀ a b : TableName, a.Apart b → a.qualified ≠ b.qualified) ∧
    store.toSource.introspect.value =
      .ok (store.tables.map fun table => table.metadata.describe table.name table.rows.length) ∧
    ∃ (graph : Graph ι) (report : Report), (convert store.toSource options ids).value = .ok (graph, report) ∧
      report.failedTables = (store.plannedTables.filter fun table => !decide table.Complete).map (·.label) ∧
      graph.vertices = identify ids 0 (store.vertexTables.flatMap (·.cleanedRows)) ∧
      (∀ table ∈ store.vertexTables, table.Complete →
        (graph.vertices.filter fun vertex => vertex.label == table.label).map (·.properties) =
          table.rows.map table.cleanedValues) ∧
      graph.edges.map (·.link) = store.tables.flatMap fun table =>
        table.linksAmong (identify ids 0 (store.vertexTables.flatMap (·.keyedRows))) := by
  have hnames := MemorySource.nodup_of_apart h
  have hloaded := MemorySource.loaded_toSource hnames options
  have hvertices := MemorySource.vertices_assemble_distinct hnames ids hloaded
  refine ⟨fun a b => TableName.qualified_ne_iff_apart.mpr, MemorySource.introspect_distinct hnames, _, _,
    MemorySource.convert_distinct hnames options ids, ?_, hvertices, fun table htable hcomplete => ?_,
    MemorySource.links_assemble_distinct hnames ids hloaded⟩
  · have hfailed := MemorySource.failedNames_toSource hnames options
    simp only [StoredTable.isNone_loaded?] at hfailed
    exact hfailed
  · have hown := MemorySource.vertices_of_label hnames ids htable
    rw [← hvertices, StoredTable.fetchedRows, if_pos hcomplete] at hown
    exact hown

/-- persons of two schemas, one of them with a point in its name; those of the one refer to those of the other. A table of
notes lacks its key column. -/
def offices : MemorySource := ⟨.postgresql, [
  ⟨⟨some "staff.old", "person"⟩, [⟨"id", "integer"⟩, ⟨"name", "text"⟩], ["id"], [], [[.int 1, .text "Ada"]]⟩,
  ⟨⟨some "", "note"⟩, [⟨"body", "text"⟩], ["id"], [], [[.text "late"]]⟩,
  ⟨⟨some "staff", "person"⟩, [⟨"name", "text"⟩, ⟨"after", "integer"⟩], ["name"],
    [⟨"after", some "staff.old", "person", "id"⟩], [[.text "Bob", .int 1], [.text "Ada"]]⟩]⟩

/-- **Persons of two schemas** keep their own keys and rows, and the notes alone are left out -/
theorem offices_apart :
    (offices.tables.Pairwise fun a b => a.name.Apart b.name) ∧ ∃ (graph : Graph Nat) (report : Report),
      (convert offices.toSource {} id).value = .ok (graph, report) ∧ report.failedTables = ["note"] ∧
      graph.vertices = [⟨0, "staff.old.person", .ofList [("name", .string "Ada")]⟩, ⟨1, "staff.person", .empty⟩,
        ⟨2, "staff.person", .empty⟩] ∧
      graph.edges.map (·.link) = [⟨"staff.person", 1, 0, .empty⟩] := by
  have hdistinct : offices.tables.Pairwise fun a b => a.name.qualified ≠ b.name.qualified := by decide
  have hapart : offices.tables.Pairwise fun a b => a.name.Apart b.name :=
    hdistinct.imp fun hne => TableName.qualified_ne_iff_apart.mp hne
  obtain ⟨-, -, graph, report, hrun, hfailed, hvertices, -, hlinks⟩ := convert_tables_apart hapart {} (id : Nat → Nat)
  refine ⟨hapart, graph, report, hrun, hfailed.trans ?_, hvertices.trans ?_, hlinks.trans ?_⟩
  · decide +kernel
  · decide +kernel
  · decide +kernel

/-- persons of two schemas under one qualified name, and a table of notes that lacks its key column -/
def merged : MemorySource := ⟨.postgresql, [
  ⟨⟨some "staff", "old.person"⟩, [⟨"id", "integer"⟩, ⟨"name", "text"⟩], ["id"], [], [[.int 1, .text "Ada"]]⟩,
  ⟨⟨some "staff.old", "person"⟩, [⟨"id", "integer"⟩, ⟨"city", "text"⟩], ["id"], [], [[.int 7, .text "Rome"]]⟩,
  ⟨⟨none, "note"⟩, [⟨"body", "text"⟩], ["id"], [], [[.text "late"]]⟩]⟩

/-- **Different tables that mix**: the names of the tables are pairwise different, but two of them are cut from the same
text, and the rows of the first table become vertices twice, those of the second one never; of the notes, no row is
fetched -/
theorem merged_tables_mix :
    (merged.tables.Pairwise fun a b => ¬a.name.Same b.name) ∧
      TableName.qualified ⟨some "staff", "old.person"⟩ = TableName.qualified ⟨some "staff.old", "person"⟩ ∧
      ∃ (graph : Graph Nat) (report : Report), (convert merged.toSource {} id).value = .ok (graph, report) ∧
        report.failedTables = ["note"] ∧
        graph.vertices = [⟨0, "staff.old.person", .ofList [("name", .string "Ada")]⟩,
          ⟨1, "staff.old.person", .ofList [("name", .string "Ada")]⟩] := by
  have hrun := merged.convert_memory merged.dialect merged.toSource.rowCount merged.run {} (id : Nat → Nat)
  refine ⟨by simp [merged, TableName.Same, TableName.schema?], by decide, _, _, hrun, ?_, ?_⟩
  · decide +kernel
  · decide +kernel

end TableGraph
