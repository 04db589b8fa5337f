/-
The report accounts for the run. Whatever a source answers, a conversion that gives a graph has counted every listed table,
every vertex and every edge once, and every field that it left out; it names the tables of which a query failed, and no
others.

Fields are left out of fetched rows only. So their number can be read off the answers to the queries as well as off the
notices: no other stage gives a notice of this kind.

Results:
- `emptyField_notices_convert`: the notices of fields left out, table by table.
- `convert_report_accounts`: the counts of a report.
Witness:
- `report_of_lendings`: a junction that is listed first, a field that cannot be converted, and a table that fails.
-/
import TableGraph.Proofs.Classification
import TableGraph.Proofs.GraphIntegrity
import TableGraph.Source.Faults

namespace TableGraph

variable {ι : Type}

/-! ## Notices of fields left out -/

/-- whether a notice is about a field that was left out -/
def Notice.isEmptyField : Notice → Bool
  | .emptyField .. => true
  | _ => false

namespace Source

variable (source : Source)

theorem isEmptyField_describe (name : TableName) :
    ∀ notice ∈ (source.describe name).notices, notice.isEmptyField = false := by
  intro notice hnotice
  unfold describe at hnotice
  cases hread : Metadata.read source name with
  | error cause => simp [hread] at hnotice
  | ok metadata =>
    simp only [hread, Noted.notices_bind, Noted.notices_tell, Noted.notices_pure, List.append_nil, List.mem_append]
      at hnotice
    rcases hnotice with hnotice | hnotice
    · simp only [Metadata.notices, List.mem_append, List.mem_map] at hnotice
      rcases hnotice with ⟨column, -, rfl⟩ | ⟨entry, -, rfl⟩ <;> rfl
    · unfold estimatedRows at hnotice
      cases hcount : source.rowCount name with
      | ok count => simp [hcount] at hnotice
      | error cause =>
        simp only [hcount, List.mem_singleton] at hnotice
        exact hnotice ▸ rfl

/-- introspection gives no notice of a field -/
theorem isEmptyField_introspect : ∀ notice ∈ source.introspect.notices, notice.isEmptyField = false := by
  have hall (names : List TableName) : ∀ notice ∈ (source.describeAll names).notices, notice.isEmptyField = false := by
    induction names with
    | nil =>
      intro notice hnotice
      cases hnotice
    | cons name rest ih =>
      intro notice hnotice
      simp only [describeAll, Noted.notices_bind, List.mem_append] at hnotice
      rcases hnotice with hnotice | hnotice
      · exact source.isEmptyField_describe name notice hnotice
      · cases hvalue : (source.describe name).value with
        | error cause => simp [hvalue] at hnotice
        | ok table =>
          simp only [hvalue, Noted.notices_bind, Noted.notices_pure, List.append_nil] at hnotice
          exact ih notice hnotice
  unfold introspect
  cases source.tables with
  | error cause =>
    intro notice hnotice
    cases hnotice
  | ok names => exact hall names

end Source

/-! ## What becomes of a table -/

namespace TableDescription

variable (table : TableDescription) (source : Source) (options : RetrievalOptions)

/-- whether a query for the rows of a table fails -/
def fetchFails : Bool := (table.retrieval source.dialect options).failsOn source

/-- the fields left out of the fetched rows of a table -/
def emptyFields : List EmptyField :=
  let plan := table.retrieval source.dialect options
  plan.emptyFields (plan.answers source)

end TableDescription

/-- the described tables whose rows are fetched, in the order of their plans -/
def Source.fetchedTables (source : Source) (options : RetrievalOptions) (tables : List TableDescription) :
    List TableDescription :=
  (planOrder tables).filter fun table => !table.fetchFails source options

section Described

variable {source : Source} {options : RetrievalOptions} {tables : List TableDescription}
  (htables : source.introspect.value = .ok tables)
include htables

theorem plans_of_introspect :
    source.plans options = (planOrder tables).map (·.retrieval source.dialect options) := by
  rw [Source.plans, htables]
  exact plans_eq_map tables source.dialect options

theorem failedNames_of_introspect :
    (loadPlans source (source.plans options)).value.failedNames =
      ((planOrder tables).filter fun table => table.fetchFails source options).map (·.source.qualified) := by
  rw [loadPlans_failedNames, plans_of_introspect htables, List.filter_map, List.map_map]
  refine List.map_congr_left fun table htable => ?_
  have hmem := (planOrder_perm tables).mem_iff.mp (List.mem_of_mem_filter htable)
  exact (table.names_retrieval source.dialect options).2.trans ((source.introspect_ok htables).2 table hmem)

theorem skippedFields_of_introspect :
    (loadPlans source (source.plans options)).value.skippedFields =
      ((source.fetchedTables options tables).map fun table => (table.emptyFields source options).length).sum := by
  rw [loadPlans_skippedFields, plans_of_introspect htables, List.filter_map, List.map_map]
  rfl

/-- **The notices of fields left out**, for the tables that are fetched and for no others -/
theorem emptyField_notices_convert (ids : Nat → ι) :
    (convert source options ids).notices.filter (·.isEmptyField) =
      (source.fetchedTables options tables).flatMap fun table =>
        (table.emptyFields source options).map (·.notice table.source.qualified) := by
  have hintrospection := List.filter_eq_nil_iff.mpr fun notice hnotice =>
    Bool.eq_false_iff.mp (source.isEmptyField_introspect notice hnotice)
  set results := loadPlans source (source.plans options) with hresults
  have hskips : (results.value.skipNotices ++ results.value.summaryNotices).filter (·.isEmptyField) = [] := by
    rw [List.filter_eq_nil_iff]
    intro notice hnotice
    simp only [LoadedTables.skipNotices, LoadedTables.summaryNotices, List.mem_append, List.mem_map] at hnotice
    rcases hnotice with ⟨entry, -, rfl⟩ | hnotice
    · exact Bool.false_ne_true
    · split_ifs at hnotice
      · cases hnotice
      · exact List.mem_singleton.mp hnotice ▸ Bool.false_ne_true
  have hnotices : (convert source options ids).notices =
      source.introspect.notices ++ (results.notices ++ (results.value.skipNotices ++ results.value.summaryNotices)) := by
    rw [hresults, Source.plans]
    simp only [convert, Noted.notices_bind, htables, Noted.notices_tell, Noted.notices_pure, List.append_nil]
  have hfields : results.notices = (source.fetchedTables options tables).flatMap fun table =>
      (table.emptyFields source options).map (·.notice table.source.qualified) := by
    rw [hresults, notices_loadPlans, plans_of_introspect htables, List.filter_map, List.flatMap_map]
    refine List.flatMap_congr fun table htable => ?_
    have hmem := (planOrder_perm tables).mem_iff.mp (List.mem_of_mem_filter htable)
    rw [(table.names_retrieval source.dialect options).2, (source.introspect_ok htables).2 table hmem]
    rfl
  rw [hnotices, List.filter_append, List.filter_append, hintrospection, hskips, List.nil_append, List.append_nil, hfields]
  refine List.filter_eq_self.mpr fun notice hnotice => ?_
  obtain ⟨table, -, hnotice⟩ := List.mem_flatMap.mp hnotice
  obtain ⟨field, -, rfl⟩ := List.mem_map.mp hnotice
  rfl

end Described

/-- **The report accounts for the run.** Whatever a source answers, and whichever of its queries fail, a conversion that
gives a graph has described the listed tables, and its report counts them, each as a vertex table or as a junction table,
and the vertices and the edges of the graph. Edges of junctions come in pairs. The failed tables are those of which a query
fails, vertex tables first; the fields left out are those of the tables that are fetched, and there is a notice for each of
them. -/
theorem convert_report_accounts {source : Source} {options : RetrievalOptions} {ids : Nat → ι} {graph : Graph ι}
    {report : Report} (h : (convert source options ids).value = .ok (graph, report)) :
    ∃ tables : List TableDescription, source.introspect.value = .ok tables ∧
      source.tables = .ok (tables.map (·.source)) ∧
      report.tablesIntrospected = tables.length ∧ report.vertexTables + report.junctionTables = tables.length ∧
      report.junctionTables = tables.countP (·.isJunction) ∧
      report.vertices = graph.vertices.length ∧ report.directEdges + report.junctionEdges = graph.edges.length ∧
      Even report.junctionEdges ∧
      report.failedTables =
        ((planOrder tables).filter fun table => table.fetchFails source options).map (·.source.qualified) ∧
      report.skippedFields =
        ((source.fetchedTables options tables).map fun table => (table.emptyFields source options).length).sum ∧
      report.skippedFields = (convert source options ids).notices.countP (·.isEmptyField) := by
  obtain ⟨tables, htables, hgraph⟩ := exists_assemble_of_convert h
  have hfailed : (loadPlans source (source.plans options)).value.failedNames = _ := failedNames_of_introspect htables
  have hskipped : (loadPlans source (source.plans options)).value.skippedFields = _ := skippedFields_of_introspect htables
  set results := (loadPlans source (source.plans options)).value
  set vertices := buildVertices ids (classify tables).vertexTables results.loaded
  obtain ⟨rfl, rfl⟩ : (assemble ids tables results).1 = graph ∧ (assemble ids tables results).2 = report :=
    ⟨congrArg (·.1) hgraph, congrArg (·.2) hgraph⟩
  refine ⟨tables, htables, (source.introspect_ok htables).1, rfl, ?_, length_junctions_classify tables,
    (List.length_map _).symm, ?_, ?_, hfailed, hskipped, ?_⟩
  · -- every table is a junction table or a vertex table
    have hvertices : (classify tables).vertexTables.length = tables.countP fun table => !table.isJunction :=
      List.countP_eq_length_filter.symm
    change (classify tables).vertexTables.length + (classify tables).junctions.length = tables.length
    rw [hvertices, length_junctions_classify, List.length_eq_countP_add_countP (fun table => table.isJunction),
      Nat.add_comm]
    simp
  · exact length_edges_buildEdges ids vertices.length vertices _ _
  · exact even_junctionEdges_buildEdges ids vertices.length vertices _ _
  · rw [List.countP_eq_length_filter, emptyField_notices_convert htables, List.length_flatMap]
    simp only [List.length_map]
    exact hskipped

/-- a lending of a book to a reader, listed before both of them; the name of the second reader cannot be decoded, and the
number of the fine is none -/
def lendings : MemorySource := ⟨.postgresql, [
  ⟨⟨none, "lending"⟩, [⟨"reader", "integer"⟩, ⟨"book", "integer"⟩], ["reader", "book"],
    [⟨"reader", none, "reader", "id"⟩, ⟨"book", none, "book", "id"⟩], [[.int 1, .int 7]]⟩,
  ⟨⟨none, "reader"⟩, [⟨"id", "integer"⟩, ⟨"name", "text"⟩], ["id"], [],
    [[.int 1, .text "Ada"], [.int 2, .undecodable "no text"]]⟩,
  ⟨⟨none, "fine"⟩, [⟨"id", "integer"⟩, ⟨"reader", "integer"⟩], ["id"], [⟨"reader", none, "reader", "id"⟩],
    [[.text "x", .int 1]]⟩,
  ⟨⟨none, "book"⟩, [⟨"id", "integer"⟩], ["id"], [], [[.int 7]]⟩]⟩

/-- the same tables, but fines cannot be fetched -/
def lendingsWithoutFines : Source :=
  lendings.toSource.withFaults
    { Faults.none with rows := fun table _ => if table = "fine" then some "denied" else none }

/-- **Four tables, one of which fails**: the field that is left out of it is not counted, since no row of it is seen -/
theorem report_of_lendings :
    ∃ (graph : Graph Nat) (report : Report), (convert lendingsWithoutFines {} id).value = .ok (graph, report) ∧
      report.vertexTables + report.junctionTables = 4 ∧ report.vertices = graph.vertices.length ∧
      report.directEdges + report.junctionEdges = graph.edges.length ∧ Even report.junctionEdges ∧
      report.failedTables = ["fine"] ∧ report.skippedFields = 1 ∧
      (convert lendingsWithoutFines {} id).notices.countP (·.isEmptyField) = 1 := by
  have hrun : (convert lendingsWithoutFines {} id).value = .ok (assemble id (lendings.descriptions fun _ => 0)
      (loadPlans lendingsWithoutFines (lendingsWithoutFines.plans {})).value) :=
    lendings.convert_memory .postgresql lendingsWithoutFines.rowCount lendingsWithoutFines.rows {} (id : Nat → Nat)
  obtain ⟨tables, -, hnames, -, hcount, -, hvertices, hedges, heven, -, -, hnotices⟩ := convert_report_accounts hrun
  have hfour : tables.length = 4 :=
    (List.length_map _).symm.trans (congrArg List.length (Except.ok.inj hnames)).symm
  have hskipped : (loadPlans lendingsWithoutFines (lendingsWithoutFines.plans {})).value.skippedFields = 1 := by
    decide +kernel
  have hfailed : (loadPlans lendingsWithoutFines (lendingsWithoutFines.plans {})).value.failedNames = ["fine"] := by
    decide +kernel
  exact ⟨_, _, hrun, hcount.trans hfour, hvertices, hedges, heven, hfailed, hskipped, hnotices.symm.trans hskipped⟩

end TableGraph
