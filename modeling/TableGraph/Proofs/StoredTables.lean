/-
Tables in memory, as they are described and loaded. Of a well-formed table every row is loaded, with its values in the
columns that the plan of the table asks for.

Results:
- `StoredTable.fetches_plan`: the plan of a table asks for columns of the table, each in its declared type.
- `StoredTable.loaded?_of_wellFormed`: a well-formed table is loaded with the values of all its rows.
- `MemorySource.loaded_toSource`, `MemorySource.failedNames_toSource`: with distinct names every table is loaded by itself,
  or fails by itself.
- `MemorySource.convert_wellFormed`: a conversion of well-formed tables gives the graph of all their rows.
-/
import TableGraph.Proofs.Classification
import TableGraph.Proofs.MemoryRuns
import TableGraph.Proofs.StoredRows

namespace TableGraph

namespace StoredTable

variable (table : StoredTable)

/-! ## Descriptions -/

/-- the table as introspection describes it, its number of rows left aside -/
def described : TableDescription := table.metadata.describe table.name 0

/-- the declared type of a column -/
def typeOf (name : String) : ColumnType := (table.metadata.keyColumn name).2

@[simp] theorem described_label : table.described.label = table.label := rfl

@[simp] theorem described_isJunction : table.described.isJunction = table.isJunction := by
  simp [TableDescription.isJunction, described, Metadata.describe, metadata, isJunction]

@[simp] theorem described_primaryKeyNames : table.described.primaryKeyNames = table.primaryKey :=
  table.metadata.primaryKeyNames_describe table.name 0

@[simp] theorem described_referenceNames : table.described.referenceNames = table.references.map (·.column) :=
  table.metadata.referenceNames_describe table.name 0

/-- a reference as introspection describes it -/
def referenceOf (reference : DeclaredReference) : Reference :=
  ⟨reference.column, table.typeOf reference.column, reference.targetColumn, reference.target⟩

theorem described_references : table.described.references = table.references.map table.referenceOf := rfl

theorem described_attributes : table.described.attributes.map (·.name) = table.attributeNames := by
  have hothers : table.metadata.otherColumns.map (·.1) =
      table.columns.filter fun column => !table.metadata.isKey column.name := by
    conv_rhs => rw [← List.zipIdx_map_fst 0 table.columns, List.filter_map]
    rfl
  have hnames : table.described.attributes.map (·.name) = (table.metadata.otherColumns.map (·.1)).filterMap fun column =>
      if (ColumnType.ofName column.typeName).isSupported then some column.name else none := by
    rw [List.filterMap_map]
    simp only [described, Metadata.describe, Metadata.attributes, List.map_filterMap]
    refine List.filterMap_congr fun entry _ => ?_
    simp only [Function.comp_apply]
    split_ifs <;> rfl
  rw [hnames, hothers, attributeNames, List.filterMap_filter, ← List.filterMap_eq_map, List.filterMap_filter]
  refine List.filterMap_congr fun column _ => ?_
  cases table.metadata.isKey column.name <;> simp

/-- the attributes are described in their declared types -/
theorem type_of_mem_attributes (hcolumns : table.columnNames.Nodup) {column : Column}
    (h : column ∈ table.described.attributes) : column.type = table.typeOf column.name := by
  simp only [described, Metadata.describe, Metadata.attributes, Metadata.otherColumns] at h
  obtain ⟨⟨declared, place⟩, hmem, hcolumn⟩ := List.mem_filterMap.mp h
  have hplace := List.mk_mem_zipIdx_iff_getElem?.mp (List.mem_of_mem_filter hmem)
  split_ifs at hcolumn
  cases hcolumn
  rw [typeOf, Metadata.keyColumn, find?_of_getElem? hcolumns hplace]

/-! ## Plans -/

/-- the plan of a table, without ranges -/
def plan : RetrievalPlan :=
  match table.described.junction? with
  | some rule => (rule.plan .postgresql {}).inFull
  | none => (table.described.plan .postgresql {}).inFull

/-- the junction of a table with two references -/
def junction (one two : DeclaredReference) : JunctionRule :=
  ⟨table.name, table.label, TableDescription.endpoint (table.referenceOf one),
    TableDescription.endpoint (table.referenceOf two), table.described.attributes, 0⟩

variable {table}

/-- a junction table has two references, from which its junction is made -/
theorem junction?_of_isJunction (h : table.isJunction = true) :
    ∃ one two, table.references = [one, two] ∧ table.described.junction? = some (table.junction one two) ∧
      table.described.edgeRules = [.junction (table.junction one two)] := by
  have hreferences : table.references.length = 2 := by
    simp only [isJunction, Bool.and_eq_true, beq_iff_eq] at h
    exact h.1
  obtain ⟨one, two, heq⟩ := List.length_eq_two.mp hreferences
  have hdescribed : table.described.references = [table.referenceOf one, table.referenceOf two] := by
    rw [described_references, heq]
    rfl
  have hjunction : table.described.isJunction = true := by rw [described_isJunction, h]
  refine ⟨one, two, heq, ?_, ?_⟩
  · rw [TableDescription.junction?, hjunction, hdescribed]
    rfl
  · rw [TableDescription.edgeRules, hjunction, hdescribed]
    rfl

theorem junction?_of_not_isJunction (h : table.isJunction = false) : table.described.junction? = none :=
  TableDescription.junction?_of_not_isJunction (by rw [described_isJunction, h])

theorem plan_of_not_isJunction (h : table.isJunction = false) :
    table.plan = (table.described.plan .postgresql {}).inFull := by
  rw [plan, junction?_of_not_isJunction h]

theorem plan_of_junction? {rule : JunctionRule} (h : table.described.junction? = some rule) :
    table.plan = (rule.plan .postgresql {}).inFull := by
  rw [plan, h]

variable (table)

/-- a table has the plan of its description, or that of the junction of its two references -/
theorem plan_cases :
    (table.isJunction = false ∧ table.plan = (table.described.plan .postgresql {}).inFull) ∨
      ∃ one two, table.isJunction = true ∧ table.references = [one, two] ∧
        table.plan = ((table.junction one two).plan .postgresql {}).inFull := by
  cases hjunction : table.isJunction with
  | false => exact .inl ⟨rfl, plan_of_not_isJunction hjunction⟩
  | true =>
    obtain ⟨one, two, hreferences, hrule, -⟩ := junction?_of_isJunction hjunction
    exact .inr ⟨one, two, rfl, hreferences, plan_of_junction? hrule⟩

@[simp] theorem plan_label : table.plan.label = table.label := by
  rcases table.plan_cases with ⟨-, hplan⟩ | ⟨one, two, -, -, hplan⟩
  · rw [hplan]
    rfl
  · rw [hplan]
    rfl

theorem plan_kind : table.plan.kind = if table.isJunction then .junction else .vertex := by
  rcases table.plan_cases with ⟨hvertex, hplan⟩ | ⟨one, two, hjunction, -, hplan⟩
  · rw [hplan, hvertex]
    rfl
  · rw [hplan, hjunction]
    rfl

theorem plan_source : table.plan.query.source = table.name := by
  rcases table.plan_cases with ⟨-, hplan⟩ | ⟨one, two, -, -, hplan⟩
  · rw [hplan]
    rfl
  · rw [hplan]
    rfl

/-- whether a plan asks for columns of a table, each in its declared type and read from its own cell -/
structure Fetches (plan : RetrievalPlan) : Prop where
  source : plan.query.source = table.name
  columns : plan.query.columns = plan.header.names
  aligned : plan.header.Aligned
  typed : plan.header.Typed table.typeOf
  listed : ∀ name ∈ plan.header.names, name ∈ table.columnNames

variable {table}

theorem mem_columnNames_of_attribute {name : String} (h : name ∈ table.attributeNames) : name ∈ table.columnNames := by
  obtain ⟨column, hcolumn, rfl, -⟩ := mem_attributeNames.mp h
  exact List.mem_map_of_mem hcolumn

/-- the columns that are fetched from a vertex table: its keys and its attributes -/
theorem mem_described_header_names {name : String} : name ∈ table.described.header.names ↔
    table.metadata.isKey name = true ∨ name ∈ table.attributeNames := by
  rw [TableDescription.mem_header_names, described_primaryKeyNames, described_referenceNames, described_attributes,
    isKey_metadata, or_assoc]

theorem WellFormed.mem_of_isKey (h : table.WellFormed) {name : String} (hkey : table.metadata.isKey name = true) :
    name ∈ table.columnNames := by
  rcases isKey_metadata.mp hkey with hname | hname
  · exact h.primaryKey name hname
  · obtain ⟨reference, hreference, rfl⟩ := List.mem_map.mp hname
    exact h.references reference hreference

/-- **The plan of a table asks for columns of the table**, each in its declared type -/
theorem fetches_plan (h : table.WellFormed) : table.Fetches table.plan := by
  have hattributes : ∀ column ∈ table.described.attributes, column.type = table.typeOf column.name :=
    fun column => table.type_of_mem_attributes h.columns
  rcases table.plan_cases with ⟨-, hplan⟩ | ⟨one, two, -, hreferences, hplan⟩
  · rw [hplan]
    refine ⟨rfl, rfl, table.described.aligned_header, ?_, ?_⟩
    · refine table.described.typed_header ?_ ?_ hattributes
      · intro column hcolumn
        obtain ⟨name, -, rfl⟩ := List.mem_map.mp hcolumn
        rfl
      · intro reference hreference
        obtain ⟨declared, -, rfl⟩ := List.mem_map.mp hreference
        rfl
    · intro name hname
      rcases mem_described_header_names.mp hname with hkey | hattribute
      · exact h.mem_of_isKey hkey
      · exact mem_columnNames_of_attribute hattribute
  · rw [hplan]
    refine ⟨rfl, rfl, (table.junction one two).aligned_header, ?_, ?_⟩
    · exact (table.junction one two).typed_header rfl rfl hattributes
    · intro name hname
      have hnames : name = one.column ∨ name = two.column ∨ name ∈ table.attributeNames := by
        simpa [RetrievalPlan.inFull, JunctionRule.plan, JunctionRule.header_names, junction, TableDescription.endpoint,
          referenceOf, described_attributes] using hname
      rcases hnames with rfl | rfl | hattribute
      · exact h.references one (by simp [hreferences])
      · exact h.references two (by simp [hreferences])
      · exact mem_columnNames_of_attribute hattribute

/-! ## Rows -/

variable (table)

/-- the cell of a row in a column; a missing cell is null -/
def cell (row : Row) (name : String) : Cell := ((table.columnIndex? name).bind fun index => row[index]?).getD .null

/-- what is loaded of a table by its own plan, if its columns are found -/
def loaded? : Option LoadedTable :=
  (table.plan.query.columns.mapM table.columnIndex?).map fun indices =>
    table.plan.tableOf (table.rows.map fun row => cellsAt row indices)

/-- the rows of a table as a plan loads them -/
def loadedAs (plan : RetrievalPlan) : LoadedTable :=
  ⟨plan.label, plan.kind, table.rows.map fun row => table.valuesIn row plan.header.names,
    (plan.emptyFields (table.rows.map fun row => plan.header.names.map (table.cell row))).length⟩

variable {table}

/-- a table is loaded under its own name, as what its plan says -/
theorem names_of_loaded? {loaded : LoadedTable} (h : table.loaded? = some loaded) :
    loaded.label = table.label ∧ loaded.kind = table.plan.kind := by
  obtain ⟨indices, -, rfl⟩ := Option.map_eq_some_iff.mp h
  exact ⟨table.plan_label, rfl⟩

theorem value?_eq_cell (hcolumns : table.columnNames.Nodup) {name : String} (h : name ∈ table.columnNames) (row : Row) :
    table.value? row name = (table.cell row name).value? (table.typeOf name) := by
  obtain ⟨index, column, hindex, rfl⟩ := exists_column h
  rw [value?_of_getElem? hcolumns hindex, cell, columnIndex?_of_getElem? hcolumns hindex, Option.bind_some, typeOf,
    Metadata.keyColumn, find?_of_getElem? hcolumns hindex]

/-- a row is loaded with its values in the columns that are fetched -/
theorem values_cells (hcolumns : table.columnNames.Nodup) {plan : RetrievalPlan} (h : table.Fetches plan) (row : Row) :
    plan.header.values (plan.header.names.map (table.cell row)) = table.valuesIn row plan.header.names := by
  rw [Header.values_eq h.aligned h.typed, valuesIn]
  congr 1
  refine List.filterMap_congr fun name hname => ?_
  rw [value?_eq_cell hcolumns (h.listed name hname)]

theorem isSome_columnIndex? {name : String} : (table.columnIndex? name).isSome ↔ name ∈ table.columnNames := by
  simp [columnIndex?, columnNames]

/-- the cells of columns of the table, row by row -/
theorem cells_of_listed {names : List String} (h : ∀ name ∈ names, name ∈ table.columnNames) :
    ((names.mapM table.columnIndex?).map fun indices => table.rows.map fun row => cellsAt row indices) =
      some (table.rows.map fun row => names.map (table.cell row)) := by
  have hplace : ∀ name ∈ names, table.columnIndex? name = some ((table.columnIndex? name).getD 0) := by
    intro name hname
    obtain ⟨index, hindex⟩ := Option.isSome_iff_exists.mp (isSome_columnIndex?.mpr (h name hname))
    rw [hindex, Option.getD_some]
  have hplaces : names.mapM table.columnIndex? = some (names.map fun name => (table.columnIndex? name).getD 0) :=
    mapM_eq_pure hplace
  have hcells (row : Row) : cellsAt row (names.map fun name => (table.columnIndex? name).getD 0) =
      names.map (table.cell row) := by
    rw [cellsAt, List.map_map]
    refine List.map_congr_left fun name hname => ?_
    conv_rhs => rw [cell, hplace name hname, Option.bind_some]
    rfl
  simp only [hplaces, Option.map_some, hcells]

theorem mapM_columnIndex?_of_missing {names : List String} (h : ¬∀ name ∈ names, name ∈ table.columnNames) :
    names.mapM table.columnIndex? = none := by
  obtain ⟨name, hname, hmissing⟩ : ∃ name ∈ names, name ∉ table.columnNames := by simpa using h
  rw [← Option.isNone_iff_eq_none, isNone_mapM, List.any_eq_true]
  exact ⟨name, hname, by simp [columnIndex?_of_not_mem hmissing]⟩

/-- the cells of some columns can be read if the table has all these columns -/
theorem cells_eq_some_iff {names : List String} {cells : List Row} :
    ((names.mapM table.columnIndex?).map fun indices => table.rows.map fun row => cellsAt row indices) = some cells ↔
      (∀ name ∈ names, name ∈ table.columnNames) ∧ cells = table.rows.map fun row => names.map (table.cell row) := by
  by_cases hlisted : ∀ name ∈ names, name ∈ table.columnNames
  · rw [cells_of_listed hlisted, Option.some.injEq]
    exact ⟨fun h => ⟨hlisted, h.symm⟩, fun h => h.2.symm⟩
  · rw [mapM_columnIndex?_of_missing hlisted, Option.map_none]
    exact ⟨nofun, fun h => absurd h.1 hlisted⟩

/-- a table that has the columns of its plan is loaded -/
theorem loaded?_of_listed (h : ∀ name ∈ table.plan.query.columns, name ∈ table.columnNames) : table.loaded? =
    some (table.plan.tableOf (table.rows.map fun row => table.plan.query.columns.map (table.cell row))) := by
  have hloaded := congrArg (Option.map table.plan.tableOf) (cells_of_listed h)
  rwa [Option.map_map, Option.map_some] at hloaded

/-- **Every row of a well-formed table is loaded** -/
theorem loaded?_of_wellFormed (h : table.WellFormed) : table.loaded? = some (table.loadedAs table.plan) := by
  have hfetches := fetches_plan h
  have hlisted : ∀ name ∈ table.plan.query.columns, name ∈ table.columnNames := hfetches.columns ▸ hfetches.listed
  rw [loaded?_of_listed hlisted, hfetches.columns, RetrievalPlan.tableOf, List.map_map]
  simp only [Function.comp_def, values_cells h.columns hfetches]
  rfl

end StoredTable

/-! ## Tables with distinct names -/

namespace MemorySource

variable (store : MemorySource)

/-- tables have distinct names, and each is well-formed -/
structure WellFormed : Prop where
  names : (store.tables.map (·.label)).Nodup
  tables : ∀ table ∈ store.tables, table.WellFormed

instance : Decidable store.WellFormed :=
  decidable_of_iff ((store.tables.map (·.label)).Nodup ∧ ∀ table ∈ store.tables, table.WellFormed)
    ⟨fun h => ⟨h.1, h.2⟩, fun h => ⟨h.names, h.tables⟩⟩

/-- the tables whose rows become vertices, in order -/
def vertexTables : List StoredTable := store.tables.filter fun table => !table.isJunction

/-- the tables whose rows link rows of others, in order -/
def junctionTables : List StoredTable := store.tables.filter (·.isJunction)

variable {store}

theorem mem_vertexTables {table : StoredTable} :
    table ∈ store.vertexTables ↔ table ∈ store.tables ∧ table.isJunction = false := by
  simp [vertexTables]

theorem mem_junctionTables {table : StoredTable} :
    table ∈ store.junctionTables ↔ table ∈ store.tables ∧ table.isJunction = true := by
  simp [junctionTables]

theorem descriptions_of_nodup (hnames : (store.tables.map (·.label)).Nodup) :
    (store.descriptions fun _ => 0) = store.tables.map (·.described) := by
  rw [descriptions]
  refine List.map_congr_left fun table htable => ?_
  rw [metadataOf, find_of_nodup hnames htable]
  rfl

variable (store)

theorem vertexTables_classify :
    (classify (store.tables.map (·.described))).vertexTables = store.vertexTables.map (·.described) := by
  rw [classify, vertexTables, List.filter_map]
  simp only [Function.comp_def, StoredTable.described_isJunction]

/-- the tables in the order of their plans: vertex tables first, then junction tables -/
def plannedTables : List StoredTable := store.vertexTables ++ store.junctionTables

theorem plannedTables_perm : store.plannedTables.Perm store.tables :=
  filter_not_append_perm StoredTable.isJunction store.tables

theorem planOrder_described : planOrder (store.tables.map (·.described)) = store.plannedTables.map (·.described) := by
  rw [planOrder, plannedTables, vertexTables, junctionTables, List.filter_map, List.filter_map, List.map_append]
  simp only [Function.comp_def, StoredTable.described_isJunction]

/-- every table has its plan: the vertex tables first, then the junction tables -/
theorem plans_classify :
    ((classify (store.tables.map (·.described))).plans .postgresql {}).map (·.inFull) =
      (store.vertexTables ++ store.junctionTables).map (·.plan) := by
  rw [plans_eq_map, planOrder_described, List.map_map, List.map_map]
  refine List.map_congr_left fun table _ => ?_
  simp only [Function.comp_apply, TableDescription.retrieval, StoredTable.plan]
  cases table.described.junction? <;> rfl

variable {store}

section Distinct

variable (hnames : (store.tables.map (·.label)).Nodup)
include hnames

/-- with distinct names, what is loaded by the plan of a table is what is loaded of this table -/
theorem loaded?_own {table : StoredTable} (htable : table ∈ store.plannedTables) :
    store.loaded? table.plan = table.loaded? := by
  rw [loaded?, answer?, StoredTable.plan_source, find_of_nodup hnames (store.plannedTables_perm.mem_iff.mp htable),
    StoredTable.loaded?]
  simp only [Except.toOption, Option.bind_some, Option.map_map]
  rfl

/-- **Every table is loaded by itself** -/
theorem loaded_toSource (options : RetrievalOptions) :
    (loadPlans store.toSource (store.toSource.plans options)).value.loaded =
      store.plannedTables.filterMap (·.loaded?) := by
  have hloaded := store.loaded_answering store.dialect store.toSource.rowCount options
  rw [descriptions_of_nodup hnames, plans_classify, List.filterMap_map] at hloaded
  exact hloaded.trans (List.filterMap_congr fun table htable => loaded?_own hnames htable)

/-- **A table fails by itself** -/
theorem failedNames_toSource (options : RetrievalOptions) :
    (loadPlans store.toSource (store.toSource.plans options)).value.failedNames =
      (store.plannedTables.filter fun table => table.loaded?.isNone).map (·.label) := by
  have hfailed := store.failedNames_answering store.dialect store.toSource.rowCount options
  rw [descriptions_of_nodup hnames, plans_classify, List.filter_map, List.map_map] at hfailed
  refine hfailed.trans ?_
  have hown : ∀ table ∈ store.vertexTables ++ store.junctionTables,
      (store.loaded? table.plan).isNone = table.loaded?.isNone := fun table htable => by rw [loaded?_own hnames htable]
  simp only [Function.comp_def, StoredTable.plan_label]
  rw [List.filter_congr hown, plannedTables]

/-- the tables that are loaded have distinct names, as all tables have -/
theorem nodup_loaded :
    ((store.plannedTables.filterMap (·.loaded?)).map (·.label)).Nodup := by
  have hplanned : (store.plannedTables.map (·.label)).Nodup := (store.plannedTables_perm.map _).nodup_iff.mpr hnames
  have hdistinct := List.pairwise_map.mp hplanned
  refine List.pairwise_map.mpr (hdistinct.filterMap _ fun table other hne loaded hloaded loaded' hloaded' => ?_)
  rwa [(StoredTable.names_of_loaded? hloaded).1, (StoredTable.names_of_loaded? hloaded').1]

theorem convert_distinct {ι : Type} (options : RetrievalOptions) (ids : Nat → ι) :
    (convert store.toSource options ids).value = .ok (assemble ids (store.tables.map (·.described))
      (loadPlans store.toSource (store.toSource.plans options)).value) := by
  have hrun := store.convert_memory store.dialect store.toSource.rowCount store.run options ids
  rwa [descriptions_of_nodup hnames] at hrun

end Distinct

/-- what is loaded: the vertex tables, then the junction tables -/
def loadedTables (store : MemorySource) : List LoadedTable :=
  (store.vertexTables ++ store.junctionTables).map fun table => table.loadedAs table.plan

theorem loaded_wellFormed (h : store.WellFormed) (options : RetrievalOptions) :
    (loadPlans store.toSource (store.toSource.plans options)).value.loaded = store.loadedTables := by
  rw [loaded_toSource h.names, loadedTables, ← List.filterMap_eq_map]
  refine List.filterMap_congr fun table htable => ?_
  exact StoredTable.loaded?_of_wellFormed (h.tables table (store.plannedTables_perm.mem_iff.mp htable))

theorem failedNames_wellFormed (h : store.WellFormed) (options : RetrievalOptions) :
    (loadPlans store.toSource (store.toSource.plans options)).value.failedNames = [] := by
  rw [failedNames_toSource h.names, List.map_eq_nil_iff, List.filter_eq_nil_iff]
  intro table htable
  simp [StoredTable.loaded?_of_wellFormed (h.tables table (store.plannedTables_perm.mem_iff.mp htable))]

/-- **A conversion of well-formed tables** gives the graph of all their rows -/
theorem convert_wellFormed {ι : Type} (h : store.WellFormed) (options : RetrievalOptions) (ids : Nat → ι) :
    (convert store.toSource options ids).value =
      .ok (assemble ids (store.tables.map (·.described)) ⟨store.loadedTables, []⟩) := by
  rw [convert_distinct h.names]
  exact congrArg Except.ok (assemble_congr ids _ (loaded_wellFormed h options) (failedNames_wellFormed h options))

end MemorySource

end TableGraph
