/-
Failing queries stay with their tables: a table of which a query fails is left out as a whole, and everything else comes
out as if the table had no rows.

Results:
- `convert_failures_isolated`: the conversion with failures succeeds, names the tables that failed, and gives the graph
  and the counts of the conversion without failures of the same tables, the failed ones without rows.
Witness:
- `second_range_fails`: a table is fetched in two ranges, of which the second fails. The answer to the first is dropped
  too, and the reference to the table is dangling.
-/
import TableGraph.Proofs.NestedLoops
import TableGraph.Proofs.StoredTables
import TableGraph.Source.Faults

namespace TableGraph

variable {ι : Type}

/-- a table without rows, if its name is among these -/
def StoredTable.emptied (labels : List String) (table : StoredTable) : StoredTable :=
  if labels.contains table.name.qualified then { table with rows := [] } else table

namespace MemorySource

/-- the tables in memory, those of some names without rows -/
def emptied (store : MemorySource) (labels : List String) : MemorySource :=
  { store with tables := store.tables.map (·.emptied labels) }

variable (store : MemorySource) (labels : List String)

@[simp] theorem emptied_name (table : StoredTable) : (table.emptied labels).name = table.name := by
  unfold StoredTable.emptied
  split_ifs <;> rfl

@[simp] theorem emptied_metadata (table : StoredTable) : (table.emptied labels).metadata = table.metadata := by
  unfold StoredTable.emptied
  split_ifs <;> rfl

theorem find_emptied (name : TableName) : (store.emptied labels).find name = (store.find name).map (·.emptied labels) := by
  unfold find emptied
  rw [List.find?_map]
  simp only [Function.comp_def, emptied_name]
  cases store.tables.find? fun table => table.name.qualified == name.qualified <;> rfl

/-- emptying tables leaves their descriptions as they are, but for the numbers of rows -/
theorem descriptions_emptied (count : TableName → Nat) :
    (store.emptied labels).descriptions count = store.descriptions count := by
  have hmetadata (name : TableName) : (store.emptied labels).metadataOf name = store.metadataOf name := by
    unfold metadataOf
    rw [find_emptied]
    cases store.find name with
    | error cause => rfl
    | ok table => exact emptied_metadata labels table
  simp only [descriptions, hmetadata]
  rw [emptied, List.map_map]
  simp [Function.comp_def]

/-- a table, as it is loaded when its rows are gone -/
def cleared (table : LoadedTable) : LoadedTable := { table with rows := [], skippedFields := 0 }

theorem loaded?_emptied (plan : RetrievalPlan) :
    (store.emptied labels).loaded? plan =
      if labels.contains plan.query.source.qualified then (store.loaded? plan).map cleared else store.loaded? plan := by
  unfold loaded? answer?
  rw [find_emptied]
  cases hfind : store.find plan.query.source with
  | error cause => simp [Except.map, Except.toOption]
  | ok table =>
    have hname := (of_find hfind).2
    simp only [Except.map, Except.toOption, Option.bind_some, StoredTable.emptied, hname]
    split_ifs
    · simp only [Option.map_map]
      rfl
    · rfl

end MemorySource

/-! ## Failing queries -/

/-- the source, with other answers to some queries: failures, each with its reason -/
def Source.withQueryFaults (source : Source) (fault : String → Option RowRange → Option String) : Source :=
  source.withFaults { Faults.none with rows := fault }

/-- the names of the tables of which at least one query fails, in the order of the plans -/
def Source.failedTables (source : Source) (options : RetrievalOptions) : List String :=
  ((source.plans options).filter fun plan => plan.failsOn source).map (·.label)

section Failing

variable (store : MemorySource) (fault : String → Option RowRange → Option String) (options : RetrievalOptions)

/-- only the answers to queries differ -/
theorem withQueryFaults_eq : store.toSource.withQueryFaults fault = store.answering store.dialect
    store.toSource.rowCount (store.toSource.withQueryFaults fault).rows := rfl

/-- a plan none of whose queries fails loads what it loads without failures -/
theorem loaded?_withQueryFaults {store : MemorySource} {fault : String → Option RowRange → Option String}
    {plan : RetrievalPlan} (hplan : plan.Covers) (h : plan.failsOn (store.toSource.withQueryFaults fault) = false) :
    plan.loaded? (store.toSource.withQueryFaults fault) = store.loaded? plan := by
  have hmemory : plan.loaded? store.toSource = store.loaded? plan := store.loaded?_memory rfl hplan
  rw [← hmemory]
  refine plan.loaded?_congr fun range hrange => ?_
  have hanswered := List.any_eq_false.mp h range hrange
  simp only [Source.withQueryFaults, Source.withFaults] at hanswered ⊢
  split at hanswered
  · simp [Except.toOption] at hanswered
  · rfl

/-- a loaded table has the label of its plan -/
theorem label_of_loaded? {store : MemorySource} {plan : RetrievalPlan} {table : LoadedTable}
    (h : store.loaded? plan = some table) : table.label = plan.label := by
  obtain ⟨rows, -, rfl⟩ := Option.map_eq_some_iff.mp h
  rfl

variable {store}

/-- with distinct names, plans have distinct labels, each the name of the table that it fetches from -/
theorem names_of_plans (hnames : (store.tables.map (·.name.qualified)).Nodup) :
    let plans := (store.toSource.withQueryFaults fault).plans options
    (plans.map (·.label)).Nodup ∧ ∀ plan ∈ plans, plan.query.source.qualified = plan.label := by
  set count : TableName → Nat := fun name => (store.toSource.rowCount name).toOption.getD 0
  have hplans : (store.toSource.withQueryFaults fault).plans options =
      (classify (store.descriptions count)).plans store.dialect options := by
    rw [withQueryFaults_eq, Source.plans, store.introspect_memory]
    rfl
  have hperm := plans_names_perm (store.descriptions count) store.dialect options
  have hdescribed : ((store.descriptions count).map fun table => (table.source, table.label)) =
      store.tables.map fun table => (table.name, table.name.qualified) := by
    rw [MemorySource.descriptions, List.map_map]
    rfl
  rw [hdescribed] at hperm
  rw [hplans]
  constructor
  · have hlabels := (hperm.map Prod.snd).nodup_iff
    simp only [List.map_map, Function.comp_def] at hlabels
    exact hlabels.mpr hnames
  · intro plan hplan
    obtain ⟨table, -, heq⟩ := List.mem_map.mp (hperm.mem_iff.mp (List.mem_map_of_mem hplan))
    simp only [Prod.mk.injEq] at heq
    rw [← heq.1, ← heq.2]

/-- with distinct names, a name tells whether a query of its table fails -/
theorem mem_failedTables (hnames : (store.tables.map (·.name.qualified)).Nodup) {plan : RetrievalPlan}
    (hplan : plan ∈ (store.toSource.withQueryFaults fault).plans options) :
    plan.label ∈ (store.toSource.withQueryFaults fault).failedTables options ↔
      plan.failsOn (store.toSource.withQueryFaults fault) = true := by
  constructor
  · intro hlabel
    obtain ⟨other, hother, heq⟩ := List.mem_map.mp hlabel
    obtain ⟨hmem, hfails⟩ := List.mem_filter.mp hother
    rw [← List.inj_on_of_nodup_map (names_of_plans fault options hnames).1 hmem hplan heq]
    exact hfails
  · intro hfails
    exact List.mem_map_of_mem (List.mem_filter.mpr ⟨hplan, hfails⟩)

/-- a failed table is loaded as nothing; any other as it is when the failed ones are empty -/
theorem filter_loaded?_emptied (hnames : (store.tables.map (·.name.qualified)).Nodup) {plan : RetrievalPlan}
    (hplan : plan ∈ (store.toSource.withQueryFaults fault).plans options) :
    let failed := (store.toSource.withQueryFaults fault).failedTables options
    ((store.emptied failed).loaded? plan).filter (fun table => !failed.contains table.label) =
      plan.loaded? (store.toSource.withQueryFaults fault) := by
  intro failed
  have hmem := mem_failedTables fault options hnames hplan
  rw [MemorySource.loaded?_emptied, (names_of_plans fault options hnames).2 plan hplan]
  cases hfails : plan.failsOn (store.toSource.withQueryFaults fault) with
  | true =>
    have hlabel : plan.label ∈ failed := hmem.mpr hfails
    have hnone : plan.loaded? (store.toSource.withQueryFaults fault) = none := by
      rw [← Option.isNone_iff_eq_none, plan.isNone_loaded?, hfails]
    rw [hnone]
    cases hloaded : store.loaded? plan with
    | none => simp
    | some table => simp [hlabel, MemorySource.cleared, label_of_loaded? hloaded]
  | false =>
    have hlabel : plan.label ∉ failed := fun h => by simp [hmem.mp h] at hfails
    rw [loaded?_withQueryFaults (MemorySource.covers_of_mem hplan) hfails]
    cases hloaded : store.loaded? plan with
    | none => simp
    | some table => simp [hlabel, label_of_loaded? hloaded]

/-- the tables that are loaded when some are without rows, by the plans of a conversion in which queries fail -/
theorem loaded_emptied (labels : List String) :
    let source := (store.emptied labels).toSource
    (loadPlans source (source.plans options)).value.loaded =
      ((store.toSource.withQueryFaults fault).plans options).filterMap (store.emptied labels).loaded? := by
  intro source
  have hloaded := (store.emptied labels).loaded_answering source.dialect source.rowCount options
  have hplans := store.plans_answering store.dialect store.toSource.rowCount
    (store.toSource.withQueryFaults fault).rows options
  rw [MemorySource.descriptions_emptied, ← hplans, List.filterMap_map] at hloaded
  exact hloaded

/-- the tables that are loaded although queries fail are those that are loaded when the failed ones are without rows -/
theorem loaded_withQueryFaults (hnames : (store.tables.map (·.name.qualified)).Nodup) :
    let source := store.toSource.withQueryFaults fault
    let empty := (store.emptied (source.failedTables options)).toSource
    (loadPlans source (source.plans options)).value.loaded =
      withoutLabels (source.failedTables options) (loadPlans empty (empty.plans options)).value.loaded := by
  intro source empty
  rw [loadPlans_loaded, loaded_emptied fault options, withoutLabels, List.filter_filterMap]
  exact List.filterMap_congr fun plan hplan => (filter_loaded?_emptied fault options hnames hplan).symm

/-- the failed tables are loaded without rows when they have none -/
theorem cleared_of_failed (hnames : (store.tables.map (·.name.qualified)).Nodup) {table : LoadedTable} :
    let failed := (store.toSource.withQueryFaults fault).failedTables options
    let empty := (store.emptied failed).toSource
    table ∈ (loadPlans empty (empty.plans options)).value.loaded → table.label ∈ failed →
      table.rows = [] ∧ table.skippedFields = 0 := by
  intro failed empty htable hlabel
  rw [loaded_emptied fault options] at htable
  obtain ⟨plan, hplan, htable⟩ := List.mem_filterMap.mp htable
  have hsource : failed.contains plan.query.source.qualified = true := by
    rw [(names_of_plans fault options hnames).2 plan hplan, ← label_of_loaded? htable]
    simpa using hlabel
  rw [MemorySource.loaded?_emptied, if_pos hsource] at htable
  obtain ⟨other, -, rfl⟩ := Option.map_eq_some_iff.mp htable
  exact ⟨rfl, rfl⟩

end Failing

/-- **Failures stay with their tables.** For any tables in memory with distinct names, and whichever queries fail, let
`failed` be the tables of which at least one query fails. The conversion succeeds and reports these tables, in the order
of the plans. The graph and every other count are those of the conversion without failures in which the failed tables have
no rows. -/
theorem convert_failures_isolated (store : MemorySource) (hnames : (store.tables.map (·.name.qualified)).Nodup)
    (fault : String → Option RowRange → Option String) (options : RetrievalOptions) (ids : Nat → ι) :
    let source := store.toSource.withQueryFaults fault
    let failed := source.failedTables options
    ∃ (graph : Graph ι) (report others : Report),
      (convert source options ids).value = .ok (graph, report) ∧ report.failedTables = failed ∧
      (convert (store.emptied failed).toSource options ids).value = .ok (graph, others) ∧
      { report with failedTables := [] } = { others with failedTables := [] } := by
  intro source failed
  set tables := store.descriptions fun _ => 0
  have hrun : (convert source options ids).value =
      .ok (assemble ids tables (loadPlans source (source.plans options)).value) :=
    store.convert_memory store.dialect source.rowCount source.rows options ids
  set empty := (store.emptied failed).toSource
  have hempty : (convert empty options ids).value =
      .ok (assemble ids tables (loadPlans empty (empty.plans options)).value) := by
    have h := (store.emptied failed).convert_memory store.dialect empty.rowCount (store.emptied failed).run options ids
    rw [MemorySource.descriptions_emptied] at h
    exact h
  have hsame : assemble ids tables ⟨(loadPlans source (source.plans options)).value.loaded, []⟩ =
      assemble ids tables ⟨(loadPlans empty (empty.plans options)).value.loaded, []⟩ := by
    rw [loaded_withQueryFaults fault options hnames]
    exact assemble_withoutLabels ids tables fun table => cleared_of_failed fault options hnames
  rw [assemble_failed] at hrun hempty
  rw [← hsame] at hempty
  exact ⟨_, _, _, hrun, loadPlans_failedNames source _, hempty, rfl⟩

/-- two authors, and a page by the first of them -/
def authorsAndPages : MemorySource := ⟨.postgresql, [
  ⟨⟨none, "author"⟩, [⟨"id", "integer"⟩], ["id"], [], [[.int 1], [.int 2]]⟩,
  ⟨⟨none, "page"⟩, [⟨"id", "integer"⟩, ⟨"by", "integer"⟩], ["id"], [⟨"by", none, "author", "id"⟩],
    [[.int 7, .int 1]]⟩]⟩

/-- authors can be fetched up to the second only -/
def lateOutage (table : String) (range : Option RowRange) : Option String :=
  if table = "author" ∧ range = some ⟨1, none⟩ then some "timeout" else none

/-- **A failing range takes the whole table with it.** The authors are fetched in two ranges, and only the second fails;
the graph is the one without any author, and the page refers to none. -/
theorem second_range_fails :
    (authorsAndPages.tables.map (·.name.qualified)).Nodup ∧
    (authorsAndPages.toSource.withQueryFaults lateOutage).failedTables ⟨2, 1⟩ = ["author"] ∧
    ∃ (graph : Graph Nat) (report others : Report),
      (convert (authorsAndPages.toSource.withQueryFaults lateOutage) ⟨2, 1⟩ id).value = .ok (graph, report) ∧
      report.failedTables = ["author"] ∧ report.danglingReferences = 1 ∧
      (convert (authorsAndPages.emptied ["author"]).toSource ⟨2, 1⟩ id).value = .ok (graph, others) ∧
      { report with failedTables := [] } = { others with failedTables := [] } := by
  have hnames : (authorsAndPages.tables.map (·.name.qualified)).Nodup := by decide
  have hfailed : (authorsAndPages.toSource.withQueryFaults lateOutage).failedTables ⟨2, 1⟩ = ["author"] := by
    decide +kernel
  have hisolated := convert_failures_isolated authorsAndPages hnames lateOutage ⟨2, 1⟩ (id : Nat → Nat)
  simp only [hfailed] at hisolated
  obtain ⟨graph, report, others, hrun, hfailures, hempty, hsame⟩ := hisolated
  have hwell : (authorsAndPages.emptied ["author"]).WellFormed := by decide
  have hothers : others.danglingReferences = 1 := by
    rw [MemorySource.convert_wellFormed hwell, assemble, buildEdges_eq] at hempty
    obtain ⟨-, rfl⟩ := Prod.mk.inj (Except.ok.inj hempty)
    decide +kernel
  have hdangling : report.danglingReferences = others.danglingReferences := by
    simpa only using congrArg Report.danglingReferences hsame
  exact ⟨hnames, hfailed, graph, report, others, hrun, hfailures, hdangling.trans hothers, hempty, hsame⟩

end TableGraph
