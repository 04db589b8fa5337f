/-
Loading, by what it comes to. A plan issues one query for all rows, or one for each of its ranges; it loads a table if all
of them are answered, and nothing if one is not.

Results:
- `isNone_loaded?`: a plan loads nothing exactly if one of its queries fails.
- `loadPlans_loaded`, `loadPlans_failedNames`: every plan stands for itself; none is affected by the failure of another.
- `loadPlans_skippedFields`, `notices_loadPlans`: what is counted of fields left out, and the notices of them.
- `loaded?_memory`: what is loaded from memory depends on the table, the columns and what the cells are, but neither on
  the ranges nor on the dialect.
-/
import TableGraph.Conversion
import TableGraph.Proofs.Introspection
import TableGraph.Proofs.Ranges

namespace TableGraph

/-! ## What a plan loads -/

namespace RetrievalPlan

variable (plan : RetrievalPlan) (source : Source)

/-- the queries that a plan issues: one for all rows, or one for each range -/
def queries : List (Option RowRange) := if plan.ranges.isEmpty then [none] else plan.ranges.map some

/-- whether at least one query of a plan fails -/
def failsOn : Bool := plan.queries.any fun range => (source.rows plan.query range).toOption.isNone

/-- the rows in the answers to the queries of a plan; a query that fails gives none -/
def answers : List Row := plan.queries.flatMap fun range => ((source.rows plan.query range).toOption).getD []

/-- fetched rows as a loaded table -/
def tableOf (rows : List Row) : LoadedTable :=
  ⟨plan.label, plan.kind, rows.map plan.header.values, (plan.emptyFields rows).length⟩

/-- the table that a plan loads, if it loads one -/
def loaded? : Option LoadedTable := (plan.load source).value.toOption

theorem queries_ne_nil : plan.queries ≠ [] := by
  unfold queries
  split_ifs with h
  · simp
  · simpa using h

/-- the fetched rows are the answers to all queries, one after the other -/
theorem toOption_fetch :
    (plan.fetch source).toOption =
      (plan.queries.mapM fun range => (source.rows plan.query range).toOption).map List.flatten := by
  unfold fetch queries
  split_ifs
  · rw [List.mapM_cons]
    cases source.rows plan.query none <;> simp [Except.toOption]
  · rw [List.mapM_map]
    have hranges := toOption_mapM (fun range => source.rows plan.query (some range)) plan.ranges
    rw [Function.comp_def, ← hranges]
    cases plan.ranges.mapM fun range => source.rows plan.query (some range) <;> rfl

/-- the rows are fetched if no query fails -/
theorem toOption_fetch_eq_ite :
    (plan.fetch source).toOption = if plan.failsOn source then none else some (plan.answers source) := by
  rw [toOption_fetch]
  cases hfails : plan.failsOn source with
  | true =>
    have hnone : (plan.queries.mapM fun range => (source.rows plan.query range).toOption) = none :=
      Option.isNone_iff_eq_none.mp (hfails ▸ isNone_mapM _ plan.queries)
    simp [hnone]
  | false =>
    have hanswered : ∀ range ∈ plan.queries, (source.rows plan.query range).toOption =
        pure ((source.rows plan.query range).toOption.getD []) := by
      intro range hrange
      have hsome := List.any_eq_false.mp hfails range hrange
      cases hanswer : (source.rows plan.query range).toOption with
      | none => simp [hanswer] at hsome
      | some rows => rfl
    rw [mapM_eq_pure hanswered]
    simp [answers, List.flatMap_def]

theorem loaded?_eq : plan.loaded? source = (plan.fetch source).toOption.map plan.tableOf := by
  unfold loaded? load
  cases plan.fetch source <;> rfl

theorem loaded?_eq_ite : plan.loaded? source =
    if plan.failsOn source then none else some (plan.tableOf (plan.answers source)) := by
  rw [loaded?_eq, toOption_fetch_eq_ite]
  split_ifs <;> rfl

/-- loading gives a notice for every field that is left out, if the rows are fetched -/
theorem notices_load : (plan.load source).notices =
    if plan.failsOn source then [] else (plan.emptyFields (plan.answers source)).map (·.notice plan.label) := by
  have hfetch := plan.toOption_fetch_eq_ite source
  unfold load
  cases hrows : plan.fetch source with
  | error cause =>
    rw [hrows] at hfetch
    split_ifs at hfetch ⊢
    · rfl
    · cases hfetch
  | ok rows =>
    rw [hrows] at hfetch
    split_ifs at hfetch ⊢
    · cases hfetch
    · obtain rfl : rows = plan.answers source := Option.some.inj hfetch
      rfl

/-- **A plan loads nothing exactly if one of its queries fails** -/
theorem isNone_loaded? : (plan.loaded? source).isNone = plan.failsOn source := by
  rw [loaded?_eq, toOption_fetch, Option.isNone_map, Option.isNone_map, isNone_mapM]
  rfl

/-- a plan whose queries all have the answers of another source loads the same -/
theorem loaded?_congr {source other : Source}
    (h : ∀ range ∈ plan.queries, (source.rows plan.query range).toOption = (other.rows plan.query range).toOption) :
    plan.loaded? source = plan.loaded? other := by
  rw [loaded?_eq, loaded?_eq, toOption_fetch, toOption_fetch, mapM_congr h]

end RetrievalPlan

/-- **Every plan stands for itself**: the loaded tables are those of the plans, in their order -/
theorem loadPlans_loaded (source : Source) (plans : List RetrievalPlan) :
    (loadPlans source plans).value.loaded = plans.filterMap fun plan => plan.loaded? source := by
  induction plans with
  | nil => rfl
  | cons plan rest ih =>
    rw [List.filterMap_cons, ← ih, RetrievalPlan.loaded?]
    simp only [loadPlans, Noted.value_bind, Noted.value_pure]
    cases (plan.load source).value <;> rfl

/-- the tables that are not loaded are those of which a query fails, in the order of the plans -/
theorem loadPlans_failedNames (source : Source) (plans : List RetrievalPlan) :
    (loadPlans source plans).value.failedNames =
      (plans.filter fun plan => plan.failsOn source).map (·.label) := by
  induction plans with
  | nil => rfl
  | cons plan rest ih =>
    simp only [loadPlans, Noted.value_bind, Noted.value_pure, List.filter_cons, ← plan.isNone_loaded?,
      RetrievalPlan.loaded?]
    cases (plan.load source).value with
    | error cause => simpa [LoadedTables.add, LoadedTables.failedNames, Except.toOption] using ih
    | ok table => simpa [LoadedTables.add, LoadedTables.failedNames, Except.toOption] using ih

/-- the fields left out are counted plan by plan, for the plans none of whose queries fails -/
theorem loadPlans_skippedFields (source : Source) (plans : List RetrievalPlan) :
    (loadPlans source plans).value.skippedFields =
      ((plans.filter fun plan => !plan.failsOn source).map fun plan =>
        (plan.emptyFields (plan.answers source)).length).sum := by
  have hsum (tables : LoadedTables) : tables.skippedFields = (tables.loaded.map (·.skippedFields)).sum := by
    rw [LoadedTables.skippedFields, List.sum, List.foldr_map]
  rw [hsum, loadPlans_loaded, List.map_filterMap, ← List.filterMap_eq_map, List.filterMap_filter]
  congr 1
  refine List.filterMap_congr fun plan _ => ?_
  rw [plan.loaded?_eq_ite]
  cases plan.failsOn source <;> rfl

/-- and there is a notice for each of them -/
theorem notices_loadPlans (source : Source) (plans : List RetrievalPlan) :
    (loadPlans source plans).notices = (plans.filter fun plan => !plan.failsOn source).flatMap fun plan =>
      (plan.emptyFields (plan.answers source)).map (·.notice plan.label) := by
  induction plans with
  | nil => rfl
  | cons plan rest ih =>
    simp only [loadPlans, Noted.notices_bind, Noted.notices_pure, List.append_nil, plan.notices_load, ih, List.filter_cons]
    cases plan.failsOn source <;> simp

/-! ## Loading from memory -/

/-- the part of a list that a range selects; all of it without a range -/
def selectRows {α : Type} (rows : List α) : Option RowRange → List α
  | none => rows
  | some range => range.select rows

/-- whether the queries of a plan select every row once and in order -/
def RetrievalPlan.Covers (plan : RetrievalPlan) : Prop :=
  ∀ rows : List Row, plan.queries.flatMap (selectRows rows) = rows

namespace MemorySource

variable (store : MemorySource)

/-- the cells of some columns of all rows of a table, if there are such a table and such columns -/
def answer? (name : TableName) (columns : List String) : Option (List Row) :=
  (store.find name).toOption.bind fun table =>
    (columns.mapM table.columnIndex?).map fun indices => table.rows.map fun row => StoredTable.cellsAt row indices

/-- the table that a plan loads from memory, its ranges left aside -/
def loaded? (plan : RetrievalPlan) : Option LoadedTable :=
  (store.answer? plan.query.source plan.query.columns).map plan.tableOf

theorem toOption_columnIndices (table : StoredTable) (query : TableQuery) (range : Option RowRange) :
    (table.columnIndices query range).toOption = query.columns.mapM table.columnIndex? := by
  rw [StoredTable.columnIndices, toOption_mapM]
  congr 1
  funext column
  cases table.columnIndex? column <;> rfl

/-- a query gives the selected rows of the answer to the query for all rows -/
theorem toOption_run (query : TableQuery) (range : Option RowRange) :
    (store.run query range).toOption =
      (store.answer? query.source query.columns).map fun rows => selectRows rows range := by
  unfold run answer?
  cases store.find query.source with
  | error cause => rfl
  | ok table =>
    have hindices := toOption_columnIndices table query range
    simp only [Except.toOption, Option.bind_some, ← hindices]
    cases hcolumns : table.columnIndices query range with
    | error cause => simp [bind, Except.bind, hcolumns]
    | ok indices =>
      cases range with
      | none => simp [bind, Except.bind, hcolumns, selectRows, pure, Except.pure]
      | some range => simp [bind, Except.bind, hcolumns, selectRows, RowRange.select_map, pure, Except.pure]

/-- the rows that are fetched from memory do not depend on the ranges, as long as they cover the rows -/
theorem toOption_fetch_memory {source : Source} (hsource : source.rows = store.run) {plan : RetrievalPlan}
    (hplan : plan.Covers) : (plan.fetch source).toOption = store.answer? plan.query.source plan.query.columns := by
  rw [RetrievalPlan.toOption_fetch, hsource]
  simp only [toOption_run]
  cases store.answer? plan.query.source plan.query.columns with
  | none =>
    obtain ⟨range, rest, hqueries⟩ := List.exists_cons_of_ne_nil plan.queries_ne_nil
    simp [hqueries]
  | some rows =>
    have hanswers : (plan.queries.mapM fun range => some (selectRows rows range)) =
        some (plan.queries.map (selectRows rows)) := mapM_eq_pure fun _ _ => rfl
    simp only [Option.map_some, hanswers]
    rw [← List.flatMap_def, hplan rows]

/-- **What is loaded from memory does not depend on the ranges** -/
theorem loaded?_memory {source : Source} (hsource : source.rows = store.run) {plan : RetrievalPlan}
    (hplan : plan.Covers) : plan.loaded? source = store.loaded? plan := by
  rw [RetrievalPlan.loaded?_eq, store.toOption_fetch_memory hsource hplan, loaded?]

end MemorySource

/-! ## Plans of classified tables -/

theorem covers_ranges (plan : RetrievalPlan) (h : plan.ranges ≠ [] → ∀ rows : List Row,
    plan.ranges.flatMap (·.select rows) = rows) : plan.Covers := by
  intro rows
  unfold RetrievalPlan.queries
  split_ifs with hempty
  · simp [selectRows]
  · rw [List.flatMap_map]
    exact h (by simpa using hempty) rows

/-- every plan covers the rows of its table -/
theorem covers_of_mem_plans {classes : Classification} {dialect : Dialect} {options : RetrievalOptions}
    {plan : RetrievalPlan} (h : plan ∈ classes.plans dialect options) : plan.Covers := by
  have hvertex (table : TableDescription) : (table.plan dialect options).Covers := by
    refine covers_ranges _ fun hranges rows => ?_
    simp only [TableDescription.plan] at hranges ⊢
    split_ifs at hranges ⊢
    · exact absurd rfl hranges
    · exact flatMap_select_partitionRanges hranges rows
  have hjunction (rule : JunctionRule) : (rule.plan dialect options).Covers :=
    covers_ranges _ fun hranges rows => flatMap_select_partitionRanges hranges rows
  rcases List.mem_append.mp h with h | h
  · obtain ⟨table, -, rfl⟩ := List.mem_map.mp h
    exact hvertex table
  · obtain ⟨rule, -, rfl⟩ := List.mem_map.mp h
    exact hjunction rule

end TableGraph
