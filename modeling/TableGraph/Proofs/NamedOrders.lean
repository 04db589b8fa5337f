/-
Orders by name. Whether a table is fetched in ranges is decided by its number of rows, and what orders its rows by its keys
and the types of its columns. A query for a range that has no columns to order the rows by would order them by the places of
all its columns, and a database refuses this where a column cannot be ordered. No plan issues such a query.

Results:
- `TableDescription.orderBy_subset`: rows are ordered by columns that are fetched.
- `plans_ordered_by_name`: every query for a range orders the rows by named columns of the result.
Witness:
- `logs_ordered`: a table without primary key whose documents cannot be ordered, and one of documents only.
-/
import TableGraph.Proofs.Headers
import TableGraph.Proofs.OrderedRanges

namespace TableGraph

namespace TableDescription

variable (table : TableDescription) (dialect : Dialect) (options : RetrievalOptions)

/-- the columns that order the rows of a vertex table are fetched -/
theorem ordering_subset : table.ordering ⊆ table.header.names := by
  intro name hname
  unfold ordering at hname
  split_ifs at hname with hkeys
  · obtain ⟨entry, hentry, rfl⟩ := List.mem_map.mp hname
    exact List.mem_map_of_mem (List.mem_of_mem_filter hentry)
  · rw [mem_header_names]
    exact .inl hname

/-- **Rows are ordered by columns that are fetched** -/
theorem orderBy_subset :
    (table.retrieval dialect options).query.orderBy ⊆ (table.retrieval dialect options).query.columns := by
  cases hjunction : table.isJunction with
  | false =>
    rw [retrieval_of_not_isJunction hjunction]
    exact table.ordering_subset
  | true =>
    obtain ⟨one, two, hreferences⟩ := references_of_isJunction hjunction
    rw [retrieval, junction?, hjunction, hreferences]
    intro name hname
    change name ∈ (JunctionRule.header _).names
    rw [JunctionRule.header_names]
    rcases List.mem_pair.mp hname with rfl | rfl
    · exact List.mem_cons_self
    · exact List.mem_cons_of_mem _ List.mem_cons_self

/-- a table without primary key is a vertex table, and all columns that can be ordered order its rows -/
theorem retrieval_of_keyless (hkeyless : table.primaryKeys = []) :
    (table.retrieval dialect options).kind = .vertex ∧
      (table.retrieval dialect options).query.columns = (table.retrieval dialect options).header.names ∧
      (table.retrieval dialect options).query.orderBy = (table.retrieval dialect options).header.orderableNames := by
  have hvertex : table.isJunction = false := by
    simp [isJunction, hkeyless]
  rw [retrieval_of_not_isJunction hvertex]
  refine ⟨rfl, rfl, ?_⟩
  change table.ordering = table.header.orderableNames
  rw [ordering, hkeyless, List.isEmpty_nil, if_pos rfl]

end TableDescription

/-! ## Texts of queries -/

/-- the text of a query for a range, the rows ordered by named columns -/
def TableQuery.namedRange (query : TableQuery) (range : RowRange) : String :=
  query.sql none ++ " ORDER BY " ++ ", ".intercalate (query.orderBy.map query.dialect.quote) ++
    rangeClause query.dialect range

/-- a query that has columns to order the rows by names them in a query for a range -/
theorem TableQuery.sql_of_ordered {query : TableQuery} (h : query.orderBy ≠ []) (range : RowRange) :
    query.sql (some range) = query.namedRange range := by
  have hordering : query.ordering = ", ".intercalate (query.orderBy.map query.dialect.quote) := by
    rw [ordering, if_neg (by simpa using h)]
  rw [namedRange, ← hordering]
  rfl

/-- the queries of a plan are for all rows, or they name columns that order the rows -/
theorem RetrievalPlan.statements_named {plan : RetrievalPlan} (hordered : plan.ranges ≠ [] → plan.query.orderBy ≠ [])
    {text : String} (h : text ∈ plan.statements) :
    text = plan.query.sql none ∨ ∃ range ∈ plan.ranges, plan.query.orderBy ≠ [] ∧ text = plan.query.namedRange range := by
  unfold statements at h
  split_ifs at h with hwhole
  · exact .inl (List.mem_singleton.mp h)
  · obtain ⟨range, hrange, rfl⟩ := List.mem_map.mp h
    have horder := hordered (List.ne_nil_of_mem hrange)
    exact .inr ⟨range, hrange, horder, TableQuery.sql_of_ordered horder range⟩

/-- **Ranges have an order by name.** Every table has its plan. If a plan has ranges, it has columns that order the rows, all
of them among the columns of the result, and every query of the plan is for all rows or names these columns: the order by
places is never used. The rows of a table without primary key are ordered by the columns of the result that can be ordered,
in the order of the header, and if there are none, the table has no ranges, however many rows it has. -/
theorem plans_ordered_by_name (tables : List TableDescription) (dialect : Dialect) (options : RetrievalOptions) :
    (classify tables).plans dialect options = (planOrder tables).map (·.retrieval dialect options) ∧
    (∀ plan ∈ (classify tables).plans dialect options,
      plan.query.orderBy ⊆ plan.query.columns ∧ (plan.ranges ≠ [] → plan.query.orderBy ≠ []) ∧
      ∀ text ∈ plan.statements, text = plan.query.sql none ∨
        ∃ range ∈ plan.ranges, plan.query.orderBy ≠ [] ∧ text = plan.query.namedRange range) ∧
    ∀ table ∈ tables, table.primaryKeys = [] →
      let plan := table.retrieval dialect options
      plan.kind = .vertex ∧ plan.query.columns = plan.header.names ∧
      plan.query.orderBy = (plan.header.entries.filter fun entry => entry.type.isOrderable).map (·.name) ∧
      ((∀ entry ∈ plan.header.entries, entry.type.isOrderable = false) → plan.ranges = []) := by
  refine ⟨plans_eq_map tables dialect options, ?_, ?_⟩
  · intro plan hplan
    rw [plans_eq_map] at hplan
    obtain ⟨table, -, rfl⟩ := List.mem_map.mp hplan
    have hordered : (table.retrieval dialect options).ranges ≠ [] → (table.retrieval dialect options).query.orderBy ≠ [] := by
      intro hranges hnone
      rw [table.ranges_eq, if_pos hnone] at hranges
      exact hranges rfl
    exact ⟨table.orderBy_subset dialect options, hordered, fun text => RetrievalPlan.statements_named hordered⟩
  · intro table _ hkeyless plan
    obtain ⟨hkind, hcolumns, horder⟩ := table.retrieval_of_keyless dialect options hkeyless
    refine ⟨hkind, hcolumns, horder, ?_⟩
    intro hnone
    have hempty : plan.header.orderableNames = [] := by
      rw [Header.orderableNames, List.map_eq_nil_iff, List.filter_eq_nil_iff]
      intro entry hentry
      rw [hnone entry hentry]
      exact Bool.false_ne_true
    exact (table.ranges_eq dialect options).trans (if_pos (horder.trans hempty))

/-- a log without primary key: what was logged, and further columns -/
def log (name : String) (columns : List Column) : TableDescription where
  source := ⟨none, name⟩
  label := name
  primaryKeys := []
  references := []
  attributes := ⟨"entry", .json, .attribute, 0⟩ :: columns
  rowCount := 1000000

/-- **Logs**: what was logged orders nothing, so that a log is divided only if it has another column -/
theorem logs_ordered :
    let dated := log "dated" [⟨"day", .date, .attribute, 1⟩]
    let bare := log "bare" []
    (dated.retrieval .sqlite ⟨2, 10⟩).query.orderBy = ["day"] ∧
      "SELECT \"entry\", \"day\" FROM \"dated\" ORDER BY \"day\" LIMIT -1 OFFSET 500000" ∈
        (dated.retrieval .sqlite ⟨2, 10⟩).statements ∧
      (bare.retrieval .sqlite ⟨2, 10⟩).ranges = [] := by
  intro dated bare
  obtain ⟨-, -, hkeyless⟩ := plans_ordered_by_name [dated, bare] .sqlite ⟨2, 10⟩
  obtain ⟨-, -, hdated, -⟩ := hkeyless dated List.mem_cons_self rfl
  obtain ⟨-, -, -, hbare⟩ := hkeyless bare (List.mem_cons_of_mem _ List.mem_cons_self) rfl
  exact ⟨hdated, by decide +kernel, hbare (by decide)⟩

end TableGraph
