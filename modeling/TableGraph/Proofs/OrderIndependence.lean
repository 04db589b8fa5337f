/-
Order independence. Tables in memory that are listed in another order, and whose rows are stored in another order, give an
isomorphic graph, and a report that agrees.

With distinct names a table is found by its own name wherever it is listed; so what is loaded of a table depends on this
table only, and its rows are loaded in the order in which they are stored.

Results:
- `StoredTable.Reordered.loaded?`: a table whose rows are in another order is loaded with its rows in another order.
- `convert_reordered`: the graphs of the same tables in two orders.
Witness:
- `household_backwards`: equal primary keys, a junction and two tables that cannot be loaded, all in reverse order.
-/
import TableGraph.Proofs.Reordering
import TableGraph.Proofs.StoredTables

namespace TableGraph

variable {ι κ : Type}

/-! ## One table -/

namespace StoredTable

/-- whether a table is another one with its rows in another order -/
structure Reordered (table other : StoredTable) : Prop where
  name : table.name = other.name
  columns : table.columns = other.columns
  primaryKey : table.primaryKey = other.primaryKey
  references : table.references = other.references
  rows : table.rows.Perm other.rows

end StoredTable

/-- rows in another order are loaded in another order, with as many fields left out -/
theorem RetrievalPlan.tableOf_reordered (plan : RetrievalPlan) {rows others : List Row} (h : rows.Perm others) :
    (plan.tableOf rows).Reordered (plan.tableOf others) :=
  ⟨rfl, rfl, h.map _, (h.flatMap_right plan.header.emptyFields).length_eq⟩

namespace StoredTable.Reordered

variable {table other : StoredTable} (h : table.Reordered other)
include h

theorem label : table.label = other.label := congrArg TableName.qualified h.name

theorem metadata : table.metadata = other.metadata := by
  rw [StoredTable.metadata, StoredTable.metadata, h.primaryKey, h.references, h.columns]

theorem described : table.described = other.described := by
  rw [StoredTable.described, StoredTable.described, h.metadata, h.name]

theorem isJunction : table.isJunction = other.isJunction := by
  rw [← described_isJunction, ← described_isJunction, h.described]

theorem plan : table.plan = other.plan := by
  rw [StoredTable.plan, StoredTable.plan, h.described]

/-- **Rows in another order** are loaded in another order; if the table cannot be loaded, it cannot in any order -/
theorem loaded? : Option.Rel LoadedTable.Reordered table.loaded? other.loaded? := by
  have hindices : table.columnIndex? = other.columnIndex? := by
    funext column
    rw [columnIndex?, columnIndex?, h.columns]
  rw [StoredTable.loaded?, StoredTable.loaded?, h.plan, hindices]
  cases other.plan.query.columns.mapM other.columnIndex? with
  | none => exact .none
  | some indices => exact .some (other.plan.tableOf_reordered (h.rows.map _))

theorem isNone_loaded? : table.loaded?.isNone = other.loaded?.isNone := by
  have hloaded := h.loaded?
  generalize table.loaded? = loaded at hloaded ⊢
  generalize other.loaded? = loaded' at hloaded ⊢
  cases hloaded <;> rfl

end StoredTable.Reordered

/-! ## All tables -/

namespace MemorySource

/-- whether tables are others listed in another order, with rows in another order; the dialect plays no part -/
def Reordered (store other : MemorySource) : Prop := PermUpTo StoredTable.Reordered store.tables other.tables

namespace Reordered

variable {store other : MemorySource} (h : store.Reordered other)
include h

theorem labels : (store.tables.map (·.label)).Perm (other.tables.map (·.label)) :=
  h.map fun _ _ hsame => hsame.label

theorem descriptions : (store.tables.map (·.described)).Perm (other.tables.map (·.described)) :=
  h.map fun _ _ hsame => hsame.described

theorem plannedTables : PermUpTo StoredTable.Reordered store.plannedTables other.plannedTables :=
  (h.filter fun _ _ hsame => by rw [hsame.isJunction]).append (h.filter fun _ _ hsame => hsame.isJunction)

/-- what is loaded -/
theorem loaded : PermUpTo LoadedTable.Reordered (store.plannedTables.filterMap (·.loaded?))
    (other.plannedTables.filterMap (·.loaded?)) :=
  h.plannedTables.filterMap fun _ _ hsame => hsame.loaded?

/-- what cannot be loaded -/
theorem failed : ((store.plannedTables.filter fun table => table.loaded?.isNone).map (·.label)).Perm
    ((other.plannedTables.filter fun table => table.loaded?.isNone).map (·.label)) :=
  (h.plannedTables.filter fun _ _ hsame => hsame.isNone_loaded?).map fun _ _ hsame => hsame.label

end Reordered

end MemorySource

/-- **Order independence.** If tables with distinct names are listed in another order, and the rows of each are stored in
another order, both conversions succeed. Their graphs, in each of which an identifier is that of one vertex only, are
isomorphic, and their reports agree, the tables that cannot be loaded being named in any order. -/
theorem convert_reordered {store other : MemorySource} (hnames : (store.tables.map (·.label)).Nodup)
    (h : store.Reordered other) (options : RetrievalOptions) (ids : Nat → ι) (ids' : Nat → κ)
    (hids : store.toSource.DrawsDistinct options ids) (hids' : other.toSource.DrawsDistinct options ids') :
    ∃ (graph : Graph ι) (reordered : Graph κ) (report report' : Report),
      (convert store.toSource options ids).value = .ok (graph, report) ∧
      (convert other.toSource options ids').value = .ok (reordered, report') ∧
      graph.WellFormed ∧ reordered.WellFormed ∧ graph.Isomorphic reordered ∧ report.Agrees report' := by
  have hnames' : (other.tables.map (·.label)).Nodup := h.labels.nodup_iff.mp hnames
  have hrun := MemorySource.convert_distinct hnames options ids
  have hrun' := MemorySource.convert_distinct hnames' options ids'
  have hlabels : ((store.tables.map (·.described)).map (·.label)).Nodup := by rwa [List.map_map]
  have hdrawn {μ : Type} (graph : Graph μ) : graph.vertices.length ≤ graph.identifiers.length := by
    simp [Graph.identifiers]
  have hvertexIds := (hids _ _ hrun).mono (Set.Iio_subset_Iio (hdrawn _))
  have hvertexIds' := (hids' _ _ hrun').mono (Set.Iio_subset_Iio (hdrawn _))
  refine ⟨_, _, _, _, hrun, hrun', Graph.wellFormed_of_convert hids hrun, Graph.wellFormed_of_convert hids' hrun',
    assemble_reordered h.descriptions hlabels ?_ ?_ ?_ hvertexIds hvertexIds'⟩
  · rw [MemorySource.loaded_toSource hnames, MemorySource.loaded_toSource hnames']
    exact h.loaded
  · rw [MemorySource.loaded_toSource hnames]
    exact MemorySource.nodup_loaded hnames
  · rw [MemorySource.failedNames_toSource hnames, MemorySource.failedNames_toSource hnames']
    exact h.failed

/-- the tables listed backwards, with the rows of each stored backwards -/
def MemorySource.backwards (store : MemorySource) : MemorySource :=
  ⟨store.dialect, store.tables.reverse.map fun table => { table with rows := table.rows.reverse }⟩

theorem MemorySource.reordered_backwards (store : MemorySource) : store.Reordered store.backwards := by
  refine ⟨store.tables.reverse, store.tables.reverse_perm.symm, ?_⟩
  rw [backwards, List.forall₂_map_right_iff]
  exact List.forall₂_same.mpr fun table _ => ⟨rfl, rfl, rfl, rfl, table.rows.reverse_perm.symm⟩

/-- three persons, two of whom have the same primary key; friends, one of them a stranger; and two tables whose primary key
is no column -/
def household : MemorySource := ⟨.postgresql, [
  ⟨⟨none, "person"⟩, [⟨"id", "integer"⟩, ⟨"name", "text"⟩], ["id"], [],
    [[.int 1, .text "Ada"], [.int 1, .text "Bob"], [.int 2, .text "Cid"]]⟩,
  ⟨⟨none, "cellar"⟩, [], ["id"], [], []⟩,
  ⟨⟨none, "friend"⟩, [⟨"one", "integer"⟩, ⟨"two", "integer"⟩], ["one", "two"],
    [⟨"one", none, "person", "id"⟩, ⟨"two", none, "person", "id"⟩], [[.int 1, .int 2], [.int 2, .int 9]]⟩,
  ⟨⟨none, "attic"⟩, [], ["id"], [], []⟩]⟩

/-- **The household backwards**: the persons come in reverse order, and so do the tables that fail; each of the two persons
of one key is still linked with the third one, in both directions -/
theorem household_backwards :
    (household.tables.map (·.label)).Nodup ∧ household.Reordered household.backwards ∧
    household.toSource.DrawsDistinct {} (id : Nat → Nat) ∧
    household.backwards.toSource.DrawsDistinct {} (id : Nat → Nat) ∧
    ∃ (graph reordered : Graph Nat) (report report' : Report),
      (convert household.toSource {} id).value = .ok (graph, report) ∧
      (convert household.backwards.toSource {} id).value = .ok (reordered, report') ∧
      graph.Isomorphic reordered ∧ report.Agrees report' ∧
      graph.edges.map (fun edge => (edge.source, edge.target)) = [(0, 2), (2, 0), (1, 2), (2, 1)] ∧
      reordered.edges.map (fun edge => (edge.source, edge.target)) = [(1, 0), (0, 1), (2, 0), (0, 2)] ∧
      report.failedTables = ["cellar", "attic"] ∧ report'.failedTables = ["attic", "cellar"] := by
  have hnames : (household.tables.map (·.label)).Nodup := by decide
  have hids (store : MemorySource) : store.toSource.DrawsDistinct {} (id : Nat → Nat) :=
    store.toSource.drawsDistinct_of_injective {} Function.injective_id
  have hreordered := household.reordered_backwards
  obtain ⟨graph, reordered, report, report', hrun, hrun', -, -, hsame, hagrees⟩ :=
    convert_reordered hnames hreordered {} id id (hids _) (hids _)
  refine ⟨hnames, hreordered, hids _, hids _, graph, reordered, report, report', hrun, hrun', hsame, hagrees, ?_⟩
  rw [MemorySource.convert_distinct hnames] at hrun
  rw [MemorySource.convert_distinct (hreordered.labels.nodup_iff.mp hnames)] at hrun'
  cases hrun
  cases hrun'
  have hends (store : MemorySource) := ends_assemble (id : Nat → Nat) (store.tables.map (·.described))
    (loadPlans store.toSource (store.toSource.plans {})).value
  refine ⟨(hends household).trans ?_, (hends household.backwards).trans ?_, ?_, ?_⟩
  · decide +kernel
  · decide +kernel
  · decide +kernel
  · decide +kernel

end TableGraph
