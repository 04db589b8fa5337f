/-
What the order of a query is for. Each range of a divided table is a query of its own, and each time the database orders the
rows anew. Rows that agree on the columns of the order may come in another order each time, and then a range may return a
row that another range has returned, and miss one. If the order has all columns of the primary key, no two rows agree on it.

A vertex table that has a primary key is ordered by it. A junction table is ordered by its two references, whatever its
primary key is.

Results:
- `TableDescription.ranges_eq`: a table is divided if it has many rows and a column to order them by.
- `completeReads_iff`: the ranges of a divided table return each row once, whatever the database does, exactly if the order
  has all columns of the primary key.
- `plans_ordered_by_key`: which columns order the rows of a divided table, and when the ranges return each row once.
Witness:
- `transfers_by_account`: a junction table whose primary key are its references.
Counterexample:
- `transfers_by_batch`: a junction table that has another primary key.
-/
import Mathlib.Data.List.Lex
import TableGraph.Proofs.Classification
import TableGraph.Proofs.Ranges

namespace TableGraph

/-! ## Rows in order -/

/-- no two rows have one primary key -/
def DistinctKeys {κ : Type} (keys : List String) (rows : List (String → κ)) : Prop :=
  (rows.map fun row => keys.map row).Nodup

/-- two rows that agree on the columns of an order have one primary key, if the order has all columns of the key -/
theorem map_eq_map_of_subset {κ : Type} {keys orderBy : List String} (hkeys : keys ⊆ orderBy) {r s : String → κ}
    (hsame : orderBy.map r = orderBy.map s) : keys.map r = keys.map s :=
  List.map_congr_left fun name hname => List.map_inj_left.mp hsame name (hkeys hname)

section Order

variable {κ : Type} [LinearOrder κ]

/-- an order in which a database may list rows that it orders by some columns: any in which the cells there ascend -/
structure Listing (orderBy : List String) (rows listing : List (String → κ)) : Prop where
  perm : listing.Perm rows
  ordered : listing.Pairwise fun r s => orderBy.map r ≤ orderBy.map s

/-- **One order.** Rows with distinct primary keys are listed in one way only, if they are ordered by all columns of the
key. -/
theorem Listing.unique {keys orderBy : List String} (hkeys : keys ⊆ orderBy) {rows listing listing' : List (String → κ)}
    (hdistinct : DistinctKeys keys rows) (h : Listing orderBy rows listing) (h' : Listing orderBy rows listing') :
    listing = listing' := by
  refine List.Perm.eq_of_pairwise (fun r s hr hs hle hge => ?_) h.ordered h'.ordered (h.perm.trans h'.perm.symm)
  have hkey : keys.map r = keys.map s := map_eq_map_of_subset hkeys (le_antisymm hle hge)
  exact List.inj_on_of_nodup_map hdistinct (h.perm.mem_iff.mp hr) (h'.perm.mem_iff.mp hs) hkey

end Order

/-- ranges return each row of a table once: whatever rows with distinct primary keys it has, and in whatever orders the
database lists them for the ranges -/
def CompleteReads (κ : Type) [LinearOrder κ] (keys orderBy : List String) (ranges : List RowRange) : Prop :=
  ∀ (rows : List (String → κ)) (listing : RowRange → List (String → κ)), DistinctKeys keys rows →
    (∀ range ∈ ranges, Listing orderBy rows (listing range)) →
    (ranges.flatMap fun range => range.select (listing range)).Perm rows

section Ranges

variable {keys orderBy : List String} {rowCount parallelism fetchSize : Nat}

/-- the ranges of a table that is ordered by all columns of its key return each row once -/
theorem completeReads_of_subset {κ : Type} [LinearOrder κ] (hkeys : keys ⊆ orderBy)
    (hranges : partitionRanges rowCount parallelism fetchSize ≠ []) :
    CompleteReads κ keys orderBy (partitionRanges rowCount parallelism fetchSize) := by
  intro rows listing hdistinct hlisting
  obtain ⟨first, hfirst⟩ := List.exists_mem_of_ne_nil _ hranges
  have hone : ∀ range ∈ partitionRanges rowCount parallelism fetchSize, listing range = listing first :=
    fun range hrange => (hlisting range hrange).unique hkeys hdistinct (hlisting first hfirst)
  have hread : (partitionRanges rowCount parallelism fetchSize).flatMap (fun range => range.select (listing range)) =
      listing first := by
    rw [List.flatMap_congr fun range hrange => congrArg range.select (hone range hrange)]
    exact flatMap_select_partitionRanges hranges _
  rw [hread]
  exact (hlisting first hfirst).perm

/-! ## A column left out -/

/-- rows that differ in one column only -/
def rowsApart (column : String) (n : Nat) : List (String → Nat) :=
  (List.range n).map fun k name => if name = column then k else 0

theorem distinctKeys_rowsApart {column : String} (hcolumn : column ∈ keys) (n : Nat) :
    DistinctKeys keys (rowsApart column n) := by
  rw [DistinctKeys, rowsApart, List.map_map]
  refine List.nodup_range.map fun i j hsame => ?_
  simpa using List.map_inj_left.mp hsame column hcolumn

/-- rows that differ in one column only come in any order, if this is not one of the columns that order them -/
theorem listing_rowsApart {column : String} (hcolumn : column ∉ orderBy) {n : Nat} {listing : List (String → Nat)}
    (hperm : listing.Perm (rowsApart column n)) : Listing orderBy (rowsApart column n) listing where
  perm := hperm
  ordered := by
    have hcells {r : String → Nat} (hr : r ∈ listing) : orderBy.map r = orderBy.map fun _ => 0 := by
      obtain ⟨k, -, rfl⟩ := List.mem_map.mp (hperm.mem_iff.mp hr)
      exact List.map_congr_left fun name hname => if_neg (ne_of_mem_of_not_mem hname hcolumn)
    exact List.pairwise_of_forall_mem_list fun r hr s hs => ((hcells hr).trans (hcells hs).symm).le

/-- the listings for ranges in which these rows ascend for the first range and descend for all others -/
def turnedListing (column : String) (n : Nat) (range : RowRange) : List (String → Nat) :=
  if range.offset = 0 then rowsApart column n else (rowsApart column n).reverse

theorem turnedListing_perm (column : String) (n : Nat) (range : RowRange) :
    (turnedListing column n range).Perm (rowsApart column n) := by
  unfold turnedListing
  split
  · exact List.Perm.refl _
  · exact List.reverse_perm _

/-- a range that starts at the row that is first of these rows and then last of them returns it both times -/
theorem mem_select_turnedListing (column : String) {size : Nat} {range : RowRange}
    (hoffset : range.offset = 0 ∨ range.offset = size) (hlimit : range.limit ≠ some 0) :
    (fun name => if name = column then 0 else 0) ∈ range.select (turnedListing column (size + 1) range) := by
  apply RowRange.mem_select hlimit
  by_cases hfirst : range.offset = 0
  · rw [turnedListing, if_pos hfirst, hfirst]
    simp [rowsApart]
  · rw [turnedListing, if_neg hfirst, hoffset.resolve_left hfirst, List.getElem?_reverse (by simp [rowsApart])]
    simp [rowsApart]

/-- the ranges of a table whose order lacks a column of the key need not return each row once: of rows that differ in this
column only, the one that comes first for the first range may come last for the second range, which then returns it too -/
theorem not_completeReads {column : String} (hkey : column ∈ keys) (hcolumn : column ∉ orderBy)
    (hranges : partitionRanges rowCount parallelism fetchSize ≠ []) :
    ¬CompleteReads Nat keys orderBy (partitionRanges rowCount parallelism fetchSize) := by
  intro hcomplete
  obtain ⟨count, size, hcount, hsize, heven⟩ := exists_evenRanges hranges
  rw [heven] at hcomplete
  have hdistinct := distinctKeys_rowsApart hkey (size + 1)
  have hread := hcomplete _ (turnedListing column (size + 1)) hdistinct fun range _ =>
    listing_rowsApart hcolumn (turnedListing_perm column (size + 1) range)
  have hnodup := hread.nodup_iff.mpr (List.Nodup.of_map _ hdistinct)
  have hlength := length_evenRanges count size
  have hdisjoint := List.pairwise_iff_getElem.mp (List.nodup_flatMap.mp hnodup).2 0 1 (by omega) (by omega) Nat.one_pos
  refine List.disjoint_left.mp hdisjoint
    (mem_select_turnedListing column (.inl ?_) (limit_ne_zero hsize (List.getElem_mem _)))
    (mem_select_turnedListing column (.inr ?_) (limit_ne_zero hsize (List.getElem_mem _)))
  · rw [getElem_evenRanges, Nat.zero_mul]
  · rw [getElem_evenRanges, Nat.one_mul]

/-- **What the order is for.** The ranges of a divided table return each row once, whatever rows with distinct primary keys
the table has and however the database lists rows that agree on the order, exactly if the order has all columns of the
key. -/
theorem completeReads_iff (hranges : partitionRanges rowCount parallelism fetchSize ≠ []) :
    (∀ (κ : Type) [LinearOrder κ], CompleteReads κ keys orderBy (partitionRanges rowCount parallelism fetchSize)) ↔
      keys ⊆ orderBy := by
  constructor
  · intro hcomplete name hname
    by_contra hmissing
    exact not_completeReads hname hmissing hranges (hcomplete Nat)
  · intro hkeys κ _
    exact completeReads_of_subset hkeys hranges

end Ranges

/-! ## Orders of plans -/

namespace TableDescription

variable (table : TableDescription) (dialect : Dialect) (options : RetrievalOptions)

/-- a junction table is fetched in the order of its references -/
theorem retrieval_of_isJunction (h : table.isJunction = true) :
    (table.retrieval dialect options).query.orderBy = table.referenceNames ∧
      (table.retrieval dialect options).ranges = options.rangesFor table.rowCount := by
  obtain ⟨one, two, hreferences⟩ := references_of_isJunction h
  rw [retrieval, junction?, h, referenceNames, hreferences]
  exact ⟨rfl, rfl⟩

/-- a junction table is ordered by its references, and a vertex table by its own ordering -/
theorem orderBy_retrieval :
    (table.retrieval dialect options).query.orderBy = if table.isJunction then table.referenceNames else table.ordering := by
  cases hjunction : table.isJunction with
  | true => exact (table.retrieval_of_isJunction dialect options hjunction).1
  | false =>
    rw [retrieval_of_not_isJunction hjunction dialect options]
    rfl

/-- **A table is divided only in an order**: by its number of rows, if there is a column to order the rows by -/
theorem ranges_eq : (table.retrieval dialect options).ranges =
    if (table.retrieval dialect options).query.orderBy = [] then [] else options.rangesFor table.rowCount := by
  cases hjunction : table.isJunction with
  | false =>
    rw [retrieval_of_not_isJunction hjunction]
    simp only [plan, List.isEmpty_iff]
  | true =>
    obtain ⟨horder, hranges⟩ := table.retrieval_of_isJunction dialect options hjunction
    obtain ⟨one, two, hreferences⟩ := references_of_isJunction hjunction
    rw [horder, hranges, referenceNames, hreferences, List.map_cons, if_neg (List.cons_ne_nil _ _)]

/-- the ranges of a divided table are those for its number of rows -/
theorem ranges_retrieval (hranges : (table.retrieval dialect options).ranges ≠ []) :
    (table.retrieval dialect options).ranges = options.rangesFor table.rowCount := by
  rw [ranges_eq] at hranges ⊢
  split_ifs at hranges ⊢ with hunordered
  · exact absurd rfl hranges
  · rfl

end TableDescription

/-- the ranges of a plan for a table return each of its rows once -/
def ReadsCompletely (table : TableDescription) (plan : RetrievalPlan) : Prop :=
  ∀ (κ : Type) [LinearOrder κ], CompleteReads κ table.primaryKeyNames plan.query.orderBy plan.ranges

/-- **The order of a divided table that has a primary key.** Every table has its plan. If it has a primary key and is
divided, it is ordered by the primary key, unless it is a junction table, which is ordered by its references. So the order
has all columns of the primary key exactly if the table is no junction table or its references have them, and exactly then
the ranges return each row once whatever the database does. -/
theorem plans_ordered_by_key (tables : List TableDescription) (dialect : Dialect) (options : RetrievalOptions) :
    (classify tables).plans dialect options = (planOrder tables).map (·.retrieval dialect options) ∧
    ∀ table ∈ tables, table.primaryKeys ≠ [] → (table.retrieval dialect options).ranges ≠ [] →
      (table.retrieval dialect options).query.orderBy =
        (if table.isJunction then table.referenceNames else table.primaryKeyNames) ∧
      (table.primaryKeyNames ⊆ (table.retrieval dialect options).query.orderBy ↔
        (table.isJunction = true → table.primaryKeyNames ⊆ table.referenceNames)) ∧
      (ReadsCompletely table (table.retrieval dialect options) ↔
        (table.isJunction = true → table.primaryKeyNames ⊆ table.referenceNames)) := by
  refine ⟨plans_eq_map tables dialect options, fun table _ hkeys hranges => ?_⟩
  have hordering : table.ordering = table.primaryKeyNames := by
    rw [TableDescription.ordering, if_neg (by simpa using hkeys)]
  have horder : (table.retrieval dialect options).query.orderBy =
      if table.isJunction then table.referenceNames else table.primaryKeyNames :=
    (table.orderBy_retrieval dialect options).trans (by rw [hordering])
  have hsubset : table.primaryKeyNames ⊆ (table.retrieval dialect options).query.orderBy ↔
      (table.isJunction = true → table.primaryKeyNames ⊆ table.referenceNames) := by
    rw [horder]
    cases table.isJunction with
    | true => simp
    | false => simp
  have hdivided := table.ranges_retrieval dialect options hranges
  have hparts : options.rangesFor table.rowCount ≠ [] := fun hnone => hranges (hdivided.trans hnone)
  refine ⟨horder, hsubset, ?_⟩
  rw [ReadsCompletely, hdivided]
  exact (completeReads_iff hparts).trans hsubset

/-- a table of transfers from one account to another, with a primary key of two columns -/
def transfers (first second : String) : TableDescription where
  source := ⟨none, "transfer"⟩
  label := "transfer"
  primaryKeys := [⟨first, .integer, .primaryKey, 0⟩, ⟨second, .integer, .primaryKey, 1⟩]
  references := [⟨"debit", .integer, "no", "account"⟩, ⟨"credit", .integer, "no", "account"⟩]
  attributes := []
  rowCount := 4

/-- **One transfer between any two accounts**: the accounts are the primary key, and the ranges return each row once -/
theorem transfers_by_account :
    let table := transfers "debit" "credit"
    let plan := table.retrieval .postgresql ⟨2, 1⟩
    table ∈ [table] ∧ table.primaryKeys ≠ [] ∧ plan.ranges ≠ [] ∧ ReadsCompletely table plan := by
  intro table plan
  have hmem : table ∈ [table] := List.mem_singleton.mpr rfl
  have hkeys : table.primaryKeys ≠ [] := by decide
  have hranges : plan.ranges ≠ [] := by decide
  obtain ⟨-, hplan⟩ := plans_ordered_by_key [table] .postgresql ⟨2, 1⟩
  obtain ⟨-, -, hcomplete⟩ := hplan table hmem hkeys hranges
  exact ⟨hmem, hkeys, hranges, hcomplete.mpr fun _ => List.Subset.refl _⟩

/-- **Transfers in batches**: a transfer is a line of a batch, and its accounts are not part of the primary key. The table is
divided and ordered by the accounts only, so that the ranges need not return each row once. -/
theorem transfers_by_batch :
    let table := transfers "batch" "line"
    let plan := table.retrieval .postgresql ⟨2, 1⟩
    (classify [table]).plans .postgresql ⟨2, 1⟩ = [plan] ∧ plan.ranges = [⟨0, some 2⟩, ⟨2, none⟩] ∧
      plan.query.orderBy = ["debit", "credit"] ∧ "batch" ∈ table.primaryKeyNames ∧ "batch" ∉ plan.query.orderBy ∧
      ¬CompleteReads Nat table.primaryKeyNames plan.query.orderBy plan.ranges := by
  intro table plan
  have hkey : "batch" ∈ table.primaryKeyNames := by decide
  have hmissing : "batch" ∉ plan.query.orderBy := by decide
  have hranges : partitionRanges 4 2 1 ≠ [] := by decide
  exact ⟨by decide, by decide, by decide, hkey, hmissing, not_completeReads hkey hmissing hranges⟩

end TableGraph
