/-
Introspection, by what it comes to: the metadata of each table in turn, then its number of rows. The number only fills
`rowCount`, and a source that cannot tell it gives zero.

Results:
- `introspect_value`: the result of introspection, without its notices.
- `introspect_ok`: if it succeeds, it describes the listed tables.
- `introspect_memory`: tables held in memory are described by what is stored of them, however many rows are reported,
  and no description fails.
-/
import Mathlib.Tactic
import TableGraph.Catalog.Introspection
import TableGraph.Proofs.Calls
import TableGraph.Source.Memory

namespace TableGraph

namespace Metadata

variable (m : Metadata)

theorem isKey_iff {name : String} :
    m.isKey name = true ↔ name ∈ m.primaryKeys ∨ name ∈ m.references.map (·.column) := by
  simp [isKey]

theorem isKey_eq_false_iff {name : String} :
    m.isKey name = false ↔ name ∉ m.primaryKeys ∧ name ∉ m.references.map (·.column) := by
  rw [← Bool.not_eq_true, isKey_iff, not_or]

@[simp] theorem primaryKeyNames_describe (table : TableName) (rowCount : Nat) :
    (m.describe table rowCount).primaryKeyNames = m.primaryKeys := by
  simp [TableDescription.primaryKeyNames, describe, Function.comp_def]

@[simp] theorem referenceNames_describe (table : TableName) (rowCount : Nat) :
    (m.describe table rowCount).referenceNames = m.references.map (·.column) := by
  simp [TableDescription.referenceNames, describe, Function.comp_def]

end Metadata

namespace Source

variable (source : Source)

/-- the number of rows that introspection takes a table to have -/
def countOf (table : TableName) : Nat := ((source.rowCount table).toOption).getD 0

@[simp] theorem estimatedRows_value (table : TableName) : (source.estimatedRows table).value = source.countOf table := by
  unfold estimatedRows countOf
  cases source.rowCount table <;> rfl

/-- a table by its metadata and its number of rows -/
def described (table : TableName) : Except ConversionError TableDescription :=
  (Metadata.read source table).map fun metadata => metadata.describe table (source.countOf table)

theorem describe_value (table : TableName) : (source.describe table).value = source.described table := by
  unfold describe described
  cases Metadata.read source table with
  | error cause => rfl
  | ok metadata => simp [Except.map]

theorem describeAll_value (tables : List TableName) :
    (source.describeAll tables).value = tables.mapM source.described := by
  induction tables with
  | nil => rfl
  | cons table rest ih =>
    rw [List.mapM_cons, ← ih, ← describe_value]
    simp only [describeAll, Noted.value_bind]
    cases (source.describe table).value with
    | error cause => rfl
    | ok description =>
      simp only [Noted.value_bind, Noted.value_pure]
      cases (source.describeAll rest).value <;> rfl

/-- **Introspection without its notices**: the descriptions of all tables in order, or the first failure -/
theorem introspect_value :
    source.introspect.value =
      (source.tables.mapError (.introspection .tables)).bind fun tables => tables.mapM source.described := by
  unfold introspect
  cases source.tables with
  | error cause => rfl
  | ok tables => exact describeAll_value source tables

/-- a table is described under its own names -/
theorem names_of_described {name : TableName} {table : TableDescription} (h : source.described name = .ok table) :
    table.label = table.source.qualified ∧ table.source = name := by
  obtain ⟨metadata, -, rfl⟩ := map_eq_ok_iff.mp h
  exact ⟨rfl, rfl⟩

/-- **Introspection describes the listed tables**, each once and in order, under their qualified names -/
theorem introspect_ok {tables : List TableDescription} (h : source.introspect.value = .ok tables) :
    source.tables = .ok (tables.map (·.source)) ∧ ∀ table ∈ tables, table.label = table.source.qualified := by
  rw [introspect_value] at h
  cases hnames : source.tables with
  | error cause =>
    rw [hnames] at h
    cases h
  | ok names =>
    rw [hnames] at h
    have hdescribed : List.Forall₂ (fun name table => source.described name = .ok table) names tables :=
      mapM_eq_ok_iff.mp h
    have hnamed : List.Forall₂ (fun table name => table.label = table.source.qualified ∧ table.source = name) tables names :=
      (hdescribed.imp fun _ _ hname => source.names_of_described hname).flip
    obtain ⟨hlabels, hsources⟩ := (List.forall₂_and_left ..).mp hnamed
    rw [← List.forall₂_map_left_iff, List.forall₂_eq_eq_eq] at hsources
    exact ⟨congrArg Except.ok hsources.symm, hlabels⟩

end Source

/-! ## Tables in memory -/

/-- with distinct keys, an element is found by its key -/
theorem find?_of_nodup {α : Type} {key : α → String} {xs : List α} (hkeys : (xs.map key).Nodup) {x : α} (hx : x ∈ xs) :
    (xs.find? fun y => key y == key x) = some x := by
  cases hfind : xs.find? fun y => key y == key x with
  | none =>
    have hnone := List.find?_eq_none.mp hfind x hx
    simp at hnone
  | some found =>
    have hkey : key found = key x := by simpa using List.find?_some hfind
    rw [List.inj_on_of_nodup_map hkeys (List.mem_of_find?_eq_some hfind) hx hkey]

/-- what is stored of a table besides its rows -/
def StoredTable.metadata (table : StoredTable) : Metadata := ⟨table.primaryKey, table.references, table.columns⟩

namespace MemorySource

variable (store : MemorySource)

/-- the metadata under a name; nothing under a name that is not listed -/
def metadataOf (name : TableName) : Metadata :=
  match store.find name with
  | .ok table => table.metadata
  | .error _ => ⟨[], [], []⟩

/-- the listed tables, given how many rows they are said to have -/
def descriptions (count : TableName → Nat) : List TableDescription :=
  store.tables.map fun table => (store.metadataOf table.name).describe table.name (count table.name)

/-- the tables in another dialect, with another account of how many rows they have and of what queries give -/
def answering (dialect : Dialect) (rowCount : TableName → Except SourceError Nat)
    (rows : TableQuery → Option RowRange → Except SourceError (List Row)) : Source :=
  { store.toSource with dialect := dialect, rowCount := rowCount, rows := rows }

/-- a listed name finds a table -/
theorem find_listed {table : StoredTable} (h : table ∈ store.tables) : ∃ found, store.find table.name = .ok found := by
  unfold find
  cases hfind : store.tables.find? fun other => other.name.qualified == table.name.qualified with
  | some found => exact ⟨found, rfl⟩
  | none =>
    have hnone := List.find?_eq_none.mp hfind table h
    simp at hnone

/-- what a name finds is listed, under the same qualified name -/
theorem of_find {store : MemorySource} {name : TableName} {found : StoredTable} (h : store.find name = .ok found) :
    found ∈ store.tables ∧ found.name.qualified = name.qualified := by
  unfold find at h
  split at h
  · next other hfind =>
    cases h
    exact ⟨List.mem_of_find?_eq_some hfind, by simpa using List.find?_some hfind⟩
  · cases h

/-- with distinct names a listed name finds its own table -/
theorem find_of_nodup {store : MemorySource} (hnames : (store.tables.map (·.name.qualified)).Nodup)
    {table : StoredTable} (h : table ∈ store.tables) : store.find table.name = .ok table := by
  rw [find, find?_of_nodup hnames h]

theorem read_answering (dialect : Dialect) (rowCount : TableName → Except SourceError Nat)
    (rows : TableQuery → Option RowRange → Except SourceError (List Row)) {table : StoredTable}
    (h : table ∈ store.tables) :
    Metadata.read (store.answering dialect rowCount rows) table.name = .ok (store.metadataOf table.name) := by
  obtain ⟨found, hfound⟩ := store.find_listed h
  simp only [Metadata.read, answering, toSource, metadataOf, hfound]
  rfl

/-- **Tables in memory are described without failure**, by their metadata and the number of rows that is reported -/
theorem introspect_memory (dialect : Dialect) (rowCount : TableName → Except SourceError Nat)
    (rows : TableQuery → Option RowRange → Except SourceError (List Row)) :
    (store.answering dialect rowCount rows).introspect.value =
      .ok (store.descriptions fun name => (rowCount name).toOption.getD 0) := by
  have hdescribed : ∀ table ∈ store.tables, (store.answering dialect rowCount rows).described table.name =
      .ok ((store.metadataOf table.name).describe table.name ((rowCount table.name).toOption.getD 0)) := by
    intro table h
    rw [Source.described, store.read_answering dialect rowCount rows h]
    rfl
  rw [Source.introspect_value]
  exact (List.mapM_map ..).trans (mapM_eq_pure hdescribed)

end MemorySource

end TableGraph
