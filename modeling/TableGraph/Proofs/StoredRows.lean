/-
Stored rows, by what they say. A row of a table has at most one value in each column: that of its cell in the declared
type of the column. The attributes of a row are its values in the columns of supported types that no key names.

`StoredTable.WellFormed` is what a table has to satisfy for this to make sense: its columns have distinct names, none of
them reserved, and its keys are among them.

Results:
- `StoredTable.get?_attributes_eq_some`: what the attributes of a row are, cell by cell.
- `StoredTable.attributes_of_key`: no attribute has the name of a key column, or one that is no column.
-/
import TableGraph.Graph.Vertices
import TableGraph.Proofs.Headers
import TableGraph.Proofs.Introspection

namespace TableGraph

namespace StoredTable

variable (table : StoredTable)

/-- the label of what comes from the table -/
def label : String := table.name.qualified

/-- the names of the columns, in order -/
def columnNames : List String := table.columns.map (·.name)

/-- whether the rows only link rows of two other tables -/
def isJunction : Bool := table.references.length == 2 && table.primaryKey.length == 2

/-- the value of a row in a column, in the declared type of the column; a null cell has none, and neither have a missing
cell and one that cannot be converted -/
def value? (row : Row) (name : String) : Option Value :=
  (table.columnIndex? name).bind fun index =>
    (table.columns[index]?).bind fun column => ((row[index]?).getD .null).value? (.ofName column.typeName)

/-- the values of a row in some columns -/
def valuesIn (row : Row) (names : List String) : PropertyBag :=
  .ofList (names.filterMap fun name => (table.value? row name).map fun value => (name, value))

/-- the columns of supported types that no key names -/
def attributeNames : List String :=
  (table.columns.filter fun column =>
    !table.metadata.isKey column.name && (ColumnType.ofName column.typeName).isSupported).map (·.name)

/-- the values of a row in the columns that no key names -/
def attributes (row : Row) : PropertyBag := table.valuesIn row table.attributeNames

/-- whether a row gives an attribute a value: its cell in a column of a supported type that no key names converts to the
value, where a missing cell counts as null -/
def HasAttribute (row : Row) (name : String) (value : Value) : Prop :=
  ∃ (index : Nat) (column : DeclaredColumn), table.columns[index]? = some column ∧ column.name = name ∧
    name ∉ table.primaryKey ∧ name ∉ table.references.map (·.column) ∧
    (ColumnType.ofName column.typeName).isSupported = true ∧
    ((row[index]?).getD .null).convert (.ofName column.typeName) = .ok (some value)

/-- columns have distinct names, none of them reserved, and keys are columns -/
structure WellFormed : Prop where
  columns : table.columnNames.Nodup
  unreserved : keyIdentifier ∉ table.columnNames
  primaryKey : ∀ name ∈ table.primaryKey, name ∈ table.columnNames
  references : ∀ reference ∈ table.references, reference.column ∈ table.columnNames

instance : Decidable table.WellFormed :=
  decidable_of_iff
    (table.columnNames.Nodup ∧ keyIdentifier ∉ table.columnNames ∧ (∀ name ∈ table.primaryKey, name ∈ table.columnNames) ∧
      ∀ reference ∈ table.references, reference.column ∈ table.columnNames)
    ⟨fun h => ⟨h.1, h.2.1, h.2.2.1, h.2.2.2⟩, fun h => ⟨h.columns, h.unreserved, h.primaryKey, h.references⟩⟩

/-! ## Columns -/

variable {table}

theorem exists_column {name : String} (h : name ∈ table.columnNames) :
    ∃ (index : Nat) (column : DeclaredColumn), table.columns[index]? = some column ∧ column.name = name := by
  obtain ⟨column, hcolumn, rfl⟩ := List.mem_map.mp h
  obtain ⟨index, hindex⟩ := List.mem_iff_getElem?.mp hcolumn
  exact ⟨index, column, hindex, rfl⟩

theorem columnIndex?_of_not_mem {name : String} (h : name ∉ table.columnNames) : table.columnIndex? name = none := by
  rw [columnIndex?, List.findIdx?_eq_none_iff]
  intro column hcolumn
  simp only [beq_eq_false_iff_ne]
  rintro rfl
  exact h (List.mem_map_of_mem hcolumn)

/-- with distinct names a column is found at its own place -/
theorem columnIndex?_of_getElem? (hcolumns : table.columnNames.Nodup) {index : Nat} {column : DeclaredColumn}
    (h : table.columns[index]? = some column) : table.columnIndex? column.name = some index := by
  obtain ⟨hlt, hindex⟩ := List.getElem?_eq_some_iff.mp h
  rw [columnIndex?, List.findIdx?_eq_some_iff_getElem]
  refine ⟨hlt, by simp [hindex], fun earlier hearlier => ?_⟩
  have hne := List.pairwise_iff_getElem.mp hcolumns earlier index (by simp [columnNames]; omega)
    (by simpa [columnNames] using hlt) hearlier
  simpa [columnNames, hindex] using hne

theorem filter_zipIdx {columns : List DeclaredColumn} (hcolumns : (columns.map (·.name)).Nodup) {index : Nat}
    {column : DeclaredColumn} (h : columns[index]? = some column) (start : Nat) :
    ((columns.zipIdx start).filter fun entry => entry.1.name == column.name) = [(column, start + index)] := by
  induction columns generalizing index start with
  | nil => simp at h
  | cons first rest ih =>
    obtain ⟨hfirst, hrest⟩ := List.nodup_cons.mp hcolumns
    have hother (other : DeclaredColumn) (hmem : other ∈ rest) : other.name ≠ first.name :=
      fun heq => hfirst (List.mem_map.mpr ⟨other, hmem, heq⟩)
    rw [List.zipIdx_cons, List.filter_cons]
    -- induction on the place: the column comes first, or the first column has another name
    cases index with
    | zero =>
      obtain rfl : first = column := by simpa using h
      have hothers : ((rest.zipIdx (start + 1)).filter fun entry => entry.1.name == first.name) = [] := by
        rw [List.filter_eq_nil_iff]
        rintro ⟨other, place⟩ hmem hsame
        exact hother other (List.fst_mem_of_mem_zipIdx hmem) (beq_iff_eq.mp hsame)
      simp [hothers]
    | succ index =>
      rw [List.getElem?_cons_succ] at h
      have hne := (hother column (List.mem_of_getElem? h)).symm
      rw [ih hrest h, if_neg (by simpa using hne)]
      congr 2
      omega

/-- with distinct names the metadata gives a column its own place and type -/
theorem find?_of_getElem? (hcolumns : table.columnNames.Nodup) {index : Nat} {column : DeclaredColumn}
    (h : table.columns[index]? = some column) : table.metadata.find? column.name = some (index, column.typeName) := by
  rw [Metadata.find?, metadata, filter_zipIdx hcolumns h 0]
  simp

/-! ## Values -/

theorem value?_of_not_mem {name : String} (row : Row) (h : name ∉ table.columnNames) : table.value? row name = none := by
  rw [value?, columnIndex?_of_not_mem h, Option.bind_none]

theorem value?_of_getElem? (hcolumns : table.columnNames.Nodup) {index : Nat} {column : DeclaredColumn}
    (h : table.columns[index]? = some column) (row : Row) :
    table.value? row column.name = ((row[index]?).getD .null).value? (.ofName column.typeName) := by
  rw [value?, columnIndex?_of_getElem? hcolumns h, Option.bind_some, h, Option.bind_some]

@[simp] theorem get?_valuesIn (row : Row) (names : List String) (name : String) :
    (table.valuesIn row names).get? name = if name ∈ names then table.value? row name else none :=
  PropertyBag.get?_ofNames _ names name

theorem isKey_metadata {name : String} : table.metadata.isKey name = true ↔
    name ∈ table.primaryKey ∨ name ∈ table.references.map (·.column) :=
  table.metadata.isKey_iff

theorem isKey_metadata_eq_false {name : String} : table.metadata.isKey name = false ↔
    name ∉ table.primaryKey ∧ name ∉ table.references.map (·.column) :=
  table.metadata.isKey_eq_false_iff

theorem mem_attributeNames {name : String} : name ∈ table.attributeNames ↔
    ∃ column ∈ table.columns, column.name = name ∧ table.metadata.isKey name = false ∧
      (ColumnType.ofName column.typeName).isSupported = true := by
  simp only [attributeNames, List.mem_map, List.mem_filter, Bool.and_eq_true, Bool.not_eq_true']
  constructor
  · rintro ⟨column, ⟨hmem, hkey, hsupported⟩, rfl⟩
    exact ⟨column, hmem, rfl, hkey, hsupported⟩
  · rintro ⟨column, hmem, rfl, hkey, hsupported⟩
    exact ⟨column, ⟨hmem, hkey, hsupported⟩, rfl⟩

/-- **The attributes of a row, cell by cell**: they are the values that its cells have in the columns of supported types
that no key names -/
theorem get?_attributes_eq_some (hcolumns : table.columnNames.Nodup) (row : Row) (name : String) (value : Value) :
    (table.attributes row).get? name = some value ↔ table.HasAttribute row name value := by
  rw [attributes, get?_valuesIn]
  constructor
  · intro h
    split_ifs at h with hname
    obtain ⟨column, hcolumn, rfl, hkey, hsupported⟩ := mem_attributeNames.mp hname
    obtain ⟨index, hindex⟩ := List.mem_iff_getElem?.mp hcolumn
    obtain ⟨hprimary, hreference⟩ := isKey_metadata_eq_false.mp hkey
    rw [value?_of_getElem? hcolumns hindex] at h
    exact ⟨index, column, hindex, rfl, hprimary, hreference, hsupported, Cell.value?_eq_some.mp h⟩
  · rintro ⟨index, column, hindex, rfl, hprimary, hreference, hsupported, hvalue⟩
    have hname : column.name ∈ table.attributeNames := mem_attributeNames.mpr
      ⟨column, List.mem_of_getElem? hindex, rfl, isKey_metadata_eq_false.mpr ⟨hprimary, hreference⟩, hsupported⟩
    rw [if_pos hname, value?_of_getElem? hcolumns hindex]
    exact Cell.value?_eq_some.mpr hvalue

/-- no attribute has the name of a key column, or one that is no column -/
theorem attributes_of_key {name : String} (h : table.metadata.isKey name = true ∨ name ∉ table.columnNames) (row : Row) :
    (table.attributes row).get? name = none := by
  rw [attributes, get?_valuesIn, if_neg]
  intro hname
  obtain ⟨column, hcolumn, rfl, hkey, -⟩ := mem_attributeNames.mp hname
  rcases h with h | h
  · simp [hkey] at h
  · exact h (List.mem_map_of_mem hcolumn)

end StoredTable

end TableGraph
