/-
A description splits the columns of a table: a key says where its column is, every other column of a supported type is an
attribute, and there is a notice for everything else. Nothing is lost and nothing is counted twice, whatever names the
source reports, keys that overlap, occur again or name no column among them.

The three lists that a source reports know of each other by names only. Two columns may share a name; a key then means the
last of them (`find?_eq_some_iff`), so that all keys of one name agree on the type.

Results:
- `Metadata.located_keyColumn`: a key has the place and the type of a column of its name, if there is one.
- `Metadata.mem_attributes`, `Metadata.pairwise_attributes`: the attributes, by their places, in column order.
- `Metadata.notices_eq`: the notices, by the keys that name no column and by what is neither a key nor an attribute.
- `Source.describe_splits_columns`: the description and the notices of a table whose metadata can be read.

Witness: `describe_clashing_columns`, with a name that is both kinds of key, a key that is reported twice, a key without a
column and two columns of one name.
-/
import Mathlib.Tactic
import TableGraph.Proofs.Introspection

namespace TableGraph

/-- the place and type of the column that a key names: those of a column of the name, or marks that there is none -/
structure Located (columns : List DeclaredColumn) (name : String) (position : Nat) (type : ColumnType) : Prop where
  listed : name ∈ columns.map (·.name) →
    ∃ column, columns[position]? = some column ∧ column.name = name ∧ type = .ofName column.typeName
  unlisted : name ∉ columns.map (·.name) → position = unknownPosition ∧ type = .other "unknown"

/-- a description accounts for the keys, references and columns that a source reports -/
structure SplitsColumns (keys : List String) (references : List DeclaredReference) (columns : List DeclaredColumn)
    (description : TableDescription) : Prop where
  /-- the primary key, name by name -/
  keysMatch : List.Forall₂
    (fun name key => key.name = name ∧ key.role = .primaryKey ∧ Located columns name key.position key.type)
    keys description.primaryKeys
  /-- the references, one by one; of the place of its column a reference keeps the type only -/
  referencesMatch : List.Forall₂
    (fun declared reference => reference.column = declared.column ∧ reference.targetColumn = declared.targetColumn ∧
      reference.targetTable = declared.target ∧ ∃ position, Located columns declared.column position reference.type)
    references description.references
  /-- a column has one type, as part of the primary key and as a reference -/
  sameType : ∀ key ∈ description.primaryKeys, ∀ reference ∈ description.references,
    key.name = reference.column → key.type = reference.type
  /-- the attributes are in column order -/
  inOrder : description.attributes.Pairwise fun first second => first.position < second.position
  /-- the attributes are the columns of supported types that no key names, in their places -/
  mem_attributes : ∀ column, column ∈ description.attributes ↔
    column.role = .attribute ∧ ∃ declared, columns[column.position]? = some declared ∧
      column.name = declared.name ∧ column.type = .ofName declared.typeName ∧ column.type.isSupported ∧
      declared.name ∉ keys ∧ declared.name ∉ references.map (·.column)
  /-- no attribute has the name of a key -/
  disjoint : ∀ column ∈ description.attributes,
    column.name ∉ description.primaryKeyNames ∧ column.name ∉ description.referenceNames

namespace Metadata

variable (m : Metadata)

/-! ## Keys -/

/-- what is found by a name is the last column of the name -/
theorem find?_eq_some_iff {name typeName : String} {position : Nat} :
    m.find? name = some (position, typeName) ↔ ∃ column, column.typeName = typeName ∧
      (m.columns.zipIdx.filter fun entry => entry.1.name == name).getLast? = some (column, position) := by
  simp only [find?, Option.map_eq_some_iff, Prod.mk.injEq, Prod.exists]
  constructor
  · rintro ⟨column, place, hlast, rfl, rfl⟩
    exact ⟨column, rfl, hlast⟩
  · rintro ⟨column, rfl, hlast⟩
    exact ⟨column, position, hlast, rfl, rfl⟩

/-- a name finds a column of the name, in its place -/
theorem getElem?_of_find? {name typeName : String} {position : Nat} (h : m.find? name = some (position, typeName)) :
    ∃ column, m.columns[position]? = some column ∧ column.name = name ∧ column.typeName = typeName := by
  obtain ⟨column, htype, hlast⟩ := m.find?_eq_some_iff.mp h
  obtain ⟨hmem, hname⟩ := List.mem_filter.mp (List.mem_of_getLast? hlast)
  exact ⟨column, List.mem_zipIdx_iff_getElem?.mp hmem, beq_iff_eq.mp hname, htype⟩

/-- a name finds nothing exactly if no column has it -/
theorem find?_eq_none_iff {name : String} : m.find? name = none ↔ name ∉ m.columns.map (·.name) := by
  simp only [find?, Option.map_eq_none_iff, List.getLast?_eq_none_iff, List.filter_eq_nil_iff, beq_iff_eq, Prod.forall,
    List.mem_zipIdx_iff_getElem?, List.mem_map]
  constructor
  · rintro h ⟨column, hcolumn, hname⟩
    obtain ⟨position, hposition⟩ := List.mem_iff_getElem?.mp hcolumn
    exact h column position hposition hname
  · intro h column position hposition hname
    exact h ⟨column, List.mem_iff_getElem?.mpr ⟨position, hposition⟩, hname⟩

/-- **A key has the place and type of a column of its name**, or is marked as having none -/
theorem located_keyColumn (name : String) : Located m.columns name (m.keyColumn name).1 (m.keyColumn name).2 := by
  unfold keyColumn
  cases hfind : m.find? name with
  | none =>
    have hname := m.find?_eq_none_iff.mp hfind
    exact ⟨fun h => absurd h hname, fun _ => ⟨rfl, rfl⟩⟩
  | some entry =>
    obtain ⟨position, typeName⟩ := entry
    obtain ⟨column, hcolumn, hname, htype⟩ := m.getElem?_of_find? hfind
    have hlisted : name ∈ m.columns.map (·.name) := List.mem_map.mpr ⟨column, List.mem_of_getElem? hcolumn, hname⟩
    exact ⟨fun _ => ⟨column, hcolumn, hname, by rw [htype]⟩, fun h => absurd hlisted h⟩

/-! ## Attributes -/

/-- the columns that are no keys, by their places -/
theorem mem_otherColumns {column : DeclaredColumn} {position : Nat} :
    (column, position) ∈ m.otherColumns ↔ m.columns[position]? = some column ∧
      column.name ∉ m.primaryKeys ∧ column.name ∉ m.references.map (·.column) := by
  rw [otherColumns, List.mem_filter, List.mem_zipIdx_iff_getElem?, Bool.not_eq_true', isKey_eq_false_iff]

/-- **The attributes are the columns of supported types that no key names** -/
theorem mem_attributes {column : Column} :
    column ∈ m.attributes ↔ column.role = .attribute ∧
      ∃ declared, m.columns[column.position]? = some declared ∧ column.name = declared.name ∧
        column.type = .ofName declared.typeName ∧ column.type.isSupported ∧
        declared.name ∉ m.primaryKeys ∧ declared.name ∉ m.references.map (·.column) := by
  simp only [attributes, List.mem_filterMap, Prod.exists, mem_otherColumns, Option.ite_none_right_eq_some,
    Option.some.injEq]
  constructor
  · rintro ⟨declared, position, ⟨hdeclared, hkeys⟩, hsupported, rfl⟩
    exact ⟨rfl, declared, hdeclared, rfl, rfl, hsupported, hkeys⟩
  · rintro ⟨hrole, declared, hdeclared, hname, htype, hsupported, hkeys⟩
    obtain ⟨name, type, role, position⟩ := column
    cases hrole
    cases hname
    cases htype
    exact ⟨declared, position, ⟨hdeclared, hkeys⟩, hsupported, rfl⟩

/-- **The attributes are in column order** -/
theorem pairwise_attributes : m.attributes.Pairwise fun first second => first.position < second.position := by
  have hplaces : m.columns.zipIdx.Pairwise fun first second => first.2 < second.2 := by
    refine List.pairwise_map.mp (?_ : (m.columns.zipIdx.map Prod.snd).Pairwise (· < ·))
    rw [List.zipIdx_map_snd]
    exact List.pairwise_lt_range'
  refine List.Pairwise.filterMap _ ?_ (hplaces.filter fun entry => !m.isKey entry.1.name)
  intro first second hlt column hcolumn next hnext
  simp only [Option.ite_none_right_eq_some, Option.some.injEq] at hcolumn hnext
  obtain ⟨-, rfl⟩ := hcolumn
  obtain ⟨-, rfl⟩ := hnext
  exact hlt

/-- a column that is no key is an attribute exactly if its type is supported -/
theorem position_mem_attributes {declared : DeclaredColumn} {position : Nat} (h : (declared, position) ∈ m.otherColumns) :
    position ∈ m.attributes.map (·.position) ↔ (ColumnType.ofName declared.typeName).isSupported := by
  obtain ⟨hdeclared, hkeys⟩ := m.mem_otherColumns.mp h
  rw [List.mem_map]
  constructor
  · rintro ⟨column, hcolumn, rfl⟩
    obtain ⟨-, other, hother, -, htype, hsupported, -⟩ := m.mem_attributes.mp hcolumn
    cases hdeclared.symm.trans hother
    rwa [htype] at hsupported
  · intro hsupported
    exact ⟨⟨declared.name, _, .attribute, position⟩,
      m.mem_attributes.mpr ⟨rfl, declared, hdeclared, rfl, rfl, hsupported, hkeys⟩, rfl⟩

/-! ## Notices -/

/-- **A notice for every key without a column, and for every column that is neither a key nor an attribute** -/
theorem notices_eq (label : String) :
    m.notices label =
      ((m.primaryKeys ++ m.references.map (·.column)).filter (· ∉ m.columns.map (·.name))).map
          (Notice.keyColumnMissing label ·) ++
        (m.columns.zipIdx.filter fun entry => entry.1.name ∉ m.primaryKeys ∧
            entry.1.name ∉ m.references.map (·.column) ∧ entry.2 ∉ m.attributes.map (·.position)).map
          fun entry => Notice.unsupportedColumn label entry.1.name entry.1.typeName := by
  have hmissing : ((m.primaryKeys ++ m.references.map (·.column)).filter fun name => (m.find? name).isNone) =
      (m.primaryKeys ++ m.references.map (·.column)).filter (· ∉ m.columns.map (·.name)) := by
    refine List.filter_congr fun name _ => ?_
    rw [Bool.eq_iff_iff, Option.isNone_iff_eq_none, find?_eq_none_iff, decide_eq_true_iff]
  -- of the columns that are no keys, an unsupported type and a place that is not among the attributes are the same thing
  have hunsupported : (m.otherColumns.filter fun entry => !(ColumnType.ofName entry.1.typeName).isSupported) =
      m.columns.zipIdx.filter fun entry => entry.1.name ∉ m.primaryKeys ∧
        entry.1.name ∉ m.references.map (·.column) ∧ entry.2 ∉ m.attributes.map (·.position) := by
    rw [otherColumns, List.filter_filter]
    refine List.filter_congr fun entry hentry => ?_
    rw [Bool.eq_iff_iff, Bool.and_eq_true, Bool.not_eq_true', Bool.not_eq_true', decide_eq_true_iff,
      isKey_eq_false_iff]
    constructor
    · rintro ⟨hunsupported, hkeys⟩
      have hother := m.mem_otherColumns.mpr ⟨List.mem_zipIdx_iff_getElem?.mp hentry, hkeys⟩
      exact ⟨hkeys.1, hkeys.2, by simp [m.position_mem_attributes hother, hunsupported]⟩
    · rintro ⟨hkey, hreference, hposition⟩
      have hother := m.mem_otherColumns.mpr ⟨List.mem_zipIdx_iff_getElem?.mp hentry, hkey, hreference⟩
      exact ⟨by simpa [m.position_mem_attributes hother] using hposition, hkey, hreference⟩
  rw [notices, hmissing, hunsupported]

/-! ## Descriptions -/

/-- the description of metadata splits the columns -/
theorem describe_splits (table : TableName) (rowCount : Nat) :
    SplitsColumns m.primaryKeys m.references m.columns (m.describe table rowCount) where
  keysMatch := List.forall₂_map_right_iff.mpr
    (List.forall₂_same.mpr fun name _ => ⟨rfl, rfl, m.located_keyColumn name⟩)
  referencesMatch := List.forall₂_map_right_iff.mpr
    (List.forall₂_same.mpr fun declared _ => ⟨rfl, rfl, rfl, _, m.located_keyColumn declared.column⟩)
  sameType := by
    intro key hkey reference hreference hname
    obtain ⟨name, -, rfl⟩ := List.mem_map.mp hkey
    obtain ⟨declared, -, rfl⟩ := List.mem_map.mp hreference
    exact congrArg (fun name => (m.keyColumn name).2) hname
  inOrder := m.pairwise_attributes
  mem_attributes _ := m.mem_attributes
  disjoint := by
    intro column hcolumn
    obtain ⟨-, declared, -, hname, -, -, hkey, hreference⟩ := m.mem_attributes.mp hcolumn
    rw [hname, primaryKeyNames_describe, referenceNames_describe]
    exact ⟨hkey, hreference⟩

end Metadata

namespace Source

/-- what a source says about a table, if none of the three calls fails -/
theorem read_of_ok {source : Source} {table : TableName} {keys : List String} {references : List DeclaredReference}
    {columns : List DeclaredColumn} (hkeys : source.primaryKeys table = .ok keys)
    (hreferences : source.references table = .ok references) (hcolumns : source.columns table = .ok columns) :
    Metadata.read source table = .ok ⟨keys, references, columns⟩ := by
  rw [Metadata.read, hkeys, hreferences, hcolumns]
  rfl

/-- the notice that a source cannot tell how many rows a table has -/
theorem notices_estimatedRows (source : Source) (table : TableName) :
    (source.estimatedRows table).notices =
      match source.rowCount table with
      | .ok _ => []
      | .error cause => [.rowCountUnknown table.qualified cause] := by
  unfold estimatedRows
  cases source.rowCount table <;> rfl

/-- **A table is described without loss or overlap of its columns.** Whatever the metadata is, the description splits the
columns, and there is one notice for every occurrence of a key without a column, then one for every column that is
neither a key nor an attribute, and no other but that the number of rows is not known -/
theorem describe_splits_columns (source : Source) (table : TableName) {keys : List String}
    {references : List DeclaredReference} {columns : List DeclaredColumn}
    (hkeys : source.primaryKeys table = .ok keys) (hreferences : source.references table = .ok references)
    (hcolumns : source.columns table = .ok columns) :
    ∃ description, (source.describe table).value = .ok description ∧
      SplitsColumns keys references columns description ∧
      (source.describe table).notices =
        ((keys ++ references.map (·.column)).filter (· ∉ columns.map (·.name))).map
            (Notice.keyColumnMissing table.qualified ·) ++
          (columns.zipIdx.filter fun entry => entry.1.name ∉ keys ∧
              entry.1.name ∉ references.map (·.column) ∧ entry.2 ∉ description.attributes.map (·.position)).map
            (fun entry => Notice.unsupportedColumn table.qualified entry.1.name entry.1.typeName) ++
          match source.rowCount table with
          | .ok _ => []
          | .error cause => [.rowCountUnknown table.qualified cause] := by
  have hread := read_of_ok hkeys hreferences hcolumns
  let m : Metadata := ⟨keys, references, columns⟩
  simp only [describe, hread, Noted.value_bind, Noted.value_pure, Noted.notices_bind, Noted.notices_pure,
    Noted.notices_tell, notices_estimatedRows, List.append_nil]
  exact ⟨_, rfl, m.describe_splits table _, congrArg (· ++ _) (m.notices_eq table.qualified)⟩

/-- a source whose one table has a column that is both kinds of key, a key that is reported twice, a key without a
column, and two columns of one name -/
def clashing : Source where
  dialect := .postgresql
  tables := .ok [⟨none, "visits"⟩]
  primaryKeys _ := .ok ["id", "gone", "id"]
  references _ := .ok [⟨"id", none, "people", "id"⟩, ⟨"gone", some "", "places", "id"⟩]
  columns _ := .ok [⟨"note", "text"⟩, ⟨"id", "integer"⟩, ⟨"scan", "bytea"⟩, ⟨"id", "bigint"⟩, ⟨"note", "uuid"⟩]
  rowCount _ := .error (.metadata "visits" "no statistics")
  rows _ _ := .ok []

/-- the metadata of the table can be read, and the description that follows splits the columns -/
theorem describe_clashing_columns :
    clashing.primaryKeys ⟨none, "visits"⟩ = .ok ["id", "gone", "id"] ∧
      clashing.references ⟨none, "visits"⟩ = .ok [⟨"id", none, "people", "id"⟩, ⟨"gone", some "", "places", "id"⟩] ∧
      clashing.columns ⟨none, "visits"⟩ =
        .ok [⟨"note", "text"⟩, ⟨"id", "integer"⟩, ⟨"scan", "bytea"⟩, ⟨"id", "bigint"⟩, ⟨"note", "uuid"⟩] ∧
      ∃ description, (clashing.describe ⟨none, "visits"⟩).value = .ok description ∧
        SplitsColumns ["id", "gone", "id"] [⟨"id", none, "people", "id"⟩, ⟨"gone", some "", "places", "id"⟩]
          [⟨"note", "text"⟩, ⟨"id", "integer"⟩, ⟨"scan", "bytea"⟩, ⟨"id", "bigint"⟩, ⟨"note", "uuid"⟩] description ∧
        description.primaryKeys.map (·.position) = [3, unknownPosition, 3] ∧
        description.attributes.map (·.position) = [0, 4] ∧
        (clashing.describe ⟨none, "visits"⟩).notices =
          [.keyColumnMissing "visits" "gone", .keyColumnMissing "visits" "gone",
            .unsupportedColumn "visits" "scan" "bytea",
            .rowCountUnknown "visits" (.metadata "visits" "no statistics")] := by
  obtain ⟨description, hvalue, hsplit, hnotices⟩ := describe_splits_columns clashing ⟨none, "visits"⟩ rfl rfl rfl
  have hdescription : description = Metadata.describe ⟨_, _, _⟩ ⟨none, "visits"⟩ 0 := (Except.ok.inj hvalue).symm
  refine ⟨rfl, rfl, rfl, description, hvalue, hsplit, ?_, ?_, ?_⟩
  · rw [hdescription]
    rfl
  · rw [hdescription]
    decide +kernel
  · rw [hnotices, hdescription]
    decide +kernel

end Source

end TableGraph
