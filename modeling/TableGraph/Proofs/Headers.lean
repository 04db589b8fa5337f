/-
Headers, by what they list. A header grows by one entry after the other, each of which takes the next place; what every
entry keeps holds of the whole header. A row that has one cell for each name of such a header is read name by name.

Results:
- `TableDescription.aligned_header`, `JunctionRule.aligned_header`: every entry describes the cell at its own place.
- `TableDescription.mem_header_names`, `JunctionRule.mem_header_names`: the columns that are fetched.
- `Header.values_eq`: the values of a row, name by name.
-/
import TableGraph.Proofs.Bags
import TableGraph.Retrieval.Load

namespace TableGraph

/-- the value of a cell in a type; a null cell and one that cannot be converted have none -/
def Cell.value? (cell : Cell) (type : ColumnType) : Option Value := (cell.convert type).toOption.join

theorem Cell.value?_eq_some {cell : Cell} {type : ColumnType} {value : Value} :
    cell.value? type = some value ↔ cell.convert type = .ok (some value) := by
  unfold Cell.value?
  cases hconvert : cell.convert type with
  | error cause => simp [Except.toOption]
  | ok result => simp [Except.toOption]

namespace Header

/-- whether every entry describes the cell at its own place -/
def Aligned (header : Header) : Prop :=
  ∀ (k : Nat) (entry : HeaderEntry), header.entries[k]? = some entry → entry.position = k

/-- whether the type of every entry is the one of its name -/
def Typed (types : String → ColumnType) (header : Header) : Prop :=
  ∀ entry ∈ header.entries, entry.type = types entry.name

theorem Aligned.position_lt {header : Header} (h : header.Aligned) {entry : HeaderEntry} (hentry : entry ∈ header.entries) :
    entry.position < header.entries.length := by
  obtain ⟨k, hk⟩ := List.mem_iff_getElem?.mp hentry
  rw [h k entry hk]
  exact (List.getElem?_eq_some_iff.mp hk).1

/-! ## One entry after the other -/

theorem aligned_empty : empty.Aligned := by
  intro k entry h
  simp [empty] at h

/-- a new entry takes the next place -/
theorem Aligned.push {header : Header} (h : header.Aligned) (name : String) (role : ColumnRole) (type : ColumnType) :
    (header.push name role type).Aligned := by
  intro k entry hentry
  rw [Header.push, List.getElem?_append] at hentry
  split_ifs at hentry with hk
  · exact h k entry hentry
  · rw [List.getElem?_singleton] at hentry
    split_ifs at hentry with hlast
    cases hentry
    change header.entries.length = k
    omega

theorem typed_empty (types : String → ColumnType) : empty.Typed types := by
  intro entry h
  simp [empty] at h

theorem Typed.push {types : String → ColumnType} {header : Header} (h : header.Typed types) {name : String}
    (role : ColumnRole) {type : ColumnType} (htype : type = types name) : (header.push name role type).Typed types := by
  intro entry hentry
  rcases List.mem_append.mp hentry with hentry | hentry
  · exact h entry hentry
  · obtain rfl := List.mem_singleton.mp hentry
    exact htype

@[simp] theorem names_empty : empty.names = [] := rfl

@[simp] theorem names_push (header : Header) (name : String) (role : ColumnRole) (type : ColumnType) :
    (header.push name role type).names = header.names ++ [name] := by
  simp [names, push]

@[simp] theorem names_pushColumns (header : Header) (role : ColumnRole) (columns : List Column) :
    (header.pushColumns role columns).names = header.names ++ columns.map (·.name) := by
  unfold pushColumns
  induction columns generalizing header with
  | nil => simp
  | cons column rest ih => simp [ih]

/-- a referencing column is listed afterwards, whether or not it was before -/
theorem mem_names_pushReference (header : Header) (reference : Reference) (name : String) :
    name ∈ (header.pushReference reference).names ↔ name ∈ header.names ∨ name = reference.column := by
  unfold pushReference
  split_ifs with hlisted
  · have hmem : reference.column ∈ header.names := List.contains_iff_mem.mp hlisted
    constructor
    · exact .inl
    · rintro (h | rfl)
      · exact h
      · exact hmem
  · simp

theorem mem_names_pushReferences (header : Header) (references : List Reference) (name : String) :
    name ∈ (references.foldl pushReference header).names ↔ name ∈ header.names ∨ name ∈ references.map (·.column) := by
  induction references generalizing header with
  | nil => simp
  | cons reference rest ih => simp [ih, mem_names_pushReference, or_assoc]

/-! ## What every entry keeps -/

section Induction

variable {P : Header → Prop}

/-- what every added column keeps, adding columns keeps -/
theorem pushColumns_induction {role : ColumnRole} {columns : List Column}
    (hpush : ∀ header, ∀ column ∈ columns, P header → P (header.push column.name role column.type)) {header : Header}
    (h : P header) : P (header.pushColumns role columns) := by
  unfold pushColumns
  induction columns generalizing header with
  | nil => exact h
  | cons column rest ih =>
    exact ih (fun header other hother => hpush header other (List.mem_cons_of_mem column hother))
      (hpush header column List.mem_cons_self h)

/-- what every added reference keeps, adding references keeps -/
theorem pushReferences_induction {references : List Reference}
    (hpush : ∀ header, ∀ reference ∈ references, P header → P (header.push reference.column .foreignKey reference.type))
    {header : Header} (h : P header) : P (references.foldl pushReference header) := by
  induction references generalizing header with
  | nil => exact h
  | cons reference rest ih =>
    refine ih (fun header other hother => hpush header other (List.mem_cons_of_mem reference hother)) ?_
    unfold pushReference
    split_ifs
    · exact h
    · exact hpush header reference List.mem_cons_self h

end Induction

end Header

namespace TableDescription

variable (table : TableDescription)

/-- what holds of no cells and is kept by every column of a table holds of its header -/
theorem header_induction {P : Header → Prop} (hempty : P Header.empty)
    (hkeys : ∀ header, ∀ column ∈ table.primaryKeys, P header → P (header.push column.name .primaryKey column.type))
    (hreferences : ∀ header, ∀ reference ∈ table.references, P header →
      P (header.push reference.column .foreignKey reference.type))
    (hattributes : ∀ header, ∀ column ∈ table.attributes, P header → P (header.push column.name .attribute column.type)) :
    P table.header :=
  Header.pushColumns_induction hattributes
    (Header.pushReferences_induction hreferences (Header.pushColumns_induction hkeys hempty))

theorem aligned_header : table.header.Aligned :=
  table.header_induction Header.aligned_empty (fun _ _ _ h => h.push _ _ _) (fun _ _ _ h => h.push _ _ _)
    fun _ _ _ h => h.push _ _ _

theorem typed_header {types : String → ColumnType} (hkeys : ∀ column ∈ table.primaryKeys, column.type = types column.name)
    (hreferences : ∀ reference ∈ table.references, reference.type = types reference.column)
    (hattributes : ∀ column ∈ table.attributes, column.type = types column.name) : table.header.Typed types :=
  table.header_induction (Header.typed_empty types) (fun _ column hmem h => h.push _ (hkeys column hmem))
    (fun _ reference hmem h => h.push _ (hreferences reference hmem))
    fun _ column hmem h => h.push _ (hattributes column hmem)

/-- the key columns, the referencing columns and the attributes are fetched -/
theorem mem_header_names (name : String) :
    name ∈ table.header.names ↔
      name ∈ table.primaryKeyNames ∨ name ∈ table.referenceNames ∨ name ∈ table.attributes.map (·.name) := by
  unfold header
  simp [Header.mem_names_pushReferences, primaryKeyNames, referenceNames, or_assoc]

end TableDescription

namespace JunctionRule

variable (rule : JunctionRule)

theorem aligned_header : rule.header.Aligned :=
  Header.pushColumns_induction (fun _ _ _ h => h.push _ _ _) ((Header.aligned_empty.push _ _ _).push _ _ _)

theorem typed_header {types : String → ColumnType} (hone : rule.one.type = types rule.one.column)
    (htwo : rule.two.type = types rule.two.column)
    (hattributes : ∀ column ∈ rule.attributes, column.type = types column.name) :
    rule.header.Typed types :=
  Header.pushColumns_induction (fun _ column hmem h => h.push _ (hattributes column hmem))
    (((Header.typed_empty types).push _ hone).push _ htwo)

theorem header_names : rule.header.names = rule.one.column :: rule.two.column :: rule.attributes.map (·.name) := by
  simp [header]

end JunctionRule

/-! ## Rows under a header -/

theorem HeaderEntry.value?_eq {entry : HeaderEntry} {row : Row} {cell : Cell} (h : row[entry.position]? = some cell) :
    entry.value? row = (cell.value? entry.type).map fun value => (entry.name, value) := by
  unfold HeaderEntry.value? HeaderEntry.outcome Cell.value?
  simp only [h]
  cases cell.convert entry.type with
  | error cause => rfl
  | ok result => cases result <;> rfl

/-- **A row is read name by name**, if it has one cell for each name of an aligned header -/
theorem Header.values_eq {header : Header} (haligned : header.Aligned) {types : String → ColumnType}
    (htyped : header.Typed types) (cells : String → Cell) :
    header.values (header.names.map cells) = PropertyBag.ofList (header.names.filterMap fun name =>
      ((cells name).value? (types name)).map fun value => (name, value)) := by
  have hentries : (header.entries.filterMap fun entry => entry.value? (header.names.map cells)) =
      header.names.filterMap fun name => ((cells name).value? (types name)).map fun value => (name, value) := by
    conv_rhs => rw [Header.names, List.filterMap_map]
    refine List.filterMap_congr fun entry hmem => ?_
    obtain ⟨k, hk⟩ := List.mem_iff_getElem?.mp hmem
    have hcell : (header.names.map cells)[entry.position]? = some (cells entry.name) := by
      simp [haligned k entry hk, Header.names, hk]
    rw [HeaderEntry.value?_eq hcell, htyped entry hmem]
    rfl
  rw [Header.values, hentries]

end TableGraph
