/-
Places. A plan asks for columns by their names, its header says what the cell at each place is, and a row is a list of
cells. A table in memory is asked by name and answers by place, from rows that may be shorter or longer than its list of
columns.

Results:
- `TableDescription.columns_header`, `JunctionRule.columns_header`: what a header lists, in order.
- `TableDescription.lists_retrieval`: the plan of a table lists what the table has, and asks for it place by place.
- `MemorySource.fetch_eq_ok_iff`: the rows that are fetched from memory, cell by cell.
- `plans_aligned`: columns, headers and rows agree place by place.
Witness:
- `shipments_aligned`: a key column that is a reference too, two references by one column, and rows that are too short and
  too long.
-/
import TableGraph.Proofs.KeyIndexLookup
import TableGraph.Proofs.RowFields
import TableGraph.Proofs.StoredTables

namespace TableGraph

/-! ## What a header lists -/

/-- what an entry says of a cell besides its place -/
def HeaderEntry.column (entry : HeaderEntry) : String × ColumnRole × ColumnType := (entry.name, entry.role, entry.type)

/-- a column as a header lists it in a role -/
def Column.listedAs (role : ColumnRole) (column : Column) : String × ColumnRole × ColumnType :=
  (column.name, role, column.type)

/-- a referencing column as a header lists it -/
def Reference.listed (reference : Reference) : String × ColumnRole × ColumnType :=
  (reference.column, .foreignKey, reference.type)

/-- the references by columns that have none of these names: of several references by one column the first one -/
def newReferences (names : List String) (references : List Reference) : List Reference :=
  (references.filter fun reference => !names.contains reference.column).eraseDupsBy fun a b => a.column == b.column

/-- keeping the first element of each image and then the images are the images, each once -/
theorem map_eraseDupsBy {α : Type} (f : α → String) (xs : List α) :
    (xs.eraseDupsBy fun a b => f a == f b).map f = (xs.map f).eraseDups := by
  induction h : xs.length using Nat.strong_induction_on generalizing xs with
  | _ n ih =>
    cases xs with
    | nil => rfl
    | cons x rest =>
      have hkept : rest.filter (fun y => decide ((f y == f x) = false)) = rest.filter fun y => !f y == f x := by
        refine List.filter_congr fun y _ => ?_
        cases f y == f x <;> rfl
      have hshorter := List.length_filter_le (fun y => !f y == f x) rest
      have hrest := ih _ (by simp at h; omega) (rest.filter fun y => !f y == f x) rfl
      rw [List.eraseDupsBy_cons, hkept, List.map_cons, hrest, List.map_cons, List.eraseDups_cons, List.filter_map]
      rfl

theorem columns_newReferences (names : List String) (references : List Reference) :
    (newReferences names references).map (·.column) =
      ((references.map (·.column)).filter fun name => !names.contains name).eraseDups := by
  rw [newReferences, map_eraseDupsBy, List.filter_map]
  rfl

/-- a reference by a column that is listed adds nothing -/
theorem newReferences_cons_of_mem {names : List String} {reference : Reference} (h : reference.column ∈ names)
    (references : List Reference) : newReferences names (reference :: references) = newReferences names references := by
  simp [newReferences, h]

/-- after a reference by a column that is not listed, the column is listed -/
theorem newReferences_cons_of_not_mem {names : List String} {reference : Reference} (h : reference.column ∉ names)
    (references : List Reference) : newReferences names (reference :: references) =
      reference :: newReferences (names ++ [reference.column]) references := by
  have hkept : (reference :: references).filter (fun other => !names.contains other.column) =
      reference :: references.filter fun other => !names.contains other.column := by
    simp [h]
  rw [newReferences, hkept, List.eraseDupsBy_cons, newReferences, List.filter_filter]
  congr 2
  refine List.filter_congr fun other _ => ?_
  by_cases hsame : other.column = reference.column
  · simp [hsame]
  · simp [hsame]

namespace Header

/-- what a header says of the cells besides their places, in order -/
def columns (header : Header) : List (String × ColumnRole × ColumnType) := header.entries.map (·.column)

theorem columns_push (header : Header) (name : String) (role : ColumnRole) (type : ColumnType) :
    (header.push name role type).columns = header.columns ++ [(name, role, type)] := by
  simp [columns, push, HeaderEntry.column]

theorem columns_pushColumns (header : Header) (role : ColumnRole) (columns : List Column) :
    (header.pushColumns role columns).columns = header.columns ++ columns.map (·.listedAs role) := by
  unfold pushColumns
  induction columns generalizing header with
  | nil => simp
  | cons column rest ih =>
    rw [List.foldl_cons, ih, columns_push, List.append_assoc]
    rfl

/-- **Each referencing column is listed once**, where it comes first, unless it is listed already -/
theorem columns_pushReferences (header : Header) (references : List Reference) :
    (references.foldl pushReference header).columns =
      header.columns ++ (newReferences header.names references).map (·.listed) := by
  induction references generalizing header with
  | nil =>
    rw [List.foldl_nil, newReferences, List.filter_nil, List.eraseDupsBy_nil, List.map_nil, List.append_nil]
  | cons reference rest ih =>
    -- the header grows on the way, and so does the list of names that later references have to differ from
    rw [List.foldl_cons, ih]
    by_cases hlisted : reference.column ∈ header.names
    · have hpush : header.pushReference reference = header := if_pos (List.contains_iff_mem.mpr hlisted)
      rw [hpush, newReferences_cons_of_mem hlisted]
    · have hpush : header.pushReference reference = header.push reference.column .foreignKey reference.type :=
        if_neg (mt List.contains_iff_mem.mp hlisted)
      rw [hpush, columns_push, names_push, newReferences_cons_of_not_mem hlisted, List.map_cons, List.append_assoc]
      rfl

/-- of a row with a cell for each entry no field is left out because its cell is missing -/
theorem fault_of_mem_emptyFields {header : Header} (haligned : header.Aligned) {row : Row}
    (hwidth : row.length = header.entries.length) {field : EmptyField} (h : field ∈ header.emptyFields row) :
    ∃ cause, field.reason = .fault cause := by
  obtain ⟨entry, hentry, hleft⟩ := mem_emptyFields_iff.mp h
  have hplace : entry.position < row.length := hwidth ▸ haligned.position_lt hentry
  cases hleft with
  | missing hmissing => exact absurd hplace (List.getElem?_eq_none_iff.mp hmissing).not_gt
  | @fault cell cause hcell hfault => exact ⟨cause, rfl⟩

end Header

namespace TableDescription

variable (table : TableDescription)

/-- the references by columns that are not in the primary key: of several references by one column the first one -/
def ownReferences : List Reference := newReferences table.primaryKeyNames table.references

/-- the columns of these references are the referencing columns outside the primary key, each once -/
theorem columns_ownReferences :
    table.ownReferences.map (·.column) =
      (table.referenceNames.filter fun name => !table.isPrimaryKey name).eraseDups :=
  columns_newReferences table.primaryKeyNames table.references

/-- **What is listed of a vertex table**: its primary key, the other referencing columns and its attributes -/
theorem columns_header :
    table.header.columns = table.primaryKeys.map (·.listedAs .primaryKey) ++ table.ownReferences.map (·.listed) ++
      table.attributes.map (·.listedAs .attribute) := by
  rw [header, Header.columns_pushColumns, Header.columns_pushReferences, Header.columns_pushColumns,
    Header.names_pushColumns]
  rfl

end TableDescription

/-- **What is listed of a junction table**: the columns of its two sides and its attributes -/
theorem JunctionRule.columns_header (rule : JunctionRule) :
    rule.header.columns = (rule.one.column, .foreignKey, rule.one.type) :: (rule.two.column, .foreignKey, rule.two.type) ::
      rule.attributes.map (·.listedAs .attribute) := by
  rw [header, Header.columns_pushColumns, Header.columns_push, Header.columns_push]
  rfl

/-! ## Plans -/

/-- what is to be listed of a table, in order: of a junction table the columns of its two references and the attributes; of
any other table the primary key, each other referencing column once, and the attributes -/
def TableDescription.listing (table : TableDescription) : List (String × ColumnRole × ColumnType) :=
  if table.isJunction then table.references.map (·.listed) ++ table.attributes.map (·.listedAs .attribute)
  else table.primaryKeys.map (·.listedAs .primaryKey) ++ table.ownReferences.map (·.listed) ++
    table.attributes.map (·.listedAs .attribute)

/-- whether a plan lists what a table has, and asks for it place by place -/
structure TableDescription.Lists (table : TableDescription) (plan : RetrievalPlan) : Prop where
  source : plan.query.source = table.source
  label : plan.label = table.label
  kind : plan.kind = if table.isJunction then .junction else .vertex
  asked : plan.query.columns = plan.header.names
  places : plan.header.Aligned
  listed : plan.header.columns = table.listing

/-- **The plan of a table lists what the table has** -/
theorem TableDescription.lists_retrieval (table : TableDescription) (dialect : Dialect) (options : RetrievalOptions) :
    table.Lists (table.retrieval dialect options) := by
  obtain ⟨hsource, hlabel⟩ := table.names_retrieval dialect options
  cases hjunction : table.isJunction with
  | false =>
    have hplan := retrieval_of_not_isJunction hjunction dialect options
    have hlisting : table.header.columns = table.listing := by
      rw [table.columns_header, listing, hjunction, if_neg Bool.false_ne_true]
    rw [hplan] at hsource hlabel ⊢
    exact ⟨hsource, hlabel, by rw [hjunction]; rfl, rfl, table.aligned_header, hlisting⟩
  | true =>
    obtain ⟨one, two, hreferences⟩ := references_of_isJunction hjunction
    have hrule : table.junction? =
        some ⟨table.source, table.label, endpoint one, endpoint two, table.attributes, table.rowCount⟩ := by
      rw [junction?, hjunction, hreferences]
    rw [retrieval, hrule] at hsource hlabel ⊢
    refine ⟨hsource, hlabel, by rw [hjunction]; rfl, rfl, JunctionRule.aligned_header _, ?_⟩
    rw [listing, hjunction, if_pos rfl, hreferences]
    exact JunctionRule.columns_header _

/-! ## Rows in memory -/

/-- whether cells are those of a stored row under a header: for each entry there is the cell of the row in the column of this
name, or null if the row is too short to have one -/
structure StoredTable.ReadsAs (table : StoredTable) (header : Header) (row cells : Row) : Prop where
  width : cells.length = header.entries.length
  cell : ∀ (k : Nat) (entry : HeaderEntry), header.entries[k]? = some entry →
    ∃ index, table.columnIndex? entry.name = some index ∧ cells[k]? = some ((row[index]?).getD .null)

namespace StoredTable

variable {table : StoredTable} {header : Header}

theorem exists_columnIndex? {name : String} (h : name ∈ table.columnNames) :
    ∃ index, table.columnIndex? name = some index :=
  Option.isSome_iff_exists.mp (isSome_columnIndex?.mpr h)

theorem cell_of_columnIndex? {name : String} {index : Nat} (h : table.columnIndex? name = some index) (row : Row) :
    table.cell row name = (row[index]?).getD .null := by
  rw [cell, h, Option.bind_some]

/-- the cells of a stored row are those of the columns of the header, one after the other -/
theorem readsAs_iff (hlisted : ∀ name ∈ header.names, name ∈ table.columnNames) {row cells : Row} :
    table.ReadsAs header row cells ↔ cells = header.names.map (table.cell row) := by
  constructor
  · intro h
    apply List.ext_getElem?
    intro k
    rw [List.getElem?_map, Header.names, List.getElem?_map]
    cases hentry : header.entries[k]? with
    | none =>
      rw [List.getElem?_eq_none_iff] at hentry
      exact List.getElem?_eq_none (h.width ▸ hentry)
    | some entry =>
      obtain ⟨index, hindex, hcell⟩ := h.cell k entry hentry
      rw [hcell, ← cell_of_columnIndex? hindex]
      rfl
  · rintro rfl
    refine ⟨by simp [Header.names], ?_⟩
    intro k entry hentry
    have hname : header.names[k]? = some entry.name := by
      rw [Header.names, List.getElem?_map, hentry]
      rfl
    obtain ⟨index, hindex⟩ := exists_columnIndex? (hlisted entry.name (List.mem_of_getElem? hname))
    refine ⟨index, hindex, ?_⟩
    rw [List.getElem?_map, hname, ← cell_of_columnIndex? hindex]
    rfl

/-- every stored row can be read under a header that lists columns of the table -/
theorem forall₂_readsAs (table : StoredTable) (hlisted : ∀ name ∈ header.names, name ∈ table.columnNames) :
    List.Forall₂ (table.ReadsAs header) table.rows (table.rows.map fun row => header.names.map (table.cell row)) :=
  List.forall₂_map_right_iff.mpr (List.forall₂_same.mpr fun _ _ => (readsAs_iff hlisted).mpr rfl)

end StoredTable

namespace MemorySource

variable (store : MemorySource)

/-- the cells that are asked for are found if there is such a table and it has the columns -/
theorem answer?_eq_some_iff {name : TableName} {header : Header} {rows : List Row} :
    store.answer? name header.names = some rows ↔
      ∃ table, store.find name = .ok table ∧ (∀ column ∈ header.names, column ∈ table.columnNames) ∧
        List.Forall₂ (table.ReadsAs header) table.rows rows := by
  unfold answer?
  cases hfind : store.find name with
  | error cause => simp [Except.toOption]
  | ok table =>
    have hrows (hlisted : ∀ column ∈ header.names, column ∈ table.columnNames) :
        List.Forall₂ (table.ReadsAs header) table.rows rows ↔
          rows = table.rows.map fun row => header.names.map (table.cell row) := by
      have hread : flip (table.ReadsAs header) = fun cells row => cells = header.names.map (table.cell row) := by
        funext cells row
        exact propext (StoredTable.readsAs_iff hlisted)
      calc List.Forall₂ (table.ReadsAs header) table.rows rows
          ↔ List.Forall₂ (flip (table.ReadsAs header)) rows table.rows := ⟨List.Forall₂.flip, List.Forall₂.flip⟩
        _ ↔ List.Forall₂ (· = ·) rows (table.rows.map fun row => header.names.map (table.cell row)) := by
          rw [hread, List.forall₂_map_right_iff]
        _ ↔ rows = table.rows.map fun row => header.names.map (table.cell row) := by rw [List.forall₂_eq_eq_eq]
    rw [Except.toOption, Option.bind_some, StoredTable.cells_eq_some_iff]
    constructor
    · rintro ⟨hlisted, hcells⟩
      exact ⟨table, rfl, hlisted, (hrows hlisted).mpr hcells⟩
    · rintro ⟨other, hother, hlisted, hread⟩
      cases hother
      exact ⟨hlisted, (hrows hlisted).mp hread⟩

/-- **The rows that are fetched from memory** are the stored rows as the header of the plan describes them -/
theorem fetch_eq_ok_iff {plan : RetrievalPlan} (hcovers : plan.Covers) (hasked : plan.query.columns = plan.header.names)
    {rows : List Row} : plan.fetch store.toSource = .ok rows ↔
      ∃ table, store.find plan.query.source = .ok table ∧ (∀ column ∈ plan.header.names, column ∈ table.columnNames) ∧
        List.Forall₂ (table.ReadsAs plan.header) table.rows rows := by
  have hfetch : plan.fetch store.toSource = .ok rows ↔ (plan.fetch store.toSource).toOption = some rows := by
    cases plan.fetch store.toSource <;> simp [Except.toOption]
  rw [hfetch, store.toOption_fetch_memory rfl hcovers, hasked, answer?_eq_some_iff]

end MemorySource

/-! ## Places throughout -/

/-- **Columns, headers and rows agree place by place.** Every vertex table has its plan, in order, and then every junction
table. The header of each plan lists what the table has, each entry describes the cell at its own place, and the query asks
for the columns of these names. From a table in memory that has these columns all rows are fetched: each with one cell for
each entry, whatever the width of the stored row, namely its cell in the column of the entry, or null if it is too short. No
field of such a row is left out because a cell is missing. -/
theorem plans_aligned (tables : List TableDescription) (dialect : Dialect) (options : RetrievalOptions) :
    (classify tables).plans dialect options =
      (tables.filter (fun table => !table.isJunction) ++ tables.filter (·.isJunction)).map
        (·.retrieval dialect options) ∧
    (∀ table ∈ tables, table.Lists (table.retrieval dialect options) ∧
      table.ownReferences.map (·.column) =
        (table.referenceNames.filter fun name => !table.isPrimaryKey name).eraseDups ∧
      (table.ownReferences.map (·.column)).Nodup) ∧
    ∀ plan ∈ (classify tables).plans dialect options, ∀ (store : MemorySource) (stored : StoredTable),
      store.find plan.query.source = .ok stored → (∀ column ∈ plan.query.columns, column ∈ stored.columnNames) →
      ∃ rows, plan.fetch store.toSource = .ok rows ∧ List.Forall₂ (stored.ReadsAs plan.header) stored.rows rows ∧
        ∀ field ∈ plan.emptyFields rows, ∃ cause, field.reason = .fault cause := by
  refine ⟨plans_eq_map tables dialect options, ?_, ?_⟩
  · intro table _
    refine ⟨table.lists_retrieval dialect options, table.columns_ownReferences, ?_⟩
    rw [table.columns_ownReferences]
    exact KeyIndex.nodup_eraseDups _
  · intro plan hplan store stored hfind hlisted
    have hcovers : plan.Covers := covers_of_mem_plans hplan
    rw [plans_eq_map] at hplan
    obtain ⟨table, -, rfl⟩ := List.mem_map.mp hplan
    have hlists := table.lists_retrieval dialect options
    rw [hlists.asked] at hlisted
    have hread := stored.forall₂_readsAs hlisted
    refine ⟨_, (store.fetch_eq_ok_iff hcovers hlists.asked).mpr ⟨stored, hfind, hlisted, hread⟩, hread, ?_⟩
    intro field hfield
    obtain ⟨cells, hcells, hfield⟩ := List.mem_flatMap.mp hfield
    obtain ⟨row, -, rfl⟩ := List.mem_map.mp hcells
    have hcells : stored.ReadsAs _ row _ := (StoredTable.readsAs_iff hlisted).mpr rfl
    exact Header.fault_of_mem_emptyFields hlists.places hcells.width hfield

/-- shipments of a depot: the depot is part of the key, and both a person and a company can be the sender -/
def shipments : TableDescription where
  source := ⟨none, "shipment"⟩
  label := "shipment"
  primaryKeys := [⟨"depot", .text, .primaryKey, 4⟩, ⟨"number", .integer, .primaryKey, 1⟩]
  references := [⟨"sender", .integer, "id", "person"⟩, ⟨"depot", .text, "name", "depot"⟩,
    ⟨"sender", .integer, "id", "company"⟩]
  attributes := [⟨"note", .text, .attribute, 0⟩]
  rowCount := 3

/-- shipments in memory: the first row is complete, the second one is too short, and the third one too long -/
def shipmentStore : MemorySource := ⟨.postgresql, [⟨⟨none, "shipment"⟩,
  [⟨"note", "text"⟩, ⟨"number", "integer"⟩, ⟨"sender", "integer"⟩, ⟨"depot", "text"⟩], ["depot", "number"], [],
  [[.text "fragile", .int 1, .int 70, .text "North"], [.null, .int 2], [.null, .int 3, .null, .text "South", .int 9]]⟩]⟩

/-- **Shipments**: the sender is listed once, after the key, and the short row is filled with nulls -/
theorem shipments_aligned :
    let plan := shipments.retrieval .mysql ⟨2, 1⟩
    (classify [shipments]).plans .mysql ⟨2, 1⟩ = [plan] ∧
      plan.query.columns = ["depot", "number", "sender", "note"] ∧
      plan.fetch shipmentStore.toSource = .ok [[.text "North", .int 1, .int 70, .text "fragile"],
        [.null, .int 2, .null, .null], [.text "South", .int 3, .null, .null]] ∧
      ∃ rows, plan.fetch shipmentStore.toSource = .ok rows ∧
        ∀ field ∈ plan.emptyFields rows, ∃ cause, field.reason = .fault cause := by
  intro plan
  obtain ⟨hplans, -, hrows⟩ := plans_aligned [shipments] .mysql ⟨2, 1⟩
  have hplan : plan ∈ (classify [shipments]).plans .mysql ⟨2, 1⟩ := by
    rw [hplans]
    exact List.mem_singleton.mpr rfl
  obtain ⟨rows, hfetch, -, hfaults⟩ := hrows plan hplan shipmentStore _ rfl (by decide)
  exact ⟨hplans, by decide, rfl, rows, hfetch, hfaults⟩

end TableGraph
