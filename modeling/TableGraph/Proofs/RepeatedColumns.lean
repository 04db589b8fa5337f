/-
Columns that a plan asks for twice. The columns of a table are told apart by their names, and so are those of its primary
key; references are not, since several of them may go by one column. The header of a vertex table leaves out a reference
whose column it lists already. The header of a junction table lists the columns of both references as they are.

Results:
- `Metadata.toldApart_describe`: what introspection keeps apart.
- `TableDescription.count_listing`: how often a column is listed.
- `plans_repeat_columns`: a plan asks for each of its columns once, or twice for the one column of a junction table by which
  both of its references go.
Witness:
- `enrolments_listed_once`: several references by one column of a vertex table, which is part of the key as well.
Counterexample:
- `badges_listed_twice`: a junction table, both of whose references go by one column.
-/
import TableGraph.Proofs.AlignedRows
import TableGraph.Proofs.ColumnSplit

namespace TableGraph

/-- the names that a plan goes by are told apart where introspection can tell them apart: within the primary key, within the
attributes, and the attributes from the keys -/
structure TableDescription.ToldApart (table : TableDescription) : Prop where
  primaryKey : table.primaryKeyNames.Nodup
  attributes : (table.attributes.map (·.name)).Nodup
  disjoint : ∀ name ∈ table.attributes.map (·.name), name ∉ table.primaryKeyNames ∧ name ∉ table.referenceNames

/-- **What introspection keeps apart**, if neither columns nor columns of the primary key share a name -/
theorem Metadata.toldApart_describe {m : Metadata} (hkeys : m.primaryKeys.Nodup) (hcolumns : (m.columns.map (·.name)).Nodup)
    (table : TableName) (rowCount : Nat) : (m.describe table rowCount).ToldApart where
  primaryKey := by rwa [primaryKeyNames_describe]
  attributes := by
    -- two attributes have different places, and in different places columns have different names
    refine List.pairwise_map.mpr (m.pairwise_attributes.imp_of_mem fun {first second} hfirst hsecond hlt hname => ?_)
    obtain ⟨-, declared, hdeclared, hfirstName, -⟩ := m.mem_attributes.mp hfirst
    obtain ⟨-, other, hother, hsecondName, -⟩ := m.mem_attributes.mp hsecond
    obtain ⟨hfirstPlace, rfl⟩ := List.getElem?_eq_some_iff.mp hdeclared
    obtain ⟨hsecondPlace, rfl⟩ := List.getElem?_eq_some_iff.mp hother
    refine List.pairwise_iff_getElem.mp hcolumns _ _ (by simpa using hfirstPlace) (by simpa using hsecondPlace) hlt ?_
    rw [List.getElem_map, List.getElem_map, ← hfirstName, ← hsecondName, hname]
  disjoint := by
    intro name hname
    obtain ⟨column, hcolumn, rfl⟩ := List.mem_map.mp hname
    exact (m.describe_splits table rowCount).disjoint column hcolumn

namespace TableDescription

variable {table : TableDescription}

/-! ## What is listed -/

/-- the names that are listed of a junction table: its references, and then its attributes -/
theorem names_listing_of_isJunction (h : table.isJunction = true) :
    table.listing.map (·.1) = table.referenceNames ++ table.attributes.map (·.name) := by
  rw [listing, if_pos h, List.map_append, List.map_map, List.map_map]
  rfl

/-- the names that are listed of a vertex table: its primary key, the other referencing columns, and its attributes -/
theorem names_listing_of_not_isJunction (h : table.isJunction = false) :
    table.listing.map (·.1) =
      table.primaryKeyNames ++ table.ownReferences.map (·.column) ++ table.attributes.map (·.name) := by
  rw [listing, h, if_neg Bool.false_ne_true, List.map_append, List.map_append, List.map_map, List.map_map, List.map_map]
  rfl

/-- the columns of a plan are those that are listed of its table -/
theorem columns_retrieval (table : TableDescription) (dialect : Dialect) (options : RetrievalOptions) :
    (table.retrieval dialect options).query.columns = table.listing.map (·.1) := by
  have hlists := table.lists_retrieval dialect options
  rw [hlists.asked, ← hlists.listed, Header.columns, List.map_map]
  rfl

/-- **Nothing is listed twice of a vertex table** -/
theorem nodup_listing_of_not_isJunction (h : table.ToldApart) (hvertex : table.isJunction = false) :
    (table.listing.map (·.1)).Nodup := by
  have hreferences : table.ownReferences.map (·.column) =
      (table.referenceNames.filter fun name => !table.isPrimaryKey name).eraseDups := table.columns_ownReferences
  rw [names_listing_of_not_isJunction hvertex, hreferences]
  refine List.nodup_append.mpr ⟨List.nodup_append.mpr ⟨h.primaryKey, KeyIndex.nodup_eraseDups _, ?_⟩, h.attributes, ?_⟩
  · -- the other references go by columns outside the primary key
    rintro key hkey _ hreference rfl
    have hother := (List.mem_filter.mp (List.mem_eraseDups.mp hreference)).2
    simp [isPrimaryKey, hkey] at hother
  · rintro key hkey _ hattribute rfl
    obtain ⟨hprimary, hreference⟩ := h.disjoint key hattribute
    rcases List.mem_append.mp hkey with hkey | hkey
    · exact hprimary hkey
    · exact hreference (List.mem_of_mem_filter (List.mem_eraseDups.mp hkey))

/-- **How often a column is listed**: once, or twice if both references of a junction table go by it -/
theorem count_listing (h : table.ToldApart) {name : String} (hname : name ∈ table.listing.map (·.1)) :
    (table.listing.map (·.1)).count name =
      if table.isJunction = true ∧ table.referenceNames = [name, name] then 2 else 1 := by
  cases hjunction : table.isJunction with
  | false =>
    rw [if_neg (by simp)]
    exact List.count_eq_one_of_mem (nodup_listing_of_not_isJunction h hjunction) hname
  | true =>
    obtain ⟨one, two, hreferences⟩ := references_of_isJunction hjunction
    have hnames : table.referenceNames = [one.column, two.column] := by rw [referenceNames, hreferences]; rfl
    rw [names_listing_of_isJunction hjunction, hnames] at hname ⊢
    rw [List.count_append]
    by_cases hattribute : name ∈ table.attributes.map (·.name)
    · have hother : name ∉ [one.column, two.column] := hnames ▸ (h.disjoint name hattribute).2
      have hsame : ¬[one.column, two.column] = [name, name] := fun heq => hother (heq ▸ List.mem_cons_self)
      rw [List.count_eq_zero_of_not_mem hother, List.count_eq_one_of_mem h.attributes hattribute,
        if_neg fun hboth => hsame hboth.2]
    · rw [List.count_eq_zero_of_not_mem hattribute]
      rcases List.mem_pair.mp ((List.mem_append.mp hname).resolve_right hattribute) with rfl | rfl
      · by_cases hsame : two.column = one.column <;> simp [hsame]
      · by_cases hsame : one.column = two.column <;> simp [hsame]

/-- so nothing is listed twice exactly if a junction table has references by different columns -/
theorem nodup_listing_iff (h : table.ToldApart) :
    (table.listing.map (·.1)).Nodup ↔ (table.isJunction = true → table.referenceNames.Nodup) := by
  cases hjunction : table.isJunction with
  | false => simp [nodup_listing_of_not_isJunction h hjunction]
  | true =>
    rw [names_listing_of_isJunction hjunction, List.nodup_append]
    constructor
    · exact fun hnodup _ => hnodup.1
    · intro hreferences
      refine ⟨hreferences rfl, h.attributes, ?_⟩
      rintro key hkey _ hattribute rfl
      exact (h.disjoint key hattribute).2 hkey

end TableDescription

/-! ## Tables in memory -/

/-- tables in memory are described with what is to be told apart told apart, if their metadata tells it apart -/
theorem MemorySource.toldApart_descriptions {store : MemorySource}
    (hcolumns : ∀ table ∈ store.tables, table.columnNames.Nodup) (hkeys : ∀ table ∈ store.tables, table.primaryKey.Nodup)
    {count : TableName → Nat} {table : TableDescription} (h : table ∈ store.descriptions count) : table.ToldApart := by
  obtain ⟨stored, hstored, rfl⟩ := List.mem_map.mp h
  -- under a name that is listed twice the first of the two tables is described
  obtain ⟨found, hfound⟩ := store.find_listed hstored
  obtain ⟨hmem, -⟩ := MemorySource.of_find hfound
  have hmetadata : store.metadataOf stored.name = found.metadata := by rw [metadataOf, hfound]
  have hnames : (found.metadata.columns.map (·.name)).Nodup := hcolumns found hmem
  rw [hmetadata]
  exact Metadata.toldApart_describe (hkeys found hmem) hnames _ _

/-- **Columns that are asked for twice.** Tables in memory whose columns have distinct names, and whose primary keys have too,
are introspected without failure, and every table has its plan. The plan of a vertex table asks for no column twice, whatever
references the table has; that of a junction table neither, exactly if its two references go by different columns. A column
that is asked for at all is asked for once, or twice if both references of a junction table go by it. -/
theorem plans_repeat_columns {store : MemorySource} (hcolumns : ∀ table ∈ store.tables, table.columnNames.Nodup)
    (hkeys : ∀ table ∈ store.tables, table.primaryKey.Nodup) (dialect : Dialect) (options : RetrievalOptions) :
    ∃ tables, store.toSource.introspect.value = .ok tables ∧
      (classify tables).plans dialect options = (planOrder tables).map (·.retrieval dialect options) ∧
      ∀ table ∈ tables,
        let columns := (table.retrieval dialect options).query.columns
        (columns.Nodup ↔ (table.isJunction = true → table.referenceNames.Nodup)) ∧
        ∀ name ∈ columns,
          columns.count name = if table.isJunction = true ∧ table.referenceNames = [name, name] then 2 else 1 := by
  refine ⟨_, store.introspect_memory store.dialect store.toSource.rowCount store.run, plans_eq_map _ dialect options, ?_⟩
  intro table htable columns
  have happart := MemorySource.toldApart_descriptions hcolumns hkeys htable
  have hlisted : columns = table.listing.map (·.1) := table.columns_retrieval dialect options
  rw [hlisted]
  exact ⟨TableDescription.nodup_listing_iff happart, fun name hname => TableDescription.count_listing happart hname⟩

/-- enrolments of students in courses; a student is a person and a member, so that two references go by the student -/
def enrolments : MemorySource := ⟨.postgresql, [⟨⟨none, "enrolment"⟩,
  [⟨"grade", "integer"⟩, ⟨"student", "integer"⟩, ⟨"course", "text"⟩], ["course", "student"],
  [⟨"student", none, "person", "id"⟩, ⟨"course", none, "course", "name"⟩, ⟨"student", none, "member", "person"⟩], []⟩]⟩

/-- **Enrolments**: the student is a key column and goes by two references, and is asked for once -/
theorem enrolments_listed_once :
    (∀ table ∈ enrolments.tables, table.columnNames.Nodup) ∧ (∀ table ∈ enrolments.tables, table.primaryKey.Nodup) ∧
      ∃ table, enrolments.toSource.introspect.value = .ok [table] ∧ table.isJunction = false ∧
        (table.retrieval .mysql {}).query.columns = ["course", "student", "grade"] ∧
        (table.retrieval .mysql {}).query.columns.Nodup := by
  have hcolumns : ∀ table ∈ enrolments.tables, table.columnNames.Nodup := by decide
  have hkeys : ∀ table ∈ enrolments.tables, table.primaryKey.Nodup := by decide
  obtain ⟨tables, htables, -, honce⟩ := plans_repeat_columns hcolumns hkeys .mysql {}
  obtain rfl : tables = enrolments.descriptions fun _ => 0 := (Except.ok.inj htables).symm
  obtain ⟨hnodup, -⟩ := honce _ List.mem_cons_self
  exact ⟨hcolumns, hkeys, _, htables, by decide, by decide +kernel, hnodup.mpr nofun⟩

/-- badges that persons have for sites; a person is an employee or a visitor, and both references go by the person -/
def badges : MemorySource := ⟨.postgresql, [
  ⟨⟨none, "employee"⟩, [⟨"id", "integer"⟩], ["id"], [], []⟩,
  ⟨⟨none, "visitor"⟩, [⟨"id", "integer"⟩], ["id"], [], []⟩,
  ⟨⟨none, "badge"⟩, [⟨"person", "integer"⟩, ⟨"site", "integer"⟩, ⟨"since", "date"⟩], ["person", "site"],
    [⟨"person", none, "employee", "id"⟩, ⟨"person", none, "visitor", "id"⟩], []⟩]⟩

/-- **Badges**: with two references and two key columns they are a junction table, and its plan asks for the person twice -/
theorem badges_listed_twice :
    (∀ table ∈ badges.tables, table.columnNames.Nodup) ∧ (∀ table ∈ badges.tables, table.primaryKey.Nodup) ∧
      ∃ tables, badges.toSource.introspect.value = .ok tables ∧
        ∃ plan ∈ (classify tables).plans .postgresql {}, plan.kind = .junction ∧
          plan.query.columns = ["person", "person", "since"] ∧ ¬plan.query.columns.Nodup := by
  refine ⟨by decide, by decide, badges.descriptions fun _ => 0, rfl, ?_⟩
  refine ⟨_, List.mem_iff_getElem?.mpr ⟨2, rfl⟩, ?_⟩
  decide +kernel

end TableGraph
