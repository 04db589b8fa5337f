/-
Classification, table by table: every table gives either one vertex table or one junction, and so every table has exactly
one plan.

Results:
- `junctions_classify`: the junctions are those of the junction tables, in order.
- `plans_eq_map`: every table has its plan, and vertex tables come first.
- `plans_names_perm`: a plan fetches from its table and has its label.
-/
import TableGraph.Proofs.Calls
import TableGraph.Retrieval.Plan

namespace TableGraph

namespace TableDescription

/-- the junction of a table, if it is one -/
def junction? (table : TableDescription) : Option JunctionRule :=
  match table.isJunction, table.references with
  | true, [one, two] => some ⟨table.source, table.label, endpoint one, endpoint two, table.attributes, table.rowCount⟩
  | _, _ => none

/-- a junction table has two references -/
theorem references_of_isJunction {table : TableDescription} (h : table.isJunction = true) :
    ∃ one two, table.references = [one, two] := by
  simp only [isJunction, Bool.and_eq_true, beq_iff_eq] at h
  exact List.length_eq_two.mp h.1

/-- a junction table gives one junction, with the names of the table -/
theorem junction_of_isJunction {table : TableDescription} (h : table.isJunction = true) :
    ∃ rule, table.junction? = some rule ∧ table.edgeRules = [.junction rule] ∧
      rule.source = table.source ∧ rule.label = table.label := by
  obtain ⟨one, two, hreferences⟩ := references_of_isJunction h
  refine ⟨⟨table.source, table.label, endpoint one, endpoint two, table.attributes, table.rowCount⟩, ?_, ?_, rfl, rfl⟩
  · rw [junction?, h, hreferences]
  · rw [edgeRules, h, hreferences]

theorem junction?_of_not_isJunction {table : TableDescription} (h : table.isJunction = false) :
    table.junction? = none := by
  rw [junction?, h]

theorem edgeRules_of_not_isJunction {table : TableDescription} (h : table.isJunction = false) :
    table.edgeRules = table.references.map table.directRule := by
  rw [edgeRules, h]

/-- a table gives one junction, or no junction but direct rules -/
theorem filterMap_edgeRules (table : TableDescription) :
    table.edgeRules.filterMap (·.junction?) = table.junction?.toList := by
  cases hjunction : table.isJunction with
  | true =>
    obtain ⟨rule, hrule, hedges, -⟩ := junction_of_isJunction hjunction
    rw [hedges, hrule]
    rfl
  | false =>
    rw [edgeRules_of_not_isJunction hjunction, junction?_of_not_isJunction hjunction, List.filterMap_map]
    exact List.filterMap_eq_nil_iff.mpr fun _ _ => rfl

end TableDescription

/-- the junctions are those of the junction tables, in their order -/
theorem junctions_classify (tables : List TableDescription) :
    (classify tables).junctions = tables.filterMap (·.junction?) := by
  rw [Classification.junctions, classify, List.filterMap_flatMap]
  induction tables with
  | nil => rfl
  | cons table rest ih =>
    rw [List.flatMap_cons, ih, TableDescription.filterMap_edgeRules, List.filterMap_cons]
    cases table.junction? <;> rfl

theorem length_junctions_classify (tables : List TableDescription) :
    (classify tables).junctions.length = tables.countP (·.isJunction) := by
  rw [junctions_classify, List.length_filterMap_eq_countP]
  refine List.countP_congr fun table _ => ?_
  cases hjunction : table.isJunction with
  | true =>
    obtain ⟨rule, hrule, -⟩ := TableDescription.junction_of_isJunction hjunction
    simp [hrule]
  | false => simp [TableDescription.junction?_of_not_isJunction hjunction]

/-! ## Plans -/

/-- how the rows of a table are fetched: by the plan of its junction, if it is one, and else by its own -/
def TableDescription.retrieval (table : TableDescription) (dialect : Dialect) (options : RetrievalOptions) :
    RetrievalPlan :=
  match table.junction? with
  | some rule => rule.plan dialect options
  | none => table.plan dialect options

/-- a vertex table is fetched by its own plan -/
theorem TableDescription.retrieval_of_not_isJunction {table : TableDescription} (h : table.isJunction = false)
    (dialect : Dialect) (options : RetrievalOptions) :
    table.retrieval dialect options = table.plan dialect options := by
  rw [retrieval, junction?_of_not_isJunction h]

/-- a table is fetched under its own names -/
theorem TableDescription.names_retrieval (table : TableDescription) (dialect : Dialect) (options : RetrievalOptions) :
    (table.retrieval dialect options).query.source = table.source ∧
      (table.retrieval dialect options).label = table.label := by
  cases hjunction : table.isJunction with
  | true =>
    obtain ⟨rule, hrule, -, hsource, hlabel⟩ := junction_of_isJunction hjunction
    rw [retrieval, hrule]
    exact ⟨hsource, hlabel⟩
  | false =>
    rw [retrieval_of_not_isJunction hjunction]
    exact ⟨rfl, rfl⟩

/-- what a condition does not hold of, and then what it holds of, are all elements -/
theorem filter_not_append_perm {α : Type} (p : α → Bool) (xs : List α) :
    ((xs.filter fun x => !p x) ++ xs.filter p).Perm xs := by
  have hsorted := List.filter_append_perm (fun x => !p x) xs
  simp only [Bool.not_not] at hsorted
  exact hsorted

/-- tables in the order of their plans: vertex tables first, then junction tables -/
def planOrder (tables : List TableDescription) : List TableDescription :=
  (tables.filter fun table => !table.isJunction) ++ tables.filter (·.isJunction)

theorem planOrder_perm (tables : List TableDescription) : (planOrder tables).Perm tables :=
  filter_not_append_perm TableDescription.isJunction tables

/-- **Every table has its plan**, vertex tables first -/
theorem plans_eq_map (tables : List TableDescription) (dialect : Dialect) (options : RetrievalOptions) :
    (classify tables).plans dialect options = (planOrder tables).map (·.retrieval dialect options) := by
  have hvertices : (classify tables).vertexTables.map (·.plan dialect options) =
      (tables.filter fun table => !table.isJunction).map (·.retrieval dialect options) := by
    refine List.map_congr_left fun table htable => ?_
    have hvertex : table.isJunction = false := by simpa using (List.mem_filter.mp htable).2
    exact (TableDescription.retrieval_of_not_isJunction hvertex dialect options).symm
  have hjunctions : (classify tables).junctions.map (·.plan dialect options) =
      (tables.filter (·.isJunction)).map (·.retrieval dialect options) := by
    rw [junctions_classify, List.map_filterMap, ← List.filterMap_eq_map, List.filterMap_filter]
    refine List.filterMap_congr fun table _ => ?_
    cases hjunction : table.isJunction with
    | true =>
      obtain ⟨rule, hrule, -⟩ := TableDescription.junction_of_isJunction hjunction
      simp [TableDescription.retrieval, hrule]
    | false => simp [TableDescription.junction?_of_not_isJunction hjunction]
  rw [Classification.plans, hvertices, hjunctions, planOrder, List.map_append]

/-- **Every table has one plan**, which fetches from it and has its label -/
theorem plans_names_perm (tables : List TableDescription) (dialect : Dialect) (options : RetrievalOptions) :
    (((classify tables).plans dialect options).map fun plan => (plan.query.source, plan.label)).Perm
      (tables.map fun table => (table.source, table.label)) := by
  rw [plans_eq_map, List.map_map]
  refine List.Perm.trans (List.Perm.of_eq (List.map_congr_left fun table _ => ?_)) ((planOrder_perm tables).map _)
  obtain ⟨hsource, hlabel⟩ := table.names_retrieval dialect options
  exact Prod.ext hsource hlabel

end TableGraph
