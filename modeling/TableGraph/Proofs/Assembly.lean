/-
What the graph and the report depend on. The number of rows that a description gives decides into which ranges a table is
divided, and nothing else; of the loaded tables only those count that have rows or skipped fields.

Results:
- `assemble_unsized`: the graph and the report do not depend on numbers of rows in descriptions.
- `plans_inFull`: apart from ranges and dialect, neither do the plans.
- `assemble_withoutLabels`: loaded tables that are empty can as well be missing.
-/
import TableGraph.Proofs.Loading

namespace TableGraph

variable {ι : Type}

/-! ## Descriptions without numbers of rows -/

/-- a table, its number of rows left aside -/
def TableDescription.unsized (table : TableDescription) : TableDescription := { table with rowCount := 0 }

/-- a junction, its number of rows left aside -/
def JunctionRule.unsized (rule : JunctionRule) : JunctionRule := { rule with rowCount := 0 }

/-- a rule, the number of rows of a junction left aside -/
def EdgeRule.unsized : EdgeRule → EdgeRule
  | .direct rule => .direct rule
  | .junction rule => .junction rule.unsized

theorem edgeRules_unsized (table : TableDescription) : table.unsized.edgeRules = table.edgeRules.map EdgeRule.unsized := by
  unfold TableDescription.edgeRules
  have hjunction : table.unsized.isJunction = table.isJunction := rfl
  have hreferences : table.unsized.references = table.references := rfl
  rw [hjunction, hreferences]
  split
  · rfl
  · rw [List.map_map]
    rfl

theorem classify_unsized (tables : List TableDescription) :
    classify (tables.map (·.unsized)) =
      ⟨(classify tables).vertexTables.map (·.unsized), (classify tables).edgeRules.map (·.unsized)⟩ := by
  have hvertex : (tables.map (·.unsized)).filter (fun table => !table.isJunction) =
      (tables.filter fun table => !table.isJunction).map (·.unsized) := List.filter_map
  have hrules : (tables.map (·.unsized)).flatMap (·.edgeRules) =
      (tables.flatMap (·.edgeRules)).map (·.unsized) := by
    rw [List.flatMap_map, List.map_flatMap]
    congr 1
    funext table
    exact edgeRules_unsized table
  simp only [classify, hvertex, hrules]

theorem junctions_unsized (tables : List TableDescription) :
    (classify (tables.map (·.unsized))).junctions = (classify tables).junctions.map (·.unsized) := by
  rw [classify_unsized, Classification.junctions, Classification.junctions, List.filterMap_map, List.map_filterMap]
  congr 1
  funext rule
  cases rule <;> rfl

theorem vertexTable?_unsized (tables : List TableDescription) (label : String) :
    Classification.vertexTable? (tables.map (·.unsized)) label =
      (Classification.vertexTable? tables label).map (·.unsized) := by
  rw [Classification.vertexTable?, Classification.vertexTable?, ← List.map_reverse, List.find?_map]
  rfl

theorem keysOf_unsized (tables : List TableDescription) (label : String) :
    keysOf (tables.map (·.unsized)) label = keysOf tables label := by
  rw [keysOf, keysOf, vertexTable?_unsized]
  cases Classification.vertexTable? tables label <;> rfl

theorem keyNamesOf_unsized (tables : List TableDescription) (label : String) :
    keyNamesOf (tables.map (·.unsized)) label = keyNamesOf tables label := by
  rw [keyNamesOf, keyNamesOf, vertexTable?_unsized]
  cases Classification.vertexTable? tables label <;> rfl

theorem joinAll_unsized (vertices : List (Vertex ι)) (rules : List EdgeRule) (junctions : List LoadedTable) :
    joinAll vertices (rules.map (·.unsized)) junctions =
      (joinAll vertices rules junctions).map fun entry => (entry.1.unsized, entry.2) := by
  have hlookups : (rules.map (·.unsized)).flatMap (·.lookups) = rules.flatMap (·.lookups) := by
    rw [List.flatMap_map]
    congr 1
    funext rule
    cases rule <;> rfl
  simp only [joinAll, hlookups, List.map_map]
  congr 1
  funext rule
  cases rule <;> rfl

theorem buildEdges_unsized (ids : Nat → ι) (start : Nat) (vertices : List (Vertex ι)) (rules : List EdgeRule)
    (junctions : List LoadedTable) :
    buildEdges ids start vertices (rules.map (·.unsized)) junctions = buildEdges ids start vertices rules junctions := by
  have hdirected (rule : EdgeRule) : rule.unsized.isDirected = rule.isDirected := by cases rule <;> rfl
  simp only [buildEdges, joinAll_unsized, linksOf, List.filter_map, List.flatMap_map, Function.comp_def, hdirected]

/-- **The graph and the report do not depend on numbers of rows** in descriptions -/
theorem assemble_unsized (ids : Nat → ι) (tables : List TableDescription) (results : LoadedTables) :
    assemble ids (tables.map (·.unsized)) results = assemble ids tables results := by
  have hvertices (loaded : List LoadedTable) : buildVertices ids (classify (tables.map (·.unsized))).vertexTables loaded =
      buildVertices ids (classify tables).vertexTables loaded := by
    rw [classify_unsized]
    simp only [buildVertices, keysOf_unsized]
  have hedges (vertices : List (Vertex ι)) (junctions : List LoadedTable) :
      buildEdges ids vertices.length vertices (classify (tables.map (·.unsized))).edgeRules junctions =
        buildEdges ids vertices.length vertices (classify tables).edgeRules junctions := by
    rw [classify_unsized]
    exact buildEdges_unsized ids _ vertices _ junctions
  have hcleaned (vertex : Vertex ι) : vertex.withoutKeys (classify (tables.map (·.unsized))).vertexTables =
      vertex.withoutKeys (classify tables).vertexTables := by
    rw [classify_unsized]
    simp only [Vertex.withoutKeys, keyNamesOf_unsized]
  have hcount : (classify (tables.map (·.unsized))).vertexTables.length = (classify tables).vertexTables.length := by
    rw [classify_unsized, List.length_map]
  have hjunctions : (classify (tables.map (·.unsized))).junctions.length = (classify tables).junctions.length := by
    rw [junctions_unsized, List.length_map]
  simp only [assemble, hvertices, hedges, hcleaned, hcount, hjunctions, List.length_map]

/-! ## Plans without ranges -/

/-- the plan that fetches the same rows all at once, in the first dialect -/
def RetrievalPlan.inFull (plan : RetrievalPlan) : RetrievalPlan :=
  { plan with query := { plan.query with dialect := .postgresql }, ranges := [] }

/-- **Plans differ in ranges and dialect only**, whatever numbers of rows, dialect and options they are made for -/
theorem plans_inFull (tables : List TableDescription) (dialect : Dialect) (options : RetrievalOptions) :
    ((classify tables).plans dialect options).map (·.inFull) =
      ((classify (tables.map (·.unsized))).plans .postgresql {}).map (·.inFull) := by
  have hvertices : (classify (tables.map (·.unsized))).vertexTables = (classify tables).vertexTables.map (·.unsized) := by
    rw [classify_unsized]
  simp only [Classification.plans, hvertices, junctions_unsized, List.map_append, List.map_map]
  rfl

/-! ## Empty tables -/

/-- the failures only show in the list of the tables that failed -/
theorem assemble_failed (ids : Nat → ι) (tables : List TableDescription) (results : LoadedTables) :
    assemble ids tables results = ((assemble ids tables ⟨results.loaded, []⟩).1,
      { (assemble ids tables ⟨results.loaded, []⟩).2 with failedTables := results.failedNames }) := rfl

theorem assemble_congr (ids : Nat → ι) (tables : List TableDescription) {results others : LoadedTables}
    (hloaded : results.loaded = others.loaded) (hfailed : results.failedNames = others.failedNames) :
    assemble ids tables results = assemble ids tables others := by
  rw [assemble_failed, hloaded, hfailed, ← assemble_failed]

/-- loaded tables without those of some labels -/
def withoutLabels (labels : List String) (loaded : List LoadedTable) : List LoadedTable :=
  loaded.filter fun table => !labels.contains table.label

section Empty

variable {labels : List String} {loaded : List LoadedTable}

/-- a table whose label is left out has no rows -/
theorem flatMap_withoutLabels {β : Type} (f : LoadedTable → List β)
    (h : ∀ table ∈ loaded, table.label ∈ labels → f table = []) :
    (withoutLabels labels loaded).flatMap f = loaded.flatMap f := by
  induction loaded with
  | nil => rfl
  | cons table rest ih =>
    have hrest := ih fun other hother => h other (List.mem_cons_of_mem table hother)
    by_cases hlabel : table.label ∈ labels
    · have hfirst := h table List.mem_cons_self hlabel
      simpa [withoutLabels, hlabel, hfirst] using hrest
    · simpa [withoutLabels, hlabel] using hrest

theorem loadedOf_withoutLabels (kind : TableKind) :
    loadedOf kind (withoutLabels labels loaded) = withoutLabels labels (loadedOf kind loaded) := by
  simp only [loadedOf, withoutLabels, List.filter_filter, Bool.and_comm]

theorem buildVertices_withoutLabels (ids : Nat → ι) (tables : List TableDescription)
    (h : ∀ table ∈ loaded, table.label ∈ labels → table.rows = []) :
    buildVertices ids tables (withoutLabels labels loaded) = buildVertices ids tables loaded := by
  unfold buildVertices
  rw [loadedOf_withoutLabels, flatMap_withoutLabels]
  intro table htable hlabel
  rw [LoadedTable.labelled, h table (List.mem_of_mem_filter htable) hlabel, List.map_nil]

theorem skippedFields_cons (table : LoadedTable) (rest : List LoadedTable) (failed : List (String × SourceError)) :
    LoadedTables.skippedFields ⟨table :: rest, failed⟩ =
      table.skippedFields + LoadedTables.skippedFields ⟨rest, failed⟩ := rfl

theorem skippedFields_withoutLabels (h : ∀ table ∈ loaded, table.label ∈ labels → table.skippedFields = 0)
    (failed : List (String × SourceError)) : LoadedTables.skippedFields ⟨withoutLabels labels loaded, failed⟩ =
      LoadedTables.skippedFields ⟨loaded, failed⟩ := by
  induction loaded with
  | nil => rfl
  | cons table rest ih =>
    have hrest := ih fun other hother => h other (List.mem_cons_of_mem table hother)
    by_cases hlabel : table.label ∈ labels
    · have hfirst := h table List.mem_cons_self hlabel
      simpa [withoutLabels, skippedFields_cons, hlabel, hfirst] using hrest
    · simpa [withoutLabels, skippedFields_cons, hlabel] using hrest

theorem find?_withoutLabels (label : String) :
    ((withoutLabels labels loaded).find? fun table => table.label == label) =
      if label ∈ labels then none else loaded.find? fun table => table.label == label := by
  unfold withoutLabels
  rw [List.find?_filter]
  split_ifs with hlabel
  · rw [List.find?_eq_none]
    intro table _ hboth
    simp only [decide_eq_true_eq, beq_iff_eq] at hboth
    simp [hboth.2, hlabel] at hboth
  · congr 1
    funext table
    by_cases heq : table.label = label <;> simp [heq, hlabel]

/-- a junction that is left out joins like one without rows -/
theorem join_withoutLabels (rule : JunctionRule) (index : KeyIndex ι)
    (h : ∀ table ∈ loaded, table.label ∈ labels → table.rows = []) :
    rule.join index (withoutLabels labels loaded) = rule.join index loaded := by
  unfold JunctionRule.join
  rw [find?_withoutLabels]
  split_ifs with hlabel
  · cases hfind : loaded.find? fun table => table.label == rule.label with
    | none => rfl
    | some table =>
      have hsame : table.label = rule.label := by simpa using List.find?_some hfind
      simp [h table (List.mem_of_find?_eq_some hfind) (hsame ▸ hlabel)]
  · rfl

theorem buildEdges_withoutLabels (ids : Nat → ι) (start : Nat) (vertices : List (Vertex ι)) (rules : List EdgeRule)
    (h : ∀ table ∈ loaded, table.label ∈ labels → table.rows = []) :
    buildEdges ids start vertices rules (withoutLabels labels loaded) = buildEdges ids start vertices rules loaded := by
  have hjoin (rule : EdgeRule) (index : KeyIndex ι) :
      rule.join index vertices (withoutLabels labels loaded) = rule.join index vertices loaded := by
    cases rule with
    | direct rule => rfl
    | junction rule => exact join_withoutLabels rule index h
  simp only [buildEdges, joinAll, hjoin]

/-- **Empty tables can as well be missing**: without them the graph and the report are the same -/
theorem assemble_withoutLabels (ids : Nat → ι) (tables : List TableDescription)
    (h : ∀ table ∈ loaded, table.label ∈ labels → table.rows = [] ∧ table.skippedFields = 0) :
    assemble ids tables ⟨withoutLabels labels loaded, []⟩ = assemble ids tables ⟨loaded, []⟩ := by
  have hrows : ∀ table ∈ loaded, table.label ∈ labels → table.rows = [] := fun table ht hl => (h table ht hl).1
  have hjunctions : ∀ table ∈ loadedOf .junction loaded, table.label ∈ labels → table.rows = [] :=
    fun table ht => hrows table (List.mem_of_mem_filter ht)
  simp only [assemble, buildVertices_withoutLabels ids _ hrows, loadedOf_withoutLabels,
    buildEdges_withoutLabels ids _ _ _ hjunctions, skippedFields_withoutLabels fun table ht hl => (h table ht hl).2,
    LoadedTables.failedNames]

end Empty

end TableGraph
