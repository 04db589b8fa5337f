/-
What the order of tables and rows decides. Vertices in another order have the same partners in another order; so rules in
another order, over vertices and rows in another order, give the same links in another order, and as many references
dangle. Descriptions in another order classify the same tables, and with distinct names each name finds the same
description.

Results:
- `nestedLoops_perm`, `danglingCount_perm`: a rule over vertices and rows in another order.
- `exists_identify_perm`: vertices that are identified in another order are the same under other identifiers.
- `assemble_reordered`: the graph and the counts of tables and rows in another order.
-/
import TableGraph.Proofs.RenamedRuns

namespace TableGraph

/-! ## Permutations up to a relation -/

section PermUpTo

variable {α β γ δ : Type} {R : α → β → Prop} {xs : List α} {ys : List β}

/-- whether a permutation of one list is another list, up to a relation of their elements -/
def PermUpTo (R : α → β → Prop) (xs : List α) (ys : List β) : Prop := ∃ zs, xs.Perm zs ∧ List.Forall₂ R zs ys

namespace PermUpTo

theorem filter (h : PermUpTo R xs ys) {p : α → Bool} {q : β → Bool} (hpq : ∀ x y, R x y → p x = q y) :
    PermUpTo R (xs.filter p) (ys.filter q) := by
  obtain ⟨zs, hperm, hrel⟩ := h
  exact ⟨zs.filter p, hperm.filter p, List.rel_filter (fun x y hxy => Bool.eq_iff_iff.mp (hpq x y hxy)) hrel⟩

theorem filterMap {S : γ → δ → Prop} (h : PermUpTo R xs ys) {f : α → Option γ} {g : β → Option δ}
    (hfg : ∀ x y, R x y → Option.Rel S (f x) (g y)) : PermUpTo S (xs.filterMap f) (ys.filterMap g) := by
  obtain ⟨zs, hperm, hrel⟩ := h
  exact ⟨zs.filterMap f, hperm.filterMap f, List.rel_filterMap hfg hrel⟩

theorem append {us : List α} {vs : List β} (h : PermUpTo R xs ys) (hothers : PermUpTo R us vs) :
    PermUpTo R (xs ++ us) (ys ++ vs) := by
  obtain ⟨zs, hperm, hrel⟩ := h
  obtain ⟨ws, hothers, hrels⟩ := hothers
  exact ⟨zs ++ ws, hperm.append hothers, List.rel_append hrel hrels⟩

theorem flatMap (h : PermUpTo R xs ys) {f : α → List γ} {g : β → List γ} (hfg : ∀ x y, R x y → (f x).Perm (g y)) :
    (xs.flatMap f).Perm (ys.flatMap g) := by
  obtain ⟨zs, hperm, hrel⟩ := h
  refine (hperm.flatMap_right f).trans ?_
  clear hperm
  induction hrel with
  | nil => exact .nil
  | cons hxy _ ih => exact (hfg _ _ hxy).append ih

theorem map (h : PermUpTo R xs ys) {f : α → γ} {g : β → γ} (hfg : ∀ x y, R x y → f x = g y) :
    (xs.map f).Perm (ys.map g) := by
  obtain ⟨zs, hperm, hrel⟩ := h
  have hequal : List.Forall₂ (· = ·) (zs.map f) (ys.map g) := List.rel_map hfg hrel
  rw [List.forall₂_eq_eq_eq] at hequal
  exact hequal ▸ hperm.map f

end PermUpTo

/-- with distinct keys, the order plays no part in what is found -/
theorem find?_perm {key : α → String} {xs ys : List α} (h : xs.Perm ys) (hkeys : (xs.map key).Nodup) (wanted : String) :
    (xs.find? fun x => key x == wanted) = ys.find? fun x => key x == wanted := by
  cases hfind : xs.find? fun x => key x == wanted with
  | some found =>
    have hkey : key found = wanted := by simpa using List.find?_some hfind
    have hmem := h.mem_iff.mp (List.mem_of_find?_eq_some hfind)
    rw [← hkey, find?_of_nodup ((h.map key).nodup_iff.mp hkeys) hmem]
  | none =>
    have hnone := List.find?_eq_none.mp hfind
    exact (List.find?_eq_none.mpr fun y hy => hnone y (h.mem_iff.mpr hy)).symm

/-- a permutation of results is the list of results of a permutation -/
theorem exists_perm_of_perm_map {f : β → α} (h : xs.Perm (ys.map f)) : ∃ zs : List β, zs.map f = xs ∧ zs.Perm ys := by
  have hresults : List.Forall₂ (fun x y => x = f y) (ys.map f) ys := by
    rw [List.forall₂_map_left_iff]
    exact List.forall₂_same.mpr fun _ _ => rfl
  obtain ⟨zs, hzs, hperm⟩ := List.perm_comp_forall₂ h hresults
  rw [← List.forall₂_map_right_iff, List.forall₂_eq_eq_eq] at hzs
  exact ⟨zs, hzs.symm, hperm⟩

end PermUpTo

variable {ι κ : Type}

/-! ## Nested loops -/

section NestedLoops

variable {vertices others : List (Vertex ι)} (h : vertices.Perm others)
include h

/-- **Vertices in another order have the same partners**, in another order -/
theorem partners_perm (table column : String) (value : Option Value) :
    (partners vertices table column value).Perm (partners others table column value) :=
  (h.filter _).map _

theorem Endpoint.partners_perm (endpoint : Endpoint) (row : PropertyBag) :
    (endpoint.partners vertices row).Perm (endpoint.partners others row) :=
  TableGraph.partners_perm h _ _ _

theorem DirectRule.nestedLoops_perm (rule : DirectRule) :
    (rule.nestedLoops vertices).Perm (rule.nestedLoops others) := by
  refine (h.filter _).flatMap fun vertex _ => ?_
  exact (partners_perm h _ _ _).map _

theorem JunctionRule.nestedLoops_perm (rule : JunctionRule) {rows rows' : List PropertyBag} (hrows : rows.Perm rows') :
    (rule.nestedLoops vertices rows).Perm (rule.nestedLoops others rows') := by
  refine hrows.flatMap fun row _ => ?_
  refine (rule.one.partners_perm h row).flatMap fun one _ => ?_
  exact (rule.two.partners_perm h row).flatMap_right _

variable {junctions junctions' : List LoadedTable}
  (hrows : ∀ rule : JunctionRule, (rule.rowsIn junctions).Perm (rule.rowsIn junctions'))
include hrows

/-- **A rule over vertices and rows in another order** gives the same links in another order -/
theorem nestedLoops_perm (rule : EdgeRule) :
    (rule.nestedLoops vertices junctions).Perm (rule.nestedLoops others junctions') := by
  cases rule with
  | direct rule => exact rule.nestedLoops_perm h
  | junction rule => exact rule.nestedLoops_perm h (hrows rule)

/-- **A rule over vertices and rows in another order** has as many dangling references -/
theorem danglingCount_perm (rule : EdgeRule) :
    rule.danglingCount vertices junctions = rule.danglingCount others junctions' := by
  cases rule with
  | direct rule =>
    refine (h.filter _).countP_congr fun vertex _ => ?_
    rw [(partners_perm h _ _ _).isEmpty_eq]
  | junction rule =>
    refine (hrows rule).countP_congr fun row _ => ?_
    rw [(rule.one.partners_perm h row).isEmpty_eq, (rule.two.partners_perm h row).isEmpty_eq]

end NestedLoops

/-! ## Vertices in another order -/

/-- a vertex without its identifier -/
def Vertex.labelled (vertex : Vertex ι) : Labelled := ⟨vertex.label, vertex.properties⟩

theorem labelled_identify (ids : Nat → ι) (start : Nat) (items : List Labelled) :
    (identify ids start items).map (·.labelled) = items := by
  refine List.ext_getElem? fun k => ?_
  rw [identify, List.getElem?_map, List.getElem?_mapIdx]
  cases items[k]? <;> rfl

theorem identify_congr {ids ids' : Nat → ι} {items : List Labelled} (h : ∀ k < items.length, ids k = ids' k) :
    identify ids 0 items = identify ids' 0 items := by
  refine List.ext_getElem (by simp [identify]) fun k hk _ => ?_
  simp [identify, h k (by simpa [identify] using hk)]

/-- vertices are what is identified by their own identifiers, where `other` stands in for those that do not exist -/
theorem exists_identify (vertices : List (Vertex ι)) (other : ι) :
    ∃ ids : Nat → ι, identify ids 0 (vertices.map (·.labelled)) = vertices := by
  refine ⟨fun k => ((vertices[k]?).map (·.id)).getD other, List.ext_getElem? fun k => ?_⟩
  rw [identify, List.getElem?_mapIdx, List.getElem?_map, Nat.zero_add]
  cases vertices[k]? <;> rfl

/-- **Vertices that are identified in another order** are the same under other identifiers, which are those of the stream
in another order -/
theorem exists_identify_perm {items others : List Labelled} (h : items.Perm others) (ids : Nat → ι) :
    ∃ reordered : Nat → ι, (identify reordered 0 items).Perm (identify ids 0 others) ∧
      ((List.range items.length).map reordered).Perm ((List.range items.length).map ids) := by
  -- the vertices are put in the order of the items, and then identified by the identifiers that they have
  have hlabelled : items.Perm ((identify ids 0 others).map (·.labelled)) := by rwa [labelled_identify]
  obtain ⟨vertices, hitems, hperm⟩ := exists_perm_of_perm_map hlabelled
  obtain ⟨reordered, hvertices⟩ := exists_identify vertices (ids 0)
  rw [← hvertices, hitems] at hperm
  have hids : ((identify reordered 0 items).map fun vertex => vertex.id).Perm
    ((identify ids 0 others).map fun vertex => vertex.id) := hperm.map _
  rw [ids_identify, ids_identify, ← h.length_eq] at hids
  simp only [Nat.zero_add] at hids
  exact ⟨reordered, hperm, hids⟩

/-- **Vertices in another order, from other identifiers**: one bijection of the identifiers takes the ones to the others -/
theorem exists_rename_perm {items others : List Labelled} (h : items.Perm others) {ids : Nat → ι} {ids' : Nat → κ}
    (hids : Set.InjOn ids (Set.Iio items.length)) (hids' : Set.InjOn ids' (Set.Iio items.length)) :
    ∃ f : ι → κ,
      Set.BijOn f {id | id ∈ (identify ids 0 items).map (·.id)} {id | id ∈ (identify ids' 0 others).map (·.id)} ∧
      ((identify ids 0 items).map (·.rename f)).Perm (identify ids' 0 others) := by
  -- the streams are compared in one order of the items
  obtain ⟨reordered, hperm, hranges⟩ := exists_identify_perm h ids'
  have hdistinct := nodup_map_range.mp (hranges.nodup_iff.mpr (nodup_map_range.mpr hids'))
  obtain ⟨f, hf, hbijection⟩ := exists_renaming hids hdistinct
  have hdrawn : {id | id ∈ (identify ids 0 items).map (·.id)} = ids '' Set.Iio items.length := by
    ext id
    simp [ids_identify]
  have hothers : {id | id ∈ (identify ids' 0 others).map (·.id)} = reordered '' Set.Iio items.length := by
    ext id
    have hsame : id ∈ (List.range items.length).map reordered ↔ id ∈ (List.range items.length).map ids' :=
      hranges.mem_iff
    simpa [ids_identify, ← h.length_eq] using hsame.symm
  refine ⟨f, ?_, ?_⟩
  · rw [hdrawn, hothers]
    exact hbijection
  · have hsame : identify (f ∘ ids) 0 items = identify reordered 0 items := identify_congr hf
    rw [← identify_rename, hsame]
    exact hperm

/-! ## Descriptions in another order -/

section Descriptions

variable {tables others : List TableDescription} (h : tables.Perm others)
include h

theorem vertexTables_perm : (classify tables).vertexTables.Perm (classify others).vertexTables := h.filter _

theorem edgeRules_perm : (classify tables).edgeRules.Perm (classify others).edgeRules := h.flatMap_right _

variable (hlabels : (tables.map (·.label)).Nodup)
include hlabels

/-- with distinct names, a label finds the same description -/
theorem vertexTable?_perm (label : String) :
    Classification.vertexTable? tables label = Classification.vertexTable? others label := by
  have hreverse : tables.reverse.Perm others.reverse := tables.reverse_perm.trans (h.trans others.reverse_perm.symm)
  exact find?_perm hreverse (by rwa [List.map_reverse, List.nodup_reverse]) label

theorem keysOf_perm (label : String) : keysOf tables label = keysOf others label := by
  rw [keysOf, keysOf, vertexTable?_perm h hlabels]

theorem withoutKeys_perm (vertex : Vertex ι) : vertex.withoutKeys tables = vertex.withoutKeys others := by
  rw [Vertex.withoutKeys, Vertex.withoutKeys, keyNamesOf, keyNamesOf, vertexTable?_perm h hlabels]

end Descriptions

/-! ## Loaded tables in another order -/

/-- whether a loaded table is another one with its rows in another order -/
structure LoadedTable.Reordered (table other : LoadedTable) : Prop where
  label : table.label = other.label
  kind : table.kind = other.kind
  rows : table.rows.Perm other.rows
  skippedFields : table.skippedFields = other.skippedFields

section LoadedTables

variable {loaded others : List LoadedTable} (h : PermUpTo LoadedTable.Reordered loaded others)
include h

theorem loadedOf_perm (kind : TableKind) :
    PermUpTo LoadedTable.Reordered (loadedOf kind loaded) (loadedOf kind others) :=
  h.filter fun table other hsame => by rw [hsame.kind]

theorem labelled_perm (keys : String → List String) :
    (loaded.flatMap fun table => table.labelled (keys table.label)).Perm
      (others.flatMap fun table => table.labelled (keys table.label)) :=
  h.flatMap fun table other hsame => by
    rw [LoadedTable.labelled, LoadedTable.labelled, hsame.label]
    exact hsame.rows.map _

/-- the rows that a junction finds by its label -/
theorem rowsIn_perm (hlabels : (loaded.map (·.label)).Nodup) (rule : JunctionRule) :
    (rule.rowsIn loaded).Perm (rule.rowsIn others) := by
  obtain ⟨middle, hperm, hsame⟩ := h
  have hfound : rule.rowsIn loaded = rule.rowsIn middle := by
    rw [JunctionRule.rowsIn, JunctionRule.rowsIn, find?_perm hperm hlabels]
  rw [hfound]
  clear hfound hperm hlabels
  -- table by table, a label finds the same place on both sides
  induction hsame with
  | nil => exact .nil
  | @cons table other _ _ hfirst _ ih =>
    simp only [JunctionRule.rowsIn, List.find?_cons, hfirst.label] at ih ⊢
    cases other.label == rule.label with
    | true => exact hfirst.rows
    | false => exact ih

theorem skippedFields_perm (failed : List (String × SourceError)) :
    LoadedTables.skippedFields ⟨loaded, failed⟩ = LoadedTables.skippedFields ⟨others, failed⟩ := by
  have hsum (loaded : List LoadedTable) :
      LoadedTables.skippedFields ⟨loaded, failed⟩ = (loaded.map (·.skippedFields)).sum := List.foldr_map.symm
  have hcounts : (loaded.map (·.skippedFields)).Perm (others.map (·.skippedFields)) :=
    h.map fun _ _ hsame => hsame.skippedFields
  rw [hsum, hsum, hcounts.sum_eq]

end LoadedTables

/-! ## Graphs -/

/-- whether graphs are the same up to the order of vertices and edges and up to identifiers: one bijection of the
identifiers of vertices keeps labels and properties, and carries the edges of one graph onto those of the other, each as
often -/
def Graph.Isomorphic (graph : Graph ι) (other : Graph κ) : Prop :=
  ∃ f : ι → κ, Set.BijOn f {id | id ∈ graph.vertices.map (·.id)} {id | id ∈ other.vertices.map (·.id)} ∧
    (graph.vertices.map (·.rename f)).Perm other.vertices ∧
    (graph.edges.map (·.link.rename f)).Perm (other.edges.map (·.link))

/-- whether reports agree, but for the order of the tables that could not be loaded -/
def Report.Agrees (report other : Report) : Prop :=
  report.failedTables.Perm other.failedTables ∧ other = { report with failedTables := other.failedTables }

section Rules

variable {f : ι → κ} {vertices : List (Vertex ι)} {vertices' : List (Vertex κ)}
  (hvertices : (vertices.map (·.rename f)).Perm vertices') {junctions junctions' : List LoadedTable}
  (hrows : ∀ rule : JunctionRule, (rule.rowsIn junctions).Perm (rule.rowsIn junctions'))
  {rules rules' : List EdgeRule} (hrules : rules.Perm rules')
include hvertices hrows hrules

/-- the links of rules in another order, between renamed vertices in another order -/
theorem links_perm_of_rename :
    ((rules.flatMap fun rule => rule.nestedLoops vertices junctions).map (·.rename f)).Perm
      (rules'.flatMap fun rule => rule.nestedLoops vertices' junctions') := by
  rw [List.map_flatMap]
  simp only [← nestedLoops_rename]
  exact hrules.flatMap fun rule _ => nestedLoops_perm hvertices hrows rule

/-- **Edges of rules in another order** are counted alike -/
theorem buildEdges_counts_perm (ids : Nat → ι) (ids' : Nat → κ) (start start' : Nat) :
    let set := buildEdges ids start vertices rules junctions
    let other := buildEdges ids' start' vertices' rules' junctions'
    set.directEdges = other.directEdges ∧ set.junctionEdges = other.junctionEdges ∧
      set.danglingReferences = other.danglingReferences := by
  have hcount (keep : EdgeRule → Bool) := (links_perm_of_rename hvertices hrows (hrules.filter keep)).length_eq
  simp only [List.length_map] at hcount
  have hdangling : (rules.map fun rule => rule.danglingCount vertices junctions).Perm
      (rules'.map fun rule => rule.danglingCount vertices' junctions') := by
    have hsame : (fun rule : EdgeRule => rule.danglingCount vertices junctions) =
        fun rule : EdgeRule => rule.danglingCount vertices' junctions' := by
      funext rule
      rw [← danglingCount_rename f, danglingCount_perm hvertices hrows]
    exact hsame ▸ hrules.map _
  simp only [buildEdges_eq]
  exact ⟨hcount _, hcount _, hdangling.sum_eq⟩

end Rules

section Assembly

variable {tables others : List TableDescription} (htables : tables.Perm others)
  (hlabels : (tables.map (·.label)).Nodup) {ids : Nat → ι} {ids' : Nat → κ}
include htables hlabels

/-- the vertices of tables and rows in another order, until edges are joined -/
theorem exists_buildVertices_perm {loaded loaded' : List LoadedTable}
    (hloaded : PermUpTo LoadedTable.Reordered loaded loaded')
    (hids : Set.InjOn ids (Set.Iio (buildVertices ids tables loaded).length))
    (hids' : Set.InjOn ids' (Set.Iio (buildVertices ids' others loaded').length)) :
    ∃ f : ι → κ, Set.BijOn f {id | id ∈ (buildVertices ids tables loaded).map (·.id)}
        {id | id ∈ (buildVertices ids' others loaded').map (·.id)} ∧
      ((buildVertices ids tables loaded).map (·.rename f)).Perm (buildVertices ids' others loaded') := by
  unfold buildVertices at hids hids' ⊢
  simp only [keysOf_perm htables hlabels] at hids ⊢
  have hitems := labelled_perm (loadedOf_perm hloaded .vertex) (keysOf others)
  refine exists_rename_perm hitems ?_ ?_
  · simpa [identify] using hids
  · simpa [identify, hitems.length_eq] using hids'

/-- **Tables and rows in another order** give isomorphic graphs and reports that agree -/
theorem assemble_reordered {results reordered : LoadedTables}
    (hloaded : PermUpTo LoadedTable.Reordered results.loaded reordered.loaded)
    (hloadedLabels : (results.loaded.map (·.label)).Nodup) (hfailed : results.failedNames.Perm reordered.failedNames)
    (hids : Set.InjOn ids (Set.Iio (assemble ids tables results).1.vertices.length))
    (hids' : Set.InjOn ids' (Set.Iio (assemble ids' others reordered).1.vertices.length)) :
    (assemble ids tables results).1.Isomorphic (assemble ids' others reordered).1 ∧
      (assemble ids tables results).2.Agrees (assemble ids' others reordered).2 := by
  have hvertexTables := vertexTables_perm htables
  have hvertexLabels : ((classify tables).vertexTables.map (·.label)).Nodup :=
    hlabels.sublist (List.filter_sublist.map _)
  rw [vertices_of_assemble, List.length_map] at hids hids'
  obtain ⟨f, hbijection, hvertices⟩ := exists_buildVertices_perm hvertexTables hvertexLabels hloaded hids hids'
  have hjunctionLabels : ((loadedOf .junction results.loaded).map (·.label)).Nodup :=
    hloadedLabels.sublist (List.filter_sublist.map _)
  have hrows := rowsIn_perm (loadedOf_perm hloaded .junction) hjunctionLabels
  have hrules := edgeRules_perm htables
  refine ⟨⟨f, ?_, ?_, ?_⟩, hfailed, ?_⟩
  · rw [vertices_of_assemble, vertices_of_assemble, List.map_map, List.map_map]
    exact hbijection
  · have hcleaned := hvertices.map (·.withoutKeys (classify others).vertexTables)
    rw [vertices_of_assemble, vertices_of_assemble, List.map_map]
    simp only [withoutKeys_perm hvertexTables hvertexLabels]
    rwa [List.map_map] at hcleaned
  · have hlinks := links_perm_of_rename hvertices hrows hrules
    rw [← links_assemble ids tables results, ← links_assemble ids' others reordered, List.map_map] at hlinks
    exact hlinks
  · have hcount := hvertices.length_eq
    rw [List.length_map] at hcount
    set count := (buildVertices ids' (classify others).vertexTables reordered.loaded).length
    obtain ⟨hdirect, hjunction, hdangling⟩ :=
      buildEdges_counts_perm hvertices hrows hrules ids ids' count count
    have hskipped : results.skippedFields = reordered.skippedFields := skippedFields_perm hloaded []
    simp only [assemble, Classification.junctions, htables.length_eq, hvertexTables.length_eq,
      (hrules.filterMap _).length_eq, hcount, hdirect, hjunction, hdangling, hskipped]
    rfl

end Assembly

end TableGraph
